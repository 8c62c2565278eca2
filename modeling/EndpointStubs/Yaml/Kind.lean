import EndpointStubs.Yaml.Number
import EndpointStubs.Yaml.Time

/-!
# Kinds of nodes

What a node stands for. A tag says so; without one, the kind of a plain scalar
follows from how it is written: nothing, a truth value, a number, a time, or
else a text. Only the standard tags are known.
-/

namespace EndpointStubs.Yaml

inductive Kind where
  | null
  | bool
  | integer
  | decimal
  | binary
  | time
  | text
  | list
  | mapping
  | set
  /-- A list of entries with one key each. -/
  | entryList
  /-- As a key: merges the entries of its value into the mapping. -/
  | merge
  /-- As a key: its value stands for the whole mapping where a scalar is wanted. -/
  | default
  | unknown
  deriving DecidableEq, Repr

def tagStem : String :=
  "tag:yaml.org,2002:"

/-- The standard tags without their stem. -/
def standardTags : List (String × Kind) :=
  [("null", .null), ("bool", .bool), ("int", .integer), ("float", .decimal),
    ("binary", .binary), ("timestamp", .time), ("str", .text), ("seq", .list),
    ("map", .mapping), ("set", .set), ("omap", .entryList), ("pairs", .entryList),
    ("merge", .merge), ("value", .default)]

def Kind.ofTag (tag : String) : Kind :=
  ((standardTags.map fun (name, kind) ↦ (tagStem ++ name, kind)).lookup tag).getD .unknown

def nullTexts : List String :=
  ["~", "null", "Null", "NULL"]

def boolTexts : List String :=
  ["yes", "Yes", "YES", "no", "No", "NO", "true", "True", "TRUE", "false", "False", "FALSE",
    "on", "On", "ON", "off", "Off", "OFF"]

def isOctalDigit (c : Char) : Bool :=
  '0' ≤ c && c ≤ '7'

def isDigitOrLine (c : Char) : Bool :=
  c.isDigit || c == '_'

/-- A group of base sixty: one digit, or two of which the first is at most 5. -/
def isSixtieth : List Char → Bool
  | [a] => a.isDigit
  | [a, b] => '0' ≤ a && a ≤ '5' && b.isDigit
  | _ => false

/-- A text before its first colon, and what stands between its colons. -/
def colonParts (text : List Char) : List Char × List (List Char) :=
  match Text.splitAt ':' text with
  | [] => ([], [])
  | first :: groups => (first, groups)

def isInteger (text : List Char) : Bool :=
  let number := (splitSign text).2
  match number with
  | '0' :: 'b' :: digits => !digits.isEmpty && digits.all fun c ↦ c == '0' || c == '1' || c == '_'
  | '0' :: 'x' :: digits =>
    !digits.isEmpty && digits.all fun c ↦ (Text.hexDigit? c).isSome || c == '_'
  | '0' :: digits => digits.all fun c ↦ isOctalDigit c || c == '_'
  | c :: _ =>
    let (whole, sixtieths) := colonParts number
    c.isDigit && whole.all isDigitOrLine && sixtieths.all isSixtieth
  | [] => false

/-- Nothing, or an exponent with its sign. -/
def isExponent : List Char → Bool
  | [] => true
  | e :: sign :: digits =>
    (e == 'e' || e == 'E') && (sign == '+' || sign == '-') && !digits.isEmpty &&
      digits.all Char.isDigit
  | _ => false

def isDecimal (text : List Char) : Bool :=
  let number := (splitSign text).2
  let isPointed (whole : List Char) (rest : List Char) : Bool :=
    whole.head?.any Char.isDigit && whole.all isDigitOrLine &&
      isExponent (rest.dropWhile isDigitOrLine)
  let isSixty : Bool :=
    let (whole, groups) := colonParts (number.takeWhile (· != '.'))
    !groups.isEmpty && whole.head?.any Char.isDigit && whole.all isDigitOrLine &&
      groups.all isSixtieth &&
      match number.dropWhile (· != '.') with
      | '.' :: rest => rest.all isDigitOrLine
      | _ => false
  [".inf", ".Inf", ".INF"].any (·.toList = number) ||
    [".nan", ".NaN", ".NAN"].any (·.toList = text) ||
    isSixty ||
    match text, number.dropWhile (· != '.') with
    | '.' :: rest, _ => rest.head?.any Char.isDigit && isExponent (rest.dropWhile isDigitOrLine)
    | _, '.' :: rest => isPointed (number.takeWhile (· != '.')) rest
    | _, _ => false

/-- A time whose date alone has all its digits. -/
def isTime (text : List Char) : Bool :=
  (moment? text).any fun m ↦ m.time.isSome || text.length == 10

/-- The text without a line break at its end, unless it is nothing else. -/
def withoutLastBreak (text : List Char) : List Char :=
  if text.getLast? = some '\n' ∧ text ≠ ['\n'] then text.dropLast else text

/-- The kind of a scalar that is written like this. -/
def Kind.ofChars (text : List Char) : Kind :=
  let chars := withoutLastBreak text
  let isOneOf (texts : List String) : Bool := texts.any (·.toList = chars)
  if isOneOf boolTexts then .bool
  else if isDecimal chars then .decimal
  else if isInteger chars then .integer
  else if isOneOf ["<<"] then .merge
  else if chars.isEmpty || isOneOf nullTexts then .null
  else if isTime chars then .time
  else if isOneOf ["="] then .default
  else .text

/-- What holds a surrogate is a text. -/
def Kind.ofPlain (text : LooseText) : Kind :=
  match text.chars? with
  | some chars => ofChars chars
  | none => .text

/-- Tags that say nothing leave the kind to the text. -/
def Kind.ofScalar (tag : Option String) (plain : Bool) (text : LooseText) : Kind :=
  match tag with
  | none => if plain then ofPlain text else .text
  | some "!" => ofPlain text
  | some tag => ofTag tag

/-- The kind of a collection that is `usual` unless its tag says something else. -/
def Kind.ofCollection (tag : Option String) (usual : Kind) : Kind :=
  match tag with
  | none | some "!" => usual
  | some tag => ofTag tag

end EndpointStubs.Yaml
