import EndpointStubs.Text.CasedTable
import EndpointStubs.Text.CaseTable
import EndpointStubs.Text.Loose
import EndpointStubs.Text.Word

/-!
# Letter case

The full case mappings, which may turn one character into several, and the test
for lower case letters. All treat each character on its own but one: a capital
sigma at the end of a word has a lower case form of its own.
-/

namespace EndpointStubs.Text

def isLower (c : Char) : Bool :=
  if c.toNat < 128 then c.isLower else inRanges lowercaseRanges c.toNat

def CaseRun.image? (run : CaseRun) (n : Nat) : Option Nat :=
  if run.first ≤ n ∧ n ≤ run.last ∧ (n - run.first) % run.step = 0 then
    some (run.image + (n - run.first))
  else none

/-- What a character maps to by a table; the character itself where the table has nothing. -/
def mapChar (runs : List CaseRun) (expansions : List (Nat × List Nat)) (c : Char) : List Char :=
  match runs.findSome? (·.image? c.toNat) with
  | some n => [Char.ofNat n]
  | none =>
    match expansions.lookup c.toNat with
    | some ns => ns.map Char.ofNat
    | none => [c]

def upperChar (c : Char) : List Char :=
  if c.toNat < 128 then [c.toUpper] else mapChar uppercaseRuns uppercaseExpansions c

def lowerChar (c : Char) : List Char :=
  if c.toNat < 128 then [c.toLower] else mapChar lowercaseRuns lowercaseExpansions c

def upper (text : List Char) : List Char :=
  text.flatMap upperChar

/-- The next character belongs to a case; characters that case ignores are passed over. -/
def isCasedNext (text : LooseText) : Bool :=
  ((text.dropWhile fun point ↦ inRanges caseIgnorableRanges point.number).head?).any fun point ↦
    inRanges casedRanges point.number

/-- The lower case of a text with `before`, the nearest code point first, before it. A capital
sigma ends a word if a character with a case stands before it and none behind it. -/
def lowerAfter (before : LooseText) : LooseText → LooseText
  | [] => []
  | point :: rest =>
    let image : LooseText :=
      match point with
      | .char 'Σ' => if isCasedNext before && !isCasedNext rest then ['ς'] else ['σ']
      | .char c => .ofChars (lowerChar c)
      | .surrogate _ => [point]
    image ++ lowerAfter (point :: before) rest

def lower (text : LooseText) : LooseText :=
  lowerAfter [] text

/-- Upper case for the first character only: `getItem` becomes `GetItem`. -/
def capitalize (name : String) : String :=
  match name.toList with
  | [] => ""
  | c :: rest => .ofList (upperChar c ++ rest)

end EndpointStubs.Text
