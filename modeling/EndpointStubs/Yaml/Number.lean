import EndpointStubs.Text.Case
import EndpointStubs.Text.Digit
import EndpointStubs.Text.Pattern
import EndpointStubs.Yaml.Double
import EndpointStubs.Yaml.Error

/-!
# Numbers

How the text of a number is read. Underscores do not count, and colons separate
groups in base sixty. Of a decimal only whether it is zero is of interest; it is
calculated in double precision, step by step.
-/

namespace EndpointStubs.Yaml

/-- A sign at the front of a text, and the text behind it. -/
def splitSign : List Char → Int × List Char
  | '-' :: rest => (-1, rest)
  | '+' :: rest => (1, rest)
  | text => (1, text)

def withoutUnderscores (text : LooseText) : LooseText :=
  text.filter (· != '_')

/-- The digits behind the mark of a base, if the text starts with that mark. -/
def afterBaseMark (base : Nat) : List Char → List Char
  | '0' :: mark :: rest =>
    if (base = 16 ∧ (mark = 'x' ∨ mark = 'X')) ∨ (base = 8 ∧ (mark = 'o' ∨ mark = 'O')) ∨
        (base = 2 ∧ (mark = 'b' ∨ mark = 'B')) then rest
    else '0' :: mark :: rest
  | text => text

/-- How many digits a number in base ten may have. -/
def digitLimit : Nat := 4300

/-- A whole number with its sign, between blanks. -/
def wholeNumber (base : Nat) (text : LooseText) : Except Error Int :=
  let (sign, rest) := splitSign ((Text.asciiNumber text).dropWhile Text.isAsciiSpace)
  let rest := afterBaseMark base rest
  let digits := rest.takeWhile fun c ↦ (Text.hexDigit? c).any (· < base)
  if base = 10 ∧ digitLimit < digits.length then .error (.tooManyDigits digits.length)
  else if digits.isEmpty || !(rest.drop digits.length).all Text.isAsciiSpace then
    .error (.notInteger base text)
  else .ok (sign * Text.number base digits)

/-- The number that groups in base sixty make, the highest one first. -/
def ofSixtieths (groups : List Int) : Int :=
  groups.foldl (fun n group ↦ 60 * n + group) 0

/-- A whole number in one of the notations: binary, hexadecimal, octal, decimal, or groups
in base sixty. -/
def unsignedInteger (digits : LooseText) : Except Error Int :=
  match digits with
  | [] => .error .noNumber
  | [.char '0'] => .ok 0
  | .char '0' :: .char 'b' :: rest => wholeNumber 2 rest
  | .char '0' :: .char 'x' :: rest => wholeNumber 16 rest
  | .char '0' :: _ => wholeNumber 8 digits
  | _ =>
    if digits.contains ':' then
      ofSixtieths <$> (Text.splitAt (.char ':') digits).mapM (wholeNumber 10)
    else wholeNumber 10 digits

def integer (text : LooseText) : Except Error Int :=
  match withoutUnderscores text with
  | .char '-' :: digits => (- ·) <$> unsignedInteger digits
  | .char '+' :: digits => unsignedInteger digits
  | digits => unsignedInteger digits

/-- The number `digits * 10 ^ exponent`. -/
structure Decimal where
  digits : Int
  exponent : Int
  deriving DecidableEq, Repr

namespace Decimal

/-- The power of ten that the number is below, while a tenth of it is not; zero has none. -/
def magnitude? (d : Decimal) : Option Int :=
  if d.digits = 0 then none else some ((Nat.toDigits 10 d.digits.natAbs).length + d.exponent)

/-- The units of the number in double precision; nothing if it is too large. -/
def units? (d : Decimal) : Option Int :=
  match d.magnitude? with
  | none => some 0
  | some magnitude =>
    if magnitude < -400 then some 0
    else if 400 < magnitude then none
    else
      doubleUnits? (d.digits * doubleUnit * Nat.pow 10 d.exponent.toNat)
        (Nat.pow 10 (-d.exponent).toNat)

end Decimal

/-- The power of ten behind the digits of a decimal. -/
def exponent? : List Char → Option Int
  | [] => some 0
  | 'e' :: rest =>
    let (sign, digits) := splitSign rest
    if !digits.isEmpty && digits.all Char.isDigit then some (sign * Text.number 10 digits)
    else none
  | _ => none

/-- A decimal without a sign; digits may be missing before or after its point. -/
def unsignedDecimal? (sign : Int) (text : List Char) : Option Decimal := do
  let whole := text.takeWhile Char.isDigit
  let rest := text.drop whole.length
  let (fraction, rest) :=
    match rest with
    | '.' :: rest => (rest.takeWhile Char.isDigit, rest.dropWhile Char.isDigit)
    | _ => ([], rest)
  if whole.isEmpty && fraction.isEmpty then none
  else
    let exponent ← exponent? rest
    return ⟨sign * Text.number 10 (whole ++ fraction), exponent - fraction.length⟩

/-- The units of a decimal between blanks; nothing if it is infinite or not a number. -/
def signedDecimal (text : LooseText) : Except Error (Option Int) :=
  let body := (Text.asciiNumber text).dropWhile Text.isAsciiSpace
  let body := (body.reverse.dropWhile Text.isAsciiSpace).reverse
  let (sign, body) := splitSign body
  if ["inf", "infinity", "nan"].any (·.toList = body) then .ok none
  else
    match unsignedDecimal? sign body with
    | some d => .ok d.units?
    | none => .error (.notDecimal text)

/-- How many groups a decimal in base sixty may have. -/
def groupLimit : Nat := 174

/-- The units of the groups in base sixty from the place with the number `place` on, the
lowest one first, added to a sum; nothing if a number on the way is too large. -/
def addSixtieths (place : Nat) (sum : Int) : List (Option Int) → Option Int
  | [] => some sum
  | group :: groups => do
    let part ← doubleUnits? ((← group) * nearestDouble (Nat.pow 60 place) 1) 1
    addSixtieths (place + 1) (← doubleUnits? (sum + part) 1) groups

/-- The text is a decimal, and whether it is zero. -/
def decimalIsZero (text : LooseText) : Except Error Bool :=
  let text := Text.lower (withoutUnderscores text)
  if text.isEmpty then .error .noNumber
  else
    let digits :=
      match text with
      | .char '-' :: rest | .char '+' :: rest => rest
      | _ => text
    if digits = (".inf" : LooseText) ∨ digits = (".nan" : LooseText) then .ok false
    else if digits.contains ':' then do
      let groups ← (Text.splitAt (.char ':') digits).mapM signedDecimal
      if groupLimit < groups.length then .error .tooManyGroups
      else return addSixtieths 0 0 groups.reverse == some 0
    else do
      let units ← signedDecimal digits
      return units == some 0

end EndpointStubs.Yaml
