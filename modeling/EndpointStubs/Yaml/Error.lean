import EndpointStubs.Text.Quoted

/-!
# What is wrong with a YAML text

Most faults say no more than that the text is malformed. A value that is written
like a number or a time, or is marked as one, has causes of its own.
-/

namespace EndpointStubs.Yaml

/-- A part of a date or a time of day. -/
inductive TimePart where
  | year
  | month
  | day
  | hour
  | minute
  | second
  deriving DecidableEq, Repr

inductive Error where
  /-- The text is not a document that can be read. -/
  | malformed
  /-- An escape gives a number that is not that of a character. -/
  | noSuchCharacter
  /-- An escape gives a number that does not even fit into 31 bits. -/
  | escapeTooLarge
  /-- The text is not a number in the base. -/
  | notInteger (base : Nat) (text : LooseText)
  | tooManyDigits (count : Nat)
  | notDecimal (text : LooseText)
  /-- A number in base sixty has so many groups that it is too large for a decimal. -/
  | tooManyGroups
  /-- Nothing is left of a number. -/
  | noNumber
  | notBool
  | notTime
  /-- A time is given by a mapping. -/
  | timeInMapping
  | outOfRange (part : TimePart)
  /-- A time zone is a day or more away, by so many minutes. -/
  | zoneTooFar (minutes : Int)
  /-- A text is given by a mapping that refers to itself. -/
  | endless
  /-- Too many collections stand within each other. -/
  | tooDeep
  deriving DecidableEq, Repr

def TimePart.message : TimePart → String
  | year => "year 0 is out of range"
  | month => "month must be in 1..12"
  | day => "day is out of range for month"
  | hour => "hour must be in 0..23"
  | minute => "minute must be in 0..59"
  | second => "second must be in 0..59"

/-- A span of time as days and the seconds beyond them, which are not negative. -/
def spanText (minutes : Int) : String :=
  let seconds := minutes % 1440 * 60
  "datetime.timedelta(days=" ++ toString (minutes / 1440) ++
    (if seconds = 0 then "" else ", seconds=" ++ toString seconds) ++ ")"

namespace Error

def message : Error → String
  | malformed => "malformed YAML"
  | noSuchCharacter => "chr() arg not in range(0x110000)"
  | escapeTooLarge => "escape too large"
  | notInteger base text =>
    "invalid literal for int() with base " ++ toString base ++ ": " ++
      .ofList ((Text.quotedLoose text).toList.take 200)
  | tooManyDigits count =>
    "Exceeds the limit (4300 digits) for integer string conversion: value has " ++
      toString count ++ " digits; use sys.set_int_max_str_digits() to increase the limit"
  | notDecimal text => "could not convert string to float: " ++ Text.quotedLoose text
  | tooManyGroups => "number too large"
  | noNumber => "number without digits"
  | notBool => "not a truth value"
  | notTime => "not a time"
  | timeInMapping => "time in a mapping"
  | outOfRange part => part.message
  | zoneTooFar minutes =>
    "offset must be a timedelta strictly between -timedelta(hours=24) and " ++
      "timedelta(hours=24), not " ++ spanText minutes ++ "."
  | endless => "endless reference"
  | tooDeep => "nested too deeply"

end Error

end EndpointStubs.Yaml
