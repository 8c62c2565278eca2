import EndpointStubs.Text.Loose
import EndpointStubs.Text.UnprintableTable
import EndpointStubs.Text.Word

/-!
# Quoted values in messages

Messages show a value between quotes: single ones, unless the value holds a
single quote and no double quote. The quote in use, the backslash and
everything without a glyph is escaped, so the shown text is one printable line.
-/

namespace EndpointStubs.Text

/-- The last `width` hexadecimal digits of `n`, in lower case. -/
def hexDigits : Nat → Nat → List Char
  | 0, _ => []
  | width + 1, n => hexDigits width (n / 16) ++ [Nat.digitChar (n % 16)]

def isPrintable (c : Char) : Bool :=
  if c.toNat < 127 then 32 ≤ c.toNat else !inRanges unprintableRanges c.toNat

/-- The written form of one character between quotes of the given kind. -/
def quotedChar (quote c : Char) : List Char :=
  if c == quote || c == '\\' then ['\\', c]
  else if c == '\n' then ['\\', 'n']
  else if c == '\r' then ['\\', 'r']
  else if c == '\t' then ['\\', 't']
  else if isPrintable c then [c]
  else if c.toNat < 0x100 then '\\' :: 'x' :: hexDigits 2 c.toNat
  else if c.toNat < 0x10000 then '\\' :: 'u' :: hexDigits 4 c.toNat
  else '\\' :: 'U' :: hexDigits 8 c.toNat

/-- The written form of one code point; a surrogate has no glyph. -/
def quotedPoint (quote : Char) : CodePoint → List Char
  | .char c => quotedChar quote c
  | .surrogate n => '\\' :: 'u' :: hexDigits 4 (0xD800 + n)

def quoteFor (text : LooseText) : Char :=
  if text.contains '\'' && !text.contains '"' then '"' else '\''

def quotedLoose (value : LooseText) : String :=
  let quote := quoteFor value
  .ofList (quote :: value.flatMap (quotedPoint quote) ++ [quote])

def quoted (value : String) : String :=
  quotedLoose value

end EndpointStubs.Text
