import EndpointStubs.Text.Blank
import EndpointStubs.Text.Loose

/-!
# Digits

Numbers may be written with the decimal digits of any script. A script has its
ten digits in a row, so the zeros of Unicode 14 say all.
-/

namespace EndpointStubs.Text

/-- The zeros above U+007F. -/
def zeros : List Nat := [
    0x660, 0x6F0, 0x7C0, 0x966, 0x9E6, 0xA66, 0xAE6, 0xB66, 0xBE6, 0xC66, 0xCE6, 0xD66, 0xDE6,
    0xE50, 0xED0, 0xF20, 0x1040, 0x1090, 0x17E0, 0x1810, 0x1946, 0x19D0, 0x1A80, 0x1A90, 0x1B50,
    0x1BB0, 0x1C40, 0x1C50, 0xA620, 0xA8D0, 0xA900, 0xA9D0, 0xA9F0, 0xAA50, 0xABF0, 0xFF10,
    0x104A0, 0x10D30, 0x11066, 0x110F0, 0x11136, 0x111D0, 0x112F0, 0x11450, 0x114D0, 0x11650,
    0x116C0, 0x11730, 0x118E0, 0x11950, 0x11C50, 0x11D50, 0x11DA0, 0x16A60, 0x16AC0, 0x16B50,
    0x1D7CE, 0x1D7D8, 0x1D7E2, 0x1D7EC, 0x1D7F6, 0x1E140, 0x1E2F0, 0x1E950, 0x1FBF0]

/-- The value of a decimal digit. -/
def digit? (c : Char) : Option Nat :=
  let n := c.toNat
  if c.isDigit then some (n - '0'.toNat)
  else (zeros.find? fun first ↦ first ≤ n && n < first + 10).map (n - ·)

/-- The value of a hexadecimal digit. -/
def hexDigit? (c : Char) : Option Nat :=
  if c.isDigit then some (c.toNat - '0'.toNat)
  else if 'a' ≤ c ∧ c ≤ 'f' then some (c.toNat - 'a'.toNat + 10)
  else if 'A' ≤ c ∧ c ≤ 'F' then some (c.toNat - 'A'.toNat + 10)
  else none

/-- The number that digits of a base up to sixteen make; other characters count as zero. -/
def number (base : Nat) (digits : List Char) : Nat :=
  digits.foldl (fun n c ↦ base * n + (hexDigit? c).getD 0) 0

/-- A number in ASCII: its digits become ASCII digits, blanks beyond ASCII become spaces,
and what has no place in a number becomes a question mark. -/
def asciiNumber (text : LooseText) : List Char :=
  text.map fun
    | .char c =>
      if c.toNat < 127 then c
      else if isBlank c then ' '
      else ((digit? c).map Nat.digitChar).getD '?'
    | .surrogate _ => '?'

/-- The spaces, tabs and line ends of ASCII. -/
def isAsciiSpace (c : Char) : Bool :=
  c == ' ' || (9 ≤ c.toNat && c.toNat ≤ 13)

end EndpointStubs.Text
