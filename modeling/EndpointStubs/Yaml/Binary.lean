/-!
# Binary data

Binary data is written in base 64. Characters that mean nothing there are passed
over, and so are equals signs that do not complete a group of four.
-/

namespace EndpointStubs.Yaml

/-- The six bits that a character stands for. -/
def sixBits? (c : Char) : Option Nat :=
  if c.isUpper then some (c.toNat - 'A'.toNat)
  else if c.isLower then some (c.toNat - 'a'.toNat + 26)
  else if c.isDigit then some (c.toNat - '0'.toNat + 52)
  else if c = '+' then some 62
  else if c = '/' then some 63
  else none

/-- The six bits of each character, if the last group of four is complete. `place` is the
place in the current group, and `padding` counts the equals signs right before. -/
def groupBits? (place padding : Nat) : List Char → Option (List Nat)
  | [] => if place = 0 then some [] else none
  | c :: rest =>
    if c = '=' then
      if place < 2 then groupBits? place padding rest
      else if place + padding < 3 then groupBits? place (padding + 1) rest
      else some []
    else
      match sixBits? c with
      | some bits => (groupBits? ((place + 1) % 4) 0 rest).map (bits :: ·)
      | none => groupBits? place padding rest

/-- The bytes that groups of four times six bits make; those of the last group may be
cut short. -/
def bytesOfBits : List Nat → List UInt8
  | a :: b :: c :: d :: rest =>
    .ofNat (4 * a + b / 16) :: .ofNat (16 * b + c / 4) :: .ofNat (64 * c + d) :: bytesOfBits rest
  | [a, b, c] => [.ofNat (4 * a + b / 16), .ofNat (16 * b + c / 4)]
  | [a, b] => [.ofNat (4 * a + b / 16)]
  | _ => []

/-- The bytes that a text stands for; nothing if it is not binary data. -/
def binary? (text : List Char) : Option (List UInt8) :=
  if text.all fun c ↦ c.toNat < 128 then (groupBits? 0 0 text).map bytesOfBits else none

end EndpointStubs.Yaml
