/-!
# Double precision

A number in double precision is a whole number of units of 2 to the power of -1074. It has at
most 53 binary digits before its zeros, and it is below 2 to the power of 1024. Every other
number is rounded to the nearest of these, or to the even one of two that are equally near.
-/

namespace EndpointStubs.Yaml

/-- The whole number nearest to a quotient; of two that are equally near, the even one. -/
def nearest (numerator denominator : Nat) : Nat :=
  let quotient := numerator / denominator
  let rest := 2 * (numerator % denominator)
  if rest < denominator ∨ (rest = denominator ∧ quotient % 2 = 0) then quotient else quotient + 1

/-- The number of at most 53 binary digits before its zeros that is nearest to a quotient. -/
def nearestDouble (numerator denominator : Nat) : Nat :=
  let spare := (numerator / denominator).log2 + 1 - 53
  nearest numerator (denominator * Nat.pow 2 spare) * Nat.pow 2 spare

/-- The units in one. -/
def doubleUnit : Nat := Nat.pow 2 1074

/-- Numbers from so many units on are too large. -/
def doubleLimit : Nat := Nat.pow 2 1024 * doubleUnit

/-- The units of a quotient of units in double precision; nothing if it is too large. -/
def doubleUnits? (numerator : Int) (denominator : Nat) : Option Int :=
  let magnitude := nearestDouble numerator.natAbs denominator
  if doubleLimit ≤ magnitude then none else some (numerator.sign * magnitude)

end EndpointStubs.Yaml
