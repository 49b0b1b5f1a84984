/-
**The binary32 number nearest to a fraction.**

A positive fraction is divided by the place value of the last digit that binary32 has room for at
its size, and the quotient is rounded to a whole number. The magnitude bits then count the numbers
below: a quotient that is carried to 25 digits lands on the next scale by itself, and what is too
large lands on infinity.

* `roundedQuotient_within_half`: rounding moves a quotient by at most one half;
* `roundedQuotient_even_of_tie`: a quotient half way between two whole numbers goes to the even one.
-/

import SharedWeights.Binary32.Basic

namespace SharedWeights.Binary32

/-- The whole number nearest to a quotient; a half goes to the even neighbour. -/
def roundedQuotient (numerator denominator : Nat) : Nat :=
  let whole := numerator / denominator
  let twice := 2 * (numerator % denominator)
  if twice < denominator ∨ (twice = denominator ∧ whole % 2 = 0) then whole else whole + 1

theorem roundedQuotient_within_half (numerator : Nat) {denominator : Nat}
    (positive : 0 < denominator) :
    2 * numerator ≤ 2 * (denominator * roundedQuotient numerator denominator) + denominator ∧
      2 * (denominator * roundedQuotient numerator denominator) ≤ 2 * numerator + denominator := by
  have whole := Nat.div_add_mod numerator denominator
  have small := Nat.mod_lt numerator positive
  have next : denominator * (numerator / denominator + 1) =
      denominator * (numerator / denominator) + denominator := Nat.mul_succ _ _
  unfold roundedQuotient
  dsimp only
  split <;> omega

theorem roundedQuotient_even_of_tie {numerator denominator : Nat}
    (tie : 2 * (numerator % denominator) = denominator) :
    roundedQuotient numerator denominator % 2 = 0 := by
  unfold roundedQuotient
  dsimp only
  split <;> omega

/-- The fraction divided by `2 ^ place`. -/
def scaled (numerator denominator : Nat) (place : Int) : Nat × Nat :=
  (numerator * Nat.pow 2 (-place).toNat, denominator * Nat.pow 2 place.toNat)

/-- The place of the last digit that a binary32 number of the fraction's size has: it leaves 24
digits, unless that place is below the last one there is. -/
def roundingPlace (numerator denominator : Nat) : Int :=
  let guess : Int := (numerator.log2 : Int) - denominator.log2 - 23
  let unit := scaled numerator denominator (guess + 23)
  max (-149) (if unit.1 < unit.2 then guess - 1 else guess)

/-- The number of the given sign nearest to a positive fraction. -/
def ofRatio (negative : Bool) (numerator denominator : Nat) : Binary32 :=
  let place := roundingPlace numerator denominator
  let fraction := scaled numerator denominator place
  let magnitude := (place + 149).toNat * 0x800000 + roundedQuotient fraction.1 fraction.2
  ofMagnitude negative (min magnitude infinity)

/-- A number in decimal notation: `digits * 10 ^ exponent`. -/
structure Decimal where
  digits : Nat
  exponent : Int
deriving DecidableEq, Repr

/-- How many places there are from the first digit down to the units place, were the exponent zero:
the value lies below ten to this power and, unless it is zero, not below the power before. -/
def Decimal.magnitude (decimal : Decimal) : Int :=
  (Nat.toDigits 10 decimal.digits).length + decimal.exponent

/-- The number of the given sign nearest to a decimal. -/
def ofDecimal (negative : Bool) (decimal : Decimal) : Binary32 :=
  if decimal.digits = 0 then ofMagnitude negative 0
  else
    ofRatio negative (decimal.digits * Nat.pow 10 decimal.exponent.toNat)
      (Nat.pow 10 (-decimal.exponent).toNat)

end SharedWeights.Binary32
