/-
**The shortest decimal that stands for a binary32 number.**

Every real number within a certain interval around a binary32 number rounds to it. Of the decimals
with the fewest digits in that interval the one nearest to the number is taken, the upper one if two
are equally near. All of it is exact arithmetic on natural numbers.

Lengths are measured in quarters of the last place, so that the ends of the interval are whole
numbers: the next number is half a place away, a quarter of a place below a power of two.

* `reach_below_pos`, `reach_above_pos`: the number itself lies strictly inside its interval.
-/

import SharedWeights.Binary32.Rounding

namespace SharedWeights.Binary32

/-- The number in quarters of its last place. -/
def quarters (number : Binary32) : Nat :=
  4 * number.significand

/-- How far below the number its interval reaches, in quarters of its last place. -/
def reachBelow (number : Binary32) : Nat :=
  if number.fraction = 0 ∧ 1 < number.scale then 1 else 2

/-- How far above the number its interval reaches, in quarters of its last place. -/
def reachAbove (_ : Binary32) : Nat := 2

theorem reach_below_pos (number : Binary32) : 0 < number.reachBelow := by
  unfold reachBelow
  split <;> decide

theorem reach_above_pos (number : Binary32) : 0 < number.reachAbove :=
  Nat.zero_lt_two

/-- A decimal grid laid over a number: `step` and the other lengths are whole multiples of one
common unit. -/
structure Grid where
  /-- The distance of neighbouring points. -/
  step : Nat
  /-- The distance of the number from zero. -/
  target : Nat
  /-- The least distance from zero at which a real number rounds to the number. -/
  lowest : Nat
  /-- The greatest such distance. -/
  highest : Nat
  /-- Whether the ends themselves round to the number. -/
  closed : Bool

/-- The grid of the multiples of `10 ^ exponent`. -/
def grid (number : Binary32) (exponent : Int) : Grid :=
  let quarter := number.lastPlace - 2
  let unit := Nat.pow 2 quarter.toNat * Nat.pow 10 (-exponent).toNat
  { step := Nat.pow 10 exponent.toNat * Nat.pow 2 (-quarter).toNat
    target := number.quarters * unit
    lowest := (number.quarters - number.reachBelow) * unit
    highest := (number.quarters + number.reachAbove) * unit
    closed := number.significand % 2 = 0 }

/-- Whether the point at `index` steps rounds to the number. -/
def Grid.hits (grid : Grid) (index : Nat) : Bool :=
  let point := index * grid.step
  if grid.closed then decide (grid.lowest ≤ point) && decide (point ≤ grid.highest)
  else decide (grid.lowest < point) && decide (point < grid.highest)

/-- The point nearest to the number of those that round to it: a hit is one of its two neighbours
if there is one at all. -/
def Grid.nearest? (grid : Grid) : Option Nat :=
  let below := grid.target / grid.step
  let above := below + 1
  let nearerAbove := decide ((above * grid.step - grid.target) ≤ (grid.target - below * grid.step))
  match grid.hits below, grid.hits above with
  | true, true => some (if nearerAbove then above else below)
  | true, false => some below
  | false, true => some above
  | false, false => none

/-- The greatest exponent of ten whose power is at most the number, for a number other than zero:
the numbers lie between `10 ^ (-45)` and `10 ^ 39`. -/
def leadingExponent (number : Binary32) : Int :=
  let reached := (List.range 85).findSome? fun (index : Nat) =>
    let exponent : Int := 39 - index
    let overlaid := number.grid exponent
    if overlaid.step ≤ overlaid.target then some exponent else none
  reached.getD (-46)

/-- The decimal without the zeros at its end. -/
def Decimal.withoutZeros (decimal : Decimal) : Decimal :=
  if decimal.digits = 0 then ⟨0, 0⟩
  else if decimal.digits % 10 = 0 then
    Decimal.withoutZeros ⟨decimal.digits / 10, decimal.exponent + 1⟩
  else decimal
termination_by decimal.digits
decreasing_by omega

/-- The decimal of the fewest digits that rounds to a number other than zero, an infinity or NaN;
nine digits always suffice. -/
def shortest (number : Binary32) : Decimal :=
  let hit? := (List.range 9).findSome? fun (further : Nat) =>
    let exponent := number.leadingExponent - further
    (number.grid exponent).nearest?.map fun index => (⟨index, exponent⟩ : Decimal)
  (hit?.getD ⟨0, 0⟩).withoutZeros

end SharedWeights.Binary32
