/-
**How numbers are printed in the journal.**

A number is printed by its shortest decimal. From `10 ^ (-4)` to below `10 ^ 16` it is written with
a point and at least one digit behind it; outside that range with one digit before the point and an
exponent.
-/

import SharedWeights.Binary32.Shortest

namespace SharedWeights.Binary32

/-- How decimals are laid out. -/
structure Layout where
  /-- The least exponent of the leading digit that is written without an exponent. -/
  leastPositional : Int
  /-- The exponent of the leading digit from which on an exponent is written. -/
  leastScientific : Int
  /-- What stands between a number and its exponent. -/
  exponentMark : String

/-- The layout of the journal. -/
def journalLayout : Layout := ⟨-4, 16, "e"⟩

/-- The digits with a point `places` digits before their end, and zeros where digits lack. -/
def positional (digits : List Char) (places : Int) : List Char :=
  if places ≤ 0 then digits ++ List.replicate (-places).toNat '0' ++ ['.', '0']
  else
    let count := places.toNat
    let padded := List.replicate (count + 1 - digits.length) '0' ++ digits
    padded.take (padded.length - count) ++ '.' :: padded.drop (padded.length - count)

/-- The digits with a point behind the first, if others follow it. -/
def pointed : List Char → List Char
  | first :: second :: rest => first :: '.' :: second :: rest
  | digits => digits

/-- A positive decimal without zeros at its end, laid out. -/
def Layout.write (layout : Layout) (decimal : Decimal) : String :=
  let digits := Nat.toDigits 10 decimal.digits
  let leading := decimal.magnitude - 1
  if layout.leastPositional ≤ leading ∧ leading < layout.leastScientific then
    String.ofList (positional digits (-decimal.exponent))
  else
    String.ofList (pointed digits) ++ layout.exponentMark ++ toString leading

/-- A number as it is printed. -/
def printed (number : Binary32) : String :=
  if number.isNaN then "NaN"
  else
    let sign := if number.isNegative then "-" else ""
    let magnitude :=
      if number.isFinite = false then "inf"
      else if number.significand = 0 then "0.0"
      else journalLayout.write number.shortest
    sign ++ magnitude

end SharedWeights.Binary32
