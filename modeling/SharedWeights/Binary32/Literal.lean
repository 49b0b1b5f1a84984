/-
**Binary32 numbers as they are written in settings.**

A literal is an optional sign followed by digits with an optional point and an optional exponent,
or by one of the words `inf`, `infinity` and `nan` in any mixture of cases. Its value is the number
nearest to what it says, where of an exponent only so many digits count as reach `exponentBound`.

* `split_eq`: the digits and what follows them are the characters that were given;
* `digits_of_split`: only digits are taken;
* `exponentSize_of_small`: an exponent below `exponentBound` is what its digits spell.
-/

import SharedWeights.Binary32.Rounding
import SharedWeights.Text.Numeral

namespace SharedWeights.Binary32

/-- Why characters are no literal. -/
inductive LiteralFault where
  | empty
  | invalid
deriving DecidableEq, Repr

/-- The fault in words. -/
def LiteralFault.message : LiteralFault → String
  | .empty => "cannot parse float from empty string"
  | .invalid => "invalid float literal"

/-- The digits in front, and what follows them. -/
def splitDigits (characters : List Char) : List Char × List Char :=
  (characters.takeWhile Char.isDigit, characters.dropWhile Char.isDigit)

theorem split_eq (characters : List Char) :
    (splitDigits characters).1 ++ (splitDigits characters).2 = characters :=
  List.takeWhile_append_dropWhile

theorem digits_of_split {characters : List Char} {digit : Char}
    (taken : digit ∈ (splitDigits characters).1) : digit.isDigit = true :=
  (List.all_eq_true.1 (List.all_takeWhile (l := characters))) digit taken

/-- The sign in front, true for a minus sign, and what follows it. -/
def splitSign : List Char → Bool × List Char
  | '-' :: rest => (true, rest)
  | '+' :: rest => (false, rest)
  | characters => (false, characters)

/-- The digits behind a point, and what follows them; none without a point. -/
def splitFraction : List Char → List Char × List Char
  | '.' :: rest => splitDigits rest
  | characters => ([], characters)

/-- An exponent as large as this is not read any further. -/
def exponentBound : Nat := 0x10000

/-- The exponent that digits state behind those that make up `total`. Once `exponentBound` is
reached the digits left make no difference. -/
def exponentSize (total : Nat) : List Char → Nat
  | [] => total
  | digit :: rest =>
    if total < exponentBound then exponentSize (10 * total + (digit.toNat - '0'.toNat)) rest
    else total

theorem exponentSize_of_small {total : Nat} {digits : List Char}
    (small : Text.Numeral.value total digits < exponentBound) :
    exponentSize total digits = Text.Numeral.value total digits := by
  induction digits generalizing total with
  | nil => rfl
  | cons digit rest ih =>
    have within := Nat.lt_of_le_of_lt (Text.Numeral.le_value total (digit :: rest)) small
    rw [exponentSize, if_pos within]
    exact ih small

/-- The exponent that the end of a literal states; zero if it states none. -/
def exponent? : List Char → Option Int
  | [] => some 0
  | mark :: rest =>
    if mark = 'e' ∨ mark = 'E' then
      let (negative, digits) := splitSign rest
      if digits ≠ [] ∧ digits.all Char.isDigit then
        let size : Int := exponentSize 0 digits
        some (if negative then -size else size)
      else none
    else none

/-- The decimal that digits, point and exponent state. -/
def decimal? (characters : List Char) : Option Decimal :=
  let (whole, afterWhole) := splitDigits characters
  let (fraction, afterFraction) := splitFraction afterWhole
  if whole = [] ∧ fraction = [] then none
  else (exponent? afterFraction).map fun exponent =>
    ⟨Text.Numeral.ofDigits (whole ++ fraction), exponent - fraction.length⟩

/-- The magnitude bits that a word stands for. -/
def word? (characters : List Char) : Option Nat :=
  let word := characters.map Char.toLower
  if word = ['i', 'n', 'f'] ∨ word = ['i', 'n', 'f', 'i', 'n', 'i', 't', 'y'] then some infinity
  else if word = ['n', 'a', 'n'] then some quietNaN
  else none

/-- The number that a literal stands for. -/
def ofLiteral (characters : List Char) : Except LiteralFault Binary32 :=
  if characters = [] then .error .empty
  else
    let (negative, unsigned) := splitSign characters
    match decimal? unsigned with
    | some decimal => .ok (ofDecimal negative decimal)
    | none =>
      match word? unsigned with
      | some magnitude => .ok (ofMagnitude negative magnitude)
      | none => .error .invalid

end SharedWeights.Binary32
