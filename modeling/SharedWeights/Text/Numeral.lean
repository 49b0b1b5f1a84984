/-
**Natural numbers in decimal notation.**

A numeral is an optional plus sign and one or more of the ten ASCII digits, of a value within a
limit. Reading goes from left to right and stops at the first thing wrong.

* `read_eq_ok_iff`: what is read is exactly a numeral within the limit, with its value;
* `ofDigits_eq_value`: the number of a long row of digits can be put together from its halves.
-/

namespace SharedWeights.Text.Numeral

/-- Why characters are no numeral within the limit. -/
inductive Fault where
  | empty
  | notADigit
  | tooLarge
deriving DecidableEq, Repr

/-- The fault in words. -/
def Fault.message : Fault → String
  | .empty => "cannot parse integer from empty string"
  | .notADigit => "invalid digit found in string"
  | .tooLarge => "number too large to fit in target type"

/-- The value of an ASCII digit. -/
def digit? (character : Char) : Option Nat :=
  if character.isDigit then some (character.toNat - '0'.toNat) else none

/-- Reads digits behind those that make up `total`. -/
def accumulate (limit total : Nat) : List Char → Except Fault Nat
  | [] => .ok total
  | character :: rest =>
    match digit? character with
    | none => .error .notADigit
    | some digit =>
      if 10 * total + digit ≤ limit then accumulate limit (10 * total + digit) rest
      else .error .tooLarge

/-- The digits of a numeral: what follows its sign, if it has one. -/
def unsigned : List Char → List Char
  | '+' :: digits => digits
  | digits => digits

/-- The value of a numeral, at most `limit`. -/
def read (limit : Nat) (characters : List Char) : Except Fault Nat :=
  if characters = [] then .error .empty
  else if unsigned characters = [] then .error .notADigit
  else accumulate limit 0 (unsigned characters)

/-- The number that digits spell behind those that make up `total`. -/
def value (total : Nat) (digits : List Char) : Nat :=
  digits.foldl (fun total digit => 10 * total + (digit.toNat - '0'.toNat)) total

theorem le_value (total : Nat) (digits : List Char) : total ≤ value total digits := by
  induction digits generalizing total with
  | nil => exact Nat.le_refl total
  | cons digit rest ih =>
    exact Nat.le_trans (by omega) (ih (10 * total + (digit.toNat - '0'.toNat)))

theorem accumulate_eq_ok_iff {limit total number : Nat} {digits : List Char}
    (within : total ≤ limit) :
    accumulate limit total digits = .ok number ↔
      (∀ digit ∈ digits, digit.isDigit = true) ∧ value total digits = number ∧ number ≤ limit := by
  induction digits generalizing total with
  | nil =>
    simp only [accumulate, value, List.foldl_nil, Except.ok.injEq, List.not_mem_nil,
      false_implies, implies_true, true_and]
    constructor
    · rintro rfl
      exact ⟨rfl, within⟩
    · exact And.left
  | cons digit rest ih =>
    by_cases isDigit : digit.isDigit = true
    · by_cases fits : 10 * total + (digit.toNat - '0'.toNat) ≤ limit
      · simp only [accumulate, digit?, isDigit, if_true, if_pos fits, ih fits]
        simp [value, isDigit]
      · simp only [accumulate, digit?, isDigit, if_true, if_neg fits]
        constructor
        · intro read
          cases read
        · rintro ⟨_, rfl, small⟩
          have grown := le_value (10 * total + (digit.toNat - '0'.toNat)) rest
          simp only [value, List.foldl_cons] at small grown
          omega
    · simp [accumulate, digit?, isDigit]

theorem read_eq_ok_iff {limit number : Nat} {characters : List Char} :
    read limit characters = .ok number ↔
      unsigned characters ≠ [] ∧ (∀ digit ∈ unsigned characters, digit.isDigit = true) ∧
        value 0 (unsigned characters) = number ∧ number ≤ limit := by
  by_cases nothing : characters = []
  · subst nothing
    simp [read, unsigned]
  · by_cases bare : unsigned characters = []
    · simp [read, nothing, bare]
    · simp [read, nothing, bare, accumulate_eq_ok_iff (Nat.zero_le limit)]

/-! ### Long rows of digits -/

theorem value_eq (total : Nat) (digits : List Char) :
    value total digits = total * Nat.pow 10 digits.length + value 0 digits := by
  induction digits generalizing total with
  | nil => exact (Nat.mul_one total).symm
  | cons digit rest ih =>
    have first := ih (10 * total + (digit.toNat - '0'.toNat))
    have alone := ih (10 * 0 + (digit.toNat - '0'.toNat))
    have power : Nat.pow 10 (digit :: rest).length = Nat.pow 10 rest.length * 10 := rfl
    have shifted : total * (Nat.pow 10 rest.length * 10) = 10 * total * Nat.pow 10 rest.length := by
      rw [Nat.mul_comm (Nat.pow 10 rest.length) 10, ← Nat.mul_assoc, Nat.mul_comm total 10]
    change value (10 * total + (digit.toNat - '0'.toNat)) rest =
      _ + value (10 * 0 + (digit.toNat - '0'.toNat)) rest
    rw [first, alone, power, shifted, Nat.mul_zero, Nat.zero_add, Nat.add_mul, Nat.add_assoc]

/-- The longest row of digits that is read one by one. -/
def shortRow : Nat := 64

/-- The number that digits spell. A long row is cut in halves, so that the work does not grow with
the square of its length. -/
def ofDigits (digits : List Char) : Nat :=
  if _short : digits.length ≤ shortRow then value 0 digits
  else
    let half := digits.length / 2
    ofDigits (digits.take half) * Nat.pow 10 (digits.length - half) + ofDigits (digits.drop half)
termination_by digits.length
decreasing_by
  · rw [List.length_take]
    unfold shortRow at _short
    omega
  · rw [List.length_drop]
    unfold shortRow at _short
    omega

theorem ofDigits_eq_value (digits : List Char) : ofDigits digits = value 0 digits := by
  fun_induction ofDigits digits with
  | case1 => rfl
  | case2 digits _ half front back =>
    have whole : value 0 (digits.take half ++ digits.drop half) =
        value (value 0 (digits.take half)) (digits.drop half) := List.foldl_append
    rw [front, back, ← List.length_drop, ← value_eq, ← whole, List.take_append_drop]

end SharedWeights.Text.Numeral
