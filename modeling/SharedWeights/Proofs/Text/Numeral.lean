/-
**What a numeral is, and what is wrong with a text that is none.**

A numeral is told here by its parts and not by the way in which it is read: one or more digits, with
a plus sign in front or without, where zeros in front make no difference. A text that is no numeral
within a limit has one fault, which is the first that is met from left to right:

* `read_eq_ok_iff_denotes`: exactly the numerals within the limit are read, with their values;
* `read_eq_error_iff`: any other text is refused for the first thing wrong with it.
-/

import SharedWeights.Text.Numeral

namespace SharedWeights.Text.Numeral

/-! ### Numerals -/

/-- A row of digits that is not empty. -/
structure Digits (digits : List Char) : Prop where
  nonempty : digits ≠ []
  decimal : ∀ digit ∈ digits, digit.isDigit = true

theorem digits_iff {digits : List Char} :
    Digits digits ↔ digits ≠ [] ∧ digits.all Char.isDigit = true := by
  rw [List.all_eq_true]
  exact ⟨fun digital => ⟨digital.nonempty, digital.decimal⟩, fun digital => ⟨digital.1, digital.2⟩⟩

instance (digits : List Char) : Decidable (Digits digits) := decidable_of_iff _ digits_iff.symm

/-- A numeral and its value. -/
inductive Denotes : List Char → Nat → Prop
  | unsigned {digits : List Char} (digital : Digits digits) :
    Denotes digits (Nat.ofDigitChars 10 digits 0)
  | signed {digits : List Char} (digital : Digits digits) :
    Denotes ('+' :: digits) (Nat.ofDigitChars 10 digits 0)

theorem unsigned_of_digits {digits : List Char} (digital : Digits digits) :
    unsigned digits = digits := by
  unfold unsigned
  split
  · exact absurd (digital.decimal '+' List.mem_cons_self) (by decide)
  · rfl

theorem signed_cases (characters : List Char) :
    characters = unsigned characters ∨ characters = '+' :: unsigned characters := by
  unfold unsigned
  split
  · exact .inr rfl
  · exact .inl rfl

/-- A numeral is told by what follows its sign. -/
theorem denotes_iff {characters : List Char} {number : Nat} :
    Denotes characters number ↔
      Digits (unsigned characters) ∧ value 0 (unsigned characters) = number := by
  constructor
  · rintro (digital | digital)
    · rw [unsigned_of_digits digital]
      exact ⟨digital, rfl⟩
    · exact ⟨digital, rfl⟩
  · rintro ⟨digital, rfl⟩
    rcases signed_cases characters with same | same
    · rw [same, unsigned_of_digits digital]
      exact .unsigned digital
    · rw [same]
      exact .signed digital

/-- **Exactly the numerals within the limit are read**, with their values. -/
theorem read_eq_ok_iff_denotes {limit number : Nat} {characters : List Char} :
    read limit characters = .ok number ↔ Denotes characters number ∧ number ≤ limit := by
  rw [read_eq_ok_iff, denotes_iff]
  constructor
  · rintro ⟨nonempty, decimal, stated, within⟩
    exact ⟨⟨⟨nonempty, decimal⟩, stated⟩, within⟩
  · rintro ⟨⟨digital, stated⟩, within⟩
    exact ⟨digital.nonempty, digital.decimal, stated, within⟩

/-! ### Faults -/

/-- What is first wrong in characters that should be the digits behind those of `total`: behind some
that are digits, of a value within the limit, there stands another character or a digit too many. -/
inductive Stops (limit total : Nat) : List Char → Fault → Prop
  | strange {front : List Char} (decimal : ∀ digit ∈ front, digit.isDigit = true)
      (within : Nat.ofDigitChars 10 front total ≤ limit) {character : Char}
      (strange : character.isDigit = false) (rest : List Char) :
    Stops limit total (front ++ character :: rest) .notADigit
  | large {front : List Char} (decimal : ∀ digit ∈ front, digit.isDigit = true)
      (within : Nat.ofDigitChars 10 front total ≤ limit) {digit : Char}
      (isDigit : digit.isDigit = true)
      (beyond : limit < Nat.ofDigitChars 10 (front ++ [digit]) total) (rest : List Char) :
    Stops limit total (front ++ digit :: rest) .tooLarge

/-- What is wrong with a text that is no numeral within the limit. -/
inductive Faulty (limit : Nat) : List Char → Fault → Prop
  | empty : Faulty limit [] .empty
  | bare : Faulty limit ['+'] .notADigit
  | stopped {characters : List Char} {fault : Fault}
      (stops : Stops limit 0 (unsigned characters) fault) : Faulty limit characters fault

section Accumulate

variable {limit total : Nat} {fault : Fault}

theorem accumulate_of_strange {character : Char} (strange : character.isDigit = false)
    (rest : List Char) : accumulate limit total (character :: rest) = .error .notADigit := by
  rw [accumulate, digit?, strange]
  rfl

theorem accumulate_of_digit {digit : Char} (isDigit : digit.isDigit = true) (rest : List Char) :
    accumulate limit total (digit :: rest) =
      if value total [digit] ≤ limit then accumulate limit (value total [digit]) rest
      else .error .tooLarge := by
  rw [accumulate, digit?, if_pos isDigit]
  rfl

/-- Digits of a value within the limit are passed. -/
theorem accumulate_append {front : List Char} (decimal : ∀ digit ∈ front, digit.isDigit = true)
    (within : value total front ≤ limit) (rest : List Char) :
    accumulate limit total (front ++ rest) = accumulate limit (value total front) rest := by
  induction front generalizing total with
  | nil => rfl
  | cons digit others ih =>
    have first : value total [digit] ≤ limit :=
      Nat.le_trans (le_value (value total [digit]) others) within
    rw [List.cons_append, accumulate_of_digit (decimal digit List.mem_cons_self), if_pos first]
    exact ih (fun other member => decimal other (List.mem_cons_of_mem _ member)) within

theorem Stops.ne_nil {characters : List Char} (stops : Stops limit total characters fault) :
    characters ≠ [] := by
  cases stops <;> simp

/-- A digit in front of what stops the reading is only passed. -/
theorem Stops.cons {digit : Char} {others : List Char} (isDigit : digit.isDigit = true)
    (stops : Stops limit (value total [digit]) others fault) :
    Stops limit total (digit :: others) fault := by
  cases stops with
  | @strange front decimal within character strange rest =>
    have longer : ∀ other ∈ digit :: front, other.isDigit = true :=
      List.forall_mem_cons.2 ⟨isDigit, decimal⟩
    exact .strange longer within strange rest
  | @large front decimal within last isLast beyond rest =>
    have longer : ∀ other ∈ digit :: front, other.isDigit = true :=
      List.forall_mem_cons.2 ⟨isDigit, decimal⟩
    exact .large longer within isLast beyond rest

/-- **Reading stops at the first thing wrong.** -/
theorem accumulate_eq_error_iff {digits : List Char} (within : total ≤ limit) :
    accumulate limit total digits = .error fault ↔ Stops limit total digits fault := by
  have nothing : ∀ digit ∈ ([] : List Char), digit.isDigit = true := List.forall_mem_nil _
  constructor
  · intro refused
    induction digits generalizing total with
    | nil => cases refused
    | cons digit others ih =>
      cases isDigit : digit.isDigit with
      | false =>
        rw [accumulate_of_strange isDigit] at refused
        cases refused
        exact .strange nothing within isDigit others
      | true =>
        rw [accumulate_of_digit isDigit] at refused
        split at refused
        · next fits => exact (ih fits refused).cons isDigit
        · next beyond =>
          cases refused
          exact .large nothing within isDigit (Nat.lt_of_not_le beyond) others
  · rintro (⟨decimal, fits, strange, rest⟩ | ⟨decimal, fits, isDigit, beyond, rest⟩)
    · rw [accumulate_append decimal fits, accumulate_of_strange strange]
    · rw [accumulate_append decimal fits, accumulate_of_digit isDigit, if_neg]
      rw [Nat.ofDigitChars, List.foldl_append] at beyond
      exact Nat.not_le_of_lt beyond

end Accumulate

/-- **Any other text is refused for the first thing wrong with it.** -/
theorem read_eq_error_iff {limit : Nat} {characters : List Char} {fault : Fault} :
    read limit characters = .error fault ↔ Faulty limit characters fault := by
  unfold read
  constructor
  · intro refused
    split at refused
    · next nothing =>
      cases refused
      rw [nothing]
      exact .empty
    · next something =>
      split at refused
      · next bare =>
        cases refused
        rcases signed_cases characters with same | same
        · exact absurd (same.trans bare) something
        · rw [same, bare]
          exact .bare
      · exact .stopped ((accumulate_eq_error_iff (Nat.zero_le limit)).1 refused)
  · rintro (_ | _ | stops)
    · rfl
    · rfl
    · have nonempty : characters ≠ [] := by
        rintro rfl
        exact stops.ne_nil rfl
      rw [if_neg nonempty, if_neg stops.ne_nil]
      exact (accumulate_eq_error_iff (Nat.zero_le limit)).2 stops

end SharedWeights.Text.Numeral
