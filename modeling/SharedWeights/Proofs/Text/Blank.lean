/-
**What is left of a text without the blanks around it.**

Blanks are taken off the front, and then off the back by way of the reversed text. What is left is
told by itself: it has blanks around it and none at its ends.

* `trim_eq_iff`: what is left is exactly that part of the text.
-/

import SharedWeights.Text.Blank

namespace SharedWeights.Text

/-- What is left of characters without the blanks around them. -/
structure Trimmed (characters core : List Char) : Prop where
  around : ∃ front back, characters = front ++ (core ++ back) ∧
    (∀ character ∈ front, isBlank character = true) ∧
    ∀ character ∈ back, isBlank character = true
  first : ∀ character ∈ core.head?, isBlank character = false
  last : ∀ character ∈ core.getLast?, isBlank character = false

theorem head?_trimFront {characters : List Char} :
    ∀ character ∈ (trimFront characters).head?, isBlank character = false := by
  intro character isFirst
  have stop := List.head?_dropWhile_not isBlank characters
  rw [← trimFront, isFirst] at stop
  exact Bool.eq_false_iff.2 (by simpa using stop)

theorem trimFront_of_first {core : List Char}
    (first : ∀ character ∈ core.head?, isBlank character = false) : trimFront core = core := by
  cases core with
  | nil => rfl
  | cons character others =>
    exact List.dropWhile_cons_of_neg (Bool.eq_false_iff.1 (first character rfl))

/-- Characters are blanks in front, and what is left without them. -/
theorem exists_append_trimFront (characters : List Char) :
    ∃ front, characters = front ++ trimFront characters ∧
      ∀ character ∈ front, isBlank character = true :=
  ⟨characters.takeWhile isBlank, List.takeWhile_append_dropWhile.symm,
    List.all_eq_true.1 List.all_takeWhile⟩

theorem trimmed_trim (characters : List Char) : Trimmed characters (trim characters) := by
  obtain ⟨front, split, blankFront⟩ := exists_append_trimFront characters
  obtain ⟨back, turned, blankBack⟩ := exists_append_trimFront (trimFront characters).reverse
  have inner : trimFront characters = trim characters ++ back.reverse := by
    rw [trim, ← List.reverse_append, ← turned, List.reverse_reverse]
  refine ⟨⟨front, back.reverse, ?_, blankFront, by simpa using blankBack⟩, ?_, ?_⟩
  · rw [← inner]
    exact split
  · intro character isFirst
    have isHead : character ∈ (trimFront characters).head? := by
      rw [inner, List.head?_append, isFirst]
      rfl
    exact head?_trimFront character isHead
  · intro character isLast
    rw [trim, List.getLast?_reverse] at isLast
    exact head?_trimFront character isLast

theorem trim_eq_iff {characters core : List Char} :
    trim characters = core ↔ Trimmed characters core := by
  constructor
  · rintro rfl
    exact trimmed_trim characters
  · rintro ⟨⟨front, back, rfl, blankFront, blankBack⟩, first, last⟩
    have lastFirst : ∀ character ∈ core.reverse.head?, isBlank character = false := by
      rwa [List.head?_reverse]
    rw [trim_blanks_append blankFront, trim_append_blanks blankBack, trim,
      trimFront_of_first first, trimFront_of_first lastFirst, List.reverse_reverse]

end SharedWeights.Text
