/-
**Blank characters.**

Blanks are the characters with the Unicode property `White_Space`. Settings are read without the
blanks around them.

* `trim_append_blanks`, `trim_blanks_append`: blanks at either end make no difference.
-/

namespace SharedWeights.Text

/-- The ranges of blank code points. -/
def blankRanges : List (Nat × Nat) :=
  [(0x9, 0xd), (0x20, 0x20), (0x85, 0x85), (0xa0, 0xa0), (0x1680, 0x1680), (0x2000, 0x200a),
    (0x2028, 0x2029), (0x202f, 0x202f), (0x205f, 0x205f), (0x3000, 0x3000)]

/-- Whether a character is blank. -/
def isBlank (character : Char) : Bool :=
  blankRanges.any fun range =>
    decide (range.1 ≤ character.toNat) && decide (character.toNat ≤ range.2)

/-- The characters without the blanks in front of them. -/
def trimFront (characters : List Char) : List Char :=
  characters.dropWhile isBlank

/-- The characters without the blanks around them. -/
def trim (characters : List Char) : List Char :=
  (trimFront (trimFront characters).reverse).reverse

theorem trimFront_blanks_append {blanks : List Char}
    (blank : ∀ character ∈ blanks, isBlank character = true) (characters : List Char) :
    trimFront (blanks ++ characters) = trimFront characters :=
  List.dropWhile_append_of_pos blank

theorem trimFront_blanks {blanks : List Char}
    (blank : ∀ character ∈ blanks, isBlank character = true) : trimFront blanks = [] := by
  simpa [trimFront] using trimFront_blanks_append blank []

theorem trim_blanks_append {blanks : List Char}
    (blank : ∀ character ∈ blanks, isBlank character = true) (characters : List Char) :
    trim (blanks ++ characters) = trim characters := by
  rw [trim, trim, trimFront_blanks_append blank]

theorem trim_append_blanks {blanks : List Char}
    (blank : ∀ character ∈ blanks, isBlank character = true) (characters : List Char) :
    trim (characters ++ blanks) = trim characters := by
  have turned : ∀ character ∈ blanks.reverse, isBlank character = true := by simpa using blank
  have front : trimFront (characters ++ blanks) =
      if (trimFront characters).isEmpty then trimFront blanks
      else trimFront characters ++ blanks := List.dropWhile_append
  rw [trim, trim, front]
  split
  · next nothing => rw [List.isEmpty_iff.1 nothing, trimFront_blanks blank]
  · rw [List.reverse_append, trimFront_blanks_append turned]

end SharedWeights.Text
