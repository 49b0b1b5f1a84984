/-
**What is quoted can be read back.**

A reader goes through quoted text from left to right and keeps in mind only what it is in the middle
of (`Reading`). It gets back the text and whatever stands behind the closing quote, so that quoted
text stands for one text only and ends where its quotes end:

* `escape_cases`: the ways in which a character is written;
* `unquote?_escape`: an escaped character reads as itself;
* `unquote?_quote`: a quoted text reads as itself, whatever stands behind it;
* `quote_append_inj`: so no quoted text is the beginning of another;
* `not_isHidden_of_mem_quote`: and nothing in it is hidden.
-/

import SharedWeights.Text.Quoted

namespace SharedWeights.Text

/-! ### Hexadecimal digits -/

/-- The value of a hexadecimal digit. -/
def hexDigitValue (digit : Char) : Nat :=
  if digit.isDigit then digit.toNat - '0'.toNat else digit.toNat - 'a'.toNat + 10

/-- The number that hexadecimal digits spell behind those that make up `total`. -/
def hexValue (total : Nat) (digits : List Char) : Nat :=
  digits.foldl (fun total digit => 16 * total + hexDigitValue digit) total

/-- The digits that code points are written with. -/
def hexDigits : List Char := (List.range 16).map Nat.digitChar

theorem hexDigitValue_digitChar :
    ∀ {digit : Nat}, digit < 16 → hexDigitValue digit.digitChar = digit := by
  decide

theorem hexValue_toDigits (number : Nat) : hexValue 0 (Nat.toDigits 16 number) = number := by
  induction number using Nat.strongRecOn with
  | ind number ih =>
    rw [Nat.toDigits_eq_if (by decide)]
    split
    · next small => exact (Nat.zero_add _).trans (hexDigitValue_digitChar small)
    · next large =>
      have front := ih (number / 16) (by omega)
      unfold hexValue at front ⊢
      rw [List.foldl_append, front, List.foldl_cons, List.foldl_nil,
        hexDigitValue_digitChar (Nat.mod_lt _ (by decide))]
      exact Nat.div_add_mod number 16

theorem mem_hexDigits {number : Nat} {digit : Char} (member : digit ∈ Nat.toDigits 16 number) :
    digit ∈ hexDigits := by
  have inRange {value : Nat} (small : value < 16) : value.digitChar ∈ hexDigits :=
    List.mem_map_of_mem (List.mem_range.2 small)
  induction number using Nat.strongRecOn with
  | ind number ih =>
    rw [Nat.toDigits_eq_if (by decide)] at member
    split at member
    · next small =>
      rw [List.mem_singleton.1 member]
      exact inRange small
    · next large =>
      rcases List.mem_append.1 member with front | last
      · exact ih (number / 16) (by omega) front
      · rw [List.mem_singleton.1 last]
        exact inRange (Nat.mod_lt _ (by decide))

/-! ### Escaped characters -/

/-- The characters that have an escape of their own. -/
def shorthands : List Char := ['"', '\\', '\n', '\r', '\t', '\x00']

/-- **A character is written in one of three ways**: by an escape of its own, by its code point if
it is hidden, or as it is. -/
theorem escape_cases (character : Char) :
    character ∈ shorthands ∨
    (isHidden character = true ∧
      escape character = ['\\', 'u', '\x7b'] ++ Nat.toDigits 16 character.toNat ++ ['\x7d']) ∨
    (isHidden character = false ∧ escape character = [character] ∧
      character ≠ '"' ∧ character ≠ '\\') := by
  by_cases short : character ∈ shorthands
  · exact .inl short
  simp only [shorthands, List.mem_cons, List.not_mem_nil, or_false, not_or] at short
  obtain ⟨quote, mark, newline, carriage, tab, null⟩ := short
  unfold escape
  rw [if_neg quote, if_neg mark, if_neg newline, if_neg carriage, if_neg tab, if_neg null]
  cases hidden : isHidden character with
  | true => exact .inr (.inl ⟨rfl, rfl⟩)
  | false => exact .inr (.inr ⟨rfl, rfl, quote, mark⟩)

theorem not_isHidden_of_any {characters : List Char} (visible : characters.any isHidden = false)
    {character : Char} (member : character ∈ characters) : isHidden character = false :=
  eq_false_of_ne_true (List.any_eq_false.1 visible character member)

theorem not_isHidden_of_mem_escape {character shown : Char} (member : shown ∈ escape character) :
    isHidden shown = false := by
  rcases escape_cases character with short | ⟨-, written⟩ | ⟨visible, written, -⟩
  · have escaped : (shorthands.flatMap escape).any isHidden = false := by decide
    exact not_isHidden_of_any escaped (List.mem_flatMap.2 ⟨character, short, member⟩)
  · have around : ['\\', 'u', '\x7b', '\x7d'].any isHidden = false := by decide
    have digits : hexDigits.any isHidden = false := by decide
    rw [written] at member
    rcases List.mem_append.1 member with front | last
    · rcases List.mem_append.1 front with opening | code
      · exact not_isHidden_of_any around (List.mem_append_left ['\x7d'] opening)
      · exact not_isHidden_of_any digits (mem_hexDigits code)
    · exact not_isHidden_of_any around (List.mem_append_right ['\\', 'u', '\x7b'] last)
  · rw [written] at member
    rw [List.mem_singleton.1 member, visible]

/-! ### Reading what is quoted -/

/-- What a reader of quoted text is in the middle of. -/
inductive Reading where
  /-- Nothing: a character or the closing quote is next. -/
  | plain
  /-- An escape sign was read. -/
  | escaped
  /-- The digits of a code point are about to begin. -/
  | opening
  /-- Digits were read that make up `total`. -/
  | code (total : Nat)

/-- The character that an escape sign and the character behind it stand for. -/
def shorthand? (mark : Char) : Option Char :=
  if mark = '"' then some '"'
  else if mark = '\\' then some '\\'
  else if mark = 'n' then some '\n'
  else if mark = 'r' then some '\r'
  else if mark = 't' then some '\t'
  else if mark = '0' then some '\x00'
  else none

/-- What was read with one more character in front. -/
def prepend (character : Char) (read : List Char × List Char) : List Char × List Char :=
  (character :: read.1, read.2)

/-- The text up to the closing quote, and what stands behind it. -/
def unquote? (reading : Reading) : List Char → Option (List Char × List Char)
  | [] => none
  | character :: rest =>
    match reading with
    | .plain =>
      if character = '"' then some ([], rest)
      else if character = '\\' then unquote? .escaped rest
      else (unquote? .plain rest).map (prepend character)
    | .escaped =>
      if character = 'u' then unquote? .opening rest
      else (shorthand? character).bind fun meant => (unquote? .plain rest).map (prepend meant)
    | .opening => if character = '\x7b' then unquote? (.code 0) rest else none
    | .code total =>
      if character = '\x7d' then (unquote? .plain rest).map (prepend (Char.ofNat total))
      else if character ∈ hexDigits then
        unquote? (.code (16 * total + hexDigitValue character)) rest
      else none

theorem unquote?_code (total : Nat) {digits : List Char}
    (hexadecimal : ∀ digit ∈ digits, digit ∈ hexDigits) (rest : List Char) :
    unquote? (.code total) (digits ++ '\x7d' :: rest) =
      (unquote? .plain rest).map (prepend (Char.ofNat (hexValue total digits))) := by
  induction digits generalizing total with
  | nil => rw [List.nil_append, unquote?, if_pos rfl, hexValue, List.foldl_nil]
  | cons digit others ih =>
    have isDigit := hexadecimal digit List.mem_cons_self
    have going : digit ≠ '\x7d' := by
      rintro rfl
      exact absurd isDigit (by decide)
    rw [List.cons_append, unquote?, if_neg going, if_pos isDigit]
    exact ih _ fun other member => hexadecimal other (List.mem_cons_of_mem _ member)

/-- **An escaped character reads as itself.** -/
theorem unquote?_escape (character : Char) (rest : List Char) :
    unquote? .plain (escape character ++ rest) = (unquote? .plain rest).map (prepend character) := by
  rcases escape_cases character with short | ⟨-, written⟩ | ⟨-, written, unquoted, unmarked⟩
  · simp only [shorthands, List.mem_cons, List.not_mem_nil, or_false] at short
    rcases short with rfl | rfl | rfl | rfl | rfl | rfl <;> rfl
  · have digits : ∀ digit ∈ Nat.toDigits 16 character.toNat, digit ∈ hexDigits :=
      fun _ => mem_hexDigits
    have read := unquote?_code 0 digits rest
    rw [hexValue_toDigits, Char.ofNat_toNat] at read
    rw [written, ← read, List.append_assoc, List.append_assoc]
    rfl
  · rw [written, List.singleton_append, unquote?, if_neg unquoted, if_neg unmarked]

/-- **A quoted text reads as itself**, whatever stands behind it. -/
theorem unquote?_quote (text : List Char) (rest : List Char) :
    unquote? .plain (text.flatMap escape ++ '"' :: rest) = some (text, rest) := by
  induction text with
  | nil => rfl
  | cons character later ih =>
    rw [List.flatMap_cons, List.append_assoc, unquote?_escape, ih]
    rfl

theorem toList_quote (text : String) :
    (quote text).toList = '"' :: (text.toList.flatMap escape ++ ['"']) := by
  rw [quote, String.toList_ofList]
  rfl

/-- **Different texts are quoted differently**, and neither begins as the other does. -/
theorem quote_append_inj {first second : String} {rest other : List Char}
    (same : (quote first).toList ++ rest = (quote second).toList ++ other) :
    first = second ∧ rest = other := by
  rw [toList_quote, toList_quote, List.cons_append, List.cons_append, List.append_assoc,
    List.append_assoc] at same
  have read := unquote?_quote first.toList rest
  rw [show _ ++ '"' :: rest = _ from (List.cons.inj same).2] at read
  obtain ⟨text, behind⟩ := Prod.mk.inj (Option.some.inj
    (read.symm.trans (unquote?_quote second.toList other)))
  exact ⟨String.toList_inj.1 text, behind⟩

/-- **Nothing in a quoted text is hidden.** -/
theorem not_isHidden_of_mem_quote {text : String} {character : Char}
    (member : character ∈ (quote text).toList) : isHidden character = false := by
  have mark : isHidden '"' = false := by decide
  rw [toList_quote] at member
  rcases List.mem_cons.1 member with rfl | member
  · exact mark
  rcases List.mem_append.1 member with inside | last
  · obtain ⟨other, -, shown⟩ := List.mem_flatMap.1 inside
    exact not_isHidden_of_mem_escape shown
  · rw [List.mem_singleton.1 last, mark]

end SharedWeights.Text
