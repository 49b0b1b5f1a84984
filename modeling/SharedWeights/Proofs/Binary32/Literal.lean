/-
**What a literal is.**

A literal is told here by its parts, each with what it says: a sign or none, then a word, or digits
with a point or without and an exponent or none. The reader goes through the same parts from left to
right and never goes back, which does no harm because no part can begin with what may end the one
before:

* `splitDigits_append`, `splitSign_append`: where the reader parts a text;
* `exponent?_eq_some_iff`, `decimal?_eq_some_iff`, `word?_eq_some_iff`: what it takes each part for;
* `ofLiteral_eq_ok_iff`: exactly the literals are read, with their numbers;
* `ofLiteral_eq_error_iff`: any other text is refused, and why.
-/

import SharedWeights.Binary32.Literal
import SharedWeights.Proofs.Text.Numeral

namespace SharedWeights.Binary32

open Text.Numeral (Digits)

/-! ### The parts of a literal -/

/-- A sign, or none; true for a minus sign. -/
inductive Sign : List Char → Bool → Prop
  | absent : Sign [] false
  | plus : Sign ['+'] false
  | minus : Sign ['-'] true

/-- Digits, with a point at any place among them or without: those in front of it, and those behind
it. -/
inductive Mantissa : List Char → List Char → List Char → Prop
  | whole {digits : List Char} (digital : Digits digits) : Mantissa digits digits []
  | pointed {whole fraction : List Char} (digital : Digits (whole ++ fraction)) :
    Mantissa (whole ++ '.' :: fraction) whole fraction

/-- An exponent, or none. -/
inductive Exponent : List Char → Int → Prop
  | absent : Exponent [] 0
  | stated {mark : Char} {sign digits : List Char} {negative : Bool}
      (marked : mark = 'e' ∨ mark = 'E') (signed : Sign sign negative) (digital : Digits digits) :
    Exponent (mark :: (sign ++ digits))
      (if negative then -(exponentSize 0 digits : Int) else exponentSize 0 digits)

/-- A number in decimal notation without a sign. -/
inductive Notation : List Char → Decimal → Prop
  | of {mantissa whole fraction tail : List Char} {exponent : Int}
      (isMantissa : Mantissa mantissa whole fraction) (isExponent : Exponent tail exponent) :
    Notation (mantissa ++ tail)
      ⟨Nat.ofDigitChars 10 (whole ++ fraction) 0, exponent - fraction.length⟩

/-- A word for the magnitude of what is no finite number, in any mixture of cases. -/
inductive Word : List Char → Nat → Prop
  | infinity {word : List Char}
      (spelled : word.map Char.toLower = ['i', 'n', 'f'] ∨
        word.map Char.toLower = ['i', 'n', 'f', 'i', 'n', 'i', 't', 'y']) : Word word infinity
  | notANumber {word : List Char} (spelled : word.map Char.toLower = ['n', 'a', 'n']) :
    Word word quietNaN

/-- A literal and its number. -/
inductive Literal : List Char → Binary32 → Prop
  | decimal {sign digits : List Char} {negative : Bool} {decimal : Decimal}
      (signed : Sign sign negative) (noted : Notation digits decimal) :
    Literal (sign ++ digits) (ofDecimal negative decimal)
  | word {sign word : List Char} {negative : Bool} {magnitude : Nat}
      (signed : Sign sign negative) (isWord : Word word magnitude) :
    Literal (sign ++ word) (ofMagnitude negative magnitude)

/-! ### Where a text is parted -/

/-- Characters that do not begin with a digit or with a point. -/
def Beyond (characters : List Char) : Prop :=
  ∀ first ∈ characters.head?, first.isDigit = false ∧ first ≠ '.'

/-- Characters that do not begin with a sign. -/
def Unsigned (characters : List Char) : Prop :=
  ∀ first ∈ characters.head?, first ≠ '+' ∧ first ≠ '-'

theorem splitDigits_append {digits rest : List Char}
    (decimal : ∀ digit ∈ digits, digit.isDigit = true)
    (ends : ∀ first ∈ rest.head?, first.isDigit = false) :
    splitDigits (digits ++ rest) = (digits, rest) := by
  rw [splitDigits, List.takeWhile_append_of_pos decimal, List.dropWhile_append_of_pos decimal]
  cases rest with
  | nil => rw [List.takeWhile_nil, List.dropWhile_nil, List.append_nil]
  | cons first others =>
    have stop : ¬ first.isDigit = true := Bool.eq_false_iff.1 (ends first rfl)
    rw [List.takeWhile_cons_of_neg stop, List.dropWhile_cons_of_neg stop, List.append_nil]

theorem splitSign_append {sign rest : List Char} {negative : Bool} (signed : Sign sign negative)
    (unsigned : Unsigned rest) : splitSign (sign ++ rest) = (negative, rest) := by
  cases signed with
  | absent =>
    rw [List.nil_append]
    unfold splitSign
    split
    · exact absurd rfl (unsigned '-' rfl).2
    · exact absurd rfl (unsigned '+' rfl).1
    · rfl
  | plus | minus => rfl

/-- What the reader takes for a sign is one. -/
theorem sign_splitSign (characters : List Char) :
    ∃ sign, Sign sign (splitSign characters).1 ∧ characters = sign ++ (splitSign characters).2 := by
  unfold splitSign
  split
  · exact ⟨['-'], .minus, rfl⟩
  · exact ⟨['+'], .plus, rfl⟩
  · exact ⟨[], .absent, rfl⟩

/-! ### What the reader takes each part for -/

/-- Digits are neither signs nor points. -/
theorem ne_of_isDigit {digit : Char} (isDigit : digit.isDigit = true) :
    digit ≠ '+' ∧ digit ≠ '-' ∧ digit ≠ '.' := by
  refine ⟨?_, ?_, ?_⟩ <;> (rintro rfl; exact absurd isDigit (by decide))

theorem unsigned_of_digits {digits : List Char} (digital : Digits digits) (rest : List Char) :
    Unsigned (digits ++ rest) := by
  cases digits with
  | nil => exact absurd rfl digital.nonempty
  | cons digit others =>
    intro first isFirst
    cases isFirst
    have different := ne_of_isDigit (digital.decimal digit List.mem_cons_self)
    exact ⟨different.1, different.2.1⟩

theorem exponent?_eq_some_iff {tail : List Char} {exponent : Int} :
    exponent? tail = some exponent ↔ Exponent tail exponent := by
  constructor
  · intro found
    unfold exponent? at found
    split at found
    · cases found
      exact .absent
    · next mark rest =>
      obtain ⟨sign, signed, parted⟩ := sign_splitSign rest
      split at found
      · next marked =>
        dsimp only at found
        split at found
        · next digital =>
          cases found
          have whole := Exponent.stated marked signed (Text.Numeral.digits_iff.2 digital)
          rwa [← parted] at whole
        · cases found
      · cases found
  · rintro (_ | ⟨marked, signed, digital⟩)
    · rfl
    · next mark sign digits negative =>
      have parted := splitSign_append signed (digits.append_nil ▸ unsigned_of_digits digital [])
      rw [exponent?, if_pos marked, parted]
      dsimp only
      rw [if_pos (Text.Numeral.digits_iff.1 digital)]

theorem Exponent.beyond {tail : List Char} {exponent : Int} (isExponent : Exponent tail exponent) :
    Beyond tail := by
  rcases isExponent with _ | ⟨marked, -, -⟩
  · exact fun first isFirst => nomatch isFirst
  · intro first isFirst
    cases isFirst
    rcases marked with rfl | rfl <;> decide

theorem splitFraction_of_beyond {rest : List Char} (beyond : Beyond rest) :
    splitFraction rest = ([], rest) := by
  unfold splitFraction
  split
  · exact absurd rfl (beyond '.' rfl).2
  · rfl

/-- What the reader takes for a mantissa is one, if there are digits in it. -/
theorem mantissa_of_split {characters whole after fraction tail : List Char}
    (front : splitDigits characters = (whole, after))
    (back : splitFraction after = (fraction, tail)) (something : ¬ (whole = [] ∧ fraction = [])) :
    ∃ mantissa, characters = mantissa ++ tail ∧ Mantissa mantissa whole fraction := by
  have parted := split_eq characters
  have decimal : ∀ digit ∈ whole, digit.isDigit = true := by
    intro digit inside
    have taken : digit ∈ (splitDigits characters).1 := by rwa [front]
    exact digits_of_split taken
  rw [front] at parted
  unfold splitFraction at back
  split at back
  · next rest =>
    have behind := split_eq rest
    rw [back] at behind
    refine ⟨whole ++ '.' :: fraction, ?_, .pointed ⟨?_, ?_⟩⟩
    · rw [← parted, ← behind, List.append_assoc, List.cons_append]
    · exact fun nothing => something (List.append_eq_nil_iff.1 nothing)
    · refine List.forall_mem_append.2 ⟨decimal, fun digit inside => ?_⟩
      have taken : digit ∈ (splitDigits rest).1 := by rwa [back]
      exact digits_of_split taken
  · cases back
    exact ⟨whole, parted.symm, .whole ⟨fun nothing => something ⟨nothing, rfl⟩, decimal⟩⟩

/-- And every mantissa in front of an exponent is taken for what it is. -/
theorem split_of_mantissa {mantissa whole fraction tail : List Char}
    (isMantissa : Mantissa mantissa whole fraction) (beyond : Beyond tail) :
    ∃ after, splitDigits (mantissa ++ tail) = (whole, after) ∧
      splitFraction after = (fraction, tail) ∧ ¬ (whole = [] ∧ fraction = []) := by
  have ends : ∀ first ∈ tail.head?, first.isDigit = false :=
    fun first isFirst => (beyond first isFirst).1
  cases isMantissa with
  | whole digital =>
    exact ⟨tail, splitDigits_append digital.decimal ends, splitFraction_of_beyond beyond,
      fun nothing => digital.nonempty nothing.1⟩
  | pointed digital =>
    obtain ⟨before, behind⟩ := List.forall_mem_append.1 digital.decimal
    have pointEnds : ∀ first ∈ ('.' :: (fraction ++ tail)).head?, first.isDigit = false := by
      intro first isFirst
      cases isFirst
      rfl
    refine ⟨'.' :: (fraction ++ tail), ?_, splitDigits_append behind ends, fun nothing => ?_⟩
    · rw [List.append_assoc, List.cons_append, splitDigits_append before pointEnds]
    · exact digital.nonempty (List.append_eq_nil_iff.2 nothing)

theorem decimal?_eq_some_iff {characters : List Char} {decimal : Decimal} :
    decimal? characters = some decimal ↔ Notation characters decimal := by
  constructor
  · intro found
    rcases front : splitDigits characters with ⟨whole, after⟩
    rcases back : splitFraction after with ⟨fraction, tail⟩
    rw [decimal?, front] at found
    dsimp only at found
    rw [back] at found
    dsimp only at found
    split at found
    · cases found
    · next something =>
      obtain ⟨exponent, stated, rfl⟩ := Option.map_eq_some_iff.1 found
      obtain ⟨mantissa, rfl, isMantissa⟩ := mantissa_of_split front back something
      rw [Text.Numeral.ofDigits_eq_value]
      exact .of isMantissa (exponent?_eq_some_iff.1 stated)
  · rintro ⟨isMantissa, isExponent⟩
    obtain ⟨after, front, back, something⟩ := split_of_mantissa isMantissa isExponent.beyond
    rw [decimal?, front]
    dsimp only
    rw [back]
    dsimp only
    rw [if_neg something, exponent?_eq_some_iff.2 isExponent, Text.Numeral.ofDigits_eq_value]
    rfl

theorem word?_eq_some_iff {characters : List Char} {magnitude : Nat} :
    word? characters = some magnitude ↔ Word characters magnitude := by
  unfold word?
  dsimp only
  constructor
  · intro found
    split at found
    · next spelled =>
      cases found
      exact .infinity spelled
    · split at found
      · next spelled =>
        cases found
        exact .notANumber spelled
      · cases found
  · rintro (spelled | spelled)
    · rw [if_pos spelled]
    · have other : ¬ (characters.map Char.toLower = ['i', 'n', 'f'] ∨
          characters.map Char.toLower = ['i', 'n', 'f', 'i', 'n', 'i', 't', 'y']) := by
        rw [spelled]
        decide
      rw [if_neg other, if_pos spelled]

/-! ### Words and notations -/

theorem isAlpha_of_toLower {character : Char} (letter : character.toLower.isAlpha = true) :
    character.isAlpha = true := by
  unfold Char.toLower at letter
  split at letter
  · next upper => exact Bool.or_eq_true_iff.2 (.inl (decide_eq_true upper))
  · exact letter

/-- Letters have larger codes than digits. -/
theorem isDigit_of_isAlpha {character : Char} (letter : character.isAlpha = true) :
    character.isDigit = false := by
  have beyond : '9'.val < character.val := by
    rcases Bool.or_eq_true_iff.1 letter with upper | lower
    · exact UInt32.lt_of_lt_of_le (by decide) (of_decide_eq_true upper).1
    · exact UInt32.lt_of_lt_of_le (by decide) (of_decide_eq_true (Bool.and_eq_true_iff.1 lower).1)
  refine Bool.eq_false_iff.2 fun digit => ?_
  exact UInt32.not_le.2 beyond (of_decide_eq_true (Bool.and_eq_true_iff.1 digit).2)

/-- A word begins with a letter. -/
theorem Word.isAlpha_head {word : List Char} {magnitude : Nat} (isWord : Word word magnitude) :
    ∃ first others, word = first :: others ∧ first.isAlpha = true := by
  cases word with
  | nil => rcases isWord with (spelled | spelled) | spelled <;> cases spelled
  | cons first others =>
    refine ⟨first, others, rfl, isAlpha_of_toLower ?_⟩
    rcases isWord with (spelled | spelled) | spelled <;> (rw [(List.cons.inj spelled).1]; decide)

theorem Word.unsigned {word : List Char} {magnitude : Nat} (isWord : Word word magnitude) :
    Unsigned word := by
  obtain ⟨letter, others, rfl, isAlpha⟩ := isWord.isAlpha_head
  intro first isFirst
  cases isFirst
  constructor <;> (rintro rfl; exact absurd isAlpha (by decide))

theorem Word.beyond {word : List Char} {magnitude : Nat} (isWord : Word word magnitude) :
    Beyond word := by
  obtain ⟨letter, others, rfl, isAlpha⟩ := isWord.isAlpha_head
  intro first isFirst
  cases isFirst
  refine ⟨isDigit_of_isAlpha isAlpha, ?_⟩
  rintro rfl
  exact absurd isAlpha (by decide)

theorem Notation.unsigned {characters : List Char} {decimal : Decimal}
    (noted : Notation characters decimal) : Unsigned characters := by
  rcases noted with ⟨digital | @⟨_ | ⟨digit, others⟩, fraction, digital⟩, -⟩
  · exact unsigned_of_digits digital _
  · intro first isFirst
    cases isFirst
    decide
  · intro first isFirst
    cases isFirst
    have different := ne_of_isDigit (digital.decimal digit List.mem_cons_self)
    exact ⟨different.1, different.2.1⟩

/-- What begins like no number states none. -/
theorem decimal?_of_beyond {characters : List Char} (beyond : Beyond characters) :
    decimal? characters = none := by
  have nothing : ∀ digit ∈ ([] : List Char), digit.isDigit = true := List.forall_mem_nil _
  have front : splitDigits characters = ([], characters) :=
    splitDigits_append nothing fun first isFirst => (beyond first isFirst).1
  rw [decimal?, front]
  dsimp only
  rw [splitFraction_of_beyond beyond]
  rfl

/-! ### Literals -/

/-- **Exactly the literals are read**, with their numbers. -/
theorem ofLiteral_eq_ok_iff {characters : List Char} {number : Binary32} :
    ofLiteral characters = .ok number ↔ Literal characters number := by
  constructor
  · intro read
    obtain ⟨sign, signed, parted⟩ := sign_splitSign characters
    unfold ofLiteral at read
    split at read
    · cases read
    · dsimp only at read
      rw [parted]
      split at read
      · next decimal found =>
        cases read
        exact .decimal signed (decimal?_eq_some_iff.1 found)
      · split at read
        · next magnitude found =>
          cases read
          exact .word signed (word?_eq_some_iff.1 found)
        · cases read
  · rintro (⟨signed, noted⟩ | ⟨signed, isWord⟩)
    · have found := decimal?_eq_some_iff.2 noted
      rw [ofLiteral, if_neg, splitSign_append signed noted.unsigned]
      · dsimp only
        rw [found]
      · intro nothing
        rw [(List.append_eq_nil_iff.1 nothing).2] at found
        cases found
    · have found := word?_eq_some_iff.2 isWord
      rw [ofLiteral, if_neg, splitSign_append signed isWord.unsigned]
      · dsimp only
        rw [decimal?_of_beyond isWord.beyond]
        dsimp only
        rw [found]
      · intro nothing
        rw [(List.append_eq_nil_iff.1 nothing).2] at found
        cases found

theorem fault_of_refused {characters : List Char} {fault : LiteralFault}
    (refused : ofLiteral characters = .error fault) :
    fault = if characters = [] then .empty else .invalid := by
  unfold ofLiteral at refused
  split at refused
  · next nothing => rw [if_pos nothing, Except.error.inj refused]
  · next something =>
    rw [if_neg something]
    dsimp only at refused
    split at refused
    · cases refused
    · split at refused
      · cases refused
      · exact (Except.error.inj refused).symm

/-- **Any other text is refused**, and an empty one for being empty. -/
theorem ofLiteral_eq_error_iff {characters : List Char} {fault : LiteralFault} :
    ofLiteral characters = .error fault ↔
      (∀ number, ¬ Literal characters number) ∧
        fault = if characters = [] then .empty else .invalid := by
  constructor
  · intro refused
    refine ⟨fun number literal => ?_, fault_of_refused refused⟩
    rw [ofLiteral_eq_ok_iff.2 literal] at refused
    cases refused
  · rintro ⟨unstated, rfl⟩
    cases read : ofLiteral characters with
    | ok number => exact absurd (ofLiteral_eq_ok_iff.1 read) (unstated number)
    | error other => rw [fault_of_refused read]

end SharedWeights.Binary32
