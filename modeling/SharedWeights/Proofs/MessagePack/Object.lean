/-
**The objects of texts, blobs and integers, byte by byte.**

The kinds of values that messages are made of come in families of objects, which differ in their
first byte and in the width of the field behind it. `StrObject`, `BinObject` and `IntObject` are
these families, with their first bytes as numbers. They are what a value of each kind is spelled
with:

* `spells_str_iff`, `spells_int_iff`: a text is spelled by the str objects of its bytes, an integer
  by all objects of the number;
* `spells_bin_iff`: a blob is spelled by the bin objects of its bytes, and by their str objects
  unless they are a text.

How long an object is at least follows from the length of its body alone (`StrObject.le_length`,
`BinObject.lt_length`), and no object has a body of `2 ^ 32` bytes (`StrObject.body_lt`,
`BinObject.body_lt`).
-/

import SharedWeights.Proofs.MessagePack.Spelling

namespace SharedWeights.MessagePack

/-- The str objects of a body. The first byte holds its length if that is below 32, or else says
that the length stands behind it in a field of one, two or four bytes. -/
inductive StrObject (body : Bytes) : Bytes → Prop
  | fixed (short : body.length < 32) : StrObject body (UInt8.ofNat (0xa0 + body.length) :: body)
  | sized (width : Fin 3) (fits : body.length < Bytes.span (fieldSize width)) :
    StrObject body
      (UInt8.ofNat (0xd9 + width) :: Bytes.bigEndian (fieldSize width) body.length ++ body)

/-- The bin objects of a body, whose length always stands in a field of its own. -/
inductive BinObject (body : Bytes) : Bytes → Prop
  | sized (width : Fin 3) (fits : body.length < Bytes.span (fieldSize width)) :
    BinObject body
      (UInt8.ofNat (0xc4 + width) :: Bytes.bigEndian (fieldSize width) body.length ++ body)

/-- The objects of an integer: the first byte alone for numbers from -32 to 127, and a field of one,
two, four or eight bytes, without a sign or in two's complement, for every number in its range. -/
inductive IntObject : Int → Bytes → Prop
  | positive {number : Nat} (small : number < 0x80) : IntObject number [UInt8.ofNat number]
  | negative {number : Nat} (small : number < 0x20) :
    IntObject (number - 0x20) [UInt8.ofNat (0xe0 + number)]
  | unsigned (width : Fin 4) {number : Nat} (fits : number < Bytes.span (fieldSize width)) :
    IntObject number (UInt8.ofNat (0xcc + width) :: Bytes.bigEndian (fieldSize width) number)
  | signed (width : Fin 4) {number : Int}
      (above : -(Bytes.span (fieldSize width) / 2 : Int) ≤ number)
      (below : number < (Bytes.span (fieldSize width) / 2 : Int)) :
    IntObject number (UInt8.ofNat (0xd0 + width) :: twosComplement (fieldSize width) number)

/-! ### What they spell -/

theorem strObject_iff {body bytes : Bytes} :
    StrObject body bytes ↔ ∃ header, TextHeader body.length header ∧ bytes = header ++ body := by
  constructor
  · rintro (short | ⟨width, fits⟩)
    · exact ⟨_, .short short, rfl⟩
    · exact ⟨_, .field width fits, rfl⟩
  · rintro ⟨header, short | ⟨width, fits⟩, rfl⟩
    · exact .fixed short
    · exact .sized width fits

theorem spells_str_iff {text : String} {bytes : Bytes} :
    Spells (.str text) bytes ↔ StrObject (Text.Utf8.encode text) bytes := by
  rw [strObject_iff]
  constructor
  · rintro ⟨⟩
    next header heads => exact ⟨header, heads, rfl⟩
  · rintro ⟨header, heads, rfl⟩
    exact .text heads

theorem spells_bin_iff {body bytes : Bytes} :
    Spells (.bin body) bytes ↔
      BinObject body bytes ∨ (StrObject body bytes ∧ ∀ text, body ≠ Text.Utf8.encode text) := by
  constructor
  · intro spells
    cases spells with
    | noText heads noText => exact .inr ⟨strObject_iff.2 ⟨_, heads, rfl⟩, noText⟩
    | blob width fits => exact .inl (.sized width fits)
  · rintro (⟨width, fits⟩ | ⟨object, noText⟩)
    · exact .blob width fits
    · obtain ⟨header, heads, rfl⟩ := strObject_iff.1 object
      exact .noText heads noText

theorem half_span_le (width : Fin 4) :
    Bytes.span (fieldSize width) / 2 ≤ 0x8000000000000000 := by
  revert width
  decide

theorem spells_int_iff {number : Int64} {bytes : Bytes} :
    Spells (.int number) bytes ↔ IntObject number.toInt bytes := by
  constructor
  · intro spells
    cases spells with
    | positive small =>
      rw [Int64.toInt_ofNat_of_lt (by omega)]
      exact .positive small.isLt
    | negative small =>
      rw [Int64.toInt_ofInt_of_le (by omega) (by omega)]
      exact .negative small.isLt
    | unsigned width fits small =>
      rw [Int64.toInt_ofNat_of_lt small]
      exact .unsigned width fits
    | signed width above below =>
      have half := half_span_le width
      rw [Int64.toInt_ofInt_of_le (by omega) (by omega)]
      exact .signed width above below
  · intro object
    rw [← Int64.ofInt_toInt number]
    have low := number.le_toInt
    have high := number.toInt_lt
    generalize number.toInt = integer at *
    cases object with
    | positive small => exact .positive ⟨_, small⟩
    | negative small => exact .negative ⟨_, small⟩
    | unsigned width fits => exact .unsigned width fits (by omega)
    | signed width above below => exact .signed width above below

/-! ### How long they are -/

theorem fieldSize_pos (width : Nat) : 0 < fieldSize width := by
  induction width with
  | zero => exact Nat.one_pos
  | succ width ih => exact Nat.mul_pos (by decide) ih

theorem fieldSize_le_four (width : Fin 3) : fieldSize width ≤ 4 := by
  revert width
  decide

theorem span_length_le (width : Fin 3) : Bytes.span (fieldSize width) ≤ 0x100000000 := by
  revert width
  decide

/-- No header announces a body of more than 32 bits' length. -/
theorem StrObject.body_lt {body object : Bytes} (isStr : StrObject body object) :
    body.length < 0x100000000 := by
  cases isStr with
  | fixed short => omega
  | sized width fits => exact Nat.lt_of_lt_of_le fits (span_length_le width)

theorem BinObject.body_lt {body object : Bytes} (isBin : BinObject body object) :
    body.length < 0x100000000 := by
  obtain ⟨width, fits⟩ := isBin
  exact Nat.lt_of_lt_of_le fits (span_length_le width)

/-- A field that a length fits in is no shorter than the shortest such field. -/
theorem fieldSize_lengthWidth_le {length : Nat} (width : Fin 3)
    (fits : length < Bytes.span (fieldSize width)) :
    fieldSize (lengthWidth length) ≤ fieldSize width := by
  match width with
  | 0 =>
    have small : length < 0x100 := fits
    have shortest : lengthWidth length = 0 := if_pos small
    exact Nat.le_of_eq (congrArg (fun width : Fin 3 => fieldSize width) shortest)
  | 1 =>
    have small : length < 0x10000 := fits
    rw [lengthWidth, if_pos small]
    split <;> decide
  | 2 => exact fieldSize_le_four (lengthWidth length)

/-- A str object needs no field in front of a short body, but even that is no shorter than one byte
and the body. -/
theorem StrObject.le_length {body object : Bytes} (isStr : StrObject body object) :
    fieldSize (lengthWidth body.length) + body.length ≤ object.length := by
  cases isStr with
  | fixed short =>
    have single : lengthWidth body.length = 0 := if_pos (by omega)
    rw [single, List.length_cons]
    exact Nat.le_of_eq (Nat.add_comm ..)
  | sized width fits =>
    have field := fieldSize_lengthWidth_le width fits
    rw [List.length_append, List.length_cons, Bytes.length_bigEndian]
    omega

theorem BinObject.lt_length {body object : Bytes} (isBin : BinObject body object) :
    fieldSize (lengthWidth body.length) + body.length < object.length := by
  obtain ⟨width, fits⟩ := isBin
  have field := fieldSize_lengthWidth_le width fits
  rw [List.length_append, List.length_cons, Bytes.length_bigEndian]
  omega

theorem IntObject.length_pos {number : Int} {object : Bytes} (isInt : IntObject number object) :
    0 < object.length := by
  cases isInt <;> exact Nat.succ_pos _

end SharedWeights.MessagePack
