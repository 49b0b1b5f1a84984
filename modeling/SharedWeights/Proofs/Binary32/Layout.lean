/-
**Where the bytes of a blob stand.**

A number of a list has four bytes of its blob, at the place that is its own among the numbers, the
least significant first. So a list and its blob say the same, bit for bit, and blobs are put
together as the lists are, wherever no number is cut:

* `getElem?_toBlob`: which byte of which number stands where;
* `ofBlob?_toBlob_append`: what stands behind a blob is read on its own;
* `blobs_correspond`: lists of numbers and blobs of whole numbers correspond.
-/

import SharedWeights.Binary32.Blob

namespace SharedWeights

/-- The byte at an offset is the digit of the number in that place. -/
theorem Bytes.getElem?_littleEndian {width offset : Nat} (within : offset < width) (number : Nat) :
    (littleEndian width number)[offset]? = some (UInt8.ofNat (number / span offset)) := by
  induction width generalizing offset number with
  | zero => exact absurd within (Nat.not_lt_zero offset)
  | succ width ih =>
    cases offset with
    | zero => rw [littleEndian, List.getElem?_cons_zero, span, Nat.div_one]
    | succ offset =>
      rw [littleEndian, List.getElem?_cons_succ, ih (Nat.lt_of_succ_lt_succ within), span,
        Nat.div_div_eq_div_mul]

namespace Binary32

/-- The byte at an offset of the four that a number has. -/
def byteAt (offset : Nat) (number : Binary32) : UInt8 :=
  UInt8.ofNat (number.bits.toNat / Bytes.span offset)

/-- **Byte by byte**, a blob holds the numbers in their order. -/
theorem getElem?_toBlob {offset : Nat} (within : offset < 4) (numbers : List Binary32)
    (place : Nat) :
    (toBlob numbers)[4 * place + offset]? = numbers[place]?.map (byteAt offset) := by
  induction numbers generalizing place with
  | nil => rfl
  | cons number others ih =>
    have width := length_toBytes number
    rw [toBlob, List.flatMap_cons, ← toBlob]
    cases place with
    | zero =>
      rw [Nat.mul_zero, Nat.zero_add, List.getElem?_append_left (by omega), toBytes,
        Bytes.getElem?_littleEndian within]
      rfl
    | succ place =>
      have behind : 4 * (place + 1) + offset - 4 = 4 * place + offset := by omega
      rw [List.getElem?_append_right (by omega), width, behind, ih, List.getElem?_cons_succ]

/-- **What stands behind a blob is read on its own.** -/
theorem ofBlob?_toBlob_append (numbers : List Binary32) (tail : Bytes) :
    ofBlob? (toBlob numbers ++ tail) = (ofBlob? tail).map (numbers ++ ·) := by
  induction numbers with
  | nil => exact Option.map_id'.symm
  | cons number others ih =>
    rw [toBlob, List.flatMap_cons, ← toBlob, List.append_assoc, ofBlob?_toBytes_append, ih,
      Option.map_map]
    rfl

/-- A length that is a multiple of four is that of a blob. -/
theorem exists_numbers {blob : Bytes} (whole : blob.length % 4 = 0) :
    ∃ numbers, ofBlob? blob = some numbers := by
  refine Option.ne_none_iff_exists'.1 fun ragged => ?_
  exact ofBlob?_eq_none_iff.1 ragged whole

/-- **Lists of numbers and blobs of whole numbers correspond**, bit for bit. Every list has a blob,
of four bytes for each number, the least significant first, and reads back from it. Bytes are no
blob exactly if their number is no multiple of four, and else are the blob of what is read from
them. Lists and blobs are joined alike. -/
theorem blobs_correspond (numbers others : List Binary32) (blob tail : Bytes) :
    (ofBlob? (toBlob numbers) = some numbers ∧
      (toBlob numbers).length = 4 * numbers.length ∧
      (∀ place offset, offset < 4 →
        (toBlob numbers)[4 * place + offset]? = numbers[place]?.map (byteAt offset)) ∧
      toBlob (numbers ++ others) = toBlob numbers ++ toBlob others) ∧
    (ofBlob? blob = none ↔ blob.length % 4 ≠ 0) ∧
    (∀ found, ofBlob? blob = some found → toBlob found = blob) ∧
    (blob.length % 4 = 0 → tail.length % 4 = 0 →
      ∃ front back, ofBlob? blob = some front ∧ ofBlob? tail = some back ∧
        ofBlob? (blob ++ tail) = some (front ++ back)) := by
  refine ⟨⟨ofBlob?_toBlob numbers, length_toBlob numbers,
    fun place _ within => getElem?_toBlob within numbers place, toBlob_append numbers others⟩,
    ofBlob?_eq_none_iff, fun _ => toBlob_ofBlob?, fun whole wholeTail => ?_⟩
  obtain ⟨front, read⟩ := exists_numbers whole
  obtain ⟨back, readTail⟩ := exists_numbers wholeTail
  refine ⟨front, back, read, readTail, ?_⟩
  rw [← toBlob_ofBlob? read, ofBlob?_toBlob_append, readTail]
  rfl

/-- A NaN with a payload, and negative zero with the least number above zero, are two blobs that
make one; six bytes make none. -/
theorem blobs_correspond_of_specials :
    let numbers : List Binary32 := [⟨0x7fa00001⟩, ⟨0x80000000⟩, ⟨1⟩]
    let blob : Bytes := [0x01, 0x00, 0xa0, 0x7f]
    let tail : Bytes := [0x00, 0x00, 0x00, 0x80, 0x01, 0x00, 0x00, 0x00]
    (blob.length % 4 = 0 ∧ tail.length % 4 = 0 ∧
      ∃ front back, ofBlob? blob = some front ∧ ofBlob? tail = some back ∧
        numbers = front ++ back) ∧
      toBlob numbers = blob ++ tail ∧ (toBlob numbers)[4 * 1 + 3]? = some 0x80 ∧
      ofBlob? [0, 0, 0, 0, 0, 0] = none := by
  intro numbers blob tail
  have whole : blob.length % 4 = 0 := by decide
  have wholeTail : tail.length % 4 = 0 := by decide
  have spelled : toBlob numbers = blob ++ tail := by decide
  obtain ⟨⟨read, -, place, -⟩, -, -, joined⟩ := blobs_correspond numbers [] blob tail
  obtain ⟨front, back, first, second, both⟩ := joined whole wholeTail
  have ragged := (blobs_correspond [] [] [0, 0, 0, 0, 0, 0] []).2.1.2 (by decide)
  have same : some numbers = some (front ++ back) := by rw [← read, spelled, both]
  exact ⟨⟨whole, wholeTail, front, back, first, second, Option.some.inj same⟩, spelled,
    place 1 3 (by decide), ragged⟩

end Binary32

end SharedWeights
