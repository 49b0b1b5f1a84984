/-
**Byte strings: exact cuts and fixed-width numerals.**

A byte string is a list of bytes. Two things are read off it everywhere in this library: a front
part of a given length, and a natural number in a fixed number of bytes.

* `splitExact?_eq_some_iff`: a cut succeeds exactly when its two parts make up the string and the
  front part has the length asked for;
* `ofLittleEndian_littleEndian`, `ofBigEndian_bigEndian`: a numeral reads back as the number modulo
  the range of its width;
* `littleEndian_ofLittleEndian`, `bigEndian_ofBigEndian`: every byte string is the numeral of the
  number that it reads as, so numerals of one width and numbers below its range correspond.
-/

namespace SharedWeights

/-- A string of bytes. -/
abbrev Bytes := List UInt8

namespace Bytes

/-! ### Exact cuts -/

/-- The first `count` bytes and the rest, if there are that many. -/
def splitExact? (count : Nat) (bytes : Bytes) : Option (Bytes × Bytes) :=
  let front := bytes.take count
  if front.length = count then some (front, bytes.drop count) else none

theorem splitExact?_eq_some_iff {count : Nat} {bytes front back : Bytes} :
    splitExact? count bytes = some (front, back) ↔
      bytes = front ++ back ∧ front.length = count := by
  simp only [splitExact?, Option.ite_none_right_eq_some, Option.some.injEq, Prod.mk.injEq]
  constructor
  · rintro ⟨long, rfl, rfl⟩
    exact ⟨(List.take_append_drop count bytes).symm, long⟩
  · rintro ⟨rfl, rfl⟩
    simp

/-- What stands in front is cut off whole, whatever follows it. -/
theorem splitExact?_append {count : Nat} {front : Bytes} (width : front.length = count)
    (back : Bytes) : splitExact? count (front ++ back) = some (front, back) :=
  splitExact?_eq_some_iff.2 ⟨rfl, width⟩

/-! ### Numerals, least significant byte first -/

/-- How many numbers have a numeral of `width` bytes. -/
def span : Nat → Nat
  | 0 => 1
  | width + 1 => 256 * span width

theorem span_pos (width : Nat) : 0 < span width := by
  induction width with
  | zero => exact Nat.one_pos
  | succ width ih => exact Nat.mul_pos (by decide) ih

/-- The number in `width` bytes, the least significant first; what does not fit is dropped. -/
def littleEndian : Nat → Nat → Bytes
  | 0, _ => []
  | width + 1, number => UInt8.ofNat number :: littleEndian width (number / 256)

/-- The number that a byte string spells with its least significant byte first. -/
def ofLittleEndian : Bytes → Nat
  | [] => 0
  | byte :: rest => byte.toNat + 256 * ofLittleEndian rest

@[simp] theorem length_littleEndian (width number : Nat) :
    (littleEndian width number).length = width := by
  induction width generalizing number with
  | zero => rfl
  | succ width ih => simp [littleEndian, ih]

theorem ofLittleEndian_littleEndian (width number : Nat) :
    ofLittleEndian (littleEndian width number) = number % span width := by
  induction width generalizing number with
  | zero => rw [littleEndian, ofLittleEndian, span, Nat.mod_one]
  | succ width ih =>
    have lowest : (UInt8.ofNat number).toNat = number % 256 := by simp
    rw [littleEndian, ofLittleEndian, ih, lowest, span, Nat.mod_mul]

theorem littleEndian_ofLittleEndian (bytes : Bytes) :
    littleEndian bytes.length (ofLittleEndian bytes) = bytes := by
  induction bytes with
  | nil => rfl
  | cons byte rest ih =>
    have small : byte.toNat < 256 := byte.toNat_lt
    have lowest : UInt8.ofNat (byte.toNat + 256 * ofLittleEndian rest) = byte := by
      apply UInt8.toNat_inj.1
      rw [UInt8.toNat_ofNat']
      omega
    have others : (byte.toNat + 256 * ofLittleEndian rest) / 256 = ofLittleEndian rest := by omega
    rw [ofLittleEndian, List.length_cons, littleEndian, lowest, others, ih]

theorem ofLittleEndian_lt (bytes : Bytes) : ofLittleEndian bytes < span bytes.length := by
  have cut := ofLittleEndian_littleEndian bytes.length (ofLittleEndian bytes)
  rw [littleEndian_ofLittleEndian] at cut
  exact cut ▸ Nat.mod_lt _ (span_pos bytes.length)

/-! ### Numerals, most significant byte first -/

/-- The number in `width` bytes, the most significant first; what does not fit is dropped. -/
def bigEndian (width number : Nat) : Bytes :=
  (littleEndian width number).reverse

/-- The number that a byte string spells with its most significant byte first. -/
def ofBigEndian (bytes : Bytes) : Nat :=
  ofLittleEndian bytes.reverse

@[simp] theorem length_bigEndian (width number : Nat) :
    (bigEndian width number).length = width := by
  simp [bigEndian]

theorem ofBigEndian_bigEndian (width number : Nat) :
    ofBigEndian (bigEndian width number) = number % span width := by
  simp [ofBigEndian, bigEndian, ofLittleEndian_littleEndian]

theorem bigEndian_ofBigEndian (bytes : Bytes) :
    bigEndian bytes.length (ofBigEndian bytes) = bytes := by
  have turned := littleEndian_ofLittleEndian bytes.reverse
  rw [List.length_reverse] at turned
  simp [bigEndian, ofBigEndian, turned]

theorem ofBigEndian_lt (bytes : Bytes) : ofBigEndian bytes < span bytes.length := by
  simpa [ofBigEndian] using ofLittleEndian_lt bytes.reverse

end Bytes

end SharedWeights
