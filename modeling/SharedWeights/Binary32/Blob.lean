/-
**Lists of binary32 numbers as blobs.**

A list of numbers travels as one block of bytes, four for each number, the least significant first.

* `ofBlob?_toBlob`: every list reads back, bit for bit;
* `toBlob_ofBlob?`: whatever is read is the blob of what was read;
* `ofBlob?_eq_none_iff`: a block of bytes is no blob exactly when its length is no multiple of four;
* `toBlob_append`: blobs are joined as the lists are.
-/

import SharedWeights.Binary32.Basic
import SharedWeights.Bytes

namespace SharedWeights.Binary32

/-- The four bytes of a number. -/
def toBytes (number : Binary32) : Bytes :=
  Bytes.littleEndian 4 number.bits.toNat

/-- The number that four bytes spell. -/
def ofBytes (bytes : Bytes) : Binary32 :=
  ⟨UInt32.ofNat (Bytes.ofLittleEndian bytes)⟩

/-- The blob of a list of numbers. -/
def toBlob (numbers : List Binary32) : Bytes :=
  numbers.flatMap toBytes

/-- Reads the numbers of a blob behind those already read, the last of them first. -/
def collect (found : List Binary32) : Bytes → Option (List Binary32)
  | first :: second :: third :: fourth :: rest =>
    collect (ofBytes [first, second, third, fourth] :: found) rest
  | [] => some found.reverse
  | _ => none

/-- The numbers of a blob, if its length is a multiple of four. -/
def ofBlob? (blob : Bytes) : Option (List Binary32) :=
  collect [] blob

@[simp] theorem length_toBytes (number : Binary32) : number.toBytes.length = 4 := by
  simp [toBytes]

theorem ofBytes_toBytes (number : Binary32) : ofBytes number.toBytes = number := by
  apply bits_injective
  apply UInt32.toNat_inj.1
  have small : number.bits.toNat < 2 ^ 32 := number.bits.toNat_lt
  have four : Bytes.span 4 = 2 ^ 32 := by decide
  rw [ofBytes, toBytes, Bytes.ofLittleEndian_littleEndian, UInt32.toNat_ofNat', four,
    Nat.mod_mod, Nat.mod_eq_of_lt small]

theorem toBytes_ofBytes {bytes : Bytes} (four : bytes.length = 4) :
    (ofBytes bytes).toBytes = bytes := by
  have small := Bytes.ofLittleEndian_lt bytes
  rw [four] at small
  have kept : Bytes.ofLittleEndian bytes % 2 ^ 32 = Bytes.ofLittleEndian bytes :=
    Nat.mod_eq_of_lt small
  have whole := Bytes.littleEndian_ofLittleEndian bytes
  rw [four] at whole
  rw [toBytes, ofBytes, UInt32.toNat_ofNat', kept, whole]

theorem collect_append (earlier later : List Binary32) (blob : Bytes) :
    collect (later ++ earlier) blob = (collect later blob).map (earlier.reverse ++ ·) := by
  fun_induction collect later blob with
  | case1 later first second third fourth rest ih => exact ih
  | case2 later => simp [collect]
  | case3 later blob long nonempty => rw [collect.eq_3 _ _ long nonempty, Option.map_none]

/-- What was read already stands in front of what is still to be read. -/
theorem collect_eq (found : List Binary32) (blob : Bytes) :
    collect found blob = (ofBlob? blob).map (found.reverse ++ ·) :=
  collect_append found [] blob

theorem ofBlob?_nil : ofBlob? [] = some [] := rfl

theorem ofBlob?_cons (first second third fourth : UInt8) (rest : Bytes) :
    ofBlob? (first :: second :: third :: fourth :: rest) =
      (ofBlob? rest).map (ofBytes [first, second, third, fourth] :: ·) := by
  rw [ofBlob?, collect, collect_eq]
  rfl

theorem ofBlob?_toBytes_append (number : Binary32) (rest : Bytes) :
    ofBlob? (number.toBytes ++ rest) = (ofBlob? rest).map (number :: ·) := by
  have shape := length_toBytes number
  have back := ofBytes_toBytes number
  revert shape back
  rcases number.toBytes with _ | ⟨first, _ | ⟨second, _ | ⟨third, _ | ⟨fourth, _ | ⟨_, _⟩⟩⟩⟩⟩ <;>
    simp (disch := omega) [ofBlob?_cons]
  rintro rfl
  rfl

@[simp] theorem length_toBlob (numbers : List Binary32) :
    (toBlob numbers).length = 4 * numbers.length := by
  induction numbers with
  | nil => rfl
  | cons number rest ih =>
    rw [toBlob, List.flatMap_cons, List.length_append, length_toBytes, ← toBlob, ih,
      List.length_cons]
    omega

theorem toBlob_append (front back : List Binary32) :
    toBlob (front ++ back) = toBlob front ++ toBlob back :=
  List.flatMap_append

@[simp] theorem ofBlob?_toBlob (numbers : List Binary32) :
    ofBlob? (toBlob numbers) = some numbers := by
  induction numbers with
  | nil => rfl
  | cons number rest ih =>
    rw [toBlob, List.flatMap_cons, ofBlob?_toBytes_append, ← toBlob, ih]
    rfl

theorem toBlob_ofBlob? {blob : Bytes} {numbers : List Binary32}
    (read : ofBlob? blob = some numbers) : toBlob numbers = blob := by
  match blob with
  | first :: second :: third :: fourth :: rest =>
    rw [ofBlob?_cons] at read
    obtain ⟨others, found, rfl⟩ := Option.map_eq_some_iff.1 read
    rw [toBlob, List.flatMap_cons, toBytes_ofBytes rfl, ← toBlob, toBlob_ofBlob? found]
    rfl
  | [] => cases read; rfl
  | [_] | [_, _] | [_, _, _] => cases read

theorem ofBlob?_eq_some_iff {blob : Bytes} {numbers : List Binary32} :
    ofBlob? blob = some numbers ↔ blob = toBlob numbers :=
  ⟨fun read => (toBlob_ofBlob? read).symm, fun same => same ▸ ofBlob?_toBlob numbers⟩

theorem ofBlob?_eq_none_iff {blob : Bytes} : ofBlob? blob = none ↔ blob.length % 4 ≠ 0 := by
  match blob with
  | first :: second :: third :: fourth :: rest =>
    rw [ofBlob?_cons, Option.map_eq_none_iff, ofBlob?_eq_none_iff]
    simp only [List.length_cons]
    omega
  | [] => simp [ofBlob?_nil]
  | [_] | [_, _] | [_, _, _] => simp [ofBlob?, collect]

end SharedWeights.Binary32
