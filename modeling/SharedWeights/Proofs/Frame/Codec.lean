/-
**A frame reads back value by value.**

A frame is the objects of its values, one behind the other, and nothing tells where it ends. A
cursor reads one object after another, in whatever spellings they come. So it reads the values of a
frame in their order, whatever stands behind the frame, and is then in front of that.

* `Cursor.next_of_spells`: one pull reads one spelled value and leaves what follows it;
* `Cursor.nextEach_of_spelled`: as many pulls as there are values read all of them;
* `Frame.spelled_encode`: what is written for a list of values is one of its spellings;
* `Frame.carries_values`: what a written frame gives, and how frames are put together.
-/

import SharedWeights.Frame.Cursor
import SharedWeights.Frame.Encoding
import SharedWeights.Proofs.MessagePack.Spelling

namespace SharedWeights

open MessagePack (Spells)

namespace Cursor

theorem next_of_spells {value : Value} {bytes : Bytes} (spells : Spells value bytes)
    (rest : Bytes) (index : Nat) :
    next ⟨bytes ++ rest, index⟩ = (.ok value, ⟨rest, index + 1⟩) := by
  have something : bytes ++ rest ≠ [] := List.append_ne_nil_of_left_ne_nil spells.ne_nil rest
  rw [next, if_neg something, MessagePack.read_of_spells spells]

theorem finish_eq_ok_iff {cursor : Cursor} : cursor.finish = .ok () ↔ cursor.rest = [] := by
  simp [finish, isEmpty]

/-- Reads `count` values in turn, going on after failures. -/
def nextEach : Nat → Cursor → List (Except DecodeError Value) × Cursor
  | 0, cursor => ([], cursor)
  | count + 1, cursor =>
    (cursor.next.1 :: (nextEach count cursor.next.2).1, (nextEach count cursor.next.2).2)

end Cursor

/-! ### Objects one behind the other -/

/-- Objects of the values, one behind the other, each in one of its spellings. -/
inductive Frame.Spelled : List Value → Bytes → Prop
  | nil : Spelled [] []
  | cons {value : Value} {values : List Value} {object frame : Bytes} (first : Spells value object)
    (others : Spelled values frame) : Spelled (value :: values) (object ++ frame)

/-- **As many pulls as there are values read all of them**, and leave what follows. -/
theorem Cursor.nextEach_of_spelled {values : List Value} {frame : Bytes}
    (spelled : Frame.Spelled values frame) (rest : Bytes) (index : Nat) :
    nextEach values.length ⟨frame ++ rest, index⟩ =
      (values.map .ok, ⟨rest, index + values.length⟩) := by
  induction spelled generalizing index with
  | nil => rfl
  | cons first others ih =>
    rw [List.append_assoc, List.length_cons, nextEach, next_of_spells first, ih, List.map_cons,
      Nat.add_right_comm, Nat.add_assoc]

namespace Frame

/-- Values that can all be written: no text and no blob among them has `2 ^ 32` bytes or more. -/
def Writable (values : List Value) : Prop :=
  ∀ value ∈ values, value.Encodable

instance (values : List Value) : Decidable (Writable values) :=
  inferInstanceAs (Decidable (∀ value ∈ values, value.Encodable))

theorem spelled_encode {values : List Value} (writable : Writable values) :
    Spelled values (encode values) := by
  induction values with
  | nil => exact .nil
  | cons value others ih =>
    rw [encode_cons]
    exact .cons (MessagePack.spells_write (writable value List.mem_cons_self))
      (ih fun other member => writable other (List.mem_cons_of_mem _ member))

/-- **A frame carries its values.** In front of a frame with anything behind it, as many pulls as
the frame has values give exactly these, in their order, and leave what stands behind; so the end is
reached there exactly if nothing does. The frame of joined lists is their frames joined, and writing
onto a buffer leaves what is in it and adds the frame. -/
theorem carries_values {values : List Value} (writable : Writable values) (tail : Bytes)
    (others : List Value) (buffer : Array UInt8) :
    (Cursor.ofBytes (encode values ++ tail)).nextEach values.length =
        (values.map .ok, ⟨tail, values.length⟩) ∧
      (Cursor.finish ⟨tail, values.length⟩ = .ok () ↔ tail = []) ∧
      encode (values ++ others) = encode values ++ encode others ∧
      (encodeOnto buffer values).toList = buffer.toList ++ encode values := by
  have read := Cursor.nextEach_of_spelled (spelled_encode writable) tail 0
  rw [Nat.zero_add] at read
  exact ⟨read, Cursor.finish_eq_ok_iff, encode_append values others,
    toList_encodeOnto buffer values⟩

/-- Numbers and lengths next to where their objects get longer, and a byte that begins no object
behind them. -/
theorem carries_values_edges :
    let values : List Value := [.nil, .int 127, .int 128, .int (-32), .int (-33), .int (-0x8000),
      .int (-0x8001), .int 0x7fffffffffffffff, .int (-0x8000000000000000), .bool true,
      .float32 ⟨0x7fa00001⟩, .float64 0x8000000000000000, .str "",
      .str "a name that has thirty-two bytes", .bin [], .bin [0xff]]
    Writable values ∧
      (Cursor.ofBytes (encode values ++ [0xc1])).nextEach 16 = (values.map .ok, ⟨[0xc1], 16⟩) ∧
      Cursor.finish ⟨[0xc1], 16⟩ ≠ .ok () := by
  intro values
  have writable : Writable values := by decide
  obtain ⟨read, finished, -⟩ := carries_values writable [0xc1] [] #[]
  exact ⟨writable, read, fun done => absurd (finished.1 done) (by decide)⟩

end Frame

end SharedWeights
