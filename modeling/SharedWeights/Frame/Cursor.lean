/-
**Reading a frame value by value.**

A frame is the objects of its values, one behind the other. A cursor stands in front of the values
that are still to be read and counts those already read. A pull reads the next value and then looks
at it as what is wanted, so that where the cursor stands afterwards does not depend on what was
wanted.

* `pull_moves_as_next`: every pull moves the cursor as reading any value does;
* `next_of_empty`: at the end of a frame a pull changes nothing;
* `length_next_rest_lt`: before the end every pull takes at least one byte;
* `index_next_eq_iff`: the count grows exactly if a value was read.
-/

import SharedWeights.Binary32.Blob
import SharedWeights.Frame.DecodeError

namespace SharedWeights

/-- A place in a frame: what is still to be read, and how many values were read. -/
structure Cursor where
  rest : Bytes
  index : Nat
deriving DecidableEq

/-! ### Looking at a value as what a field wants -/

namespace Value

/-- The error for a value of another kind. -/
def unexpected (field expected : String) (value : Value) : DecodeError :=
  .unexpectedType field expected value.kind

/-- The value as a text. -/
def asStr (field : String) : Value → Except DecodeError String
  | .str text => .ok text
  | value => .error (value.unexpected field "str")

/-- The value as a text, which may also come as a blob in UTF-8. -/
def asText (field : String) : Value → Except DecodeError String
  | .str text => .ok text
  | .bin blob => (Text.Utf8.decode blob).mapError fun fault => .invalidField field (.notText fault)
  | value => .error (value.unexpected field "str")

/-- The value as an integer. -/
def asInt (field : String) : Value → Except DecodeError Int64
  | .int number => .ok number
  | value => .error (value.unexpected field "int")

/-- The value as a blob. -/
def asBin (field : String) : Value → Except DecodeError Bytes
  | .bin blob => .ok blob
  | value => .error (value.unexpected field "bin")

/-- The value as a blob of binary32 numbers. -/
def asFloats (field : String) (value : Value) : Except DecodeError (List Binary32) :=
  (value.asBin field).bind fun blob =>
    match Binary32.ofBlob? blob with
    | some numbers => .ok numbers
    | none => .error (.invalidField field (.ragged blob.length))

end Value

/-! ### Moving over a frame -/

namespace Cursor

/-- The cursor in front of all the values of a frame. -/
def ofBytes (frame : Bytes) : Cursor := ⟨frame, 0⟩

/-- Whether every value was read. -/
def isEmpty (cursor : Cursor) : Bool := cursor.rest.isEmpty

/-- Reads the next value. A failure leaves the count alone, but not the bytes that it took. -/
def next (cursor : Cursor) : Except DecodeError Value × Cursor :=
  if cursor.rest = [] then (.error (.exhausted cursor.index), cursor)
  else
    match MessagePack.read cursor.rest with
    | (.ok value, rest) => (.ok value, ⟨rest, cursor.index + 1⟩)
    | (.error reason, rest) => (.error (.malformed cursor.index reason), ⟨rest, cursor.index⟩)

/-- Reads the next value and looks at it as what is wanted. -/
def pull {Wanted : Type} (look : Value → Except DecodeError Wanted) (cursor : Cursor) :
    Except DecodeError Wanted × Cursor :=
  (cursor.next.1.bind look, cursor.next.2)

/-- Makes sure that nothing is left. -/
def finish (cursor : Cursor) : Except DecodeError Unit :=
  if cursor.isEmpty then .ok () else .error (.trailingValues cursor.index)

theorem pull_moves_as_next {Wanted : Type} (look : Value → Except DecodeError Wanted)
    (cursor : Cursor) : (cursor.pull look).2 = cursor.next.2 := rfl

theorem next_of_empty {cursor : Cursor} (nothing : cursor.rest = []) :
    cursor.next = (.error (.exhausted cursor.index), cursor) :=
  if_pos nothing

theorem next_rest {cursor : Cursor} (something : cursor.rest ≠ []) :
    cursor.next.2.rest = (MessagePack.read cursor.rest).2 := by
  rw [next, if_neg something]
  split <;> simp_all

theorem length_next_rest_lt {cursor : Cursor} (something : cursor.rest ≠ []) :
    cursor.next.2.rest.length < cursor.rest.length :=
  next_rest something ▸ MessagePack.length_read_left_lt something

theorem index_next_eq_iff (cursor : Cursor) :
    cursor.next.2.index = cursor.index + 1 ↔ ∃ value, cursor.next.1 = .ok value := by
  unfold next
  split
  · simp
  · split <;> simp

end Cursor

/-! ### Schemas -/

/-- A way of reading the front of a frame as something, or of saying why that fails. -/
abbrev Schema := StateT Cursor (Except DecodeError)

namespace Schema

/-- One field, looked at as what is wanted. -/
def field {Wanted : Type} (look : Value → Except DecodeError Wanted) : Schema Wanted :=
  fun cursor =>
    match cursor.pull look with
    | (.ok wanted, moved) => .ok (wanted, moved)
    | (.error reason, _) => .error reason

/-- Makes sure that nothing is left. -/
def finish : Schema Unit := fun cursor =>
  match cursor.finish with
  | .ok () => .ok ((), cursor)
  | .error reason => .error reason

/-- Reads a whole frame. -/
def decode {Wanted : Type} (schema : Schema Wanted) (frame : Bytes) : Except DecodeError Wanted :=
  match schema (Cursor.ofBytes frame) with
  | .ok (wanted, _) => .ok wanted
  | .error reason => .error reason

end Schema

end SharedWeights
