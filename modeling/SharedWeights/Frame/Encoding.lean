/-
**Frames as bytes.**

A frame is the objects of its values one behind the other, without anything around them.

* `encode_append`: joined lists of values give joined frames;
* `toList_encodeOnto`: writing onto a buffer leaves what is in it and adds the frame.
-/

import SharedWeights.MessagePack.Writer

namespace SharedWeights.Frame

/-- The frame of a list of values. -/
def encode (values : List Value) : Bytes :=
  values.flatMap MessagePack.write

/-- Writes the values onto the end of a buffer. -/
def encodeOnto (buffer : Array UInt8) (values : List Value) : Array UInt8 :=
  values.foldl (fun buffer value => buffer ++ MessagePack.write value) buffer

@[simp] theorem encode_nil : encode [] = [] := rfl

@[simp] theorem encode_cons (value : Value) (values : List Value) :
    encode (value :: values) = MessagePack.write value ++ encode values := by
  simp [encode]

theorem encode_append (front back : List Value) :
    encode (front ++ back) = encode front ++ encode back :=
  List.flatMap_append

theorem toList_encodeOnto (buffer : Array UInt8) (values : List Value) :
    (encodeOnto buffer values).toList = buffer.toList ++ encode values := by
  induction values generalizing buffer with
  | nil => simp [encodeOnto]
  | cons value values ih =>
    rw [encodeOnto, List.foldl_cons, ← encodeOnto, ih]
    simp

end SharedWeights.Frame
