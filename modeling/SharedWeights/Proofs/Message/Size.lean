/-
**How long messages are.**

An object is longer than its body, by at most five bytes. So a frame that may be sent holds only
values that can be written, and the reply to a gradient is no longer than the gradient's own frame,
which names a worker and a type where the reply only names a command.

* `Text.size_append_le`, `Text.size_toString_le`: how many bytes words and numbers take;
* `Frame.writable_of_le`: what stands in a short frame can be written;
* `Request.decode_encode_of_typed`: a typed request in a frame that may be sent reads back;
* `Response.decode_encode_of_le`: so does a response;
* `Response.length_encode_weights_le`: weights take no longer a frame than a gradient of as many
  numbers;
* `Response.length_encode_refused_le`: the frame of a refusal is bounded by its words.
-/

import SharedWeights.Proofs.Message.Rereading
import SharedWeights.Transport.Framing

namespace SharedWeights

theorem Text.Utf8.length_encode_le (text : String) : (encode text).length ≤ 4 * text.length := by
  have characters (letters : List Char) :
      (letters.flatMap String.utf8EncodeChar).length ≤ 4 * letters.length := by
    induction letters with
    | nil => exact Nat.le_refl 0
    | cons letter later ih =>
      have single := letter.utf8Size_le_four
      rw [List.flatMap_cons, List.length_append, String.length_utf8EncodeChar, List.length_cons]
      omega
  have spelled : encode text = text.toList.flatMap String.utf8EncodeChar := by
    rw [encode, ← String.utf8Encode_toList, List.utf8Encode, List.data_toByteArray]
  rw [spelled, ← String.length_toList]
  exact characters text.toList

theorem Text.size_append_le {front back : String} {first second : Nat}
    (head : front.utf8ByteSize ≤ first) (tail : back.utf8ByteSize ≤ second) :
    (front ++ back).utf8ByteSize ≤ first + second :=
  String.utf8ByteSize_append ▸ Nat.add_le_add head tail

/-- A number has no more digits than a larger one, and a digit takes at most four bytes. -/
theorem Text.size_toString_le {number bound digits : Nat} (small : number ≤ bound)
    (count : (toString bound).length = digits) : (toString number).utf8ByteSize ≤ 4 * digits := by
  have range (value : Nat) := @Nat.length_repr_le_iff value bound.repr.length Nat.length_repr_pos
  have letters : (toString number).length ≤ digits :=
    count ▸ (range number).2 (Nat.lt_of_le_of_lt small ((range bound).1 (Nat.le_refl _)))
  have bytes : (toString number).utf8ByteSize ≤ 4 * (toString number).length :=
    Utf8.length_encode_le (toString number)
  exact Nat.le_trans bytes (Nat.mul_le_mul_left 4 letters)

/-- A length that is allowed for a frame has ten digits at most. -/
theorem Text.size_length_le {length : Nat} (allowed : length ≤ Frame.maxLength) :
    (toString length).utf8ByteSize ≤ 40 :=
  size_toString_le allowed (by decide : (toString Frame.maxLength).length = 10)

/-! ### Objects -/

namespace MessagePack

theorem length_ofText (body : Bytes) :
    body.length < (ofText body).length ∧ (ofText body).length ≤ body.length + 5 := by
  have field := fieldSize_le_four (lengthWidth body.length)
  unfold ofText
  split
  · rw [List.length_cons]
    omega
  · rw [List.length_append, List.length_cons, Bytes.length_bigEndian]
    omega

theorem length_ofBlob (body : Bytes) :
    (ofBlob body).length = fieldSize (lengthWidth body.length) + 1 + body.length := by
  rw [ofBlob, List.length_append, List.length_cons, Bytes.length_bigEndian]

theorem length_write_bin (numbers : List Binary32) :
    (write (.bin (Binary32.toBlob numbers))).length =
      fieldSize (lengthWidth (4 * numbers.length)) + 1 + 4 * numbers.length := by
  rw [write, length_ofBlob, Binary32.length_toBlob]

/-- A value can be written if its object is not too long. -/
theorem encodable_of_length_write_lt {value : Value} (short : (write value).length < 0x100000000) :
    value.Encodable := by
  cases value with
  | str text => exact Nat.lt_trans (length_ofText _).1 short
  | bin blob =>
    have length := length_ofBlob blob
    rw [write, length] at short
    show blob.length < _
    omega
  | nil | bool | int | float32 | float64 => exact trivial

end MessagePack

theorem Frame.length_write_le_encode {value : Value} {values : List Value}
    (member : value ∈ values) : (MessagePack.write value).length ≤ (encode values).length := by
  obtain ⟨front, back, rfl⟩ := List.append_of_mem member
  rw [encode_append, encode_cons, List.length_append, List.length_append]
  omega

/-- What stands in a short frame can be written. -/
theorem Frame.writable_of_le {values : List Value} (short : (encode values).length ≤ maxLength) :
    Writable values := by
  intro value member
  have within := length_write_le_encode member
  have limit : maxLength < 0x100000000 := by decide
  exact MessagePack.encodable_of_length_write_lt (by omega)

/-! ### Requests -/

namespace Request

/-- **A typed request reads back** from a frame that may be sent. -/
theorem decode_encode_of_typed {request : Request} (typed : request.Typed)
    (allowed : request.encode.length ≤ Frame.maxLength) :
    decode (encode request) = .ok request := by
  rw [decode_encode_eq (Frame.writable_of_le allowed), reread_of_typed typed]

end Request

/-! ### Responses -/

namespace Response

theorem decode_encode_of_le {response : Response}
    (short : response.encode.length ≤ Frame.maxLength) :
    decode (encode response) = .ok response := by
  cases response with
  | acknowledged => rfl
  | weights | refused => exact decode_encode_response (Frame.writable_of_le short)

theorem length_encode_weights (command : Command) (numbers : List Binary32) :
    (encode (.weights command numbers)).length ≤
      10 + MessagePack.fieldSize (MessagePack.lengthWidth (4 * numbers.length)) +
        4 * numbers.length := by
  have name : (MessagePack.write (.str command.name)).length ≤ 9 := by
    cases command <;> decide
  simp only [encode, values, Frame.encode_cons, Frame.encode_nil, List.length_append,
    List.length_nil, MessagePack.length_write_bin]
  omega

/-- **Weights take no longer a frame than a gradient** of as many numbers. -/
theorem length_encode_weights_le (command : Command) {numbers : List Binary32}
    {report : GradientReport} (same : numbers.length = report.gradient.length) :
    (encode (.weights command numbers)).length ≤ (Request.encode (.gradients report)).length := by
  have weights := length_encode_weights command numbers
  have kind : (MessagePack.write (.str Request.gradientsType)).length = 10 := by decide
  rw [same] at weights
  simp only [Request.encode, Request.values, Frame.encode_cons, Frame.encode_nil,
    List.length_append, List.length_nil, MessagePack.length_write_bin]
  omega

theorem length_encode_refused_le (detail : String) :
    (encode (.refused detail)).length ≤ 11 + detail.utf8ByteSize := by
  have mark : (MessagePack.write (.str errorName)).length = 6 := by decide
  have words : (MessagePack.write (.str detail)).length ≤ detail.utf8ByteSize + 5 :=
    (MessagePack.length_ofText (Text.Utf8.encode detail)).2
  simp only [encode, values, Frame.encode_cons, Frame.encode_nil, List.length_append,
    List.length_nil]
  omega

end Response

end SharedWeights
