/-
**Every reply can be received and understood.**

The server sends its replies without a look at their length, yet none is too long to be received.
Weights take less room than the gradient that they answer, which comes with two names and an epoch
where they come with a command; an acknowledgement is short, and what is refused is refused in few
words.

* `GradientFrame.length_encode_lt`: weights take less room than any frame of a gradient of as many
  numbers;
* `length_encode_step`: so no reply takes more room than its frame, or than 256 bytes;
* `receive_of_prefix`: what begins with a frame that is not too long is received as that frame;
* `replies_understood`: every reply comes back as it was meant.
-/

import SharedWeights.Proofs.Message.Wording
import SharedWeights.Proofs.Server.Dimension
import SharedWeights.Proofs.Transport.Signals

namespace SharedWeights

/-! ### Weights and the frames that they answer -/

theorem TextObject.lt_length {text : String} {object : Bytes} (isText : TextObject text object) :
    (Text.Utf8.encode text).length < object.length := by
  have field := MessagePack.fieldSize_pos (MessagePack.lengthWidth (Text.Utf8.encode text).length)
  rcases isText with isStr | isBin
  · have length := isStr.le_length
    omega
  · have length := isBin.lt_length
    omega

theorem NumbersObject.le_length {numbers : List Binary32} {object : Bytes}
    (isNumbers : NumbersObject numbers object) :
    MessagePack.fieldSize (MessagePack.lengthWidth (4 * numbers.length)) + 4 * numbers.length ≤
      object.length := by
  rw [← Binary32.length_toBlob]
  rcases isNumbers with isBin | ⟨isStr, -⟩
  · exact Nat.le_of_lt isBin.lt_length
  · exact isStr.le_length

namespace Request.GradientFrame

variable {report : GradientReport} {frame : Bytes}

/-- A gradient's frame is longer than its numbers by at least the field for their length, one byte
for the name, ten for the type and one for the epoch. -/
theorem lt_length (stands : GradientFrame report frame) :
    11 + MessagePack.fieldSize (MessagePack.lengthWidth (4 * report.gradient.length)) +
      4 * report.gradient.length < frame.length := by
  obtain ⟨worker, kind, epoch, gradient, rfl, isWorker, isKind, ⟨isEpoch, -⟩, isGradient⟩ := stands
  have workerLength := isWorker.lt_length
  have kindLength := isKind.lt_length
  have kindSize : (Text.Utf8.encode gradientsType).length = 9 := by decide
  have epochLength := isEpoch.length_pos
  have gradientLength := isGradient.le_length
  simp only [List.length_append]
  omega

/-- **Weights take less room than the gradient that they answer.** -/
theorem length_encode_lt (stands : GradientFrame report frame) (command : Command)
    {numbers : List Binary32} (same : numbers.length = report.gradient.length) :
    (Response.weights command numbers).encode.length < frame.length := by
  have room := stands.lt_length
  have weights := Response.length_encode_weights command numbers
  rw [same] at weights
  omega

end Request.GradientFrame

namespace Store

/-! ### Replies to single frames -/

theorem weights_of_step {store updated : Store} {frame : Bytes} {command : Command}
    {numbers : List Binary32} (step : store.Step frame (.weights command numbers) updated) :
    (Response.weights command numbers).encode.length < frame.length ∧
      numbers = updated.weights := by
  cases step with
  | @updated report updated read applied =>
    obtain ⟨-, fits, rfl⟩ := apply_eq_ok_iff.1 applied
    have stands : Request.GradientFrame report frame := Request.stands_of_decode read
    exact ⟨stands.length_encode_lt _ (length_sums fits), rfl⟩

theorem size_refusal_le {store : Store} {gradient : List Binary32} {reason : StoreError}
    (refused : store.apply gradient = .error reason) (narrow : store.dimension ≤ Frame.maxLength)
    (few : gradient.length ≤ Frame.maxLength) :
    (ServerError.store reason).message.utf8ByteSize ≤ 167 := by
  rw [apply_eq] at refused
  split at refused
  · cases refused
    decide
  · split at refused
    · cases refused
    · cases refused
      exact ServerError.size_mismatch_le narrow few

/-- **No reply takes more room than its frame, or than 256 bytes.** -/
theorem length_encode_step {store updated : Store} {frame : Bytes} {response : Response}
    (step : store.Step frame response updated) (narrow : store.dimension ≤ Frame.maxLength)
    (allowed : frame.length ≤ Frame.maxLength) :
    response.encode.length ≤ max frame.length 256 := by
  cases step with
  | @unreadable reason unreadable =>
    have words := ServerError.size_decode_le
      ((Request.arises_of_decode unreadable).size_message_le allowed)
    have room := Response.length_encode_refused_le (ServerError.decode reason).message
    omega
  | acknowledged => exact Nat.le_trans (by decide) (Nat.le_max_right _ 256)
  | @refused report reason read refused =>
    have stands : Request.GradientFrame report frame := Request.stands_of_decode read
    have long := stands.lt_length
    have words := size_refusal_le refused narrow (by omega)
    have room := Response.length_encode_refused_le (ServerError.store reason).message
    omega
  | updated read applied =>
    have shorter := (weights_of_step (.updated read applied)).1
    omega

/-! ### Runs -/

/-- A store is no wider than the frames that it was filled from are long. -/
theorem narrow_step {store updated : Store} {frame : Bytes} {response : Response}
    (allowed : frame.length ≤ Frame.maxLength) (step : store.Step frame response updated)
    (narrow : store.dimension ≤ Frame.maxLength) : updated.dimension ≤ Frame.maxLength := by
  cases step with
  | unreadable | acknowledged | refused => exact narrow
  | @updated report updated read applied =>
    obtain ⟨-, fits, rfl⟩ := apply_eq_ok_iff.1 applied
    have stands : Request.GradientFrame report frame := Request.stands_of_decode read
    have long := stands.lt_length
    show (store.sums report.gradient).length ≤ _
    rw [length_sums fits]
    omega

theorem narrow_after (settings : Settings) {frames : List Bytes}
    (allowed : ∀ frame ∈ frames, frame.length ≤ Frame.maxLength) :
    (settings.store.after frames).dimension ≤ Frame.maxLength :=
  @kept_after (fun store => store.dimension ≤ Frame.maxLength) frames
    (fun frame member {_ _ _} step narrow => narrow_step (allowed frame member) step narrow)
    settings.store (Nat.zero_le _)

end Store

/-- **What begins with a frame is received as that frame**, in whatever pieces it comes. -/
theorem Source.receive_of_prefix {frame : Bytes} (allowed : frame.length ≤ Frame.maxLength)
    {pieces : List Bytes} (nonempty : ∀ piece ∈ pieces, piece ≠ [])
    (arrived : Frame.framed frame <+: pieces.flatten) :
    (receive (pieces.map .piece)).1 = .ok frame := by
  obtain ⟨later, same⟩ := arrived
  have read := receive_signals (pieces.map .piece)
  rw [signals_pieces nonempty, ← same, List.map_append, Signal.receive_framed allowed] at read
  exact congrArg Prod.fst read

/-- **Every reply can be received and understood.** If no frame is too long to be received, a reply
takes no more room than the frame that it answers, or than 256 bytes, and weights take less; so it is
received itself, in whatever pieces it comes, and reads as the response that was meant, with the
weights as they then are in the store. -/
theorem replies_understood (settings : Settings) {frames : List Bytes} {frame : Bytes}
    (earlier : ∀ other ∈ frames, other.length ≤ Frame.maxLength)
    (allowed : frame.length ≤ Frame.maxLength) :
    let answer := (settings.store.after frames).handle frame
    let reply := answer.response.encode
    reply.length ≤ max frame.length 256 ∧ reply.length ≤ Frame.maxLength ∧
    (∀ command numbers, answer.response = .weights command numbers →
      reply.length < frame.length ∧ numbers = answer.store.weights) ∧
    (∀ pieces : List Bytes, (∀ piece ∈ pieces, piece ≠ []) →
      Frame.framed reply <+: pieces.flatten →
        (Source.receive (pieces.map .piece)).1 = .ok reply) ∧
    Response.decode reply = .ok answer.response := by
  intro answer reply
  have step := Store.step_handle (settings.store.after frames) frame
  have room : reply.length ≤ max frame.length 256 :=
    Store.length_encode_step step (Store.narrow_after settings earlier) allowed
  have short : reply.length ≤ Frame.maxLength :=
    Nat.le_trans room (Nat.max_le.2 ⟨allowed, by decide⟩)
  refine ⟨room, short, fun command numbers answered => ?_, fun pieces nonempty arrived => ?_,
    Response.decode_encode_of_le short⟩
  · have given : (settings.store.after frames).Step frame (.weights command numbers) answer.store :=
      answered ▸ step
    have known := Store.weights_of_step given
    rwa [← answered] at known
  · exact Source.receive_of_prefix short nonempty arrived

/-- A gradient of the number one in 18 bytes, after a frame that is no request. It is answered with
1.01. -/
theorem replies_understood_of_one :
    let frames : List Bytes := [[0xc1]]
    let frame : Bytes := [0xa1, 0x77, 0xa9, 0x47, 0x52, 0x41, 0x44, 0x49, 0x45, 0x4e, 0x54, 0x53, 3,
      0xa4, 0, 0, 0x80, 0x3f]
    let answer := (Settings.standard.store.after frames).handle frame
    (∀ other ∈ frames, other.length ≤ Frame.maxLength) ∧ frame.length ≤ Frame.maxLength ∧
      answer.response = .weights .goOn [⟨0x3f8147ae⟩] ∧
      answer.response.encode.length < frame.length ∧
      Response.decode answer.response.encode = .ok answer.response := by
  intro frames frame answer
  have earlier : ∀ other ∈ frames, other.length ≤ Frame.maxLength := by decide
  have allowed : frame.length ≤ Frame.maxLength := by decide
  have answered : answer.response = .weights .goOn [⟨0x3f8147ae⟩] := by decide
  obtain ⟨-, -, weights, -, read⟩ := replies_understood .standard earlier allowed
  exact ⟨earlier, allowed, answered, (weights .goOn _ answered).1, read⟩

end SharedWeights
