/-
**What is written again reads as before.**

A message reads in many spellings and is written in one. Nothing of it is lost by that: what is
written for a request or a response reads back as the same. Only two requests change on the way, one
that names an epoch too late to be stated and one that passes for a gradient without being one, and
neither is ever read from a frame.

* `Request.decode_encode_eq`: how a request reads that was written;
* `Request.reread_of_typed`: as itself, if its epoch can be stated and it passes for no other;
* `Request.writable_of_stands`, `Request.typed_of_stands`: so it is with whatever was read;
* `Request.rewritten_reads_back`: all of this together;
* `Response.refused_of_mark`: behind the mark of a refusal only a refusal is read;
* `Response.unambiguous`: responses read back, so no two of them are written alike.
-/

import SharedWeights.Proofs.Message.Grammar

namespace SharedWeights

/-! ### Lengths of what was read -/

theorem TextObject.encodable {text : String} {object : Bytes} (isText : TextObject text object) :
    (Value.str text).Encodable := by
  rcases isText with isStr | isBin
  · exact isStr.body_lt
  · exact isBin.body_lt

theorem NumbersObject.encodable {numbers : List Binary32} {object : Bytes}
    (isNumbers : NumbersObject numbers object) :
    (Value.bin (Binary32.toBlob numbers)).Encodable := by
  rcases isNumbers with isBin | ⟨isStr, -⟩
  · exact isBin.body_lt
  · exact isStr.body_lt

/-! ### Requests -/

namespace Request

/-- A request as a worker states it: its epoch can be stated, and no other message passes for a
gradient. -/
def Typed : Request → Prop
  | .gradients report => report.epoch.toNat < 0x8000000000000000
  | .other _ messageType => messageType ≠ gradientsType

/-- How a request reads that was written. An epoch that an integer can't state comes back as the
last one that it can. A message that passes for a gradient ends where its epoch should stand. -/
def reread : Request → Except DecodeError Request
  | .gradients report =>
    .ok (.gradients { report with epoch := min report.epoch 0x7fffffffffffffff })
  | .other workerId messageType =>
    if messageType = gradientsType then .error (.exhausted 2) else .ok (.other workerId messageType)

theorem writable_gradients_iff {report : GradientReport} :
    Frame.Writable (Request.gradients report).values ↔
      (Value.str report.workerId).Encodable ∧
        (Value.bin (Binary32.toBlob report.gradient)).Encodable := by
  have kind : (Value.str gradientsType).Encodable := by decide
  have epoch : (Value.int (wireEpoch report.epoch)).Encodable := trivial
  simp [Frame.Writable, values, kind, epoch]

theorem writable_other_iff {workerId messageType : String} :
    Frame.Writable (Request.other workerId messageType).values ↔
      (Value.str workerId).Encodable ∧ (Value.str messageType).Encodable := by
  simp [Frame.Writable, values]

theorem decode_encode_of_gradientsType {workerId : String}
    (shortName : (Value.str workerId).Encodable) :
    decode (encode (.other workerId gradientsType)) = .error (.exhausted 2) := by
  have isWorker : (Value.str workerId).asText "worker_id" = .ok workerId := rfl
  have isKind : (Value.str gradientsType).asText "msgtype" = .ok gradientsType := rfl
  rw [← List.append_nil (encode _), encode_other_append, decode, Schema.decode, Cursor.ofBytes,
    schema, Schema.field_bind (MessagePack.spells_write shortName) isWorker,
    Schema.field_bind spells_gradientsType isKind, if_pos rfl, Schema.field_bind_of_empty]

/-- **How a request reads that was written.** -/
theorem decode_encode_eq {request : Request} (writable : Frame.Writable request.values) :
    decode (encode request) = request.reread := by
  cases request with
  | gradients report =>
    obtain ⟨shortName, shortBlob⟩ := writable_gradients_iff.1 writable
    rw [decode_encode_gradients shortName shortBlob, statedEpoch_eq_min, reread]
  | other workerId messageType =>
    obtain ⟨shortName, shortKind⟩ := writable_other_iff.1 writable
    by_cases passes : messageType = gradientsType
    · rw [reread, if_pos passes, passes, decode_encode_of_gradientsType shortName]
    · have read := decode_encode_other shortName shortKind passes []
      rw [List.append_nil] at read
      rw [reread, if_neg passes, read]

theorem reread_of_typed {request : Request} (typed : request.Typed) :
    request.reread = .ok request := by
  cases request with
  | gradients report =>
    have stated : statedEpoch report.epoch = report.epoch := statedEpoch_of_lt typed
    rw [reread, ← statedEpoch_eq_min, stated]
  | other workerId messageType => exact if_neg typed

/-! ### Requests that were read -/

theorem typed_of_stands {request : Request} {frame : Bytes} (stands : request.Stands frame) :
    request.Typed := by
  cases request with
  | gradients report =>
    obtain ⟨-, -, -, -, -, -, -, ⟨-, early⟩, -⟩ := stands
    exact early
  | other workerId messageType =>
    obtain ⟨-, -, -, -, -, -, differs⟩ := stands
    exact differs

/-- No header announces more than can be written. -/
theorem writable_of_stands {request : Request} {frame : Bytes} (stands : request.Stands frame) :
    Frame.Writable request.values := by
  cases request with
  | gradients report =>
    obtain ⟨worker, kind, epoch, gradient, -, isWorker, -, -, isGradient⟩ := stands
    exact writable_gradients_iff.2 ⟨isWorker.encodable, isGradient.encodable⟩
  | other workerId messageType =>
    obtain ⟨worker, kind, rest, -, isWorker, isKind, -⟩ := stands
    exact writable_other_iff.2 ⟨isWorker.encodable, isKind.encodable⟩

/-- **What is written again reads as before.** Writing a request leaves what is in the buffer, and
what it adds reads as the request, but for an epoch too late to be stated; a message that passes for
a gradient is not read. Whatever was read from a frame, in any spelling, reads as the same again
when it is written. -/
theorem rewritten_reads_back :
    (∀ request : Request, Frame.Writable request.values → ∀ buffer : Array UInt8,
      (encodeOnto buffer request).toList = buffer.toList ++ encode request ∧
        decode (encode request) = request.reread) ∧
    ∀ (frame : Bytes) (request : Request), decode frame = .ok request →
      decode (encode request) = .ok request := by
  refine ⟨fun request writable buffer => ?_, fun frame request read => ?_⟩
  · exact ⟨toList_encodeOnto buffer request, decode_encode_eq writable⟩
  · have stands : request.Stands frame := stands_of_decode read
    rw [decode_encode_eq (writable_of_stands stands), reread_of_typed (typed_of_stands stands)]

set_option maxRecDepth 2000 in
/-- The last epoch of all, a message that passes for a gradient, and a gradient whose fields are
spelled as no request is written. -/
theorem rewritten_reads_back_edges :
    let late : GradientReport := ⟨"wé", 0xffffffffffffffff, [⟨0x7fa00001⟩, ⟨0x80000000⟩]⟩
    let posing : Request := .other "w" "GRADIENTS"
    let frame : Bytes := [0xc4, 1, 0x77, 0xd9, 9, 0x47, 0x52, 0x41, 0x44, 0x49, 0x45, 0x4e, 0x54,
      0x53, 0xd1, 0, 5, 0xa4, 0, 0, 0x80, 0xff]
    let report : GradientReport := ⟨"w", 5, [⟨0xff800000⟩]⟩
    (Frame.Writable (Request.gradients late).values ∧
      decode (encode (.gradients late)) =
        .ok (.gradients { late with epoch := 0x7fffffffffffffff })) ∧
    (Frame.Writable posing.values ∧ decode (encode posing) = .error (.exhausted 2)) ∧
    decode frame = .ok (.gradients report) ∧ encode (.gradients report) ≠ frame ∧
      decode (encode (.gradients report)) = .ok (.gradients report) := by
  intro late posing frame report
  have lateWritable : Frame.Writable (Request.gradients late).values := by decide
  have posingWritable : Frame.Writable posing.values := by decide
  have read : decode frame = .ok (.gradients report) := rfl
  exact ⟨⟨lateWritable, (rewritten_reads_back.1 _ lateWritable #[]).2⟩,
    ⟨posingWritable, (rewritten_reads_back.1 _ posingWritable #[]).2⟩,
    read, by decide, rewritten_reads_back.2 frame _ read⟩

end Request

/-! ### Responses -/

namespace Response

/-- **Behind the mark of a refusal only a refusal is read**, whatever its words are. -/
theorem refused_of_mark {head rest : Bytes} {response : Response}
    (marked : MessagePack.Spells (.str errorName) head)
    (read : decode (head ++ rest) = .ok response) : ∃ detail, response = .refused detail := by
  have isName : (Value.str errorName).asStr "command" = .ok errorName := rfl
  rw [decode, if_neg (ne_acknowledgement marked rest)] at read
  obtain ⟨left, read⟩ := Schema.decode_eq_ok_iff.1 read
  rw [schema, Schema.field_bind marked isName, if_pos rfl] at read
  obtain ⟨detail, object, rest, rfl, -, read⟩ := Schema.field_bind_ok_iff.1 read
  obtain ⟨rfl, read⟩ := Schema.finish_bind_ok_iff.1 read
  cases read
  exact ⟨detail, rfl⟩

theorem encode_eq_acknowledgement_iff {response : Response} :
    encode response = acknowledgement ↔ response = .acknowledged := by
  constructor
  · intro same
    cases response with
    | acknowledged => rfl
    | weights command numbers =>
      rw [encode_weights] at same
      exact absurd same (ne_acknowledgement (spells_name command) _)
    | refused detail =>
      rw [encode_refused] at same
      exact absurd same (ne_acknowledgement spells_errorName _)
  · rintro rfl
    rfl

/-- **Responses are told apart.** Writing a response leaves what is in the buffer, and what it adds
reads as the response, bit for bit. So different responses are written differently; and however long
they are, none but an acknowledgement is written as one, and no words of a refusal are read as a
command. -/
theorem unambiguous :
    (∀ response : Response, Frame.Writable response.values → ∀ buffer : Array UInt8,
      (encodeOnto buffer response).toList = buffer.toList ++ encode response ∧
        decode (encode response) = .ok response) ∧
    (∀ first second : Response, Frame.Writable first.values → Frame.Writable second.values →
      encode first = encode second → first = second) ∧
    (∀ response : Response, encode response = acknowledgement ↔ response = .acknowledged) ∧
    ∀ (detail : String) (command : Command) (numbers : List Binary32),
      decode (encode (.refused detail)) ≠ .ok (.weights command numbers) := by
  refine ⟨fun response writable buffer => ?_, ?_, fun response => encode_eq_acknowledgement_iff,
    fun detail command numbers read => ?_⟩
  · exact ⟨toList_encodeOnto buffer response, decode_encode_response writable⟩
  · intro first second firstWritable secondWritable same
    have read := decode_encode_response firstWritable
    rw [same, decode_encode_response secondWritable] at read
    exact (Except.ok.inj read).symm
  · rw [encode_refused] at read
    obtain ⟨other, same⟩ := refused_of_mark spells_errorName read
    cases same

/-- A refusal in the word of a command, and the command with weights that are no numbers. -/
theorem unambiguous_stop :
    let told : Response := .refused "STOP"
    let stop : Response := .weights .stop [⟨0x7fc00000⟩, ⟨0xffa00001⟩]
    Frame.Writable told.values ∧ Frame.Writable stop.values ∧
      decode (encode told) = .ok told ∧ decode (encode stop) = .ok stop ∧
      encode told ≠ encode stop := by
  intro told stop
  have toldWritable : Frame.Writable told.values := by decide
  have stopWritable : Frame.Writable stop.values := by decide
  refine ⟨toldWritable, stopWritable, (unambiguous.1 told toldWritable #[]).2,
    (unambiguous.1 stop stopWritable #[]).2, fun same => ?_⟩
  exact absurd (unambiguous.2.1 told stop toldWritable stopWritable same) (by decide)

end Response

end SharedWeights
