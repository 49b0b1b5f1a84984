/-
**Where a message ends.**

Nothing around a message says how long it is, and yet no part of a message passes for a whole one.
The values of a message are objects of which none is the beginning of another
(`MessagePack.Spells.append_inj`), so what reads as a message reads up to its own end, whatever
follows, and then either ignores the rest or fails because of it:

* `Request.decode_append_of_other`: behind a message that is no gradient, the rest is ignored;
* `Request.decode_append_of_gradients`, `Response.decode_append`: behind any other, nothing may
  follow;
* `Request.unreadable_of_cut`, `Response.unreadable_of_cut`: so a message that was cut can't be read;
* `messages_delimited`: all of this for the messages that are written.

That a cut message can't be read is shown backwards: if it read as something, then the whole
message, which is a continuation of it, would have to read as the same or to fail.
-/

import SharedWeights.Proofs.Message.Rereading

namespace SharedWeights

open MessagePack (Spells)

theorem exists_back_of_proper {front whole : Bytes} (cut : front <+: whole)
    (proper : front ≠ whole) : ∃ back, back ≠ [] ∧ front ++ back = whole := by
  obtain ⟨back, same⟩ := cut
  refine ⟨back, ?_, same⟩
  rintro rfl
  exact proper (List.append_nil front ▸ same)

/-! ### Requests -/

namespace Request

variable {frame tail : Bytes}

/-- **Nothing may follow a gradient.** -/
theorem decode_append_of_gradients {report : GradientReport}
    (read : decode frame = .ok (.gradients report)) (more : tail ≠ []) :
    decode (frame ++ tail) = .error (.trailingValues 4) := by
  have stands : GradientFrame report frame := stands_of_decode read
  obtain ⟨worker, kind, epoch, gradient, rfl, isWorker, isKind, isEpoch, isGradient⟩ := stands
  obtain ⟨_, workerSpelled, workerLook⟩ := takes_asText_iff.2 isWorker
  obtain ⟨_, kindSpelled, kindLook⟩ := takes_asText_iff.2 isKind
  obtain ⟨_, epochSpelled, epochLook⟩ := takes_epoch_iff.2 isEpoch
  obtain ⟨_, gradientSpelled, gradientLook⟩ := takes_asFloats_iff.2 isGradient
  simp only [List.append_assoc]
  rw [decode, Schema.decode, Cursor.ofBytes, schema_gradients workerSpelled kindSpelled
    epochSpelled gradientSpelled workerLook kindLook epochLook gradientLook,
    Schema.finish_bind_of_more more]

/-- **What follows any other message is ignored.** -/
theorem decode_append_of_other {workerId messageType : String}
    (read : decode frame = .ok (.other workerId messageType)) (tail : Bytes) :
    decode (frame ++ tail) = .ok (.other workerId messageType) := by
  have stands : OtherFrame workerId messageType frame := stands_of_decode read
  obtain ⟨worker, kind, rest, rfl, isWorker, isKind, differs⟩ := stands
  have extended : (Request.other workerId messageType).Stands (worker ++ kind ++ rest ++ tail) :=
    ⟨worker, kind, rest ++ tail, by simp, isWorker, isKind, differs⟩
  exact decode_of_stands extended

/-- The two values of a message that is no gradient are the whole frame that is written for it. -/
theorem eq_nil_of_other_append {workerId messageType : String}
    (writable : Frame.Writable (Request.other workerId messageType).values)
    (read : decode frame = .ok (.other workerId messageType))
    (whole : frame ++ tail = encode (.other workerId messageType)) : tail = [] := by
  obtain ⟨shortName, shortKind⟩ := writable_other_iff.1 writable
  have stands : OtherFrame workerId messageType frame := stands_of_decode read
  obtain ⟨worker, kind, rest, rfl, isWorker, isKind, -⟩ := stands
  have takesWorker : Schema.Takes (Value.asText "worker_id") workerId worker :=
    takes_asText_iff.2 isWorker
  have takesKind : Schema.Takes (Value.asText "msgtype") messageType kind :=
    takes_asText_iff.2 isKind
  obtain ⟨_, workerSpelled, -⟩ := takesWorker
  obtain ⟨_, kindSpelled, -⟩ := takesKind
  rw [← List.append_nil (encode _), encode_other_append] at whole
  simp only [List.append_assoc] at whole
  obtain ⟨-, -, behind⟩ := workerSpelled.append_inj (MessagePack.spells_write shortName) whole
  obtain ⟨-, -, nothing⟩ := kindSpelled.append_inj (MessagePack.spells_write shortKind) behind
  exact (List.append_eq_nil_iff.1 nothing).2

/-- **A request that was cut can't be read.** -/
theorem unreadable_of_cut {request : Request} (writable : Frame.Writable request.values)
    (honest : ∀ workerId, request ≠ .other workerId gradientsType)
    (cut : frame <+: encode request) (proper : frame ≠ encode request) :
    ∃ reason, decode frame = .error reason := by
  obtain ⟨back, more, whole⟩ := exists_back_of_proper cut proper
  have readBack : decode (frame ++ back) = request.reread := whole ▸ decode_encode_eq writable
  cases read : decode frame with
  | error reason => exact ⟨reason, rfl⟩
  | ok found =>
    exfalso
    cases found with
    | gradients report =>
      rw [decode_append_of_gradients read more] at readBack
      cases request with
      | gradients other => cases readBack
      | other workerId messageType =>
        have differs : messageType ≠ gradientsType := fun same => honest workerId (same ▸ rfl)
        rw [reread, if_neg differs] at readBack
        cases readBack
    | other workerId messageType =>
      rw [decode_append_of_other read] at readBack
      cases request with
      | gradients other => cases readBack
      | other otherId otherType =>
        have differs : otherType ≠ gradientsType := fun same => honest otherId (same ▸ rfl)
        rw [reread, if_neg differs] at readBack
        cases readBack
        exact more (eq_nil_of_other_append writable read whole)

end Request

/-! ### Responses -/

namespace Response

variable {frame tail : Bytes}

theorem spells_acknowledgement_head : Spells (.int 0x41) [0x41] :=
  MessagePack.Spells.positive 0x41

/-- **Nothing may follow a response** in a frame. -/
theorem decode_append {response : Response} (read : decode frame = .ok response)
    (framed : response ≠ .acknowledged) (more : tail ≠ []) :
    decode (frame ++ tail) = .error (.trailingValues 2) := by
  cases stands_of_decode read with
  | acknowledged => exact absurd rfl framed
  | @weights command numbers head blob headSpelled blobSpelled =>
    rw [List.append_assoc, decode, if_neg (ne_acknowledgement headSpelled _), Schema.decode,
      Cursor.ofBytes, schema_weights headSpelled blobSpelled (Command.ofName?_name command)
      (Value.asFloats_eq_ok_iff.2 rfl), Schema.finish_bind_of_more more]
  | @refused detail head body headSpelled bodySpelled =>
    rw [List.append_assoc, decode, if_neg (ne_acknowledgement headSpelled _), Schema.decode,
      Cursor.ofBytes, schema_refused headSpelled bodySpelled, Schema.finish_bind_of_more more]

/-- Nor may anything follow an acknowledgement, which then reads as a number in place of a
command. -/
theorem decode_acknowledgement_append (more : tail ≠ []) :
    decode (acknowledgement ++ tail) = .error (.unexpectedType "command" "str" "int") := by
  have longer : acknowledgement ++ tail ≠ acknowledgement := by
    intro same
    exact more (List.append_right_eq_self.1 same)
  have cut : acknowledgement ++ tail = [0x41] ++ ([0x43, 0x4b] ++ tail) := rfl
  have refused : (Value.int 0x41).asStr "command" =
      .error (.unexpectedType "command" "str" "int") := rfl
  rw [decode, if_neg longer, Schema.decode, Cursor.ofBytes, schema, cut,
    Schema.field_bind_of_refused spells_acknowledgement_head refused]

/-- **A response that was cut can't be read.** -/
theorem unreadable_of_cut {response : Response} (writable : Frame.Writable response.values)
    (cut : frame <+: encode response) (proper : frame ≠ encode response) :
    ∃ reason, decode frame = .error reason := by
  obtain ⟨back, more, whole⟩ := exists_back_of_proper cut proper
  have readBack : decode (frame ++ back) = .ok response :=
    whole ▸ decode_encode_response writable
  cases read : decode frame with
  | error reason => exact ⟨reason, rfl⟩
  | ok found =>
    exfalso
    by_cases plain : found = .acknowledged
    · subst plain
      cases stands_of_decode read
      rw [decode_acknowledgement_append more] at readBack
      cases readBack
    · rw [decode_append read plain more] at readBack
      cases readBack

end Response

/-! ### Messages -/

/-- **Messages end where they were written to end.** Of what is written for a message, a request or
a response, no part in front that is not all of it can be read, unless the message passes for a
gradient without being one. And with anything behind it, what is written for a gradient, for weights
or for a refusal is read up to its last value and then fails for what follows; an acknowledgement is
none any more; and any other message reads as before. -/
theorem messages_delimited :
    (∀ request : Request, Frame.Writable request.values →
      (∀ workerId, request ≠ .other workerId Request.gradientsType) →
      ∀ front, front <+: request.encode → front ≠ request.encode →
        ∃ reason, Request.decode front = .error reason) ∧
    (∀ response : Response, Frame.Writable response.values →
      ∀ front, front <+: response.encode → front ≠ response.encode →
        ∃ reason, Response.decode front = .error reason) ∧
    ∀ tail : Bytes, tail ≠ [] →
      (∀ report, Frame.Writable (Request.gradients report).values →
        Request.decode ((Request.gradients report).encode ++ tail) =
          .error (.trailingValues 4)) ∧
      (∀ response : Response, Frame.Writable response.values → response ≠ .acknowledged →
        Response.decode (response.encode ++ tail) = .error (.trailingValues 2)) ∧
      Response.decode (Response.acknowledged.encode ++ tail) =
        .error (.unexpectedType "command" "str" "int") ∧
      ∀ workerId messageType, Frame.Writable (Request.other workerId messageType).values →
        messageType ≠ Request.gradientsType →
        Request.decode ((Request.other workerId messageType).encode ++ tail) =
          .ok (.other workerId messageType) := by
  refine ⟨fun request writable honest front cut proper => ?_,
    fun response writable front cut proper => ?_, fun tail more => ⟨fun report writable => ?_,
    fun response writable framed => ?_, ?_, fun workerId messageType writable differs => ?_⟩⟩
  · exact Request.unreadable_of_cut writable honest cut proper
  · exact Response.unreadable_of_cut writable cut proper
  · exact Request.decode_append_of_gradients (Request.decode_encode_eq writable) more
  · exact Response.decode_append (Response.decode_encode_response writable) framed more
  · exact Response.decode_acknowledgement_append more
  · obtain ⟨shortName, shortKind⟩ := Request.writable_other_iff.1 writable
    exact Request.decode_encode_other shortName shortKind differs tail

/-- A gradient cut inside its epoch, a command cut before the length of its weights, and messages
that another value follows. -/
theorem messages_delimited_edges :
    let report : GradientReport := ⟨"w", 300, [⟨0xff800000⟩]⟩
    let front : Bytes := [0xa1, 0x77, 0xa9, 0x47, 0x52, 0x41, 0x44, 0x49, 0x45, 0x4e, 0x54, 0x53,
      0xcd, 1]
    let stop : Response := .weights .stop []
    let start : Bytes := [0xa4, 0x53, 0x54, 0x4f, 0x50, 0xc4]
    (Frame.Writable (Request.gradients report).values ∧
      (∀ workerId, Request.gradients report ≠ .other workerId Request.gradientsType) ∧
      front <+: (Request.gradients report).encode ∧ front ≠ (Request.gradients report).encode ∧
      ∃ reason, Request.decode front = .error reason) ∧
    (Frame.Writable stop.values ∧ stop ≠ .acknowledged ∧ start <+: stop.encode ∧
      start ≠ stop.encode ∧ ∃ reason, Response.decode start = .error reason) ∧
    ([0xc0] : Bytes) ≠ [] ∧
    Request.decode ((Request.gradients report).encode ++ [0xc0]) = .error (.trailingValues 4) ∧
    Response.decode (stop.encode ++ [0xc0]) = .error (.trailingValues 2) ∧
    Frame.Writable (Request.other "w" "BYE").values ∧ "BYE" ≠ Request.gradientsType ∧
    Request.decode ((Request.other "w" "BYE").encode ++ [0xc0]) = .ok (.other "w" "BYE") := by
  intro report front stop start
  have gradientWritable : Frame.Writable (Request.gradients report).values := by decide
  have stopWritable : Frame.Writable stop.values := by decide
  have messageWritable : Frame.Writable (Request.other "w" "BYE").values := by decide
  have honest : ∀ workerId,
      Request.gradients report ≠ .other workerId Request.gradientsType := nofun
  have cutGradient : front <+: (Request.gradients report).encode := by decide
  have properGradient : front ≠ (Request.gradients report).encode := by decide
  have cutStop : start <+: stop.encode := by decide
  have properStop : start ≠ stop.encode := by decide
  obtain ⟨cutRequest, cutResponse, followed⟩ := messages_delimited
  obtain ⟨gradient, framed, -, message⟩ := followed [0xc0] (by decide)
  exact ⟨⟨gradientWritable, honest, cutGradient, properGradient,
      cutRequest _ gradientWritable honest front cutGradient properGradient⟩,
    ⟨stopWritable, by decide, cutStop, properStop,
      cutResponse stop stopWritable start cutStop properStop⟩,
    by decide, gradient report gradientWritable, framed stop stopWritable (by decide),
    messageWritable, by decide, message "w" "BYE" messageWritable (by decide)⟩

end SharedWeights
