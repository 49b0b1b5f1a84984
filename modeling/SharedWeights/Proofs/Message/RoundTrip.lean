/-
**Messages read back.**

A message is read field by field, and a field does not care in which of its spellings its value
comes. So what is written reads back, because it is one of the spellings:

* `decode_gradients`, `decode_other`: how spelled requests are read;
* `decode_encode_gradients`, `decode_encode_other`: requests read back, but for an epoch too late to
  be stated;
* `decode_encode_response`: responses read back, and none is taken for an acknowledgement.
-/

import SharedWeights.Message.Request
import SharedWeights.Message.Response
import SharedWeights.Proofs.Frame.Fields

namespace SharedWeights

open MessagePack (Spells)

/-! ### Requests -/

namespace Request

section Gradients

variable {report : GradientReport} {worker kind epoch blob : Bytes}
  {workerValue kindValue epochValue blobValue : Value} (workerSpelled : Spells workerValue worker)
  (kindSpelled : Spells kindValue kind) (epochSpelled : Spells epochValue epoch)
  (blobSpelled : Spells blobValue blob)
  (isWorker : workerValue.asText "worker_id" = .ok report.workerId)
  (isKind : kindValue.asText "msgtype" = .ok gradientsType)
  (isEpoch : (epochValue.asInt "epoch").bind epochOf = .ok report.epoch)
  (isBlob : blobValue.asFloats "gradient" = .ok report.gradient)

include workerSpelled kindSpelled epochSpelled blobSpelled isWorker isKind isEpoch isBlob

/-- The fields of a gradient's frame, in any spelling, up to where it should end. -/
theorem schema_gradients (rest : Bytes) :
    schema ⟨worker ++ (kind ++ (epoch ++ (blob ++ rest))), 0⟩ =
      (Schema.finish >>= fun _ => pure (.gradients report)) ⟨rest, 4⟩ := by
  rw [schema, Schema.field_bind workerSpelled isWorker, Schema.field_bind kindSpelled isKind,
    if_pos rfl, Schema.field_bind epochSpelled isEpoch, Schema.field_bind blobSpelled isBlob]

theorem decode_gradients :
    decode (worker ++ (kind ++ (epoch ++ (blob ++ [])))) = .ok (.gradients report) := by
  rw [decode, Schema.decode, Cursor.ofBytes, schema_gradients workerSpelled kindSpelled
    epochSpelled blobSpelled isWorker isKind isEpoch isBlob, Schema.finish_bind]
  rfl

end Gradients

/-- The fields of any other frame, in any spelling; whatever follows them is ignored. -/
theorem decode_other {workerId messageType : String} {worker kind : Bytes}
    {workerValue kindValue : Value} (workerSpelled : Spells workerValue worker)
    (kindSpelled : Spells kindValue kind) (isWorker : workerValue.asText "worker_id" = .ok workerId)
    (isKind : kindValue.asText "msgtype" = .ok messageType) (other : messageType ≠ gradientsType)
    (rest : Bytes) :
    decode (worker ++ (kind ++ rest)) = .ok (.other workerId messageType) := by
  rw [decode, Schema.decode, Cursor.ofBytes, schema, Schema.field_bind workerSpelled isWorker,
    Schema.field_bind kindSpelled isKind, if_neg other]
  rfl

/-- The epoch that is read where an epoch was stated: a later one than the last that can be stated
comes back as that. -/
def statedEpoch (epoch : UInt64) : UInt64 :=
  UInt64.ofNat (min epoch.toNat lastWireEpoch)

theorem statedEpoch_of_lt {epoch : UInt64} (early : epoch.toNat < 0x8000000000000000) :
    statedEpoch epoch = epoch := by
  have kept : min epoch.toNat lastWireEpoch = epoch.toNat :=
    Nat.min_eq_left (Nat.le_of_lt_succ early)
  rw [statedEpoch, kept, UInt64.ofNat_toNat]

theorem statedEpoch_eq_min (epoch : UInt64) :
    statedEpoch epoch = min epoch 0x7fffffffffffffff := by
  have small : min epoch.toNat lastWireEpoch < 2 ^ 64 :=
    Nat.lt_of_le_of_lt (Nat.min_le_left _ _) epoch.toNat_lt
  apply UInt64.toNat_inj.1
  rw [statedEpoch, UInt64.toNat_ofNat_of_lt' small]
  show _ = (if epoch ≤ 0x7fffffffffffffff then epoch else 0x7fffffffffffffff).toNat
  split
  · next early => exact Nat.min_eq_left (UInt64.le_iff_toNat_le.1 early)
  · next late =>
    have above : lastWireEpoch ≤ epoch.toNat :=
      Nat.le_of_not_le fun early => late (UInt64.le_iff_toNat_le.2 early)
    exact Nat.min_eq_right above

theorem epochOf_wireEpoch (epoch : UInt64) :
    epochOf (wireEpoch epoch) = .ok (statedEpoch epoch) := by
  have small : min epoch.toNat lastWireEpoch < 0x8000000000000000 :=
    Nat.lt_succ_of_le (Nat.min_le_right _ _)
  have stated : (wireEpoch epoch).toInt = (min epoch.toNat lastWireEpoch : Nat) := by
    rw [wireEpoch, Int64.toInt_ofNat_of_lt small]
  rw [epochOf, if_pos (by omega), wireEpoch, Int64.toUInt64_ofNat', statedEpoch]

theorem asFloats_toBlob (field : String) (numbers : List Binary32) :
    (Value.bin (Binary32.toBlob numbers)).asFloats field = .ok numbers := by
  have isBlob : (Value.bin (Binary32.toBlob numbers)).asBin field =
      .ok (Binary32.toBlob numbers) := rfl
  simp only [Value.asFloats, isBlob, Except.bind, Binary32.ofBlob?_toBlob]

theorem encode_gradients (report : GradientReport) :
    encode (.gradients report) =
      MessagePack.write (.str report.workerId) ++ (MessagePack.write (.str gradientsType) ++
        (MessagePack.write (.int (wireEpoch report.epoch)) ++
          (MessagePack.write (.bin (Binary32.toBlob report.gradient)) ++ []))) := by
  simp [encode, values]

theorem encode_other_append (workerId messageType : String) (rest : Bytes) :
    encode (.other workerId messageType) ++ rest =
      MessagePack.write (.str workerId) ++ (MessagePack.write (.str messageType) ++ rest) := by
  simp [encode, values]

theorem spells_gradientsType :
    Spells (.str gradientsType) (MessagePack.write (.str gradientsType)) :=
  MessagePack.spells_write (by decide)

/-- **A gradient's frame reads back**, its epoch as far as it can be stated. -/
theorem decode_encode_gradients {report : GradientReport}
    (shortName : (Value.str report.workerId).Encodable)
    (shortBlob : (Value.bin (Binary32.toBlob report.gradient)).Encodable) :
    decode (encode (.gradients report)) =
      .ok (.gradients { report with epoch := statedEpoch report.epoch }) := by
  rw [encode_gradients]
  exact decode_gradients (MessagePack.spells_write shortName) spells_gradientsType
    (MessagePack.spells_ofInt _) (MessagePack.spells_write shortBlob) rfl rfl
    (epochOf_wireEpoch report.epoch) (asFloats_toBlob "gradient" report.gradient)

/-- **Any other frame reads back**, whatever follows it. -/
theorem decode_encode_other {workerId messageType : String}
    (shortName : (Value.str workerId).Encodable) (shortKind : (Value.str messageType).Encodable)
    (other : messageType ≠ gradientsType) (rest : Bytes) :
    decode (encode (.other workerId messageType) ++ rest) = .ok (.other workerId messageType) := by
  rw [encode_other_append]
  exact decode_other (MessagePack.spells_write shortName) (MessagePack.spells_write shortKind)
    rfl rfl other rest

end Request

/-! ### Responses -/

namespace Response

/-- An acknowledgement reads as a number first. -/
theorem eq_int_of_acknowledgement {value : Value} {bytes rest : Bytes}
    (spells : Spells value bytes) (same : bytes ++ rest = acknowledgement) :
    value = .int 0x41 := by
  have given := MessagePack.read_of_spells spells rest
  rw [same] at given
  cases given
  rfl

/-- A frame that begins with a text is none. -/
theorem ne_acknowledgement {text : String} {bytes : Bytes} (spells : Spells (.str text) bytes)
    (rest : Bytes) : bytes ++ rest ≠ acknowledgement := by
  intro same
  cases eq_int_of_acknowledgement spells same

section Framed

variable {name detail : String} {command : Command} {numbers : List Binary32}
  {head body : Bytes} {value : Value}

/-- The fields of weights, in any spelling, up to where their frame should end. -/
theorem schema_weights (headSpelled : Spells (.str name) head) (bodySpelled : Spells value body)
    (isCommand : Command.ofName? name = some command)
    (isBlob : value.asFloats "weights" = .ok numbers) (rest : Bytes) :
    schema ⟨head ++ (body ++ rest), 0⟩ =
      (Schema.finish >>= fun _ => pure (.weights command numbers)) ⟨rest, 2⟩ := by
  have noError : name ≠ errorName := by
    rintro rfl
    rw [ofName?_errorName] at isCommand
    cases isCommand
  have isName : (Value.str name).asStr "command" = .ok name := rfl
  rw [schema, Schema.field_bind headSpelled isName, if_neg noError, isCommand]
  dsimp only
  rw [Schema.field_bind bodySpelled isBlob]

theorem decode_weights (headSpelled : Spells (.str name) head) (bodySpelled : Spells value body)
    (isCommand : Command.ofName? name = some command)
    (isBlob : value.asFloats "weights" = .ok numbers) :
    decode (head ++ (body ++ [])) = .ok (.weights command numbers) := by
  rw [decode, if_neg (ne_acknowledgement headSpelled _), Schema.decode, Cursor.ofBytes,
    schema_weights headSpelled bodySpelled isCommand isBlob, Schema.finish_bind]
  rfl

/-- The fields of a refusal, in any spelling, up to where its frame should end. -/
theorem schema_refused (headSpelled : Spells (.str errorName) head)
    (bodySpelled : Spells (.str detail) body) (rest : Bytes) :
    schema ⟨head ++ (body ++ rest), 0⟩ =
      (Schema.finish >>= fun _ => pure (.refused detail)) ⟨rest, 2⟩ := by
  have isName : (Value.str errorName).asStr "command" = .ok errorName := rfl
  have isDetail : (Value.str detail).asStr "detail" = .ok detail := rfl
  rw [schema, Schema.field_bind headSpelled isName, if_pos rfl,
    Schema.field_bind bodySpelled isDetail]

theorem decode_refused (headSpelled : Spells (.str errorName) head)
    (bodySpelled : Spells (.str detail) body) :
    decode (head ++ (body ++ [])) = .ok (.refused detail) := by
  rw [decode, if_neg (ne_acknowledgement headSpelled _), Schema.decode, Cursor.ofBytes,
    schema_refused headSpelled bodySpelled, Schema.finish_bind]
  rfl

end Framed

theorem encode_weights (command : Command) (numbers : List Binary32) :
    encode (.weights command numbers) = MessagePack.write (.str command.name) ++
      (MessagePack.write (.bin (Binary32.toBlob numbers)) ++ []) := by
  simp [encode, values]

theorem encode_refused (detail : String) :
    encode (.refused detail) = MessagePack.write (.str errorName) ++
      (MessagePack.write (.str detail) ++ []) := by
  simp [encode, values]

theorem spells_name (command : Command) :
    Spells (.str command.name) (MessagePack.write (.str command.name)) :=
  MessagePack.spells_write (by cases command <;> decide)

theorem spells_errorName : Spells (.str errorName) (MessagePack.write (.str errorName)) :=
  MessagePack.spells_write (by decide)

/-- **A response reads back**, bit for bit, if its body has a length of at most 32 bits. -/
theorem decode_encode_response {response : Response}
    (short : Frame.Writable response.values) : decode (encode response) = .ok response := by
  cases response with
  | acknowledged => rfl
  | weights command numbers =>
    have shortBlob : (Value.bin (Binary32.toBlob numbers)).Encodable :=
      short _ (List.mem_cons_of_mem _ List.mem_cons_self)
    rw [encode_weights]
    exact decode_weights (spells_name command) (MessagePack.spells_write shortBlob)
      (Command.ofName?_name command)
      (Request.asFloats_toBlob "weights" numbers)
  | refused detail =>
    have shortBody : (Value.str detail).Encodable :=
      short _ (List.mem_cons_of_mem _ List.mem_cons_self)
    rw [encode_refused]
    exact decode_refused spells_errorName (MessagePack.spells_write shortBody)

end Response

end SharedWeights
