/-
**What reads as a message.**

A request may stand in a frame in many ways: each of its fields may come as any object that the
field takes, and behind the fields of a message that is no gradient anything may follow.
`GradientFrame` and `OtherFrame` say which frames these are, in terms of objects alone. A response
that is no acknowledgement stands in its frame as two values, each in any spelling
(`Response.Stands`), the first of them always as a text (`WeightsFrame`, `RefusalFrame`).

* `takes_asText_iff`, `takes_epoch_iff`, `takes_asFloats_iff`: the objects that each field takes;
* `decode_eq_ok_iff`: a frame reads as a request exactly if the request stands in it;
* `decode_grammar`: the same for either kind of request, and for the frames that can't be read;
* `Response.reads_exactly`: the same for the three kinds of responses.
-/

import SharedWeights.Proofs.Message.RoundTrip
import SharedWeights.Proofs.MessagePack.Object

namespace SharedWeights

open MessagePack (StrObject BinObject IntObject Spells)

/-! ### Fields -/

/-- An object that passes for a text: a str or a bin object of its bytes. -/
def TextObject (text : String) (object : Bytes) : Prop :=
  StrObject (Text.Utf8.encode text) object ∨ BinObject (Text.Utf8.encode text) object

/-- An object that passes for a list of numbers: a bin object of their bytes, or a str object of
them if they are no text. -/
def NumbersObject (numbers : List Binary32) (object : Bytes) : Prop :=
  BinObject (Binary32.toBlob numbers) object ∨
    (StrObject (Binary32.toBlob numbers) object ∧
      ∀ text, Binary32.toBlob numbers ≠ Text.Utf8.encode text)

theorem Value.asText_of_text {field text : String} {blob : Bytes}
    (isText : Text.Utf8.decode blob = .ok text) : (bin blob).asText field = .ok text := by
  rw [asText, isText]
  rfl

theorem Value.asText_of_noText {field : String} {blob : Bytes} {fault : Text.Utf8.Fault}
    (noText : Text.Utf8.decode blob = .error fault) :
    (bin blob).asText field = .error (.invalidField field (.notText fault)) := by
  rw [asText, noText]
  rfl

theorem Value.asFloats_of_numbers {field : String} {blob : Bytes} {numbers : List Binary32}
    (isBlob : Binary32.ofBlob? blob = some numbers) :
    (bin blob).asFloats field = .ok numbers := by
  simp only [asFloats, asBin, Except.bind, isBlob]

theorem Value.asFloats_of_ragged {field : String} {blob : Bytes}
    (ragged : Binary32.ofBlob? blob = none) :
    (bin blob).asFloats field = .error (.invalidField field (.ragged blob.length)) := by
  simp only [asFloats, asBin, Except.bind, ragged]

theorem Value.asText_eq_ok_iff {field text : String} {value : Value} :
    value.asText field = .ok text ↔
      value = .str text ∨ value = .bin (Text.Utf8.encode text) := by
  cases value with
  | str other => simp [asText]
  | bin blob =>
    simp only [reduceCtorEq, bin.injEq, false_or, ← Text.Utf8.decode_eq_ok_iff]
    cases decoded : Text.Utf8.decode blob with
    | ok found => rw [asText_of_text decoded, Except.ok.injEq, Except.ok.injEq]
    | error fault => simp [asText_of_noText decoded]
  | nil | bool | int | float32 | float64 => simp [asText]

theorem Value.asStr_eq_ok_iff {field text : String} {value : Value} :
    value.asStr field = .ok text ↔ value = .str text := by
  cases value <;> simp [asStr]

theorem Value.asFloats_eq_ok_iff {field : String} {numbers : List Binary32} {value : Value} :
    value.asFloats field = .ok numbers ↔ value = .bin (Binary32.toBlob numbers) := by
  cases value with
  | bin blob =>
    simp only [bin.injEq, ← Binary32.ofBlob?_eq_some_iff]
    cases found : Binary32.ofBlob? blob with
    | some others => simp [asFloats_of_numbers found]
    | none => simp [asFloats_of_ragged found]
  | nil | bool | int | float32 | float64 | str => simp [asFloats, asBin, Except.bind]

theorem takes_asText_iff {field text : String} {object : Bytes} :
    Schema.Takes (Value.asText field) text object ↔ TextObject text object := by
  constructor
  · rintro ⟨value, spells, looked⟩
    rcases Value.asText_eq_ok_iff.1 looked with rfl | rfl
    · exact .inl (MessagePack.spells_str_iff.1 spells)
    · rcases MessagePack.spells_bin_iff.1 spells with isBin | ⟨isStr, -⟩
      · exact .inr isBin
      · exact .inl isStr
  · rintro (isStr | isBin)
    · exact ⟨_, MessagePack.spells_str_iff.2 isStr, rfl⟩
    · exact ⟨_, MessagePack.spells_bin_iff.2 (.inl isBin), Value.asText_eq_ok_iff.2 (.inr rfl)⟩

theorem takes_asFloats_iff {field : String} {numbers : List Binary32} {object : Bytes} :
    Schema.Takes (Value.asFloats field) numbers object ↔ NumbersObject numbers object := by
  constructor
  · rintro ⟨value, spells, looked⟩
    obtain rfl := Value.asFloats_eq_ok_iff.1 looked
    exact MessagePack.spells_bin_iff.1 spells
  · intro isNumbers
    exact ⟨_, MessagePack.spells_bin_iff.2 isNumbers, Value.asFloats_eq_ok_iff.2 rfl⟩

namespace Request

theorem epochOf_eq_ok_iff {number : Int64} {epoch : UInt64} :
    epochOf number = .ok epoch ↔ number.toInt = epoch.toNat := by
  unfold epochOf
  split
  · next natural =>
    have positive : 0 ≤ number := Int64.le_iff_toInt_le.2 natural
    have same : number.toUInt64.toNat = number.toInt.toNat := Int64.toNat_toUInt64_of_le positive
    rw [Except.ok.injEq, ← UInt64.toNat_inj, same]
    omega
  · next negative =>
    constructor
    · intro read
      cases read
    · intro same
      omega

theorem takes_epoch_iff {epoch : UInt64} {object : Bytes} :
    Schema.Takes (fun value => (value.asInt "epoch").bind epochOf) epoch object ↔
      IntObject epoch.toNat object ∧ epoch.toNat < 0x8000000000000000 := by
  constructor
  · rintro ⟨value, spells, looked⟩
    cases value with
    | int number =>
      have same := epochOf_eq_ok_iff.1 looked
      have small := number.toInt_lt
      rw [← same]
      exact ⟨MessagePack.spells_int_iff.1 spells, by omega⟩
    | nil | bool | float32 | float64 | str | bin => cases looked
  · rintro ⟨isInt, small⟩
    have same : (Int64.ofNat epoch.toNat).toInt = epoch.toNat := Int64.toInt_ofNat_of_lt small
    exact ⟨.int (Int64.ofNat epoch.toNat), MessagePack.spells_int_iff.2 (same ▸ isInt),
      epochOf_eq_ok_iff.2 same⟩

/-! ### Frames -/

/-- A frame of a gradient: a name, the type of gradients, an epoch that a signed integer can state
and the numbers, each as one object, and nothing else. -/
def GradientFrame (report : GradientReport) (frame : Bytes) : Prop :=
  ∃ worker kind epoch gradient, frame = worker ++ kind ++ epoch ++ gradient ∧
    TextObject report.workerId worker ∧ TextObject gradientsType kind ∧
    (IntObject report.epoch.toNat epoch ∧ report.epoch.toNat < 0x8000000000000000) ∧
    NumbersObject report.gradient gradient

/-- A frame of another message: it begins with a name and a type that is not the one of gradients,
each as one object. -/
def OtherFrame (workerId messageType : String) (frame : Bytes) : Prop :=
  ∃ worker kind rest, frame = worker ++ kind ++ rest ∧ TextObject workerId worker ∧
    TextObject messageType kind ∧ messageType ≠ gradientsType

/-- A frame in which the request stands. -/
def Stands : Request → Bytes → Prop
  | .gradients report => GradientFrame report
  | .other workerId messageType => OtherFrame workerId messageType

theorem stands_of_decode {request : Request} {frame : Bytes}
    (given : decode frame = .ok request) : request.Stands frame := by
  obtain ⟨left, read⟩ := Schema.decode_eq_ok_iff.1 given
  obtain ⟨workerId, worker, rest, rfl, isWorker, read⟩ := Schema.field_bind_ok_iff.1 read
  obtain ⟨messageType, kind, rest, rfl, isKind, read⟩ := Schema.field_bind_ok_iff.1 read
  rw [takes_asText_iff] at isWorker isKind
  by_cases same : messageType = gradientsType
  · rw [if_pos same] at read
    obtain ⟨epoch, epochObject, rest, rfl, isEpoch, read⟩ := Schema.field_bind_ok_iff.1 read
    obtain ⟨gradient, gradientObject, rest, rfl, isGradient, read⟩ :=
      Schema.field_bind_ok_iff.1 read
    obtain ⟨rfl, read⟩ := Schema.finish_bind_ok_iff.1 read
    cases read
    exact ⟨worker, kind, epochObject, gradientObject, by simp, isWorker, same ▸ isKind,
      takes_epoch_iff.1 isEpoch, takes_asFloats_iff.1 isGradient⟩
  · rw [if_neg same] at read
    cases read
    exact ⟨worker, kind, rest, by simp, isWorker, isKind, same⟩

theorem decode_of_stands {request : Request} {frame : Bytes} (stands : request.Stands frame) :
    decode frame = .ok request := by
  cases request with
  | gradients report =>
    obtain ⟨worker, kind, epoch, gradient, rfl, isWorker, isKind, isEpoch, isGradient⟩ := stands
    obtain ⟨_, workerSpelled, workerLook⟩ := takes_asText_iff.2 isWorker
    obtain ⟨_, kindSpelled, kindLook⟩ := takes_asText_iff.2 isKind
    obtain ⟨_, epochSpelled, epochLook⟩ := takes_epoch_iff.2 isEpoch
    obtain ⟨_, gradientSpelled, gradientLook⟩ := takes_asFloats_iff.2 isGradient
    have read := decode_gradients workerSpelled kindSpelled epochSpelled gradientSpelled
      workerLook kindLook epochLook gradientLook
    simpa using read
  | other workerId messageType =>
    obtain ⟨worker, kind, rest, rfl, isWorker, isKind, differs⟩ := stands
    obtain ⟨_, workerSpelled, workerLook⟩ := takes_asText_iff.2 isWorker
    obtain ⟨_, kindSpelled, kindLook⟩ := takes_asText_iff.2 isKind
    have read := decode_other workerSpelled kindSpelled workerLook kindLook differs rest
    simpa using read

/-- **A frame reads as a request exactly if the request stands in it.** -/
theorem decode_eq_ok_iff {request : Request} {frame : Bytes} :
    decode frame = .ok request ↔ request.Stands frame :=
  ⟨stands_of_decode, decode_of_stands⟩

/-- **The grammar of requests.** A frame reads as a gradient exactly if it is one of the gradient's
frames, as another message exactly if it is one of the message's frames, and can't be read exactly
if it is none of these. -/
theorem decode_grammar (frame : Bytes) :
    (∀ report, decode frame = .ok (.gradients report) ↔ GradientFrame report frame) ∧
    (∀ workerId messageType,
      decode frame = .ok (.other workerId messageType) ↔ OtherFrame workerId messageType frame) ∧
    ((∃ reason, decode frame = .error reason) ↔
      (∀ report, ¬ GradientFrame report frame) ∧
        ∀ workerId messageType, ¬ OtherFrame workerId messageType frame) := by
  refine ⟨fun report => decode_eq_ok_iff, fun workerId messageType => decode_eq_ok_iff, ?_⟩
  constructor
  · rintro ⟨reason, unreadable⟩
    have none (request : Request) : ¬ request.Stands frame := by
      intro stands
      rw [decode_of_stands stands] at unreadable
      cases unreadable
    exact ⟨fun report => none (.gradients report),
      fun workerId messageType => none (.other workerId messageType)⟩
  · rintro ⟨noGradient, noOther⟩
    cases read : decode frame with
    | error reason => exact ⟨reason, rfl⟩
    | ok request =>
      cases request with
      | gradients report => exact absurd (stands_of_decode read) (noGradient report)
      | other workerId messageType =>
        exact absurd (stands_of_decode read) (noOther workerId messageType)

/-- A name and a type in bin objects; what follows them is no value. -/
example : decode [0xc4, 1, 0x77, 0xc5, 0, 1, 0x6d, 0xc1] = .ok (.other "w" "m") :=
  rfl

end Request

/-! ### Responses -/

theorem Command.ofName?_eq_some_iff {name : String} {command : Command} :
    ofName? name = some command ↔ name = command.name := by
  constructor
  · intro found
    unfold ofName? at found
    split at found
    · next same =>
      cases found
      exact same
    · split at found
      · next same =>
        cases found
        exact same
      · cases found
  · rintro rfl
    exact ofName?_name command

namespace Response

/-- The frames in which a response stands, each of its values in any of its spellings. -/
inductive Stands : Response → Bytes → Prop
  | acknowledged : Stands .acknowledged acknowledgement
  | weights {command : Command} {numbers : List Binary32} {head blob : Bytes}
      (headSpelled : Spells (.str command.name) head)
      (blobSpelled : Spells (.bin (Binary32.toBlob numbers)) blob) :
    Stands (.weights command numbers) (head ++ blob)
  | refused {detail : String} {head body : Bytes} (headSpelled : Spells (.str errorName) head)
      (bodySpelled : Spells (.str detail) body) :
    Stands (.refused detail) (head ++ body)

theorem stands_of_decode {response : Response} {frame : Bytes}
    (given : decode frame = .ok response) : response.Stands frame := by
  unfold decode at given
  split at given
  · next same =>
    cases given
    exact same ▸ .acknowledged
  · obtain ⟨left, read⟩ := Schema.decode_eq_ok_iff.1 given
    obtain ⟨name, head, rest, rfl, ⟨value, headSpelled, isName⟩, read⟩ :=
      Schema.field_bind_ok_iff.1 read
    obtain rfl := Value.asStr_eq_ok_iff.1 isName
    by_cases refusal : name = errorName
    · rw [if_pos refusal] at read
      obtain ⟨detail, body, rest, rfl, ⟨value, bodySpelled, isDetail⟩, read⟩ :=
        Schema.field_bind_ok_iff.1 read
      obtain rfl := Value.asStr_eq_ok_iff.1 isDetail
      obtain ⟨rfl, read⟩ := Schema.finish_bind_ok_iff.1 read
      cases read
      rw [List.append_nil]
      exact .refused (refusal ▸ headSpelled) bodySpelled
    · rw [if_neg refusal] at read
      cases known : Command.ofName? name with
      | none =>
        rw [known] at read
        cases read
      | some command =>
        rw [known] at read
        obtain ⟨numbers, blob, rest, rfl, ⟨value, blobSpelled, isBlob⟩, read⟩ :=
          Schema.field_bind_ok_iff.1 read
        obtain rfl := Value.asFloats_eq_ok_iff.1 isBlob
        obtain ⟨rfl, read⟩ := Schema.finish_bind_ok_iff.1 read
        cases read
        rw [List.append_nil]
        exact .weights (Command.ofName?_eq_some_iff.1 known ▸ headSpelled) blobSpelled

theorem decode_of_stands {response : Response} {frame : Bytes} (stands : response.Stands frame) :
    decode frame = .ok response := by
  cases stands with
  | acknowledged => rfl
  | @weights command numbers head blob headSpelled blobSpelled =>
    have read := decode_weights headSpelled blobSpelled (Command.ofName?_name command)
      (Value.asFloats_eq_ok_iff.2 rfl)
    simpa using read
  | refused headSpelled bodySpelled =>
    have read := decode_refused headSpelled bodySpelled
    simpa using read

/-- **A frame reads as a response exactly if the response stands in it.** -/
theorem decode_eq_ok_iff {response : Response} {frame : Bytes} :
    decode frame = .ok response ↔ response.Stands frame :=
  ⟨stands_of_decode, decode_of_stands⟩

/-- A frame of weights: the name of the command as a str object, then the numbers as one object, and
nothing else. -/
def WeightsFrame (command : Command) (numbers : List Binary32) (frame : Bytes) : Prop :=
  ∃ head blob, frame = head ++ blob ∧ StrObject (Text.Utf8.encode command.name) head ∧
    NumbersObject numbers blob

/-- A frame of a refusal: its mark and its words, each as a str object, and nothing else. -/
def RefusalFrame (detail : String) (frame : Bytes) : Prop :=
  ∃ head body, frame = head ++ body ∧ StrObject (Text.Utf8.encode errorName) head ∧
    StrObject (Text.Utf8.encode detail) body

theorem stands_acknowledged_iff {frame : Bytes} :
    Stands .acknowledged frame ↔ frame = acknowledgement := by
  constructor
  · rintro ⟨⟩
    rfl
  · rintro rfl
    exact .acknowledged

theorem stands_weights_iff {command : Command} {numbers : List Binary32} {frame : Bytes} :
    Stands (.weights command numbers) frame ↔ WeightsFrame command numbers frame := by
  constructor
  · rintro (_ | @⟨_, _, head, blob, headSpelled, blobSpelled⟩)
    exact ⟨head, blob, rfl, MessagePack.spells_str_iff.1 headSpelled,
      MessagePack.spells_bin_iff.1 blobSpelled⟩
  · rintro ⟨head, blob, rfl, isName, isNumbers⟩
    exact .weights (MessagePack.spells_str_iff.2 isName) (MessagePack.spells_bin_iff.2 isNumbers)

theorem stands_refused_iff {detail : String} {frame : Bytes} :
    Stands (.refused detail) frame ↔ RefusalFrame detail frame := by
  constructor
  · rintro (_ | _ | @⟨_, head, body, headSpelled, bodySpelled⟩)
    exact ⟨head, body, rfl, MessagePack.spells_str_iff.1 headSpelled,
      MessagePack.spells_str_iff.1 bodySpelled⟩
  · rintro ⟨head, body, rfl, isMark, isDetail⟩
    exact .refused (MessagePack.spells_str_iff.2 isMark) (MessagePack.spells_str_iff.2 isDetail)

/-- A command is a text and never a blob, though the texts of requests may be blobs. -/
theorem decode_of_blob {blob head : Bytes} (isBin : BinObject blob head) (rest : Bytes) :
    decode (head ++ rest) = .error (.unexpectedType "command" "str" "bin") := by
  have spells : Spells (.bin blob) head := MessagePack.spells_bin_iff.2 (.inl isBin)
  have refused : (Value.bin blob).asStr "command" =
      .error (.unexpectedType "command" "str" "bin") := rfl
  have framed : head ++ rest ≠ acknowledgement := by
    intro same
    cases eq_int_of_acknowledgement spells same
  rw [decode, if_neg framed, Schema.decode, Cursor.ofBytes, schema,
    Schema.field_bind_of_refused spells refused]

/-- **The grammar of responses.** A frame reads as an acknowledgement exactly if it is that, as
weights exactly if it is one of their frames, as a refusal exactly if it is one of its frames, and
can't be read exactly if it is none of these. So a frame that begins with a blob can't be read. -/
theorem reads_exactly (frame : Bytes) :
    (decode frame = .ok .acknowledged ↔ frame = acknowledgement) ∧
    (∀ command numbers,
      decode frame = .ok (.weights command numbers) ↔ WeightsFrame command numbers frame) ∧
    (∀ detail, decode frame = .ok (.refused detail) ↔ RefusalFrame detail frame) ∧
    ((∃ reason, decode frame = .error reason) ↔
      frame ≠ acknowledgement ∧ (∀ command numbers, ¬ WeightsFrame command numbers frame) ∧
        ∀ detail, ¬ RefusalFrame detail frame) ∧
    ∀ blob head rest, BinObject blob head → frame = head ++ rest →
      decode frame = .error (.unexpectedType "command" "str" "bin") := by
  refine ⟨?_, fun command numbers => ?_, fun detail => ?_, ⟨?_, ?_⟩, ?_⟩
  · rw [decode_eq_ok_iff, stands_acknowledged_iff]
  · rw [decode_eq_ok_iff, stands_weights_iff]
  · rw [decode_eq_ok_iff, stands_refused_iff]
  · rintro ⟨reason, unreadable⟩
    have none (response : Response) : ¬ response.Stands frame := by
      intro stands
      rw [decode_of_stands stands] at unreadable
      cases unreadable
    exact ⟨mt stands_acknowledged_iff.2 (none _),
      fun command numbers => mt stands_weights_iff.2 (none _),
      fun detail => mt stands_refused_iff.2 (none _)⟩
  · rintro ⟨noAcknowledgement, noWeights, noRefusal⟩
    cases read : decode frame with
    | error reason => exact ⟨reason, rfl⟩
    | ok response =>
      have stands := stands_of_decode read
      cases response with
      | acknowledged => exact absurd (stands_acknowledged_iff.1 stands) noAcknowledgement
      | weights command numbers => exact absurd (stands_weights_iff.1 stands) (noWeights _ _)
      | refused detail => exact absurd (stands_refused_iff.1 stands) (noRefusal _)
  · rintro blob head rest isBin rfl
    exact decode_of_blob isBin rest

/-- A command in a str object with a length field, in front of a number in a str object that is no
text; and the same command in a bin object. -/
theorem reads_exactly_spelled :
    let stop : Bytes := [0x53, 0x54, 0x4f, 0x50]
    let blob : Bytes := [0xa4, 0, 0, 0x80, 0xff]
    WeightsFrame .stop [⟨0xff800000⟩] ((0xd9 :: 4 :: stop) ++ blob) ∧
    decode ((0xd9 :: 4 :: stop) ++ blob) = .ok (.weights .stop [⟨0xff800000⟩]) ∧
    BinObject stop (0xc4 :: 4 :: stop) ∧
    decode ((0xc4 :: 4 :: stop) ++ blob) = .error (.unexpectedType "command" "str" "bin") := by
  intro stop blob
  have noText : ∀ text, Binary32.toBlob [⟨0xff800000⟩] ≠ Text.Utf8.encode text := by
    intro text same
    have read := Text.Utf8.decode_encode text
    rw [← same] at read
    cases read
  have isNumbers : NumbersObject [⟨0xff800000⟩] blob := .inr ⟨.fixed (by decide), noText⟩
  have framed : WeightsFrame .stop [⟨0xff800000⟩] ((0xd9 :: 4 :: stop) ++ blob) :=
    ⟨_, blob, rfl, .sized 0 (by decide), isNumbers⟩
  have isBin : BinObject stop (0xc4 :: 4 :: stop) := .sized 0 (by decide)
  obtain ⟨-, weights, -⟩ := reads_exactly ((0xd9 :: 4 :: stop) ++ blob)
  obtain ⟨-, -, -, -, refused⟩ := reads_exactly ((0xc4 :: 4 :: stop) ++ blob)
  exact ⟨framed, (weights .stop _).2 framed, isBin, refused stop _ blob isBin rfl⟩

end Response

end SharedWeights
