/-
**When a worker is told to stop.**

A worker states its epoch in its request, the server compares it with its threshold, and the worker
reads a command in the reply. An epoch is stated as a signed integer, so a late one is stated as the
last that there is; a threshold may be later still.

* `maxEpochs_after`: the threshold stays as it is, whatever is sent;
* `Tells.eq_stop_iff`: the epoch of a request and the threshold decide the command in its reply;
* `Response.command_of_decode`: the command that is read in a reply is the one that was meant;
* `response_ne_stop`: a threshold that can't be stated stops nobody;
* `stop_decision`: what a worker reads.
-/

import SharedWeights.Proofs.Message.Rereading
import SharedWeights.Proofs.Server.Dimension

namespace SharedWeights

/-! ### Commands in replies -/

theorem Command.name_injective {first second : Command} (same : first.name = second.name) :
    first = second := by
  have found := Command.ofName?_name first
  rw [same, Command.ofName?_name] at found
  exact (Option.some.inj found).symm

namespace Response

theorem writable_weights_iff {command : Command} {numbers : List Binary32} :
    Frame.Writable (Response.weights command numbers).values ↔
      (Value.bin (Binary32.toBlob numbers)).Encodable := by
  have name : (Value.str command.name).Encodable := by cases command <;> decide
  simp [Frame.Writable, values, name]

/-- **The command that is read in a reply is the one that was meant**, however long the reply is. -/
theorem command_of_decode {response : Response} {command : Command} {numbers : List Binary32}
    (read : decode (encode response) = .ok (.weights command numbers)) :
    ∃ meant, response = .weights command meant := by
  cases response with
  | acknowledged => cases read
  | refused detail =>
    rw [encode_refused] at read
    obtain ⟨other, same⟩ := refused_of_mark spells_errorName read
    cases same
  | weights told meant =>
    have stands := stands_of_decode read
    rw [encode_weights] at stands
    generalize whole : MessagePack.write (.str told.name) ++ _ = frame at stands
    cases stands with
    | weights headSpelled =>
      obtain ⟨same, -⟩ := (spells_name told).append_inj headSpelled whole
      cases Command.name_injective (Value.str.inj same)
      exact ⟨meant, rfl⟩

end Response

/-! ### Epochs and thresholds -/

theorem Request.toNat_min_lastWireEpoch (epoch : UInt64) :
    (min epoch 0x7fffffffffffffff).toNat = min epoch.toNat lastWireEpoch := by
  have small : min epoch.toNat lastWireEpoch < 2 ^ 64 :=
    Nat.lt_of_le_of_lt (Nat.min_le_left _ _) epoch.toNat_lt
  rw [← statedEpoch_eq_min, statedEpoch, UInt64.toNat_ofNat_of_lt' small]

/-- A threshold that can be stated is not missed by an epoch that can't be. -/
theorem Request.le_min_lastWireEpoch_iff {threshold epoch : UInt64}
    (stated : threshold ≤ 0x7fffffffffffffff) :
    threshold ≤ min epoch 0x7fffffffffffffff ↔ threshold ≤ epoch := by
  have last : (0x7fffffffffffffff : UInt64).toNat = lastWireEpoch := rfl
  rw [UInt64.le_iff_toNat_le] at stated
  rw [UInt64.le_iff_toNat_le, UInt64.le_iff_toNat_le, toNat_min_lastWireEpoch]
  omega

namespace Store

theorem commandFor_eq_stop_iff {store : Store} {epoch : UInt64} :
    store.commandFor epoch = .stop ↔ store.maxEpochs ≤ epoch := by
  unfold commandFor isLastEpoch
  split
  · next last => exact iff_of_true rfl (of_decide_eq_true last)
  · next early => exact iff_of_false nofun fun last => early (decide_eq_true last)

theorem maxEpochs_of_apply {store updated : Store} {gradient : List Binary32}
    (applied : store.apply gradient = .ok updated) : updated.maxEpochs = store.maxEpochs := by
  obtain ⟨-, -, rfl⟩ := apply_eq_ok_iff.1 applied
  rfl

theorem maxEpochs_step {store updated : Store} {frame : Bytes} {response : Response}
    (step : store.Step frame response updated) : updated.maxEpochs = store.maxEpochs := by
  cases step with
  | unreadable | acknowledged | refused => rfl
  | updated read applied => exact maxEpochs_of_apply applied

/-- **The threshold stays**, whatever is sent. -/
theorem maxEpochs_after (store : Store) (frames : List Bytes) :
    (store.after frames).maxEpochs = store.maxEpochs :=
  @kept_after (fun current => current.maxEpochs = store.maxEpochs) frames
    (fun _ _ {_ _ _} step kept => (maxEpochs_step step).trans kept) store rfl

/-- A frame that reads as a gradient of an epoch is answered with weights and a command. -/
def Tells (store : Store) (frame : Bytes) (epoch : UInt64) (command : Command) : Prop :=
  ∃ report numbers, Request.decode frame = .ok (.gradients report) ∧ report.epoch = epoch ∧
    (store.handle frame).response = .weights command numbers

theorem tells_of_response {store : Store} {frame : Bytes} {command : Command}
    {numbers : List Binary32} (answered : (store.handle frame).response = .weights command numbers) :
    ∃ epoch, store.Tells frame epoch command := by
  have step := step_handle store frame
  rw [answered] at step
  generalize (store.handle frame).store = updated at step
  cases step with
  | @updated report updated read applied => exact ⟨report.epoch, report, _, read, rfl, answered⟩

namespace Tells

variable {store : Store} {frame : Bytes} {epoch : UInt64} {command : Command}

/-- **The epoch decides the command**, with the threshold and with nothing else. -/
theorem eq_stop_iff (tells : store.Tells frame epoch command) :
    command = .stop ↔ store.maxEpochs ≤ epoch := by
  obtain ⟨report, numbers, read, rfl, answered⟩ := tells
  have step := step_handle store frame
  rw [answered] at step
  generalize (store.handle frame).store = updated at step
  cases step with
  | @updated other updated readAgain applied =>
    rw [read] at readAgain
    cases readAgain
    rw [commandFor_eq_stop_iff, maxEpochs_of_apply applied]

/-- No epoch that is read is later than the last that can be stated. -/
theorem toNat_epoch_le (tells : store.Tells frame epoch command) :
    epoch.toNat ≤ Request.lastWireEpoch := by
  obtain ⟨report, numbers, read, rfl, -⟩ := tells
  have typed : (Request.gradients report).Typed :=
    Request.typed_of_stands (Request.stands_of_decode read)
  exact Nat.le_of_lt_succ typed

theorem command_unique {other : Store} {otherFrame : Bytes} {otherCommand : Command}
    (tells : store.Tells frame epoch command)
    (otherTells : other.Tells otherFrame epoch otherCommand)
    (same : other.maxEpochs = store.maxEpochs) : command = otherCommand := by
  have decides := tells.eq_stop_iff.trans (same ▸ otherTells.eq_stop_iff.symm)
  cases command <;> cases otherCommand <;> simp_all

end Tells

/-- **What a worker reads.** A request that can be written, and whose gradient is accepted, is
answered with the command for its epoch as far as that can be stated. -/
theorem decode_reply {store updated : Store} {report : GradientReport}
    (writable : Frame.Writable (Request.gradients report).values)
    (accepted : store.apply report.gradient = .ok updated) :
    Response.decode (store.handle (Request.gradients report).encode).response.encode =
      .ok (.weights (store.commandFor (min report.epoch 0x7fffffffffffffff)) updated.weights) := by
  have read := Request.decode_encode_eq writable
  have threshold := maxEpochs_of_apply accepted
  obtain ⟨something, fits, rfl⟩ := apply_eq_ok_iff.1 accepted
  have short : (Value.bin (Binary32.toBlob (store.sums report.gradient))).Encodable := by
    have blob := (Request.writable_gradients_iff.1 writable).2
    show (Binary32.toBlob (store.sums report.gradient)).length < _
    rw [Binary32.length_toBlob, length_sums fits, ← Binary32.length_toBlob]
    exact blob
  rw [(handle_of_fits read something fits).1]
  exact Response.decode_encode_response (Response.writable_weights_iff.2 short)

/-- **Nobody is told to stop** by a threshold that can't be stated. -/
theorem response_ne_stop {store : Store} (late : 0x7fffffffffffffff < store.maxEpochs)
    (frame : Bytes) (numbers : List Binary32) :
    (store.handle frame).response ≠ .weights .stop numbers := by
  intro answered
  obtain ⟨epoch, tells⟩ := tells_of_response answered
  have early := tells.toNat_epoch_le
  have reached := UInt64.le_iff_toNat_le.1 (tells.eq_stop_iff.1 rfl)
  exact absurd (Nat.le_trans reached early) (Nat.not_le_of_lt (UInt64.lt_iff_toNat_lt.1 late))

theorem decode_ne_stop {store : Store} (late : 0x7fffffffffffffff < store.maxEpochs)
    (frame : Bytes) (numbers : List Binary32) :
    Response.decode (store.handle frame).response.encode ≠ .ok (.weights .stop numbers) := by
  intro read
  obtain ⟨meant, answered⟩ := Response.command_of_decode read
  exact response_ne_stop late frame meant answered

end Store

/-- **When a worker is told to stop.** Whatever a server was sent before, its threshold is the one
that it began with. A worker whose request can be written (a text or a blob of `2 ^ 32` bytes or
more has no object) and whose gradient is accepted reads the command to stop exactly if its epoch,
as far as it can be stated, is not before the threshold. If the threshold itself can be stated, that
is so exactly if the epoch is not before it; if not, nobody is ever told to stop. The command does
not depend on anything else: two servers with the same threshold tell the same to requests of the
same epoch, whatever weights they hold, whoever asks, and whatever came before. -/
theorem stop_decision (initial : Store) (history : List Bytes) :
    let store := initial.after history
    let threshold := initial.maxEpochs
    (∀ report updated, Frame.Writable (Request.gradients report).values →
        store.apply report.gradient = .ok updated →
      let reply := (store.handle (Request.gradients report).encode).response.encode
      ∃ command, Response.decode reply = .ok (.weights command updated.weights) ∧
        (command = .stop ↔ threshold ≤ min report.epoch 0x7fffffffffffffff) ∧
        (threshold ≤ 0x7fffffffffffffff → (command = .stop ↔ threshold ≤ report.epoch))) ∧
    (0x7fffffffffffffff < threshold → ∀ frame numbers,
      (store.handle frame).response ≠ .weights .stop numbers ∧
        Response.decode (store.handle frame).response.encode ≠ .ok (.weights .stop numbers)) ∧
    ∀ (other : Store) (past : List Bytes) (frame otherFrame : Bytes) (epoch : UInt64)
      (command otherCommand : Command), other.maxEpochs = threshold →
      store.Tells frame epoch command → (other.after past).Tells otherFrame epoch otherCommand →
        command = otherCommand := by
  intro store threshold
  have kept : store.maxEpochs = threshold := Store.maxEpochs_after initial history
  refine ⟨fun report updated writable accepted => ?_, fun late frame numbers => ?_, ?_⟩
  · refine ⟨_, Store.decode_reply writable accepted, ?_, fun stated => ?_⟩
    · rw [Store.commandFor_eq_stop_iff, kept]
    · rw [Store.commandFor_eq_stop_iff, kept, Request.le_min_lastWireEpoch_iff stated]
  · rw [← kept] at late
    exact ⟨Store.response_ne_stop late frame numbers, Store.decode_ne_stop late frame numbers⟩
  · intro other past frame otherFrame epoch command otherCommand same tells otherTells
    refine tells.command_unique otherTells ?_
    rw [Store.maxEpochs_after, same, kept]

/-- The last epoch of all, with the last threshold that can be stated and with the one behind it. -/
theorem stop_decision_late :
    let store : Store := .fresh ⟨Accumulation.standardStep⟩ 0x7fffffffffffffff
    let later : Store := .fresh ⟨Accumulation.standardStep⟩ 0x8000000000000000
    let report : GradientReport := ⟨"w", 0xffffffffffffffff, [⟨0x3f800000⟩]⟩
    let frame := (Request.gradients report).encode
    Frame.Writable (Request.gradients report).values ∧
    (∃ updated, (store.after [[0xc1]]).apply report.gradient = .ok updated ∧
      updated.weights = [⟨0x3f8147ae⟩] ∧
      Response.decode ((store.after [[0xc1]]).handle frame).response.encode =
        .ok (.weights .stop updated.weights)) ∧
    (0x7fffffffffffffff < later.maxEpochs ∧
      ∀ numbers, ((later.after [[0xc1]]).handle frame).response ≠ .weights .stop numbers) := by
  intro store later report frame
  have writable : Frame.Writable (Request.gradients report).values := by decide
  have accepted : (store.after [[0xc1]]).apply report.gradient = .ok _ :=
    Store.apply_eq_ok_iff.2 ⟨by decide, .inl rfl, rfl⟩
  obtain ⟨command, read, decided, -⟩ :=
    (stop_decision store [[0xc1]]).1 report _ writable accepted
  have behind : 0x7fffffffffffffff < later.maxEpochs := by decide
  refine ⟨writable, ⟨_, accepted, by decide, ?_⟩, behind, fun numbers => ?_⟩
  · rw [read, decided.2 (by decide)]
  · exact ((stop_decision later [[0xc1]]).2.1 behind frame numbers).1

end SharedWeights
