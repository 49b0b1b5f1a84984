/-
**The server as its workers understand it.**

Workers need not know about frames or vectors of weights. To them the server keeps a list of the
gradients that it has accepted, all of one length, and a weight is what they add up to in its place,
with one step for each of them. `Ledger` is that server, on requests and not on frames.

* `weights_record`: one more accepted gradient is one update of all weights;
* `handle_of_read`: a frame that reads as a request is answered as the ledger answers the request;
* `after_encode`, `responses_encode`: so is every run of requests that read back;
* `length_responses_le`: no response is too long to be sent, if no request was.
-/

import SharedWeights.Proofs.Message.Size
import SharedWeights.Proofs.Server.Steps

namespace SharedWeights

/-- A server that keeps the gradients it has accepted, the oldest first. -/
structure Ledger where
  step : Binary32
  maxEpochs : UInt64
  accepted : List (List Binary32)

namespace Ledger

/-- A server with these settings before the first gradient. -/
def opened (settings : Settings) : Ledger := ⟨settings.step, settings.maxEpochs, []⟩

/-- The length of the gradients, settled by the first. -/
def dimension? (ledger : Ledger) : Option Nat := ledger.accepted.head?.map List.length

/-- One weight: from zero on, every accepted gradient adds its number in this place and the
step. -/
def weight (ledger : Ledger) (index : Nat) : Binary32 :=
  ledger.accepted.foldl
    (fun weight gradient => weight + (gradient.getD index Binary32.zero + ledger.step))
    Binary32.zero

/-- All weights. -/
def weights (ledger : Ledger) : List Binary32 :=
  (List.range (ledger.dimension?.getD 0)).map ledger.weight

/-- What is said of a gradient without numbers. -/
def emptiness : String := "rejected gradient: received an empty gradient"

/-- What is said of a gradient of another length than that of the first. -/
def mismatch (expected got : Nat) : String :=
  "rejected gradient: dimension mismatch: the weights have " ++ toString expected ++
    " elements but the gradient has " ++ toString got

/-- Why a gradient is turned away; nothing if it is accepted. -/
def refusal? (ledger : Ledger) (gradient : List Binary32) : Option String :=
  if gradient = [] then some emptiness
  else
    match ledger.dimension? with
    | none => none
    | some expected =>
      if gradient.length = expected then none else some (mismatch expected gradient.length)

/-- The server once it has accepted one more gradient. -/
def record (ledger : Ledger) (gradient : List Binary32) : Ledger :=
  { ledger with accepted := ledger.accepted ++ [gradient] }

/-- The response to a request, and the server after it. -/
def answer (ledger : Ledger) : Request → Response × Ledger
  | .other _ _ => (.acknowledged, ledger)
  | .gradients report =>
    match ledger.refusal? report.gradient with
    | some detail => (.refused detail, ledger)
    | none =>
      let recorded := ledger.record report.gradient
      (.weights (if ledger.maxEpochs ≤ report.epoch then .stop else .goOn) recorded.weights,
        recorded)

/-- The server after requests. -/
def after (ledger : Ledger) (requests : List Request) : Ledger :=
  requests.foldl (fun current request => (current.answer request).2) ledger

/-- The responses to requests, in their order. -/
def responses (ledger : Ledger) : List Request → List Response
  | [] => []
  | request :: later =>
    (ledger.answer request).1 :: (ledger.answer request).2.responses later

/-- The store that holds the same weights. -/
def store (ledger : Ledger) : Store :=
  ⟨⟨ledger.step⟩, ledger.maxEpochs, ledger.dimension?.map fun _ => ledger.weights⟩

theorem store_opened (settings : Settings) : (opened settings).store = settings.store := rfl

/-! ### One gradient -/

theorem dimension?_record (ledger : Ledger) (gradient : List Binary32) :
    (ledger.record gradient).dimension? = some (ledger.dimension?.getD gradient.length) := by
  unfold record dimension?
  cases ledger.accepted <;> rfl

theorem weight_record (ledger : Ledger) (gradient : List Binary32) (index : Nat) :
    (ledger.record gradient).weight index =
      ledger.weight index + (gradient.getD index Binary32.zero + ledger.step) := by
  unfold weight record
  rw [List.foldl_append]
  rfl

/-- Before the first gradient, all weights are zero. -/
theorem weights?_store_getD {ledger : Ledger} {count : Nat}
    (settled : ledger.dimension?.getD count = count) :
    ledger.store.weights?.getD (List.replicate count Binary32.zero) =
      (List.range count).map ledger.weight := by
  obtain ⟨step, maxEpochs, accepted⟩ := ledger
  cases accepted with
  | nil =>
    refine (List.eq_replicate_iff.2 ⟨by simp, fun number member => ?_⟩).symm
    obtain ⟨index, -, rfl⟩ := List.mem_map.1 member
    rfl
  | cons first later =>
    have length : first.length = count := settled
    rw [← length]
    rfl

/-- **One more accepted gradient is one update of all weights.** -/
theorem weights_record {ledger : Ledger} {gradient : List Binary32}
    (settled : ledger.dimension?.getD gradient.length = gradient.length) :
    List.zipWith (fun weight slope => weight + (slope + ledger.step))
        ((List.range gradient.length).map ledger.weight) gradient =
      (ledger.record gradient).weights := by
  have dimension : (ledger.record gradient).dimension?.getD 0 = gradient.length := by
    rw [dimension?_record, settled]
    rfl
  refine List.ext_getElem ?_ fun index within _ => ?_
  · rw [weights, dimension]
    simp
  · have inside : index < gradient.length := by simpa using within
    simp only [weights, List.getElem_zipWith, List.getElem_map, List.getElem_range, weight_record]
    rw [List.getD_eq_getElem?_getD, List.getElem?_eq_getElem inside, Option.getD_some]

/-- A gradient is turned away for one of two reasons, and else fits. -/
theorem refusal?_cases (ledger : Ledger) (gradient : List Binary32) :
    (gradient = [] ∧ ledger.refusal? gradient = some emptiness) ∨
    (gradient ≠ [] ∧ ledger.dimension?.getD gradient.length = gradient.length ∧
      ledger.refusal? gradient = none) ∨
    ∃ expected, gradient ≠ [] ∧ ledger.dimension? = some expected ∧
      gradient.length ≠ expected ∧
      ledger.refusal? gradient = some (mismatch expected gradient.length) := by
  unfold refusal?
  by_cases empty : gradient = []
  · exact .inl ⟨empty, if_pos empty⟩
  · rw [if_neg empty]
    cases ledger.dimension? with
    | none => exact .inr (.inl ⟨empty, rfl, rfl⟩)
    | some expected =>
      by_cases same : gradient.length = expected
      · exact .inr (.inl ⟨empty, same.symm, if_pos same⟩)
      · exact .inr (.inr ⟨expected, empty, rfl, same, if_neg same⟩)

theorem apply_of_accepted {ledger : Ledger} {gradient : List Binary32}
    (something : gradient ≠ [])
    (settled : ledger.dimension?.getD gradient.length = gradient.length) :
    ledger.store.apply gradient = .ok (ledger.record gradient).store := by
  have updated : ledger.store.rule.update
      (ledger.store.weights?.getD (List.replicate gradient.length Binary32.zero)) gradient =
        .ok (ledger.record gradient).weights := by
    rw [weights?_store_getD settled, Accumulation.update, if_pos (by simp)]
    exact congrArg Except.ok (weights_record settled)
  have recorded : (ledger.record gradient).store =
      { ledger.store with weights? := some (ledger.record gradient).weights } := by
    unfold store
    rw [dimension?_record]
    rfl
  rw [Store.apply, if_neg something, recorded]
  dsimp only
  rw [updated]
  rfl

theorem apply_of_mismatch {ledger : Ledger} {gradient : List Binary32} {expected : Nat}
    (something : gradient ≠ []) (settled : ledger.dimension? = some expected)
    (different : gradient.length ≠ expected) :
    ledger.store.apply gradient = .error (.dimensionMismatch expected gradient.length) := by
  have count : ledger.weights.length = expected := by
    simp [weights, settled]
  have kept : ledger.store.weights? = some ledger.weights := by
    unfold store
    rw [settled]
    rfl
  rw [Store.apply, if_neg something, kept]
  dsimp only [Option.getD_some]
  rw [Accumulation.update, count, if_neg different]
  rfl

/-! ### Requests -/

theorem weights_store_record (ledger : Ledger) (gradient : List Binary32) :
    (ledger.record gradient).store.weights = (ledger.record gradient).weights := by
  unfold Store.weights store
  rw [dimension?_record]
  rfl

theorem commandFor_store (ledger : Ledger) (epoch : UInt64) :
    ledger.store.commandFor epoch = if ledger.maxEpochs ≤ epoch then .stop else .goOn := by
  show (if decide (ledger.maxEpochs ≤ epoch) = true then Command.stop else Command.goOn) = _
  by_cases last : ledger.maxEpochs ≤ epoch <;> simp [last]

/-- **A frame that reads as a request is answered as the ledger answers the request.** -/
theorem handle_of_read {frame : Bytes} {request : Request}
    (read : Request.decode frame = .ok request) (ledger : Ledger) :
    (ledger.store.handle frame).response = (ledger.answer request).1 ∧
      (ledger.store.handle frame).store = (ledger.answer request).2.store := by
  cases request with
  | other workerId messageType =>
    rw [Store.handle_of_answered read rfl]
    exact ⟨rfl, rfl⟩
  | gradients report =>
    rcases ledger.refusal?_cases report.gradient with
      ⟨empty, refused⟩ | ⟨something, settled, accepted⟩ |
        ⟨expected, something, settled, different, refused⟩
    · have turned : ledger.store.apply report.gradient = .error .emptyGradient := by
        rw [Store.apply, if_pos empty]
      rw [Store.handle_of_refused read (Store.reply_of_refused turned), answer, refused]
      exact ⟨rfl, rfl⟩
    · have met := apply_of_accepted something settled
      rw [Store.handle_of_answered read (Store.reply_of_updated met), answer, accepted,
        weights_store_record, commandFor_store]
      exact ⟨rfl, rfl⟩
    · have turned := apply_of_mismatch something settled different
      rw [Store.handle_of_refused read (Store.reply_of_refused turned), answer, refused]
      exact ⟨rfl, rfl⟩

/-- **A run of requests that read back leaves the store of the ledger.** -/
theorem after_encode {requests : List Request}
    (read : ∀ request ∈ requests, Request.decode request.encode = .ok request) (ledger : Ledger) :
    ledger.store.after (requests.map Request.encode) = (ledger.after requests).store := by
  induction requests generalizing ledger with
  | nil => rfl
  | cons request later ih =>
    have onward := ih fun other member => read other (List.mem_cons_of_mem _ member)
    rw [List.map_cons, Store.after_cons, (handle_of_read (read _ List.mem_cons_self) ledger).2,
      onward]
    rfl

/-- **A run of requests that read back gets the responses of the ledger.** -/
theorem responses_encode {requests : List Request}
    (read : ∀ request ∈ requests, Request.decode request.encode = .ok request) (ledger : Ledger) :
    ledger.store.responses (requests.map Request.encode) = ledger.responses requests := by
  induction requests generalizing ledger with
  | nil => rfl
  | cons request later ih =>
    have onward := ih fun other member => read other (List.mem_cons_of_mem _ member)
    obtain ⟨response, store⟩ := handle_of_read (read _ List.mem_cons_self) ledger
    rw [List.map_cons, Store.responses, response, store, onward, responses]

/-! ### Lengths -/

theorem size_mismatch_le {expected got : Nat} (first : expected ≤ Frame.maxLength)
    (second : got ≤ Frame.maxLength) :
    (mismatch expected got).utf8ByteSize ≤ 56 + 40 + 31 + 40 :=
  Text.size_append_le (Text.size_append_le (Text.size_append_le (by decide)
    (Text.size_length_le first)) (by decide)) (Text.size_length_le second)

/-- The ledger keeps no gradient that would be too long to be sent. -/
def Short (ledger : Ledger) : Prop :=
  ∀ dimension ∈ ledger.dimension?, dimension ≤ Frame.maxLength

theorem length_gradient_le {report : GradientReport}
    (allowed : (Request.gradients report).encode.length ≤ Frame.maxLength) :
    report.gradient.length ≤ Frame.maxLength := by
  have blob := Frame.length_write_le_encode
    (show Value.bin (Binary32.toBlob report.gradient) ∈ (Request.gradients report).values by
      simp [Request.values])
  have length := Binary32.length_toBlob report.gradient
  rw [MessagePack.write, MessagePack.length_ofBlob] at blob
  unfold Request.encode at allowed
  omega

/-- **A request that may be sent gets a response that may be sent**, and leaves the ledger short. -/
theorem short_answer {ledger : Ledger} (short : ledger.Short) {request : Request}
    (allowed : request.encode.length ≤ Frame.maxLength) :
    (ledger.answer request).2.Short ∧
      (ledger.answer request).1.encode.length ≤ Frame.maxLength := by
  cases request with
  | other workerId messageType =>
    exact ⟨short, show Response.acknowledgement.length ≤ Frame.maxLength by decide⟩
  | gradients report =>
    have fits := length_gradient_le allowed
    rcases ledger.refusal?_cases report.gradient with
      ⟨_, refused⟩ | ⟨_, settled, accepted⟩ | ⟨expected, _, settled, _, refused⟩
    · rw [answer, refused]
      exact ⟨short, show (Response.refused emptiness).encode.length ≤ Frame.maxLength by decide⟩
    · rw [answer, accepted]
      have dimension : (ledger.record report.gradient).dimension? =
          some report.gradient.length := by
        rw [dimension?_record, settled]
      refine ⟨fun number member => ?_, ?_⟩
      · rw [dimension] at member
        cases member
        exact fits
      · have count : (ledger.record report.gradient).weights.length = report.gradient.length := by
          rw [weights, dimension]
          simp
        exact Nat.le_trans (Response.length_encode_weights_le _ count) allowed
    · rw [answer, refused]
      have limit : Frame.maxLength = 1073741824 := by decide
      have words := size_mismatch_le (short expected settled) fits
      have frame := Response.length_encode_refused_le (mismatch expected report.gradient.length)
      exact ⟨short, show _ ≤ _ by dsimp only; omega⟩

theorem short_opened (settings : Settings) : (opened settings).Short := by
  intro dimension member
  cases member

theorem length_responses_le {ledger : Ledger} (short : ledger.Short) {requests : List Request}
    (allowed : ∀ request ∈ requests, request.encode.length ≤ Frame.maxLength) :
    ∀ response ∈ ledger.responses requests, response.encode.length ≤ Frame.maxLength := by
  induction requests generalizing ledger with
  | nil => exact fun response member => absurd member List.not_mem_nil
  | cons request later ih =>
    obtain ⟨still, first⟩ := short_answer short (allowed _ List.mem_cons_self)
    intro response member
    rcases List.mem_cons.1 member with rfl | member
    · exact first
    · exact ih still (fun other among => allowed other (List.mem_cons_of_mem _ among)) response
        member

end Ledger

end SharedWeights
