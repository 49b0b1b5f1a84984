/-
**The weights add up.**

Whatever else is sent to a server, its weights are what the gradients add up to that it answered
with weights: in each place, from zero on, every one of these gradients adds its number there and
the step. So are the weights in each of the answers, with the gradients up to the one that is
answered.

* `step_cases`: a frame is recorded in the ledger exactly if it is answered with weights;
* `after_eq`, `sent_getElem?`: so a run comes to the ledger of the gradients that it answers so, and
  each answer to the ledger of the gradients up to its own;
* `accumulation_law`: each weight is a running sum of binary32 numbers, at the end of any run and in
  each of its answers.
-/

import SharedWeights.Proofs.Binary32.Arithmetic
import SharedWeights.Proofs.Server.Ledger

namespace SharedWeights

/-! ### What was accepted, and what was sent -/

/-- The numbers of a frame that reads as a gradient. -/
def Request.gradientOf? (frame : Bytes) : Option (List Binary32) :=
  match Request.decode frame with
  | .ok (.gradients report) => some report.gradient
  | _ => none

/-- The weights in a response. -/
def Response.numbers? : Response → Option (List Binary32)
  | .weights _ numbers => some numbers
  | _ => none

/-- The gradient of a frame that is answered with weights. -/
def Request.counted? (frame : Bytes) (response : Response) : Option (List Binary32) :=
  response.numbers?.bind fun _ => gradientOf? frame

/-- The gradients of the frames that are answered with weights, in their order. -/
def Store.accepted (store : Store) (frames : List Bytes) : List (List Binary32) :=
  (frames.zip (store.responses frames)).filterMap fun (frame, response) =>
    Request.counted? frame response

/-- The weights that the frames are answered with, in their order. -/
def Store.sent (store : Store) (frames : List Bytes) : List (List Binary32) :=
  (store.responses frames).filterMap Response.numbers?

theorem Store.accepted_cons (store : Store) (frame : Bytes) (later : List Bytes) :
    store.accepted (frame :: later) =
      (Request.counted? frame (store.handle frame).response).toList ++
        (store.handle frame).store.accepted later := by
  rw [accepted, responses, List.zip_cons_cons, List.filterMap_cons]
  cases counted : Request.counted? frame (store.handle frame).response <;> simp only [counted] <;>
    rfl

theorem Store.sent_cons (store : Store) (frame : Bytes) (later : List Bytes) :
    store.sent (frame :: later) =
      (store.handle frame).response.numbers?.toList ++ (store.handle frame).store.sent later := by
  rw [sent, responses, List.filterMap_cons]
  cases (store.handle frame).response.numbers? <;> rfl

/-- What gradients add up to in one place, with a step for each of them. -/
def total (step : Binary32) (gradients : List (List Binary32)) (index : Nat) : Float32 :=
  gradients.foldl
    (fun sum gradient =>
      sum + ((gradient.getD index Binary32.zero).toFloat32 + step.toFloat32)) 0

namespace Ledger

/-- The ledger with further gradients in it. -/
def recordAll (ledger : Ledger) (gradients : List (List Binary32)) : Ledger :=
  { ledger with accepted := ledger.accepted ++ gradients }

theorem recordAll_nil (ledger : Ledger) : ledger.recordAll [] = ledger := by
  rw [recordAll, List.append_nil]

theorem recordAll_cons (ledger : Ledger) (gradient : List Binary32)
    (later : List (List Binary32)) :
    ledger.recordAll (gradient :: later) = (ledger.record gradient).recordAll later := by
  rw [recordAll, record, recordAll, List.append_assoc, List.singleton_append]

/-- The first gradient has settled the dimension of all that follow. -/
theorem dimension?_recordAll_take (ledger : Ledger) (gradients : List (List Binary32))
    (count : Nat) :
    (ledger.recordAll (gradients.take (count + 1))).dimension? =
      (ledger.recordAll gradients).dimension? := by
  rw [dimension?, dimension?, recordAll, recordAll, List.head?_append, List.head?_append,
    List.head?_take, if_neg (Nat.succ_ne_zero count)]

/-! ### One frame -/

theorem apply_eq_ok {ledger : Ledger} {gradient : List Binary32} {updated : Store}
    (applied : ledger.store.apply gradient = .ok updated) :
    ledger.dimension?.getD gradient.length = gradient.length ∧
      updated = (ledger.record gradient).store := by
  rcases ledger.refusal?_cases gradient with
    ⟨empty, -⟩ | ⟨something, settled, -⟩ | ⟨expected, something, settled, different, -⟩
  · rw [Store.apply, if_pos empty] at applied
    cases applied
  · rw [apply_of_accepted something settled] at applied
    cases applied
    exact ⟨settled, rfl⟩
  · rw [apply_of_mismatch something settled different] at applied
    cases applied

/-- **A frame is recorded exactly if it is answered with weights**, and these are the weights that
its own gradient is counted in. -/
theorem step_cases {ledger : Ledger} {frame : Bytes} {response : Response} {updated : Store}
    (step : ledger.store.Step frame response updated) :
    (response.numbers? = none ∧ updated = ledger.store) ∨
    ∃ gradient, Request.gradientOf? frame = some gradient ∧
      ledger.dimension?.getD gradient.length = gradient.length ∧
      response.numbers? = some (ledger.record gradient).weights ∧
      updated = (ledger.record gradient).store := by
  cases step with
  | unreadable | acknowledged | refused => exact .inl ⟨rfl, rfl⟩
  | @updated report updated read applied =>
    obtain ⟨settled, rfl⟩ := apply_eq_ok applied
    have gradient : Request.gradientOf? frame = some report.gradient := by
      rw [Request.gradientOf?, read]
    refine .inr ⟨report.gradient, gradient, settled, ?_, rfl⟩
    rw [weights_store_record, Response.numbers?]

/-! ### Runs -/

/-- All gradients that are kept have the length that the first of them has settled. -/
def Even (ledger : Ledger) : Prop :=
  ∀ gradient ∈ ledger.accepted, ledger.dimension? = some gradient.length

theorem even_opened (settings : Settings) : (opened settings).Even :=
  fun _ member => absurd member List.not_mem_nil

theorem even_record {ledger : Ledger} (even : ledger.Even) {gradient : List Binary32}
    (settled : ledger.dimension?.getD gradient.length = gradient.length) :
    (ledger.record gradient).Even := by
  intro other member
  rw [dimension?_record]
  rcases List.mem_append.1 member with earlier | last
  · rw [even other earlier, Option.getD_some]
  · rw [List.mem_singleton.1 last, settled]

/-- What the first of some frames does to the ledger, and to what is made of the others. -/
theorem cons_cases (ledger : Ledger) (frame : Bytes) (later : List Bytes) :
    ((ledger.store.handle frame).store = ledger.store ∧
      ledger.store.accepted (frame :: later) = ledger.store.accepted later ∧
      ledger.store.sent (frame :: later) = ledger.store.sent later) ∨
    ∃ gradient, ledger.dimension?.getD gradient.length = gradient.length ∧
      (ledger.store.handle frame).store = (ledger.record gradient).store ∧
      ledger.store.accepted (frame :: later) =
        gradient :: (ledger.record gradient).store.accepted later ∧
      ledger.store.sent (frame :: later) =
        (ledger.record gradient).weights :: (ledger.record gradient).store.sent later := by
  rcases step_cases (Store.step_handle ledger.store frame) with
    ⟨none, same⟩ | ⟨gradient, read, settled, sent, recorded⟩
  · have uncounted : Request.counted? frame (ledger.store.handle frame).response = .none := by
      rw [Request.counted?, none]
      rfl
    refine .inl ⟨same, ?_, ?_⟩
    · rw [Store.accepted_cons, uncounted, same]
      rfl
    · rw [Store.sent_cons, none, same]
      rfl
  · have counted : Request.counted? frame (ledger.store.handle frame).response = some gradient := by
      rw [Request.counted?, sent, read]
      rfl
    refine .inr ⟨gradient, settled, recorded, ?_, ?_⟩
    · rw [Store.accepted_cons, counted, recorded]
      rfl
    · rw [Store.sent_cons, sent, recorded]
      rfl

/-- **A run records the gradients that it answers with weights**, and no others. -/
theorem after_eq (ledger : Ledger) (frames : List Bytes) :
    ledger.store.after frames = (ledger.recordAll (ledger.store.accepted frames)).store := by
  induction frames generalizing ledger with
  | nil => exact congrArg store ledger.recordAll_nil.symm
  | cons frame later ih =>
    rcases ledger.cons_cases frame later with
      ⟨same, accepted, -⟩ | ⟨gradient, -, recorded, accepted, -⟩
    · rw [Store.after_cons, same, accepted, ih]
    · rw [Store.after_cons, recorded, accepted, recordAll_cons, ih]

/-- **Each answer with weights** has those that the gradients up to its own come to. -/
theorem sent_getElem? (ledger : Ledger) (frames : List Bytes) (count : Nat) :
    (ledger.store.sent frames)[count]? = (ledger.store.accepted frames)[count]?.map fun _ =>
      (ledger.recordAll ((ledger.store.accepted frames).take (count + 1))).weights := by
  induction frames generalizing ledger count with
  | nil => rfl
  | cons frame later ih =>
    rcases ledger.cons_cases frame later with
      ⟨-, accepted, sent⟩ | ⟨gradient, -, -, accepted, sent⟩
    · rw [accepted, sent, ih]
    · rw [accepted, sent, List.take_succ_cons, recordAll_cons]
      -- the first answer counts the first gradient alone, the others go on from it
      cases count with
      | zero => simp [recordAll_nil]
      | succ count => rw [List.getElem?_cons_succ, List.getElem?_cons_succ, ih]

theorem length_sent (ledger : Ledger) (frames : List Bytes) :
    (ledger.store.sent frames).length = (ledger.store.accepted frames).length := by
  induction frames generalizing ledger with
  | nil => rfl
  | cons frame later ih =>
    rcases ledger.cons_cases frame later with
      ⟨-, accepted, sent⟩ | ⟨gradient, -, -, accepted, sent⟩
    · rw [accepted, sent, ih]
    · rw [accepted, sent, List.length_cons, List.length_cons, ih]

theorem even_recordAll {ledger : Ledger} (even : ledger.Even) (frames : List Bytes) :
    (ledger.recordAll (ledger.store.accepted frames)).Even := by
  induction frames generalizing ledger with
  | nil => exact ledger.recordAll_nil.symm ▸ even
  | cons frame later ih =>
    rcases ledger.cons_cases frame later with
      ⟨-, accepted, -⟩ | ⟨gradient, settled, -, accepted, -⟩
    · rw [accepted]
      exact ih even
    · rw [accepted, recordAll_cons]
      exact ih (even_record even settled)

/-! ### Weights as sums -/

theorem weights_store (ledger : Ledger) : ledger.store.weights = ledger.weights := by
  unfold Store.weights store weights
  cases ledger.dimension? <;> rfl

theorem length_weights (ledger : Ledger) : ledger.weights.length = ledger.dimension?.getD 0 := by
  rw [weights, List.length_map, List.length_range]

theorem weight_eq (ledger : Ledger) (index : Nat) :
    ledger.weight index = .ofFloat32 (total ledger.step ledger.accepted index) := by
  rw [weight, total, ← Binary32.ofFloat32_zero]
  exact Binary32.foldl_add_ofFloat32 _ _ 0

theorem weights_getElem? {ledger : Ledger} {index : Nat} (inside : index < ledger.weights.length) :
    ledger.weights[index]? = some (.ofFloat32 (total ledger.step ledger.accepted index)) := by
  rw [length_weights] at inside
  rw [weights, List.getElem?_map, List.getElem?_range inside, Option.map_some, weight_eq]

end Ledger

/-- **The law of accumulation.** After any run, each weight is what the gradients that were answered
with weights add up to in its place, one after the other and each with the step; and the weights in
each of these answers are what the gradients up to the one that it answers add up to, whatever other
frames there were. -/
theorem accumulation_law (settings : Settings) (frames : List Bytes) :
    let store := settings.store.after frames
    let accepted := settings.store.accepted frames
    let sent := settings.store.sent frames
    (∀ gradient ∈ accepted, gradient.length = store.dimension) ∧
    (∀ index < store.dimension, store.weights[index]? =
      some (Binary32.ofFloat32 (total settings.step accepted index))) ∧
    sent.length = accepted.length ∧
    ∀ (count : Nat) (numbers : List Binary32), sent[count]? = some numbers →
      numbers.length = store.dimension ∧
      ∀ index < store.dimension, numbers[index]? =
        some (Binary32.ofFloat32 (total settings.step (accepted.take (count + 1)) index)) := by
  intro store accepted sent
  let ledger (gradients : List (List Binary32)) := (Ledger.opened settings).recordAll gradients
  have held : store.weights = (ledger accepted).weights := by
    rw [← Ledger.weights_store]
    exact congrArg Store.weights (Ledger.after_eq (.opened settings) frames)
  have answered (count : Nat) :
      sent[count]? = accepted[count]?.map fun _ => (ledger (accepted.take (count + 1))).weights :=
    Ledger.sent_getElem? (.opened settings) frames count
  have even : (ledger accepted).Even :=
    Ledger.even_recordAll (Ledger.even_opened settings) frames
  refine ⟨fun gradient member => ?_, fun index inside => ?_, ?_, fun count numbers found => ?_⟩
  · rw [Store.dimension, held, Ledger.length_weights, even gradient member, Option.getD_some]
  · rw [Store.dimension, held] at inside
    rw [held]
    exact Ledger.weights_getElem? inside
  · exact Ledger.length_sent (.opened settings) frames
  · obtain ⟨gradient, -, rfl⟩ := Option.map_eq_some_iff.1 ((answered count).symm.trans found)
    have same : (ledger (accepted.take (count + 1))).weights.length = store.dimension := by
      rw [Store.dimension, held, Ledger.length_weights, Ledger.length_weights,
        Ledger.dimension?_recordAll_take]
    exact ⟨same, fun index inside => Ledger.weights_getElem? (same ▸ inside)⟩

end SharedWeights
