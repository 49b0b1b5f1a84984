/-
**What one frame can do to a server.**

A frame is unreadable, or a message that is acknowledged, or a gradient that is refused, or one that
is added to the weights. `Step` says what the response is in each case and what becomes of the
store; whatever holds along a run is shown from these four cases:

* `step_handle`: a frame takes one of the four steps;
* `kept_after`: what every step keeps is kept by a run.
-/

import SharedWeights.Proofs.Server.Runs

namespace SharedWeights.Store

/-- What a frame can do to a server: the response to it and the store after it. -/
inductive Step (store : Store) (frame : Bytes) : Response → Store → Prop
  | unreadable {reason : DecodeError} (unreadable : Request.decode frame = .error reason) :
    Step store frame (.refused (ServerError.decode reason).message) store
  | acknowledged {workerId messageType : String}
      (read : Request.decode frame = .ok (.other workerId messageType)) :
    Step store frame .acknowledged store
  | refused {report : GradientReport} {reason : StoreError}
      (read : Request.decode frame = .ok (.gradients report))
      (refused : store.apply report.gradient = .error reason) :
    Step store frame (.refused (ServerError.store reason).message) store
  | updated {report : GradientReport} {updated : Store}
      (read : Request.decode frame = .ok (.gradients report))
      (applied : store.apply report.gradient = .ok updated) :
    Step store frame (.weights (updated.commandFor report.epoch) updated.weights) updated

theorem reply_of_refused {store : Store} {report : GradientReport} {reason : StoreError}
    (refused : store.apply report.gradient = .error reason) :
    store.reply (.gradients report) = .error reason := by
  rw [reply, refused]
  rfl

theorem reply_of_updated {store updated : Store} {report : GradientReport}
    (applied : store.apply report.gradient = .ok updated) :
    store.reply (.gradients report) =
      .ok (.weights (updated.commandFor report.epoch) updated.weights, updated) := by
  rw [reply, applied]
  rfl

/-- **A frame does one of four things.** -/
theorem step_handle (store : Store) (frame : Bytes) :
    store.Step frame (store.handle frame).response (store.handle frame).store := by
  cases read : Request.decode frame with
  | error reason =>
    rw [handle_of_unreadable read]
    exact .unreadable read
  | ok request =>
    cases request with
    | other workerId messageType =>
      rw [handle_of_answered read rfl]
      exact .acknowledged read
    | gradients report =>
      cases applied : store.apply report.gradient with
      | error reason =>
        rw [handle_of_refused read (reply_of_refused applied)]
        exact .refused read applied
      | ok updated =>
        rw [handle_of_answered read (reply_of_updated applied)]
        exact .updated read applied

/-- What every frame keeps, a run keeps. -/
theorem kept_after {Kept : Store → Prop} {frames : List Bytes}
    (keeps : ∀ frame ∈ frames, ∀ {store response updated},
      Step store frame response updated → Kept store → Kept updated)
    {store : Store} (start : Kept store) : Kept (store.after frames) := by
  induction frames generalizing store with
  | nil => exact start
  | cons frame later ih =>
    rw [after_cons]
    refine ih (fun other member => keeps other (List.mem_cons_of_mem _ member)) ?_
    exact keeps frame List.mem_cons_self (step_handle store frame) start

end SharedWeights.Store
