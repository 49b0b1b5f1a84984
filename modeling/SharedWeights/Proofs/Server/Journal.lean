/-
**The journal tells what happened to each request.**

What a server puts on record of a request depends only on what becomes of it, and in each of four
cases it is something else: a warning alone, or a message that was understood, and behind a gradient
either a warning or the weights that were sent. So the journal of a run tells what became of each
request, by its level and its words alone:

* `recorded_handle`: what is put on record of one frame, with the response to it;
* `Recorded.warnings`, `Recorded.sent`, `Recorded.measures`: what that tells of the frame;
* `warnings_journal`, `sent_journal`: what the journal of a run tells of the run;
* `telling_runQueue`: the serving loop puts nothing else on record that could be taken for it;
* `journal_tells`: all of this together.
-/

import SharedWeights.Proofs.Server.Queue
import SharedWeights.Proofs.Server.Steps

namespace SharedWeights

/-! ### Records of requests -/

namespace Record

/-- A message was understood. -/
def request (workerId messageType : String) (frame : Bytes) : Record :=
  ⟨.info, "got msg",
    [("worker_id", workerId), ("msgtype", messageType), ("len", toString frame.length)]⟩

/-- A gradient is about to be added. -/
def gradient (report : GradientReport) : Record :=
  ⟨.debug, s!"got grads[{report.gradient.length}] " ++ Event.preview report.gradient,
    [("worker_id", report.workerId), ("epoch", toString report.epoch.toNat)]⟩

/-- Weights go back. -/
def sent (report : GradientReport) (command : Command) (weights : List Binary32) : Record :=
  ⟨.debug, "sent " ++ command.name ++ s!" wgts[{weights.length}] " ++ Event.preview weights,
    [("worker_id", report.workerId), ("epoch", toString report.epoch.toNat)]⟩

/-- How a warning begins. -/
def complaint : String := "failed to handle request: "

/-- A request could not be met. -/
def warning (detail : String) (frame : Bytes) : Record :=
  ⟨.warn, complaint ++ detail, [("len", toString frame.length)]⟩

/-- A record is a warning. -/
def isWarning (record : Record) : Bool := decide (record.level = .warn)

/-- A record says that a message was understood. -/
def tellsRequest (record : Record) : Bool := decide (record.message = "got msg")

/-- A record says that weights go back. -/
def tellsSent (record : Record) : Bool := "sent ".toList.isPrefixOf record.message.toList

theorem tellsSent_request (workerId messageType : String) (frame : Bytes) :
    (request workerId messageType frame).tellsSent = false := by
  simp [tellsSent, request, List.isPrefixOf]

theorem toList_gradient (report : GradientReport) :
    (gradient report).message.toList = "got grads[".toList ++
      ((toString report.gradient.length ++ "] ").toList ++
        (Event.preview report.gradient).toList) := by
  rw [← String.toList_append, ← String.toList_append, ← String.append_assoc,
    ← String.append_assoc]
  rfl

theorem tellsSent_gradient (report : GradientReport) : (gradient report).tellsSent = false := by
  rw [tellsSent, toList_gradient]
  simp [List.isPrefixOf]

theorem tellsSent_sent (report : GradientReport) (command : Command) (weights : List Binary32) :
    (sent report command weights).tellsSent = true := by
  simp [tellsSent, sent, List.isPrefixOf]

theorem tellsSent_warning (detail : String) (frame : Bytes) :
    (warning detail frame).tellsSent = false := by
  simp [tellsSent, warning, complaint, List.isPrefixOf]

/-- A record comes with the length of a frame, if it is a warning or says that a message was
understood. -/
def Measures (frame : Bytes) (record : Record) : Prop :=
  record.isWarning = true ∨ record.tellsRequest = true →
    record.fields.lookup "len" = some (toString frame.length)

theorem measures_request (workerId messageType : String) (frame : Bytes) :
    (request workerId messageType frame).Measures frame := fun _ => rfl

theorem measures_warning (detail : String) (frame : Bytes) :
    (warning detail frame).Measures frame := fun _ => rfl

/-- The record of a gradient is neither a warning nor taken for a message that was understood. -/
theorem measures_gradient (report : GradientReport) (frame : Bytes) :
    (gradient report).Measures frame := by
  rintro (warns | same)
  · simp [isWarning, gradient] at warns
  · have letters := congrArg String.toList (of_decide_eq_true same)
    rw [toList_gradient] at letters
    simp at letters

/-- Nor is the record of weights. -/
theorem measures_sent (report : GradientReport) (command : Command) (weights : List Binary32)
    (frame : Bytes) : (sent report command weights).Measures frame := by
  rintro (warns | same)
  · simp [isWarning, sent] at warns
  · have letters := congrArg String.toList (of_decide_eq_true same)
    simp [sent] at letters

/-- A record says what happened to a request. -/
def isTelling (record : Record) : Bool :=
  record.isWarning || record.tellsRequest || record.tellsSent

end Record

/-- The reason in a refusal. -/
def Response.detail? : Response → Option String
  | .refused detail => some detail
  | _ => none

namespace Store

/-! ### One frame -/

/-- What is put on record while a frame is handled. -/
def recordsOf (store : Store) (frame : Bytes) : List Record :=
  (store.handle frame).events.map Event.record

/-- Whether a frame holds a gradient that is added to the weights. -/
def takes (store : Store) (frame : Bytes) : Bool :=
  match Request.decode frame with
  | .ok (.gradients report) => (store.apply report.gradient).isOk
  | _ => false

/-- The response to a frame, and what is put on record of it: a warning if it can't be read; the
message alone if it is no gradient; and behind the message and the gradient a warning if that is
refused, or the weights that are sent. -/
inductive Recorded (store : Store) (frame : Bytes) : Response → List Record → Prop
  | unreadable {reason : DecodeError} (unreadable : Request.decode frame = .error reason) :
    Recorded store frame (.refused (ServerError.decode reason).message)
      [.warning (ServerError.decode reason).message frame]
  | acknowledged {workerId messageType : String}
      (read : Request.decode frame = .ok (.other workerId messageType)) :
    Recorded store frame .acknowledged [.request workerId messageType frame]
  | refused {report : GradientReport} {reason : StoreError}
      (read : Request.decode frame = .ok (.gradients report))
      (refused : store.apply report.gradient = .error reason) :
    Recorded store frame (.refused (ServerError.store reason).message)
      [.request report.workerId Request.gradientsType frame, .gradient report,
        .warning (ServerError.store reason).message frame]
  | updated {report : GradientReport} {updated : Store}
      (read : Request.decode frame = .ok (.gradients report))
      (applied : store.apply report.gradient = .ok updated) :
    Recorded store frame (.weights (updated.commandFor report.epoch) updated.weights)
      [.request report.workerId Request.gradientsType frame, .gradient report,
        .sent report (updated.commandFor report.epoch) updated.weights]

/-- **What is put on record of a frame is one of the four.** -/
theorem recorded_handle (store : Store) (frame : Bytes) :
    store.Recorded frame (store.handle frame).response (store.recordsOf frame) := by
  rw [recordsOf]
  cases read : Request.decode frame with
  | error reason =>
    rw [handle_of_unreadable read]
    exact .unreadable read
  | ok request =>
    cases request with
    | other workerId messageType =>
      rw [handle_of_answered read rfl]
      exact .acknowledged read
    | gradients report =>
      cases applied : store.apply report.gradient with
      | error reason =>
        rw [handle_of_refused read (reply_of_refused applied)]
        exact .refused read applied
      | ok updated =>
        rw [handle_of_answered read (reply_of_updated applied)]
        exact .updated read applied

section Recorded

variable {store : Store} {frame : Bytes} {response : Response} {records : List Record}

/-- There is a warning exactly if the frame is refused, and in the words of the refusal. -/
theorem Recorded.warnings (recorded : store.Recorded frame response records) :
    (records.filter Record.isWarning).map Record.message =
      response.detail?.toList.map (Record.complaint ++ ·) := by
  cases recorded <;> rfl

/-- Weights are sent exactly if a gradient is added. -/
theorem Recorded.sent (recorded : store.Recorded frame response records) :
    records.countP Record.tellsSent = (store.takes frame).toNat := by
  unfold takes
  cases recorded with
  | unreadable unreadable =>
    rw [unreadable]
    simp [Record.tellsSent_warning]
  | acknowledged read =>
    rw [read]
    simp [Record.tellsSent_request]
  | refused read refused =>
    rw [read]
    dsimp only
    rw [refused]
    simp [Record.tellsSent_request, Record.tellsSent_gradient, Record.tellsSent_warning,
      Except.isOk, Except.toBool]
  | updated read applied =>
    rw [read]
    dsimp only
    rw [applied]
    simp [Record.tellsSent_request, Record.tellsSent_gradient, Record.tellsSent_sent, Except.isOk,
      Except.toBool]

/-- A warning says why its own frame was refused. -/
theorem Recorded.detail_of_warning (recorded : store.Recorded frame response records)
    {record : Record} (member : record ∈ records) (warns : record.isWarning = true) :
    ∃ detail, response = .refused detail ∧ record.message = Record.complaint ++ detail := by
  have among : record.message ∈ (records.filter Record.isWarning).map Record.message :=
    List.mem_map_of_mem (List.mem_filter.2 ⟨member, warns⟩)
  rw [recorded.warnings] at among
  obtain ⟨detail, isDetail, same⟩ := List.mem_map.1 among
  cases response with
  | refused words =>
    cases List.mem_singleton.1 isDetail
    exact ⟨detail, rfl, same.symm⟩
  | weights | acknowledged => cases isDetail

/-- A warning or a message that was understood comes with the length of its own frame. -/
theorem Recorded.measures (recorded : store.Recorded frame response records) :
    ∀ record ∈ records, record.Measures frame := by
  cases recorded with
  | unreadable => exact List.forall_mem_singleton.2 (Record.measures_warning _ frame)
  | acknowledged => exact List.forall_mem_singleton.2 (Record.measures_request _ _ frame)
  | @refused report =>
    refine List.forall_mem_cons.2 ⟨Record.measures_request _ _ frame, ?_⟩
    refine List.forall_mem_cons.2 ⟨Record.measures_gradient report frame, ?_⟩
    exact List.forall_mem_singleton.2 (Record.measures_warning _ frame)
  | @updated report =>
    refine List.forall_mem_cons.2 ⟨Record.measures_request _ _ frame, ?_⟩
    refine List.forall_mem_cons.2 ⟨Record.measures_gradient report frame, ?_⟩
    exact List.forall_mem_singleton.2 (Record.measures_sent report _ _ frame)

end Recorded

/-! ### Runs -/

/-- What is put on record while frames are handled, frame by frame. -/
def journal (store : Store) : List Bytes → List (List Record)
  | [] => []
  | frame :: later => store.recordsOf frame :: (store.handle frame).store.journal later

/-- How many updates frames make to the weights. -/
def updates (store : Store) : List Bytes → Nat
  | [] => 0
  | frame :: later => (store.takes frame).toNat + (store.handle frame).store.updates later

/-- **The warnings of a run are its refusals**, in their order and in their words. -/
theorem warnings_journal (store : Store) (frames : List Bytes) :
    ((store.journal frames).flatten.filter Record.isWarning).map Record.message =
      ((store.responses frames).filterMap Response.detail?).map (Record.complaint ++ ·) := by
  induction frames generalizing store with
  | nil => rfl
  | cons frame later ih =>
    rw [journal, List.flatten_cons, List.filter_append, List.map_append,
      (recorded_handle store frame).warnings, ih, responses, List.filterMap_cons]
    cases (store.handle frame).response.detail? <;> rfl

/-- **Weights are sent as often as weights are updated.** -/
theorem sent_journal (store : Store) (frames : List Bytes) :
    (store.journal frames).flatten.countP Record.tellsSent = store.updates frames := by
  induction frames generalizing store with
  | nil => rfl
  | cons frame later ih =>
    rw [journal, List.flatten_cons, List.countP_append, (recorded_handle store frame).sent, ih,
      updates]

/-- In each place of a run a frame is answered, and put on record, by the store after those before
it. -/
theorem place_of_run (store : Store) {frames : List Bytes} {place : Nat} {frame : Bytes}
    (stands : frames[place]? = some frame) :
    (store.responses frames)[place]? =
        some ((store.after (frames.take place)).handle frame).response ∧
      (store.journal frames)[place]? = some ((store.after (frames.take place)).recordsOf frame) := by
  induction frames generalizing store place with
  | nil => cases stands
  | cons first later ih =>
    cases place with
    | zero =>
      cases stands
      exact ⟨rfl, rfl⟩
    | succ place => exact ih (store.handle first).store stands

/-- **The serving loop adds nothing** that could be taken for what happened to a request. -/
theorem telling_runQueue (store : Store) (queue : List Exchange) :
    ((store.runQueue queue).events.map Event.record).filter Record.isTelling =
      (store.journal (queue.map Exchange.frame)).flatten.filter Record.isTelling := by
  induction queue generalizing store with
  | nil =>
    show [Event.idle.record].filter Record.isTelling = []
    decide
  | cons exchange rest ih =>
    have lost : ((if exchange.isAwaited then [] else [Event.replyLost]).map
        Event.record).filter Record.isTelling = [] := by
      cases exchange.isAwaited <;> decide
    rw [runQueue_cons]
    dsimp only
    rw [List.map_append, List.map_append, List.filter_append, List.filter_append, lost, ih,
      List.append_nil, List.map_cons, journal, List.flatten_cons, List.filter_append, recordsOf]

end Store

/-- **The journal tells what happened to each request.** Of every frame one of four things is put on
record, by what becomes of it. So over every run there are as many warnings as refusals, in the same
order, and each is the reason that was sent to the worker with the same words in front; weights are
sent as often as weights are updated; and what is put on record of a frame, the warning that it is
refused or the message that was understood, comes with the length of that frame. The serving loop
adds nothing that could be taken for any of these. -/
theorem journal_tells (store : Store) (frames : List Bytes) :
    let responses := store.responses frames
    let records := (store.journal frames).flatten
    (∀ frame, store.Recorded frame (store.handle frame).response (store.recordsOf frame)) ∧
    records.countP Record.isWarning = responses.countP (fun response => response.detail?.isSome) ∧
    (records.filter Record.isWarning).map Record.message =
      (responses.filterMap Response.detail?).map ("failed to handle request: " ++ ·) ∧
    records.countP Record.tellsSent = store.updates frames ∧
    (∀ (place : Nat) (frame : Bytes), frames[place]? = some frame →
      ∃ (response : Response) (entries : List Record), responses[place]? = some response ∧
      (store.journal frames)[place]? = some entries ∧
      (∀ record ∈ entries, record.isWarning = true → ∃ detail,
        response = .refused detail ∧ record.message = "failed to handle request: " ++ detail) ∧
      ∀ record ∈ entries, record.isWarning = true ∨ record.tellsRequest = true →
        record.fields.lookup "len" = some (toString frame.length)) ∧
    ∀ queue : List Exchange, queue.map Exchange.frame = frames →
      ((store.runQueue queue).events.map Event.record).filter Record.isTelling =
        records.filter Record.isTelling := by
  intro responses records
  have words := store.warnings_journal frames
  refine ⟨store.recorded_handle, ?_, words, store.sent_journal frames,
    fun place frame stands => ?_, ?_⟩
  · have counts := congrArg List.length words
    rw [List.length_map, List.length_map, ← List.countP_eq_length_filter,
      List.length_filterMap_eq_countP] at counts
    exact counts
  · have recorded := (store.after (frames.take place)).recorded_handle frame
    obtain ⟨answered, entered⟩ := store.place_of_run stands
    exact ⟨_, _, answered, entered, fun record => recorded.detail_of_warning, recorded.measures⟩
  · rintro queue rfl
    exact store.telling_runQueue queue

/-- A frame that can't be read, a gradient, one of another dimension, and a message; all from
workers that are gone, but for the last. -/
theorem journal_tells_each_way :
    let store := Settings.standard.store
    let gradient : Bytes := [0xa0, 0xa9, 0x47, 0x52, 0x41, 0x44, 0x49, 0x45, 0x4e, 0x54, 0x53, 3,
      0xc4, 4, 0, 0, 0x80, 0x3f]
    let wider : Bytes := [0xa0, 0xa9, 0x47, 0x52, 0x41, 0x44, 0x49, 0x45, 0x4e, 0x54, 0x53, 3,
      0xc4, 8, 0, 0, 0x80, 0x3f, 0, 0, 0x80, 0x3f]
    let frames : List Bytes := [[0xc1], gradient, wider, [0xa0, 0xa0]]
    let queue : List Exchange :=
      [⟨[0xc1], false⟩, ⟨gradient, false⟩, ⟨wider, false⟩, ⟨[0xa0, 0xa0], true⟩]
    let records := (store.journal frames).flatten
    let mismatch := (ServerError.store (.dimensionMismatch 1 2)).message
    (records.countP Record.isWarning = 2 ∧ records.countP Record.tellsSent = 1) ∧
      frames[2]? = some wider ∧
      (∃ entries, (store.journal frames)[2]? = some entries ∧
        Record.warning mismatch wider ∈ entries ∧
        (Record.warning mismatch wider).isWarning = true ∧
        (Record.warning mismatch wider).message = "failed to handle request: " ++ mismatch ∧
        (Record.warning mismatch wider).fields.lookup "len" = some (toString wider.length)) ∧
      queue.map Exchange.frame = frames ∧
      ((store.runQueue queue).events.map Event.record).filter Record.isTelling =
        records.filter Record.isTelling := by
  intro store gradient wider frames queue records mismatch
  obtain ⟨-, warnings, -, sent, places, loop⟩ := journal_tells store frames
  obtain ⟨response, entries, answered, entered, worded, measured⟩ := places 2 wider rfl
  have refused : response = .refused mismatch := (Option.some.inj answered).symm
  have warned : Record.warning mismatch wider ∈ entries := by
    rw [← Option.some.inj entered]
    exact List.mem_cons_of_mem _ (List.mem_cons_of_mem _ List.mem_cons_self)
  obtain ⟨detail, isDetail, words⟩ := worded _ warned rfl
  cases refused.symm.trans isDetail
  exact ⟨⟨warnings, sent⟩, rfl, ⟨entries, entered, warned, rfl, words, measured _ warned (.inl rfl)⟩,
    rfl, loop queue rfl⟩

end SharedWeights
