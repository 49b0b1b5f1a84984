/-
**Sending through any writer.**

A writer may take its bytes in portions of any size, run out of room inside a frame or behind it,
refuse in its own way, and fail to flush. What comes of a send depends on one thing only: whether
the frames up to this one, each with its length, fit into the writer together.

* `sendEach_append`, `sendEach_place`: a row of sends is one send after the other;
* `writeFails_iff`: a send fails in writing, and not in flushing, exactly if its frame does not fit;
* `fits_behind_iff`, `fits_place_iff`: a frame fits behind others exactly if all of them fit;
* `send_place_of_room`, `send_place_of_exceeds`: what comes of the send in a place;
* `sendEach_rationed`: the size of the portions never shows;
* `sent_while_room`: all sends of a row, with their outcomes and flushes.

Whether a send failed in writing can't be told by its failure alone, as a flush may fail in the same
way. So it is told by the writes of the send itself (`WriteFails`).
-/

import SharedWeights.Proofs.Transport.Delivery

namespace SharedWeights

namespace Sink

/-- What a flush of a writer with these limits gives. -/
def Limits.flushOutcome (limits : Limits) : Except Failure Unit :=
  match limits.flushFailure? with
  | some failure => .error failure
  | none => .ok ()

/-- One of the two writes of a send fails: that of the length, or behind it that of the frame. -/
def WriteFails (sink : Sink) (frame : Bytes) (failure : Failure) : Prop :=
  (sink.writeAll (Frame.header frame)).1 = .error failure ∨
    (sink.writeAll (Frame.header frame)).1 = .ok () ∧
      ((sink.writeAll (Frame.header frame)).2.writeAll frame).1 = .error failure

/-- The writer with portions of another size. -/
def rationed (sink : Sink) (maxWrite? : Option Nat) : Sink :=
  { sink with limits := { sink.limits with maxWrite? } }

/-! ### One send -/

section Once

variable {sink : Sink} {frame : Bytes}

theorem flush_eq (sink : Sink) :
    sink.flush = (sink.limits.flushOutcome, { sink with flushes := sink.flushes + 1 }) := by
  unfold flush Limits.flushOutcome
  cases sink.limits.flushFailure? <;> rfl

/-- A send that fits ends in its one flush. -/
theorem send_of_fits (portions : sink.limits.maxWrite? ≠ some 0)
    (fits : sink.kept (Frame.framed frame) = Frame.framed frame) :
    sink.send frame = (sink.limits.flushOutcome,
      { sink.holding (Frame.framed frame) with flushes := sink.flushes + 1 }) := by
  rw [send_eq portions, if_pos fits, flush_eq]
  rfl

theorem send_of_cut (portions : sink.limits.maxWrite? ≠ some 0)
    (cut : sink.kept (Frame.framed frame) ≠ Frame.framed frame) :
    sink.send frame =
      (.error sink.limits.writeFailure, sink.holding (sink.kept (Frame.framed frame))) := by
  rw [send_eq portions, if_neg cut]

/-- **A send fails in writing exactly if its frame does not fit**, and then in one way. -/
theorem writeFails_iff (portions : sink.limits.maxWrite? ≠ some 0) (failure : Failure) :
    sink.WriteFails frame failure ↔
      sink.kept (Frame.framed frame) ≠ Frame.framed frame ∧ failure = sink.limits.writeFailure := by
  have parts : sink.kept (Frame.framed frame) = Frame.framed frame ↔ _ := kept_append_eq_iff
  rw [WriteFails, writeAll_eq portions, ne_eq, parts]
  by_cases header : sink.kept (Frame.header frame) = Frame.header frame
  · -- the length is written, and the frame behind it may fit or not
    have body := writeAll_eq
      (show (sink.holding (Frame.header frame)).limits.maxWrite? ≠ some 0 from portions) frame
    rw [header, if_pos rfl]
    dsimp only
    rw [body]
    by_cases rest : (sink.holding (Frame.header frame)).kept frame = frame
    · simp [rest]
    · simp [rest, eq_comm]
  · simp [header, eq_comm]

end Once

/-! ### Sends in a row -/

theorem sendEach_append (sink : Sink) (front back : List Bytes) :
    sink.sendEach (front ++ back) =
      ((sink.sendEach front).1 ++ ((sink.sendEach front).2.sendEach back).1,
        ((sink.sendEach front).2.sendEach back).2) := by
  induction front generalizing sink with
  | nil => rfl
  | cons frame later ih =>
    rw [List.cons_append, sendEach, ih, sendEach]
    rfl

theorem length_sendEach (sink : Sink) (frames : List Bytes) :
    (sink.sendEach frames).1.length = frames.length := by
  induction frames generalizing sink with
  | nil => rfl
  | cons frame later ih => rw [sendEach, List.length_cons, ih, List.length_cons]

/-- **The send at a place** finds the writer as the sends before have left it. -/
theorem sendEach_place (sink : Sink) {frames : List Bytes} {place : Nat} {frame : Bytes}
    (stands : frames[place]? = some frame) :
    (sink.sendEach frames).1[place]? =
        some ((sink.sendEach (frames.take place)).2.send frame).1 ∧
      (sink.sendEach (frames.take (place + 1))).2 =
        ((sink.sendEach (frames.take place)).2.send frame).2 := by
  obtain ⟨inside, rfl⟩ := List.getElem?_eq_some_iff.1 stands
  have count : (sink.sendEach (frames.take place)).1.length = place := by
    rw [length_sendEach, List.length_take, Nat.min_eq_left (Nat.le_of_lt inside)]
  constructor
  · have split : frames = frames.take place ++ frames[place] :: frames.drop (place + 1) := by
      rw [List.getElem_cons_drop, List.take_append_drop]
    have whole := congrArg Prod.fst
      (sendEach_append sink (frames.take place) (frames[place] :: frames.drop (place + 1)))
    rw [← split] at whole
    rw [whole, List.getElem?_append_right (Nat.le_of_eq count), count, Nat.sub_self]
    rfl
  · rw [List.take_succ_eq_append_getElem inside, sendEach_append]
    rfl

theorem limits_sendEach {sink : Sink} (portions : sink.limits.maxWrite? ≠ some 0)
    (frames : List Bytes) : (sink.sendEach frames).2.limits = sink.limits := by
  induction frames generalizing sink with
  | nil => rfl
  | cons frame later ih =>
    exact (ih (portions_send portions frame)).trans (written_send portions frame).1

theorem portions_sendEach {sink : Sink} (portions : sink.limits.maxWrite? ≠ some 0)
    (frames : List Bytes) : (sink.sendEach frames).2.limits.maxWrite? ≠ some 0 := by
  rw [limits_sendEach portions]
  exact portions

/-- **A frame fits behind others exactly if all of them fit.** A frame takes some room in any case,
so that none fits behind one that did not. -/
theorem fits_behind_iff {sink : Sink} (portions : sink.limits.maxWrite? ≠ some 0)
    (front : List Bytes) (frame : Bytes) :
    (sink.sendEach front).2.kept (Frame.framed frame) = Frame.framed frame ↔
      sink.kept (Frame.stream (front ++ [frame])) = Frame.stream (front ++ [frame]) := by
  have last : Frame.stream [frame] = Frame.framed frame := by
    rw [Frame.stream_cons, Frame.stream_nil, List.append_nil]
  rw [kept_congr _ (sink.holding (sink.kept (Frame.stream front))) (limits_sendEach portions front)
    (written_sendEach portions front), Frame.stream_append, last, kept_append_eq_iff]
  by_cases fit : sink.kept (Frame.stream front) = Frame.stream front
  · rw [fit]
    exact ⟨fun same => ⟨rfl, same⟩, And.right⟩
  · rw [kept_of_overfull fit]
    refine ⟨fun nothing => ?_, fun both => absurd both.1 fit⟩
    have width := Frame.length_framed frame
    rw [← nothing, List.length_nil, Frame.headerLength] at width
    omega

/-- What fits into a writer that has taken nothing yet. -/
theorem kept_fresh_eq_iff {limits : Limits} {bytes : Bytes} :
    (fresh limits).kept bytes = bytes ↔
      ¬ ∃ capacity ∈ limits.capacity?, capacity < bytes.length := by
  have room : (fresh limits).room? = limits.capacity? := by
    unfold room?
    show limits.capacity?.map (fun capacity => capacity - 0) = _
    cases limits.capacity? <;> rfl
  unfold kept
  rw [room]
  cases limits.capacity? with
  | none => simp
  | some capacity =>
    have whole : bytes.take capacity = bytes ↔ bytes.length ≤ capacity := by
      refine ⟨fun same => ?_, List.take_of_length_le⟩
      have width := congrArg List.length same
      rw [List.length_take] at width
      omega
    simp [whole]

section Place

variable {limits : Limits} (portions : limits.maxWrite? ≠ some 0) {frames : List Bytes}
  {place : Nat} {frame : Bytes} (stands : frames[place]? = some frame)

include portions stands

/-- **The frame in a place fits exactly if the stream up to it is no longer than the capacity.** -/
theorem fits_place_iff :
    ((fresh limits).sendEach (frames.take place)).2.kept (Frame.framed frame) =
        Frame.framed frame ↔
      ¬ ∃ capacity ∈ limits.capacity?,
        capacity < (Frame.stream (frames.take (place + 1))).length := by
  have still : (fresh limits).limits.maxWrite? ≠ some 0 := portions
  obtain ⟨inside, rfl⟩ := List.getElem?_eq_some_iff.1 stands
  rw [fits_behind_iff still, ← List.take_succ_eq_append_getElem inside]
  exact kept_fresh_eq_iff

theorem writeFails_place_iff (failure : Failure) :
    ((fresh limits).sendEach (frames.take place)).2.WriteFails frame failure ↔
      (∃ capacity ∈ limits.capacity?,
        capacity < (Frame.stream (frames.take (place + 1))).length) ∧
      failure = limits.writeFailure := by
  have same : ((fresh limits).sendEach (frames.take place)).2.limits = limits :=
    limits_sendEach portions _
  rw [writeFails_iff (portions_sendEach portions _), same, ne_eq, fits_place_iff portions stands,
    not_not]

/-- Behind the frames before it, a frame that fits is written and flushed. -/
theorem send_place_of_room (room : ¬ ∃ capacity ∈ limits.capacity?,
    capacity < (Frame.stream (frames.take (place + 1))).length) :
    let before := ((fresh limits).sendEach (frames.take place)).2
    before.send frame = (limits.flushOutcome,
      { before.holding (Frame.framed frame) with flushes := before.flushes + 1 }) := by
  intro before
  have same : before.limits = limits := limits_sendEach portions _
  rw [send_of_fits (portions_sendEach portions _) ((fits_place_iff portions stands).2 room), same]

/-- A frame that does not fit fails, and is not flushed. -/
theorem send_place_of_exceeds (exceeds : ∃ capacity ∈ limits.capacity?,
    capacity < (Frame.stream (frames.take (place + 1))).length) :
    let before := ((fresh limits).sendEach (frames.take place)).2
    before.send frame = (.error limits.writeFailure,
      before.holding (before.kept (Frame.framed frame))) := by
  intro before
  have same : before.limits = limits := limits_sendEach portions _
  have cut : before.kept (Frame.framed frame) ≠ Frame.framed frame := fun whole =>
    (fits_place_iff portions stands).1 whole exceeds
  rw [send_of_cut (portions_sendEach portions _) cut, same]

end Place

/-! ### Portions -/

section Portions

variable {sink : Sink} {maxWrite? : Option Nat} (portions : sink.limits.maxWrite? ≠ some 0)
  (others : maxWrite? ≠ some 0)

include portions others

theorem send_rationed (frame : Bytes) :
    (sink.rationed maxWrite?).send frame =
      ((sink.send frame).1, (sink.send frame).2.rationed maxWrite?) := by
  have still : (sink.rationed maxWrite?).limits.maxWrite? ≠ some 0 := others
  by_cases fits : sink.kept (Frame.framed frame) = Frame.framed frame
  · have again : (sink.rationed maxWrite?).kept (Frame.framed frame) = Frame.framed frame := fits
    rw [send_of_fits portions fits, send_of_fits still again]
    rfl
  · have again : (sink.rationed maxWrite?).kept (Frame.framed frame) ≠ Frame.framed frame := fits
    rw [send_of_cut portions fits, send_of_cut still again]
    rfl

/-- **The size of the portions never shows**: with any other the sends have the same outcomes and
leave the same writer. -/
theorem sendEach_rationed (frames : List Bytes) :
    (sink.rationed maxWrite?).sendEach frames =
      ((sink.sendEach frames).1, (sink.sendEach frames).2.rationed maxWrite?) := by
  induction frames generalizing sink with
  | nil => rfl
  | cons frame later ih =>
    rw [sendEach, send_rationed portions others, ih (portions_send portions frame), sendEach]

end Portions

/-- **Sending through any writer.** Frames are sent in turn, going on after failures. Written are
the first bytes of their stream, up to the capacity. A send fails in writing exactly if the stream
up to its frame is longer than the capacity, in the writer's own way or because nothing more was
taken, and does not flush; any other send flushes once and gives what the flush gives. A send of
which not all was written never flushes. The size of the portions shows in nothing. -/
theorem sent_while_room (limits : Limits) (portions : limits.maxWrite? ≠ some 0)
    (frames : List Bytes) :
    let sent := (fresh limits).sendEach frames
    (sent.2.written.toList =
      match limits.capacity? with
      | some capacity => (Frame.stream frames).take capacity
      | none => Frame.stream frames) ∧
    (∀ place frame, frames[place]? = some frame →
      let before := ((fresh limits).sendEach (frames.take place)).2
      let after := ((fresh limits).sendEach (frames.take (place + 1))).2
      let exceeds := ∃ capacity ∈ limits.capacity?,
        capacity < (Frame.stream (frames.take (place + 1))).length
      sent.1[place]? = some (before.send frame).1 ∧ after = (before.send frame).2 ∧
      (∀ failure, before.WriteFails frame failure ↔
        exceeds ∧ failure = limits.refusal?.getD .nothingWritten) ∧
      (exceeds → sent.1[place]? = some (.error (limits.refusal?.getD .nothingWritten)) ∧
        after.flushes = before.flushes) ∧
      (¬ exceeds → sent.1[place]? = some limits.flushOutcome ∧
        after.flushes = before.flushes + 1) ∧
      (after.written.toList ≠ before.written.toList ++ Frame.framed frame →
        after.flushes = before.flushes)) ∧
    ∀ maxWrite?, maxWrite? ≠ some 0 →
      let other := (fresh { limits with maxWrite? }).sendEach frames
      other.1 = sent.1 ∧ other.2.written = sent.2.written ∧ other.2.flushes = sent.2.flushes := by
  intro sent
  have still : (fresh limits).limits.maxWrite? ≠ some 0 := portions
  refine ⟨toList_written_fresh portions frames, fun place frame stands => ?_,
    fun maxWrite? others => ?_⟩
  · intro before after exceeds
    obtain ⟨outcome, left⟩ : sent.1[place]? = some (before.send frame).1 ∧
        after = (before.send frame).2 := sendEach_place (fresh limits) stands
    have refused := send_place_of_exceeds portions stands
    have flushed := send_place_of_room portions stands
    refine ⟨outcome, left, writeFails_place_iff portions stands, fun full => ?_, fun room => ?_,
      fun cut => ?_⟩
    · rw [outcome, left, refused full]
      exact ⟨rfl, rfl⟩
    · rw [outcome, left, flushed room]
      exact ⟨rfl, rfl⟩
    · have full : exceeds := by
        by_contra room
        refine cut ?_
        rw [left, flushed room]
        exact toList_written_holding before (Frame.framed frame)
      rw [left, refused full]
      rfl
  · intro other
    have rationed : other = _ := sendEach_rationed still others frames
    rw [rationed]
    exact ⟨rfl, rfl, rfl⟩

/-- Two frames, one of them empty, for which there is just room, and a third; a writer that fails to
flush, with portions of five bytes and of one. -/
theorem sent_while_room_just :
    let reset : Failure := ⟨.connectionReset, "reset by peer"⟩
    let limits : Limits := ⟨some 5, some 18, none, some reset⟩
    let frames : List Bytes := [[1, 2], [], [3]]
    let sent := (fresh limits).sendEach frames
    let before := ((fresh limits).sendEach (frames.take 2)).2
    limits.maxWrite? ≠ some 0 ∧ frames[1]? = some [] ∧ frames[2]? = some [3] ∧
      sent.2.written.toList = Frame.stream [[1, 2], []] ∧
      sent.1[1]? = some (.error reset) ∧ sent.1[2]? = some (.error .nothingWritten) ∧
      before.WriteFails [3] .nothingWritten ∧ sent.2.written.toList ≠
        before.written.toList ++ Frame.framed [3] ∧ sent.2.flushes = before.flushes ∧
      ((fresh { limits with maxWrite? := some 1 }).sendEach frames).1 = sent.1 := by
  intro reset limits frames sent before
  have portions : limits.maxWrite? ≠ some 0 := by decide
  obtain ⟨written, each, rationed⟩ := sent_while_room limits portions frames
  obtain ⟨-, -, -, -, flushed, -⟩ := each 1 [] rfl
  obtain ⟨-, -, failing, refused, -, lost⟩ := each 2 [3] rfl
  have room : ¬ ∃ capacity ∈ limits.capacity?,
      capacity < (Frame.stream (frames.take 2)).length := by
    rintro ⟨capacity, limit, exceeds⟩
    cases limit
    exact absurd exceeds (by decide)
  have full : ∃ capacity ∈ limits.capacity?, capacity < (Frame.stream (frames.take 3)).length :=
    ⟨18, rfl, by decide⟩
  have cut : sent.2.written.toList ≠ before.written.toList ++ Frame.framed [3] := by
    rw [show sent.2.written.toList = _ from written,
      show before.written.toList = _ from toList_written_fresh portions (frames.take 2)]
    decide
  exact ⟨portions, rfl, rfl, written, (flushed room).1, (refused full).1,
    (failing .nothingWritten).2 ⟨full, rfl⟩, cut, lost cut, (rationed (some 1) (by decide)).1⟩

end Sink

end SharedWeights
