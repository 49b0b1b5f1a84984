/-
**What a writer emits.**

A writer takes bytes in portions, up to its room. How large the portions are never shows: of the
bytes that it is given it keeps as many as fit, and a frame is flushed exactly if all of it fits.

* `writeAll_eq`: writing keeps what fits, and fails exactly if that is not all;
* `send_eq`: sending a frame is writing its length and itself in one go, and then a flush;
* `written_sendEach`: frames sent in turn, going on after failures, leave the front part of their
  stream that fits;
* `sendEach_of_unfailing`: a writer that never fails takes all of it.
-/

import SharedWeights.Transport.Framing

namespace SharedWeights

/-- Frames as they stand on a stream, one behind the other. -/
def Frame.stream (frames : List Bytes) : Bytes :=
  frames.flatMap Frame.framed

@[simp] theorem Frame.stream_nil : Frame.stream [] = [] := rfl

@[simp] theorem Frame.stream_cons (frame : Bytes) (later : List Bytes) :
    Frame.stream (frame :: later) = Frame.framed frame ++ Frame.stream later :=
  List.flatMap_cons

theorem Frame.stream_append (front back : List Bytes) :
    Frame.stream (front ++ back) = Frame.stream front ++ Frame.stream back :=
  List.flatMap_append

/-- How a writer with these limits fails once it has no room. -/
def Sink.Limits.writeFailure (limits : Sink.Limits) : Failure :=
  limits.refusal?.getD .nothingWritten

namespace Sink

/-- The bytes that fit into the room that is left. -/
def kept (sink : Sink) (bytes : Bytes) : Bytes :=
  match sink.room? with
  | some room => bytes.take room
  | none => bytes

/-- The writer with more bytes taken. -/
def holding (sink : Sink) (bytes : Bytes) : Sink :=
  { sink with written := sink.written ++ bytes }

/-- Sends frames in turn, going on after failures; gives all outcomes. -/
def sendEach : Sink → List Bytes → List (Except Failure Unit) × Sink
  | sink, [] => ([], sink)
  | sink, frame :: later =>
    ((sink.send frame).1 :: ((sink.send frame).2.sendEach later).1,
      ((sink.send frame).2.sendEach later).2)

/-! ### Room -/

@[simp] theorem limits_holding (sink : Sink) (bytes : Bytes) :
    (sink.holding bytes).limits = sink.limits := rfl

theorem written_holding (sink : Sink) (bytes : Bytes) :
    (sink.holding bytes).written = sink.written ++ bytes := rfl

@[simp] theorem holding_nil (sink : Sink) : sink.holding [] = sink := by
  simp [holding]

theorem holding_holding (sink : Sink) (front back : Bytes) :
    (sink.holding front).holding back = sink.holding (front ++ back) := by
  have joined : sink.written ++ front ++ back = sink.written ++ (front ++ back) :=
    Array.ext' (by simp)
  show { sink with written := sink.written ++ front ++ back } = _
  rw [joined]
  rfl

theorem toList_written_holding (sink : Sink) (bytes : Bytes) :
    (sink.holding bytes).written.toList = sink.written.toList ++ bytes := by
  simp [holding]

theorem room?_holding (sink : Sink) (bytes : Bytes) :
    (sink.holding bytes).room? = sink.room?.map fun room => room - bytes.length := by
  have size : (sink.holding bytes).written.size = sink.written.size + bytes.length := by
    rw [← Array.length_toList, toList_written_holding, List.length_append, Array.length_toList]
  unfold room?
  rw [limits_holding, size]
  cases sink.limits.capacity? with
  | none => rfl
  | some capacity => simp [Nat.sub_add_eq]

theorem kept_nil (sink : Sink) : sink.kept [] = [] := by
  unfold kept
  split <;> simp

theorem kept_of_fits {sink : Sink} {bytes : Bytes}
    (fits : ∀ room ∈ sink.room?, bytes.length ≤ room) : sink.kept bytes = bytes := by
  unfold kept
  split
  · next room limited => exact List.take_of_length_le (fits room limited)
  · rfl

/-- **What fits of joined bytes**: what fits of the front, and then of the back what fits into the
room that the front leaves. -/
theorem kept_append (sink : Sink) (front back : Bytes) :
    sink.kept (front ++ back) =
      sink.kept front ++ (sink.holding (sink.kept front)).kept back := by
  unfold kept
  rw [room?_holding]
  cases sink.room? with
  | none => rfl
  | some room =>
    show (front ++ back).take room = front.take room ++ back.take (room - (front.take room).length)
    have left : room - (front.take room).length = room - front.length := by
      rw [List.length_take]
      omega
    rw [List.take_append, left]

theorem length_kept_le (sink : Sink) (bytes : Bytes) :
    (sink.kept bytes).length ≤ bytes.length := by
  unfold kept
  split
  · exact List.length_take_le' _ _
  · exact Nat.le_refl _

/-- Joined bytes fit if the front fits and then the back. -/
theorem kept_append_eq_iff {sink : Sink} {front back : Bytes} :
    sink.kept (front ++ back) = front ++ back ↔
      sink.kept front = front ∧ (sink.holding front).kept back = back := by
  rw [kept_append]
  constructor
  · intro whole
    have lengths := congrArg List.length whole
    have first := length_kept_le sink front
    have second := length_kept_le (sink.holding (sink.kept front)) back
    rw [List.length_append, List.length_append] at lengths
    obtain ⟨same, rest⟩ := List.append_inj whole (by omega)
    rw [same] at rest
    exact ⟨same, rest⟩
  · rintro ⟨same, rest⟩
    rw [same, rest]

/-- What does not fit whole leaves no room. -/
theorem kept_of_overfull {sink : Sink} {front : Bytes} (overfull : sink.kept front ≠ front)
    (back : Bytes) : (sink.holding (sink.kept front)).kept back = [] := by
  have room := room?_holding sink (sink.kept front)
  unfold kept at overfull room ⊢
  cases limited : sink.room? with
  | none =>
    rw [limited] at overfull
    exact absurd rfl overfull
  | some free =>
    rw [limited] at overfull room
    have long : ¬ front.length ≤ free := fun fits => overfull (List.take_of_length_le fits)
    have gone : free - (front.take free).length = 0 := by
      rw [List.length_take]
      omega
    show (match (sink.holding (front.take free)).room? with
      | some room => back.take room
      | none => back) = []
    rw [room]
    show back.take (free - (front.take free).length) = []
    rw [gone, List.take_zero]

/-! ### Writing -/

theorem write_of_full {sink : Sink} {bytes : Bytes} (full : sink.room? = some 0)
    (something : bytes ≠ []) : sink.write bytes =
      (match sink.limits.refusal? with
        | some refusal => .error refusal
        | none => .ok 0, sink) := by
  unfold write
  rw [full]
  cases sink.limits.refusal? with
  | some refusal =>
    show (if bytes = [] then _ else _, sink) = _
    rw [if_neg something]
  | none =>
    have nothing : sink.portion bytes = [] := by
      unfold portion
      rw [full]
      cases sink.limits.maxWrite? <;> simp
    show (Except.ok (sink.portion bytes).length, sink.holding (sink.portion bytes)) = _
    rw [nothing, holding_nil]
    rfl

/-- With room left, a portion has at least one byte, and no more than there are and fit. -/
theorem portion_of_room {sink : Sink} {bytes : Bytes} (room : sink.room? ≠ some 0)
    (portions : sink.limits.maxWrite? ≠ some 0) (something : bytes ≠ []) :
    ∃ count < bytes.length, (∀ free ∈ sink.room?, count < free) ∧
      sink.portion bytes = bytes.take (count + 1) := by
  have positive : 0 < bytes.length := List.length_pos_iff.2 something
  unfold portion
  cases limited : sink.room? with
  | none =>
    cases most : sink.limits.maxWrite? with
    | none =>
      refine ⟨bytes.length - 1, by omega, by simp, ?_⟩
      show bytes = _
      rw [List.take_of_length_le (by omega)]
    | some maxWrite =>
      have several : maxWrite ≠ 0 := fun zero => portions (zero ▸ most)
      refine ⟨min bytes.length maxWrite - 1, by omega, by simp, ?_⟩
      show bytes.take maxWrite = _
      rw [List.take_eq_take_iff]
      omega
  | some free =>
    have space : free ≠ 0 := fun zero => room (zero ▸ limited)
    cases most : sink.limits.maxWrite? with
    | none =>
      refine ⟨min bytes.length free - 1, by omega, by simp; omega, ?_⟩
      show bytes.take free = _
      rw [List.take_eq_take_iff]
      omega
    | some maxWrite =>
      have several : maxWrite ≠ 0 := fun zero => portions (zero ▸ most)
      refine ⟨min bytes.length (min free maxWrite) - 1, by omega, by simp; omega, ?_⟩
      show (bytes.take free).take maxWrite = _
      rw [List.take_take, List.take_eq_take_iff]
      omega

theorem write_of_room {sink : Sink} {bytes : Bytes} (room : sink.room? ≠ some 0)
    (portions : sink.limits.maxWrite? ≠ some 0) (something : bytes ≠ []) :
    ∃ count < bytes.length, (∀ free ∈ sink.room?, count < free) ∧
      sink.write bytes = (.ok (count + 1), sink.holding (bytes.take (count + 1))) := by
  obtain ⟨count, below, free, taken⟩ := portion_of_room room portions something
  have plain : sink.write bytes =
      (.ok (sink.portion bytes).length, sink.holding (sink.portion bytes)) := by
    unfold write
    split
    · next none _ => exact absurd none room
    · rfl
  have length : (bytes.take (count + 1)).length = count + 1 := by
    rw [List.length_take]
    omega
  exact ⟨count, below, free, by rw [plain, taken, length]⟩

theorem writeAll_of_full {sink : Sink} {bytes : Bytes} (full : sink.room? = some 0)
    (something : bytes ≠ []) :
    sink.writeAll bytes = (.error sink.limits.writeFailure, sink) := by
  rw [writeAll, dif_neg something, write_of_full full something, Limits.writeFailure]
  cases sink.limits.refusal? <;> rfl

/-- One turn of writing, with room left: the front fits and is taken, and the back is to be
written. -/
theorem writeAll_of_room {sink : Sink} {bytes : Bytes} (room : sink.room? ≠ some 0)
    (portions : sink.limits.maxWrite? ≠ some 0) (something : bytes ≠ []) :
    ∃ front back, front ++ back = bytes ∧ back.length < bytes.length ∧
      sink.kept front = front ∧ sink.writeAll bytes = (sink.holding front).writeAll back := by
  obtain ⟨count, below, free, write⟩ := write_of_room room portions something
  have width : (bytes.take (count + 1)).length = count + 1 := by
    rw [List.length_take]
    omega
  refine ⟨bytes.take (count + 1), bytes.drop (count + 1), List.take_append_drop _ _, ?_, ?_, ?_⟩
  · rw [List.length_drop]
    omega
  · refine kept_of_fits fun space limited => ?_
    rw [width]
    exact free space limited
  · rw [writeAll, dif_neg something, write]

/-- **Writing keeps what fits**, and fails exactly if that is not all. -/
theorem writeAll_eq {sink : Sink} (portions : sink.limits.maxWrite? ≠ some 0) (bytes : Bytes) :
    sink.writeAll bytes =
      (if sink.kept bytes = bytes then .ok () else .error sink.limits.writeFailure,
        sink.holding (sink.kept bytes)) := by
  -- by induction on the number of bytes, of which every write with room left takes some
  induction many : bytes.length using Nat.strongRecOn generalizing sink bytes with
  | ind length ih =>
    by_cases nothing : bytes = []
    · rw [nothing, writeAll_nil, kept_nil, if_pos rfl, holding_nil]
    · by_cases full : sink.room? = some 0
      · have none : sink.kept bytes = [] := by
          unfold kept
          rw [full]
          rfl
        rw [writeAll_of_full full nothing, none, if_neg (Ne.symm nothing), holding_nil]
      · obtain ⟨front, back, rfl, fewer, fits, turn⟩ := writeAll_of_room full portions nothing
        have onward := ih back.length (many ▸ fewer)
          (show (sink.holding front).limits.maxWrite? ≠ some 0 from portions) back rfl
        rw [turn, onward, holding_holding, limits_holding, kept_append, fits]
        simp only [List.append_cancel_left_eq]

/-! ### Sending -/

/-- **Sending a frame** is writing its length and itself in one go, and a flush behind them. -/
theorem send_eq {sink : Sink} (portions : sink.limits.maxWrite? ≠ some 0) (frame : Bytes) :
    sink.send frame =
      if sink.kept (Frame.framed frame) = Frame.framed frame then
        (sink.holding (Frame.framed frame)).flush
      else (.error sink.limits.writeFailure, sink.holding (sink.kept (Frame.framed frame))) := by
  have header := writeAll_eq portions (Frame.header frame)
  rw [send, header]
  by_cases fits : sink.kept (Frame.header frame) = Frame.header frame
  · rw [if_pos fits, fits]
    have body := writeAll_eq
      (show (sink.holding (Frame.header frame)).limits.maxWrite? ≠ some 0 from portions) frame
    dsimp only
    rw [body, Frame.framed, kept_append, fits, holding_holding, limits_holding]
    by_cases rest : (sink.holding (Frame.header frame)).kept frame = frame
    · rw [rest, if_pos rfl, if_pos rfl]
    · rw [if_neg rest, if_neg fun whole => rest (List.append_cancel_left whole)]
  · have cut : ¬ sink.kept (Frame.framed frame) = Frame.framed frame := fun whole =>
      fits (kept_append_eq_iff.1 whole).1
    rw [if_neg fits, if_neg cut, Frame.framed, kept_append, kept_of_overfull fits, List.append_nil]

theorem kept_congr (first second : Sink) (limits : first.limits = second.limits)
    (written : first.written = second.written) (bytes : Bytes) :
    first.kept bytes = second.kept bytes := by
  unfold kept room?
  rw [limits, written]

/-- Whatever comes of a frame, the writer keeps what fits of it. -/
theorem written_send {sink : Sink} (portions : sink.limits.maxWrite? ≠ some 0) (frame : Bytes) :
    (sink.send frame).2.limits = sink.limits ∧
      (sink.send frame).2.written = (sink.holding (sink.kept (Frame.framed frame))).written := by
  rw [send_eq portions]
  by_cases fits : sink.kept (Frame.framed frame) = Frame.framed frame
  · rw [if_pos fits, fits, flush]
    cases (sink.holding (Frame.framed frame)).limits.flushFailure? <;> exact ⟨rfl, rfl⟩
  · rw [if_neg fits]
    exact ⟨rfl, rfl⟩

theorem portions_send {sink : Sink} (portions : sink.limits.maxWrite? ≠ some 0) (frame : Bytes) :
    (sink.send frame).2.limits.maxWrite? ≠ some 0 := by
  rw [(written_send portions frame).1]
  exact portions

/-- A writer that takes no bytes at once sends nothing, as every frame has a length. -/
theorem send_of_no_portions (sink : Sink) (stuck : sink.limits.maxWrite? = some 0)
    (frame : Bytes) : (sink.send frame).1 ≠ .ok () := by
  have something : Frame.header frame ≠ [] := by
    intro nothing
    have width : (Frame.header frame).length = Frame.headerLength := Bytes.length_bigEndian _ _
    rw [nothing] at width
    exact absurd width (by decide)
  have portion : sink.portion (Frame.header frame) = [] := by
    unfold portion
    rw [stuck]
    cases sink.room? <;> exact List.take_zero
  have once : (sink.write (Frame.header frame)).1 = .ok 0 ∨
      ∃ failure, (sink.write (Frame.header frame)).1 = .error failure := by
    unfold write
    split
    · next refusal _ _ =>
      rw [if_neg something]
      exact .inr ⟨refusal, rfl⟩
    · rw [portion]
      exact .inl rfl
  have failed : ∃ failure, (sink.writeAll (Frame.header frame)).1 = .error failure := by
    rw [writeAll, dif_neg something]
    rcases write : sink.write (Frame.header frame) with ⟨outcome, after⟩
    rw [write] at once
    rcases once with rfl | ⟨failure, rfl⟩
    · exact ⟨.nothingWritten, rfl⟩
    · exact ⟨failure, rfl⟩
  obtain ⟨failure, failed⟩ := failed
  rw [send]
  rcases header : sink.writeAll (Frame.header frame) with ⟨outcome, after⟩
  rw [header] at failed
  cases failed
  intro sent
  cases sent

theorem kept_of_send_ok {sink : Sink} {frame : Bytes} (sent : (sink.send frame).1 = .ok ()) :
    sink.kept (Frame.framed frame) = Frame.framed frame := by
  have portions : sink.limits.maxWrite? ≠ some 0 := fun stuck =>
    send_of_no_portions sink stuck frame sent
  by_cases fits : sink.kept (Frame.framed frame) = Frame.framed frame
  · exact fits
  · rw [send_eq portions, if_neg fits] at sent
    cases sent

/-- **Frames sent in turn leave what fits of their stream**, however many sends fail on the way. -/
theorem written_sendEach {sink : Sink} (portions : sink.limits.maxWrite? ≠ some 0)
    (frames : List Bytes) :
    (sink.sendEach frames).2.written =
      (sink.holding (sink.kept (Frame.stream frames))).written := by
  induction frames generalizing sink with
  | nil => rw [Frame.stream_nil, kept_nil, holding_nil, sendEach]
  | cons frame later ih =>
    obtain ⟨same, written⟩ := written_send portions frame
    have onward := ih (portions_send portions frame)
    have rest : (sink.send frame).2.kept (Frame.stream later) =
        (sink.holding (sink.kept (Frame.framed frame))).kept (Frame.stream later) :=
      kept_congr _ (sink.holding (sink.kept (Frame.framed frame))) same written _
    rw [Frame.stream_cons, kept_append, ← holding_holding, sendEach, onward, rest,
      written_holding, written, ← written_holding]

/-- **Frames that were all sent without failure are all written.** -/
theorem written_sendEach_of_ok {sink : Sink} {frames : List Bytes}
    (sent : ∀ outcome ∈ (sink.sendEach frames).1, outcome = .ok ()) :
    (sink.sendEach frames).2.written.toList = sink.written.toList ++ Frame.stream frames := by
  induction frames generalizing sink with
  | nil => simp [sendEach]
  | cons frame later ih =>
    have once : (sink.send frame).1 = .ok () := sent _ List.mem_cons_self
    have portions : sink.limits.maxWrite? ≠ some 0 := fun stuck =>
      send_of_no_portions sink stuck frame once
    have onward : ((sink.send frame).2.sendEach later).2.written.toList =
        (sink.send frame).2.written.toList ++ Frame.stream later :=
      ih fun outcome member => sent outcome (List.mem_cons_of_mem _ member)
    rw [sendEach, onward, (written_send portions frame).2, toList_written_holding,
      kept_of_send_ok once, Frame.stream_cons, List.append_assoc]

/-! ### Writers that never fail -/

/-- A writer with these limits takes at least a byte at once, always has room, and flushes. -/
structure Limits.Unfailing (limits : Limits) : Prop where
  portions : limits.maxWrite? ≠ some 0
  room : limits.capacity? = none
  flushes : limits.flushFailure? = none

theorem send_of_unfailing {sink : Sink} (unfailing : sink.limits.Unfailing) (frame : Bytes) :
    (sink.send frame).1 = .ok () := by
  have fits : sink.kept (Frame.framed frame) = Frame.framed frame := by
    unfold kept room?
    rw [unfailing.room]
    rfl
  rw [send_eq unfailing.portions, if_pos fits, flush, limits_holding, unfailing.flushes]

theorem sendEach_of_unfailing (sink : Sink) (unfailing : sink.limits.Unfailing)
    (frames : List Bytes) : ∀ outcome ∈ (sink.sendEach frames).1, outcome = .ok () := by
  induction frames generalizing sink with
  | nil => exact fun outcome member => absurd member List.not_mem_nil
  | cons frame later ih =>
    intro outcome member
    have same := (written_send unfailing.portions frame).1
    rcases List.mem_cons.1 member with rfl | member
    · exact send_of_unfailing unfailing frame
    · exact ih (sink.send frame).2 (same ▸ unfailing) outcome member

/-- **Nothing else can make a writer fail**, and each of the three limits does. -/
theorem unfailing_iff {limits : Limits} :
    limits.Unfailing ↔
      ∀ frames, ∀ outcome ∈ ((fresh limits).sendEach frames).1, outcome = .ok () := by
  constructor
  · exact fun unfailing frames => sendEach_of_unfailing (fresh limits) unfailing frames
  · intro always
    have single (frame : Bytes) : ((fresh limits).send frame).1 = .ok () :=
      always [frame] _ List.mem_cons_self
    have portions : limits.maxWrite? ≠ some 0 := fun stuck =>
      send_of_no_portions (fresh limits) stuck [] (single [])
    have fits (frame : Bytes) :
        (fresh limits).kept (Frame.framed frame) = Frame.framed frame :=
      kept_of_send_ok (single frame)
    refine ⟨portions, ?_, ?_⟩
    · cases limited : limits.capacity? with
      | none => rfl
      | some capacity =>
        -- a frame as long as the capacity has no room for its length
        have fits := congrArg List.length (fits (List.replicate capacity 0))
        unfold kept room? at fits
        rw [show (fresh limits).limits.capacity? = some capacity from limited] at fits
        have width := Frame.length_framed (List.replicate capacity (0 : UInt8))
        rw [List.length_replicate] at width
        simp only [Option.map_some, List.length_take, width, Frame.headerLength] at fits
        omega
    · have sent := single []
      rw [send_eq portions, if_pos (fits []), flush] at sent
      cases flushed : limits.flushFailure? with
      | none => rfl
      | some failure =>
        rw [show ((fresh limits).holding (Frame.framed [])).limits.flushFailure? = some failure
          from flushed] at sent
        cases sent

end Sink

end SharedWeights
