/-
**Frames cross a transport whole, in order, or not at all.**

A writer that runs out of room leaves the front part of the stream of all frames, and a connection
that is lost brings no more than such a part. Whoever receives then gets the frames that lie in it
whole, and learns from the next failure whether part of another was there.

* `wholeWithin_cons_of_fits`, `wholeWithin_cons_of_cut`: how many frames lie whole in the first
  bytes of their stream, frame by frame;
* `receiveEach_front`: what is received from the front part of a stream;
* `receiveAll_front`: the same up to the first failure;
* `receiveEach_sendEach`: from any writer to any receiver.
-/

import Mathlib.Data.Nat.Find
import SharedWeights.Proofs.Transport.Emission
import SharedWeights.Proofs.Transport.Signals

namespace SharedWeights

namespace Frame

/-- How many bytes frames take on a stream: each its own length and eight more. -/
def total : List Bytes → Nat
  | [] => 0
  | frame :: later => headerLength + frame.length + total later

/-- The largest number of frames, from the first on, that take at most `room` bytes. -/
def wholeWithin (room : Nat) (frames : List Bytes) : Nat :=
  Nat.findGreatest (fun count => total (frames.take count) ≤ room) frames.length

theorem length_stream (frames : List Bytes) : (stream frames).length = total frames := by
  induction frames with
  | nil => rfl
  | cons frame later ih => rw [stream_cons, List.length_append, length_framed, ih, total]

theorem wholeWithin_le (room : Nat) (frames : List Bytes) :
    wholeWithin room frames ≤ frames.length :=
  Nat.findGreatest_le _

theorem total_take_wholeWithin (room : Nat) (frames : List Bytes) :
    total (frames.take (wholeWithin room frames)) ≤ room :=
  Nat.findGreatest_spec (P := fun count => total (frames.take count) ≤ room) (Nat.zero_le _)
    (Nat.zero_le _)

theorem wholeWithin_nil (room : Nat) : wholeWithin room [] = 0 := rfl

theorem wholeWithin_cons_of_cut {room : Nat} {frame : Bytes} {later : List Bytes}
    (cut : room < headerLength + frame.length) : wholeWithin room (frame :: later) = 0 := by
  rw [wholeWithin, Nat.findGreatest_eq_zero_iff]
  intro count positive _ fits
  obtain ⟨fewer, rfl⟩ := Nat.exists_eq_succ_of_ne_zero (Nat.pos_iff_ne_zero.1 positive)
  rw [List.take_succ_cons, total] at fits
  omega

theorem wholeWithin_cons_of_fits {room : Nat} {frame : Bytes} {later : List Bytes}
    (fits : headerLength + frame.length ≤ room) :
    wholeWithin room (frame :: later) =
      wholeWithin (room - (headerLength + frame.length)) later + 1 := by
  have whole := total_take_wholeWithin (room - (headerLength + frame.length)) later
  rw [wholeWithin, Nat.findGreatest_eq_iff]
  refine ⟨Nat.succ_le_succ (wholeWithin_le _ later), fun _ => ?_, fun count more few fitting => ?_⟩
  · rw [List.take_succ_cons, total]
    omega
  · obtain ⟨fewer, rfl⟩ := Nat.exists_eq_succ_of_ne_zero (Nat.ne_of_gt (Nat.zero_lt_of_lt more))
    rw [List.take_succ_cons, total] at fitting
    exact Nat.findGreatest_is_greatest (Nat.lt_of_succ_lt_succ more) (Nat.le_of_succ_le_succ few)
      (show total (later.take fewer) ≤ room - (headerLength + frame.length) by omega)

/-- Where there is room for all frames, all of them are whole. -/
theorem wholeWithin_of_total_le {room : Nat} {frames : List Bytes} (fits : total frames ≤ room) :
    wholeWithin room frames = frames.length := by
  refine Nat.le_antisymm (wholeWithin_le room frames) (Nat.le_findGreatest (Nat.le_refl _) ?_)
  rw [List.take_length]
  exact fits

/-- What ends the reception of the first `room` bytes of a stream: its end if there is nothing
behind the last whole frame, else the end inside a frame. -/
def verdict (room : Nat) (frames : List Bytes) : Failure :=
  if min room (total frames) = total (frames.take (wholeWithin room frames)) then .endOfStream
  else .endInsideFrame

theorem verdict_cons_of_fits {room : Nat} {frame : Bytes} {later : List Bytes}
    (fits : headerLength + frame.length ≤ room) :
    verdict room (frame :: later) = verdict (room - (headerLength + frame.length)) later := by
  have same : min room (total (frame :: later)) =
        total ((frame :: later).take (wholeWithin room (frame :: later))) ↔
      min (room - (headerLength + frame.length)) (total later) =
        total (later.take (wholeWithin (room - (headerLength + frame.length)) later)) := by
    rw [wholeWithin_cons_of_fits fits, List.take_succ_cons, total, total]
    omega
  unfold verdict
  simp only [same]

theorem verdict_cons_of_cut {room : Nat} {frame : Bytes} {later : List Bytes}
    (cut : room < headerLength + frame.length) :
    verdict room (frame :: later) = if room = 0 then .endOfStream else .endInsideFrame := by
  have same : min room (total (frame :: later)) =
      total ((frame :: later).take (wholeWithin room (frame :: later))) ↔ room = 0 := by
    rw [wholeWithin_cons_of_cut cut, List.take_zero, total, total]
    omega
  unfold verdict
  simp only [same]

/-- The places of a stream that are behind a whole frame or in front of the first. -/
def IsBoundary (place : Nat) (frames : List Bytes) : Prop :=
  ∃ count ≤ frames.length, place = total (frames.take count)

instance (place : Nat) (frames : List Bytes) : Decidable (IsBoundary place frames) :=
  inferInstanceAs (Decidable (∃ count ≤ frames.length, place = total (frames.take count)))

theorem total_take_le (frames : List Bytes) {few many : Nat} (fewer : few ≤ many) :
    total (frames.take few) ≤ total (frames.take many) := by
  obtain ⟨rest, split⟩ := List.take_prefix_take_left (l := frames) fewer
  rw [← length_stream, ← length_stream, ← split, stream_append, List.length_append]
  exact Nat.le_add_right _ _

/-- **A stream that is cut on a boundary has ended, and else inside a frame.** -/
theorem verdict_eq_endOfStream_iff {cut : Nat} {frames : List Bytes} (within : cut ≤ total frames) :
    verdict cut frames = .endOfStream ↔ IsBoundary cut frames := by
  have whole := total_take_wholeWithin cut frames
  unfold verdict
  rw [Nat.min_eq_left within]
  constructor
  · intro finished
    by_cases same : cut = total (frames.take (wholeWithin cut frames))
    · exact ⟨_, wholeWithin_le cut frames, same⟩
    · rw [if_neg same] at finished
      cases finished
  · rintro ⟨count, few, same⟩
    have more : count ≤ wholeWithin cut frames :=
      Nat.le_findGreatest few (Nat.le_of_eq same.symm)
    have further := total_take_le frames more
    exact if_pos (by omega)

end Frame

namespace Signal

theorem receiveEach_nil (count : Nat) :
    receiveEach count [] = (List.replicate count (.error .endOfStream), []) := by
  induction count with
  | zero => rfl
  | succ count ih => rw [receiveEach, receive, ih, List.replicate_succ]

/-- **What is received from the first bytes of a stream**: the frames that are whole, one failure
that tells whether part of another is there, and then only the end. -/
theorem receiveEach_front {frames : List Bytes}
    (allowed : ∀ frame ∈ frames, frame.length ≤ Frame.maxLength) (room later : Nat) :
    receiveEach (Frame.wholeWithin room frames + 1 + later)
        (((Frame.stream frames).take room).map .byte) =
      ((frames.take (Frame.wholeWithin room frames)).map .ok ++
        .error (Frame.verdict room frames) :: List.replicate later (.error .endOfStream), []) := by
  induction frames generalizing room with
  | nil =>
    have finished : Frame.verdict room [] = .endOfStream := by
      rw [Frame.verdict, if_pos]
      exact Nat.min_eq_right (Nat.zero_le room)
    rw [Frame.stream_nil, List.take_nil, List.map_nil, receiveEach_nil, finished,
      Frame.wholeWithin_nil, Nat.zero_add, Nat.add_comm 1 later, List.replicate_succ]
    rfl
  | cons frame others ih =>
    have short : frame.length ≤ Frame.maxLength := allowed frame List.mem_cons_self
    have width := Frame.length_framed frame
    by_cases fits : Frame.headerLength + frame.length ≤ room
    · -- the first frame is there, and the rest is received from what is behind it
      have rest := ih (fun other member => allowed other (List.mem_cons_of_mem _ member))
        (room - (Frame.headerLength + frame.length))
      have front : (Frame.stream (frame :: others)).take room = Frame.framed frame ++
          (Frame.stream others).take (room - (Frame.headerLength + frame.length)) := by
        rw [Frame.stream_cons, List.take_append, width, List.take_of_length_le (by omega)]
      rw [Frame.wholeWithin_cons_of_fits fits, Frame.verdict_cons_of_fits fits, front,
        List.map_append, Nat.add_right_comm _ 1 1, Nat.add_right_comm _ 1 later, receiveEach,
        receive_framed short, rest]
      rfl
    · -- the first frame is cut
      have cut : room < Frame.headerLength + frame.length := Nat.lt_of_not_le fits
      have front : (Frame.stream (frame :: others)).take room = (Frame.framed frame).take room := by
        rw [Frame.stream_cons, List.take_append_of_le_length (by omega)]
      have once : receive (((Frame.framed frame).take room).map .byte) =
          (.error (Frame.verdict room (frame :: others)), []) := by
        rw [Frame.verdict_cons_of_cut cut]
        by_cases none : room = 0
        · rw [none, if_pos rfl]
          rfl
        · rw [if_neg none, receive_cut short (Nat.pos_of_ne_zero none) (by omega)]
      rw [Frame.wholeWithin_cons_of_cut cut, front, Nat.zero_add, Nat.add_comm 1 later,
        receiveEach, once, receiveEach_nil]
      rfl

end Signal

namespace Source

theorem receiveEach_front {pieces frames : List Bytes}
    (nonempty : ∀ piece ∈ pieces, piece ≠ [])
    (allowed : ∀ frame ∈ frames, frame.length ≤ Frame.maxLength) {room : Nat}
    (arrived : pieces.flatten = (Frame.stream frames).take room) (later : Nat) :
    ∃ left, left.signals = [] ∧
      receiveEach (Frame.wholeWithin room frames + 1 + later) (pieces.map .piece) =
        ((frames.take (Frame.wholeWithin room frames)).map .ok ++
          .error (Frame.verdict room frames) :: List.replicate later (.error .endOfStream),
          left) := by
  have given := receiveEach_signals (Frame.wholeWithin room frames + 1 + later)
    (pieces.map .piece)
  rw [signals_pieces nonempty, arrived, Signal.receiveEach_front allowed] at given
  obtain ⟨outcomes, finished⟩ := Prod.mk.inj given
  exact ⟨_, finished, Prod.ext outcomes rfl⟩

/-- Up to the first failure, the whole frames are received. -/
theorem receiveAll_front {pieces frames : List Bytes}
    (nonempty : ∀ piece ∈ pieces, piece ≠ [])
    (allowed : ∀ frame ∈ frames, frame.length ≤ Frame.maxLength) {room : Nat}
    (arrived : pieces.flatten = (Frame.stream frames).take room) :
    ∃ left, left.signals = [] ∧ receiveAll (pieces.map .piece) =
      (frames.take (Frame.wholeWithin room frames), Frame.verdict room frames, left) := by
  obtain ⟨left, finished, given⟩ := receiveEach_front nonempty allowed arrived 0
  have count : (frames.take (Frame.wholeWithin room frames)).length =
      Frame.wholeWithin room frames := by
    rw [List.length_take]
    exact Nat.min_eq_left (Frame.wholeWithin_le room frames)
  refine ⟨left, finished, receiveAll_of_receiveEach ?_⟩
  rw [count]
  exact given

/-- Frames that arrive whole are all received, and then the stream ends. -/
theorem receiveAll_stream {pieces frames : List Bytes}
    (nonempty : ∀ piece ∈ pieces, piece ≠ [])
    (allowed : ∀ frame ∈ frames, frame.length ≤ Frame.maxLength)
    (arrived : pieces.flatten = Frame.stream frames) :
    ∃ left, left.signals = [] ∧
      receiveAll (pieces.map .piece) = (frames, .endOfStream, left) := by
  have length := Frame.length_stream frames
  have all := Frame.wholeWithin_of_total_le (Nat.le_refl (Frame.total frames))
  have finished : Frame.verdict (Frame.total frames) frames = .endOfStream := by
    rw [Frame.verdict, all, List.take_length, if_pos (Nat.min_self _)]
  have front : pieces.flatten = (Frame.stream frames).take (Frame.total frames) := by
    rw [arrived, ← length, List.take_length]
  obtain ⟨left, nothing, given⟩ := receiveAll_front nonempty allowed front
  rw [all, finished, List.take_length] at given
  exact ⟨left, nothing, given⟩

end Source

/-- The bytes that a writer has taken of frames sent in turn: the first ones of their stream, up to
its capacity. -/
theorem Sink.toList_written_fresh {limits : Sink.Limits} (portions : limits.maxWrite? ≠ some 0)
    (frames : List Bytes) :
    ((Sink.fresh limits).sendEach frames).2.written.toList =
      match limits.capacity? with
      | some capacity => (Frame.stream frames).take capacity
      | none => Frame.stream frames := by
  have still : (Sink.fresh limits).limits.maxWrite? ≠ some 0 := portions
  rw [Sink.written_sendEach still, Sink.toList_written_holding]
  show [] ++ (Sink.fresh limits).kept (Frame.stream frames) = _
  unfold Sink.kept Sink.room? Sink.fresh
  cases limits.capacity? <;> rfl

/-- **Frames cross the transport whole, in order, or not at all.** Frames are sent in turn to any
writer, going on after failures, and what it has taken arrives in any pieces, followed by the end.
Then exactly the first frames that it had room for are received. The next reception finds the end
of the stream if nothing more was written and else the end inside a frame, and every later one the
end of the stream. -/
theorem receiveEach_sendEach (limits : Sink.Limits) (portions : limits.maxWrite? ≠ some 0)
    (frames : List Bytes) (allowed : ∀ frame ∈ frames, frame.length ≤ Frame.maxLength)
    (pieces : List Bytes) (nonempty : ∀ piece ∈ pieces, piece ≠ [])
    (arrived : pieces.flatten = ((Sink.fresh limits).sendEach frames).2.written.toList)
    (later : Nat) :
    let whole := match limits.capacity? with
      | some capacity => Frame.wholeWithin capacity frames
      | none => frames.length
    let verdict : Failure :=
      if pieces.flatten.length = Frame.total (frames.take whole) then .endOfStream
      else .endInsideFrame
    (Source.receiveEach (whole + 1 + later) (pieces.map .piece)).1 =
      (frames.take whole).map .ok ++
        .error verdict :: List.replicate later (.error .endOfStream) := by
  -- without a capacity there is room for everything
  obtain ⟨room, whole, front⟩ : ∃ room,
      (match limits.capacity? with
        | some capacity => Frame.wholeWithin capacity frames
        | none => frames.length) = Frame.wholeWithin room frames ∧
      pieces.flatten = (Frame.stream frames).take room := by
    rw [arrived, Sink.toList_written_fresh portions]
    cases limits.capacity? with
    | some capacity => exact ⟨capacity, rfl, rfl⟩
    | none =>
      refine ⟨Frame.total frames, (Frame.wholeWithin_of_total_le (Nat.le_refl _)).symm, ?_⟩
      rw [← Frame.length_stream, List.take_length]
  have count : pieces.flatten.length = min room (Frame.total frames) := by
    rw [front, List.length_take, Frame.length_stream]
  obtain ⟨left, -, given⟩ := Source.receiveEach_front nonempty allowed front later
  intro number verdict
  have same : verdict = Frame.verdict room frames := by
    show (if pieces.flatten.length = Frame.total (frames.take number) then _ else _) = _
    rw [count, show number = Frame.wholeWithin room frames from whole]
    rfl
  rw [same, show number = Frame.wholeWithin room frames from whole, given]

/-- Two frames, one of them empty, and two bytes of a third. -/
theorem receiveEach_sendEach_cut :
    let limits : Sink.Limits := ⟨some 3, some 21, none, some .endOfStream⟩
    let frames : List Bytes := [[1, 2, 3], [], [4]]
    let pieces : List Bytes :=
      [[0, 0, 0], [0, 0, 0, 0, 3, 1, 2, 3, 0, 0, 0, 0, 0], [0, 0, 0, 0, 0]]
    limits.maxWrite? ≠ some 0 ∧ (∀ frame ∈ frames, frame.length ≤ Frame.maxLength) ∧
      (∀ piece ∈ pieces, piece ≠ []) ∧
      pieces.flatten = ((Sink.fresh limits).sendEach frames).2.written.toList ∧
      (Source.receiveEach 5 (pieces.map .piece)).1 =
        [.ok [1, 2, 3], .ok [], .error .endInsideFrame, .error .endOfStream,
          .error .endOfStream] := by
  intro limits frames pieces
  have portions : limits.maxWrite? ≠ some 0 := by decide
  have allowed : ∀ frame ∈ frames, frame.length ≤ Frame.maxLength := by decide
  have nonempty : ∀ piece ∈ pieces, piece ≠ [] := by decide
  have arrived : pieces.flatten = ((Sink.fresh limits).sendEach frames).2.written.toList := by
    rw [Sink.toList_written_fresh portions]
    decide
  exact ⟨portions, allowed, nonempty, arrived,
    receiveEach_sendEach limits portions frames allowed pieces nonempty arrived 2⟩

end SharedWeights
