/-
**What a reception tells of the stream.**

A reception ends in one of four ways: nothing was there, a frame was, a length was that no frame may
have, or a frame had begun that did not go on. `Outcome` says for each what was taken off the stream
and what the receiver is told, so that what it is told says where the stream stands:

* `readExact_cases`: an exact read takes all its bytes, or breaks off at what is no byte;
* `outcome_receive`, `receive_of_outcome`: a reception has exactly one of the four outcomes;
* `breaks_of_ended`: only where nothing was there does it say that the stream has ended;
* `reception_tells`: all of this for a source, in terms of its first read and of its signals.
-/

import SharedWeights.Proofs.Transport.Signals

namespace SharedWeights

namespace Frame

/-- Eight bytes and the body that they state the length of are a frame. -/
theorem append_eq_framed {header body : Bytes} (width : header.length = headerLength)
    (stated : Bytes.ofBigEndian header = body.length) : header ++ body = framed body := by
  rw [framed, Frame.header, ← width, ← stated, Bytes.bigEndian_ofBigEndian]

theorem begun_append {header start : Bytes} (width : header.length = headerLength)
    (short : Bytes.ofBigEndian header ≤ maxLength) (few : start.length < Bytes.ofBigEndian header) :
    Begun (header ++ start) := by
  refine ⟨fun nothing => ?_, fun _ => ?_⟩
  · rw [(List.append_eq_nil_iff.1 nothing).1] at width
    cases width
  · rw [announced_append width, List.length_append, width]
    omega

end Frame

namespace Signal

/-! ### How a reception ends -/

/-- An exact read takes the bytes that it wants off the front, or meets what is no byte before. -/
theorem readExact_cases (wanted : Nat) (signals : List Signal) :
    (∃ bytes left, readExact wanted signals = (.ok bytes, left) ∧
      signals = bytes.map .byte ++ left ∧ bytes.length = wanted) ∨
    ∃ (start : Bytes) (behind : List Signal) (failure : Failure) (left : List Signal),
      readExact wanted signals = (.error failure, left) ∧
      signals = start.map .byte ++ behind ∧ start.length < wanted ∧
      Breaks behind failure left := by
  fun_induction readExact wanted signals with
  | case1 signals => exact .inl ⟨[], signals, rfl, rfl, rfl⟩
  | case2 wanted => exact .inr ⟨[], [], _, [], rfl, rfl, Nat.succ_pos _, .finished⟩
  | case3 wanted later => exact .inr ⟨[], _, _, later, rfl, rfl, Nat.succ_pos _, .ended later⟩
  | case4 wanted failure later =>
    exact .inr ⟨[], _, failure, later, rfl, rfl, Nat.succ_pos _, .failed failure later⟩
  | case5 wanted value later ih =>
    rcases ih with ⟨bytes, left, read, rfl, width⟩ |
      ⟨start, behind, failure, left, read, rfl, few, breaks⟩
    · rw [read]
      exact .inl ⟨value :: bytes, left, rfl, rfl, congrArg Nat.succ width⟩
    · rw [read]
      exact .inr ⟨value :: start, behind, failure, left, rfl, rfl, Nat.succ_lt_succ few, breaks⟩

/-- The signals, what the receiver is told of them, and what is left of them. -/
inductive Outcome : List Signal → Except Failure Bytes → List Signal → Prop
  | nothing {signals left : List Signal} {failure : Failure}
      (breaks : Breaks signals failure left) : Outcome signals (.error failure) left
  | whole {frame : Bytes} (allowed : frame.length ≤ Frame.maxLength) (left : List Signal) :
    Outcome ((Frame.framed frame).map .byte ++ left) (.ok frame) left
  | oversized {header : Bytes} (width : header.length = Frame.headerLength)
      (long : Frame.maxLength < Bytes.ofBigEndian header) (left : List Signal) :
    Outcome (header.map .byte ++ left)
      (.error (.oversized (Bytes.ofBigEndian header) Frame.maxLength)) left
  | cut {start : Bytes} {behind left : List Signal} {failure : Failure}
      (begun : Frame.Begun start) (breaks : Breaks behind failure left) :
    Outcome (start.map .byte ++ behind) (.error failure.midFrame) left

/-- A body that is read, or breaks off, behind a length. -/
theorem outcome_receiveBody {header : Bytes} (width : header.length = Frame.headerLength)
    (signals : List Signal) :
    Outcome (header.map .byte ++ signals) (receiveBody (Bytes.ofBigEndian header) signals).1
      (receiveBody (Bytes.ofBigEndian header) signals).2 := by
  unfold receiveBody
  split
  · next long => exact .oversized width long signals
  · next allowed =>
    have short : Bytes.ofBigEndian header ≤ Frame.maxLength := Nat.le_of_not_lt allowed
    rcases readExact_cases (Bytes.ofBigEndian header) signals with
      ⟨body, left, read, rfl, length⟩ | ⟨start, behind, failure, left, read, rfl, few, breaks⟩
    · rw [read, ← List.append_assoc, ← List.map_append, Frame.append_eq_framed width length.symm]
      exact .whole (length ▸ short) left
    · rw [read, ← List.append_assoc, ← List.map_append]
      exact .cut (Frame.begun_append width short few) breaks

/-- **Every reception has one of the four outcomes.** -/
theorem outcome_receive (signals : List Signal) :
    Outcome signals (receive signals).1 (receive signals).2 := by
  match signals with
  | [] => exact .nothing .finished
  | .ended :: later => exact .nothing (.ended later)
  | .failed failure :: later => exact .nothing (.failed failure later)
  | .byte first :: later =>
    rw [receive]
    rcases readExact_cases (Frame.headerLength - 1) later with
      ⟨others, left, read, rfl, length⟩ | ⟨others, behind, failure, left, read, rfl, few, breaks⟩
    · have width : (first :: others).length = Frame.headerLength := congrArg Nat.succ length
      rw [read]
      exact outcome_receiveBody width left
    · have begun : Frame.Begun (first :: others) :=
        ⟨List.cons_ne_nil first others, fun whole => absurd whole (by rw [List.length_cons]; omega)⟩
      rw [read]
      exact .cut begun breaks

theorem receive_of_outcome {signals left : List Signal} {given : Except Failure Bytes}
    (outcome : Outcome signals given left) : receive signals = (given, left) := by
  cases outcome with
  | nothing breaks => cases breaks <;> rfl
  | whole allowed => exact receive_framed allowed left
  | oversized width long =>
    rw [receive_of_width width, receiveBody, if_pos long]
  | cut begun breaks => exact receive_of_begun begun breaks

/-- The failures of a reception: nothing was there, or a length that no frame may have, or a frame
had begun. -/
theorem failed_cases {signals left : List Signal} {failure : Failure}
    (outcome : Outcome signals (.error failure) left) :
    Breaks signals failure left ∨
    (∃ header, header.length = Frame.headerLength ∧ Frame.maxLength < Bytes.ofBigEndian header ∧
      signals = header.map .byte ++ left ∧
      failure = .oversized (Bytes.ofBigEndian header) Frame.maxLength) ∨
    ∃ start behind cause, Frame.Begun start ∧ signals = start.map .byte ++ behind ∧
      Breaks behind cause left ∧ failure = cause.midFrame := by
  cases outcome with
  | nothing breaks => exact .inl breaks
  | @oversized header width long => exact .inr (.inl ⟨header, width, long, rfl, rfl⟩)
  | @cut start behind _ cause begun breaks =>
    exact .inr (.inr ⟨start, behind, cause, begun, rfl, breaks, rfl⟩)

/-- Only where nothing is there does the stream end. -/
theorem breaks_of_ended {signals left : List Signal} {failure : Failure}
    (outcome : Outcome signals (.error failure) left) (ended : failure.kind = .endOfStream) :
    Breaks signals failure left := by
  rcases failed_cases outcome with breaks | ⟨header, -, -, -, rfl⟩ | ⟨-, -, cause, -, -, -, rfl⟩
  · exact breaks
  · cases ended
  · exact absurd ended cause.kind_midFrame_ne

/-- A frame that is received lies in front, and nothing else is taken. -/
theorem signals_of_received {signals left : List Signal} {frame : Bytes}
    (outcome : Outcome signals (.ok frame) left) :
    frame.length ≤ Frame.maxLength ∧ signals = (Frame.framed frame).map .byte ++ left := by
  cases outcome with
  | whole allowed => exact ⟨allowed, rfl⟩

end Signal

namespace Source

/-! ### The outcomes for a source -/

theorem outcome_receive (source : Source) :
    Signal.Outcome source.signals source.receive.1 source.receive.2.signals := by
  have once := Signal.outcome_receive source.signals
  rw [← receive_signals] at once
  exact once

theorem receive_of_outcome {source : Source} {signals later : List Signal}
    {given : Except Failure Bytes} (arrives : source.signals = signals)
    (outcome : Signal.Outcome signals given later) :
    source.receive.1 = given ∧ source.receive.2.signals = later := by
  have once := Signal.receive_of_outcome outcome
  rw [← arrives, ← receive_signals] at once
  exact Prod.mk.inj once

/-- A receiver is told that the stream has ended. -/
def TellsEnd (given : Except Failure Bytes) : Prop :=
  ∃ failure, given = .error failure ∧ failure.kind = .endOfStream

theorem receive_of_read_failed {source left : Source} {failure : Failure}
    (once : source.read Frame.headerLength = (.error failure, left)) :
    source.receive = (.error failure, left) := by
  rw [receive, once]

theorem receive_of_read_nothing {source left : Source}
    (once : source.read Frame.headerLength = (.ok [], left)) :
    source.receive = (.error .endOfStream, left) := by
  rw [receive, once]

theorem byteCount_read_failed {wanted : Nat} {source left : Source} {failure : Failure}
    (once : source.read wanted = (.error failure, left)) : left.byteCount = source.byteCount := by
  unfold read at once
  split at once
  · cases once
  · split at once
    · cases once
    · cases once
    · cases once
      rw [byteCount_cons, arrivalCount, Nat.zero_add]
    · cases once

/-- Once a byte was read, the stream does not end before the frame does. -/
theorem not_tellsEnd_of_read_bytes {source left : Source} {first : UInt8} {others : Bytes}
    (once : source.read Frame.headerLength = (.ok (first :: others), left)) :
    ¬ TellsEnd source.receive.1 := by
  rintro ⟨failure, given, ended⟩
  have outcome := source.outcome_receive
  rw [given] at outcome
  have breaks := Signal.breaks_of_ended outcome ended
  rw [signals_of_read_bytes once] at breaks
  cases breaks

/-- **The stream ends for a receiver at its first read or not at all.** -/
theorem tellsEnd_receive_iff (source : Source) :
    TellsEnd source.receive.1 ↔ (source.read Frame.headerLength).1 = .ok [] ∨
      TellsEnd (source.read Frame.headerLength).1 := by
  rcases once : source.read Frame.headerLength with ⟨failure | _ | ⟨first, others⟩, left⟩
  · rw [receive_of_read_failed once]
    exact ⟨.inr, fun ended => ended.resolve_left nofun⟩
  · rw [receive_of_read_nothing once]
    exact ⟨fun _ => .inl rfl, fun _ => ⟨.endOfStream, rfl, rfl⟩⟩
  · refine ⟨fun ended => absurd ended (not_tellsEnd_of_read_bytes once), ?_⟩
    rintro (nothing | ⟨failure, given, -⟩)
    · cases nothing
    · cases given

/-- A stream that has ended loses no byte by it. -/
theorem left_of_tellsEnd {source : Source} (ended : TellsEnd source.receive.1) :
    source.receive.2 = (source.read Frame.headerLength).2 ∧
      source.receive.2.byteCount = source.byteCount := by
  rcases once : source.read Frame.headerLength with ⟨failure | _ | ⟨first, others⟩, left⟩
  · rw [receive_of_read_failed once]
    exact ⟨rfl, byteCount_read_failed once⟩
  · rw [receive_of_read_nothing once]
    exact ⟨rfl, (byteCount_read once).1⟩
  · exact absurd ended (not_tellsEnd_of_read_bytes once)

/-- **What a reception tells of the stream.** The receiver is told that the stream has ended exactly
if its first read gives nothing or fails in that way, and then no byte is taken. It gets a frame
exactly if the frame and its length are the next signals, and then takes these. Of a frame that is
too long it takes the length. A frame that has begun and breaks off is lost, and the receiver is
told so if the stream ends there, and else why. What fails before a frame is passed on as it is, and
there are no other failures. -/
theorem reception_tells (source : Source) :
    let given := source.receive.1
    let left := source.receive.2
    (TellsEnd given ↔ (source.read Frame.headerLength).1 = .ok [] ∨
      TellsEnd (source.read Frame.headerLength).1) ∧
    (TellsEnd given → left = (source.read Frame.headerLength).2 ∧
      left.byteCount = source.byteCount) ∧
    (∀ frame, given = .ok frame ↔
      frame.length ≤ Frame.maxLength ∧ (Frame.framed frame).map .byte <+: source.signals) ∧
    (∀ frame, given = .ok frame →
      source.signals = (Frame.framed frame).map .byte ++ left.signals) ∧
    (∀ header later, header.length = Frame.headerLength →
      Frame.maxLength < Bytes.ofBigEndian header → source.signals = header.map .byte ++ later →
        given = .error (.oversized (Bytes.ofBigEndian header) Frame.maxLength) ∧
          left.signals = later) ∧
    (∀ start behind failure later, Frame.Begun start → source.signals = start.map .byte ++ behind →
      Signal.Breaks behind failure later →
        (failure.kind = .endOfStream → given = .error .endInsideFrame) ∧
          (failure.kind ≠ .endOfStream → given = .error failure) ∧ left.signals = later) ∧
    (∀ failure later, source.signals = .failed failure :: later →
      given = .error failure ∧ left.signals = later) ∧
    ∀ failure, given = .error failure →
      Signal.Breaks source.signals failure left.signals ∨
      (∃ header, header.length = Frame.headerLength ∧
        Frame.maxLength < Bytes.ofBigEndian header ∧
        source.signals = header.map .byte ++ left.signals ∧
        failure = .oversized (Bytes.ofBigEndian header) Frame.maxLength) ∨
      ∃ start behind cause, Frame.Begun start ∧ source.signals = start.map .byte ++ behind ∧
        Signal.Breaks behind cause left.signals ∧ failure = cause.midFrame := by
  have outcome := source.outcome_receive
  refine ⟨source.tellsEnd_receive_iff, left_of_tellsEnd, fun frame => ⟨fun given => ?_, ?_⟩,
    fun frame given => ?_, fun header later width long signals => ?_,
    fun start behind failure later begun signals breaks => ?_,
    fun failure later signals => ?_, fun failure given => ?_⟩
  · obtain ⟨allowed, signals⟩ := Signal.signals_of_received (given ▸ outcome)
    exact ⟨allowed, _, signals.symm⟩
  · rintro ⟨allowed, later, signals⟩
    exact (receive_of_outcome signals.symm (.whole allowed later)).1
  · exact (Signal.signals_of_received (given ▸ outcome)).2
  · exact receive_of_outcome signals (.oversized width long later)
  · obtain ⟨given, left⟩ := receive_of_outcome signals (.cut begun breaks)
    refine ⟨fun ended => ?_, fun other => ?_, left⟩
    · rw [given, Failure.midFrame_of_endOfStream ended]
    · rw [given, Failure.midFrame_of_other other]
  · exact receive_of_outcome signals (.nothing (.failed failure later))
  · exact Signal.failed_cases (given ▸ outcome)

/-- A frame in two pieces with the first byte of another, behind which the stream ends, or else is
reset; a frame that is one byte too long; and an end in front of a byte. -/
theorem reception_tells_each_way :
    let reset : Failure := ⟨.connectionReset, "reset by peer"⟩
    let header : Bytes := [0, 0, 0, 0, 0x40, 0, 0, 1]
    let split : Source := [.piece [0, 0, 0, 0, 0, 0, 0, 2, 7], .piece [8, 0x40], .ended]
    let ended : Source := [.piece [0x40], .failed .endOfStream, .piece [9]]
    let broken : Source := [.piece [0x40], .failed reset, .piece [9]]
    let long : Source := [.piece header, .piece [5], .ended]
    let gone : Source := [.failed .endOfStream, .piece [9]]
    split.receive.1 = .ok [7, 8] ∧
    split.signals = (Frame.framed [7, 8]).map .byte ++ split.receive.2.signals ∧
    (Frame.Begun [0x40] ∧ ended.receive.1 = .error .endInsideFrame ∧
      broken.receive.1 = .error reset ∧ broken.receive.2.signals = [.byte 9]) ∧
    (header.length = Frame.headerLength ∧ Frame.maxLength < Bytes.ofBigEndian header ∧
      long.receive.1 = .error (.oversized 0x40000001 Frame.maxLength) ∧
      long.receive.2.signals = [.byte 5, .ended]) ∧
    TellsEnd gone.receive.1 ∧ gone.receive.2.byteCount = 1 := by
  intro reset header split ended broken long gone
  have begun : Frame.Begun [0x40] := by decide
  have width : header.length = Frame.headerLength := rfl
  have tooLong : Frame.maxLength < Bytes.ofBigEndian header := by decide
  have received : split.receive.1 = .ok [7, 8] :=
    ((reception_tells split).2.2.1 [7, 8]).2 ⟨by decide, [.byte 0x40, .ended], rfl⟩
  have taken := (reception_tells split).2.2.2.1 [7, 8] received
  obtain ⟨lost, -, -⟩ := (reception_tells ended).2.2.2.2.2.1 [0x40] _ .endOfStream [.byte 9] begun
    rfl (.failed _ _)
  obtain ⟨-, passed, behind⟩ := (reception_tells broken).2.2.2.2.2.1 [0x40] _ reset [.byte 9] begun
    rfl (.failed _ _)
  have refused := (reception_tells long).2.2.2.2.1 header [.byte 5, .ended] width tooLong rfl
  have finished : TellsEnd gone.receive.1 :=
    (reception_tells gone).1.2 (.inr ⟨.endOfStream, rfl, rfl⟩)
  have kept := ((reception_tells gone).2.1 finished).2
  exact ⟨received, taken, ⟨begun, lost rfl, passed nofun, behind⟩,
    ⟨width, tooLong, refused⟩, finished, kept⟩

end Source

end SharedWeights
