/-
**Streams without borders.**

Where one piece of a stream ends and the next begins means nothing to whoever receives frames. A
source is flattened here into single signals — a byte, an end, a failure — and receiving is stated
again on the signals, one byte at a time:

* `readExact_signals`, `receive_signals`: what is read from a source, and what is left of it, are
  what is read from its signals and what is left of those;
* `receiveEach_signals`: so is every number of receptions, going on after failures;
* `receive_framed`: a frame of a length that is allowed is received whole, and nothing behind it;
* `receive_of_begun`, `receive_cut`: from a frame that has begun and does not go on, nothing is
  received.

A frame has begun with its first byte, which may be the only byte of its length that is there. So
the bytes with which a frame can begin (`Frame.Begun`) are told without the frame itself.

Reading from signals recurses on them byte by byte and knows no pieces, so whatever is shown of it
holds however the stream was cut.
-/

import SharedWeights.Transport.Framing

namespace SharedWeights

/-- What a receiver can tell apart. -/
inductive Signal where
  | byte (value : UInt8)
  | ended
  | failed (failure : Failure)
deriving DecidableEq

/-- The signals of an arrival. A piece without bytes can't be told from an end. -/
def Arrival.signals : Arrival → List Signal
  | .piece [] => [.ended]
  | .piece (first :: others) => (first :: others).map .byte
  | .ended => [.ended]
  | .failed failure => [.failed failure]

theorem Arrival.signals_piece {bytes : Bytes} (nonempty : bytes ≠ []) :
    (Arrival.piece bytes).signals = bytes.map .byte := by
  cases bytes with
  | nil => exact absurd rfl nonempty
  | cons first others => rfl

/-- The signals of all that is still to arrive. -/
def Source.signals (source : Source) : List Signal :=
  source.flatMap Arrival.signals

namespace Frame

/-- The length that a frame states in front. -/
def announced (start : Bytes) : Nat :=
  Bytes.ofBigEndian (start.take headerLength)

/-- Bytes with which a frame has begun and not ended: a part of its length, or all of it, if any
frame may have it, and not all of its body. -/
def Begun (start : Bytes) : Prop :=
  start ≠ [] ∧ (headerLength ≤ start.length →
    announced start ≤ maxLength ∧ start.length < headerLength + announced start)

instance (start : Bytes) : Decidable (Begun start) :=
  inferInstanceAs (Decidable (start ≠ [] ∧ (headerLength ≤ start.length →
    announced start ≤ maxLength ∧ start.length < headerLength + announced start)))

theorem announced_append {header : Bytes} (width : header.length = headerLength) (body : Bytes) :
    announced (header ++ body) = Bytes.ofBigEndian header := by
  rw [announced, List.take_left' width]

theorem ofBigEndian_header {frame : Bytes} (allowed : frame.length ≤ maxLength) :
    Bytes.ofBigEndian (header frame) = frame.length := by
  have small : frame.length < Bytes.span headerLength := Nat.lt_of_le_of_lt allowed (by decide)
  rw [header, Bytes.ofBigEndian_bigEndian, Nat.mod_eq_of_lt small]

/-- A proper part of a frame has begun and not ended. -/
theorem begun_take {frame : Bytes} (allowed : frame.length ≤ maxLength) {count : Nat}
    (begun : 0 < count) (missing : count < (framed frame).length) :
    Begun ((framed frame).take count) := by
  have width : (header frame).length = headerLength := Bytes.length_bigEndian _ _
  refine ⟨fun nothing => ?_, fun whole => ?_⟩
  · have empty := congrArg List.length nothing
    rw [List.length_take, List.length_nil] at empty
    omega
  · rw [List.length_take] at whole ⊢
    have stated : announced ((framed frame).take count) = frame.length := by
      rw [announced, List.take_take, Nat.min_eq_left (by omega), framed, List.take_left' width,
        ofBigEndian_header allowed]
    rw [length_framed] at missing
    rw [stated]
    exact ⟨allowed, by omega⟩

end Frame

namespace Signal

/-! ### Reading signals one by one -/

/-- Takes `wanted` bytes off the front. What is no byte ends the reading and is taken off too. -/
def readExact : Nat → List Signal → Except Failure Bytes × List Signal
  | 0, signals => (.ok [], signals)
  | _ + 1, [] => (.error .endOfStream, [])
  | _ + 1, .ended :: later => (.error .endOfStream, later)
  | _ + 1, .failed failure :: later => (.error failure, later)
  | wanted + 1, .byte value :: later =>
    ((readExact wanted later).1.map (value :: ·), (readExact wanted later).2)

/-- Receives the body of a frame whose length was read. -/
def receiveBody (length : Nat) (signals : List Signal) : Except Failure Bytes × List Signal :=
  if Frame.maxLength < length then (.error (.oversized length Frame.maxLength), signals)
  else ((readExact length signals).1.mapError .midFrame, (readExact length signals).2)

/-- Receives a frame. -/
def receive : List Signal → Except Failure Bytes × List Signal
  | [] => (.error .endOfStream, [])
  | .ended :: later => (.error .endOfStream, later)
  | .failed failure :: later => (.error failure, later)
  | .byte first :: later =>
    match readExact (Frame.headerLength - 1) later with
    | (.error failure, left) => (.error failure.midFrame, left)
    | (.ok others, left) => receiveBody (Bytes.ofBigEndian (first :: others)) left

/-- Receives `count` times, going on after failures. -/
def receiveEach : Nat → List Signal → List (Except Failure Bytes) × List Signal
  | 0, signals => ([], signals)
  | count + 1, signals =>
    ((receive signals).1 :: (receiveEach count (receive signals).2).1,
      (receiveEach count (receive signals).2).2)

/-- **Bytes in front are read first.** -/
theorem readExact_bytes_append {wanted : Nat} {bytes : Bytes} (short : bytes.length ≤ wanted)
    (later : List Signal) :
    readExact wanted (bytes.map .byte ++ later) =
      ((readExact (wanted - bytes.length) later).1.map (bytes ++ ·),
        (readExact (wanted - bytes.length) later).2) := by
  induction bytes generalizing wanted with
  | nil =>
    show readExact wanted later = _
    have same : (readExact wanted later).1.map (([] : Bytes) ++ ·) =
        (readExact wanted later).1 := by
      cases (readExact wanted later).1 <;> rfl
    rw [List.length_nil, Nat.sub_zero, same]
  | cons value others ih =>
    obtain ⟨fewer, rfl⟩ : ∃ fewer, wanted = fewer + 1 :=
      ⟨wanted - 1, by rw [List.length_cons] at short; omega⟩
    have fits : others.length ≤ fewer := by
      rw [List.length_cons] at short
      omega
    have rest := ih fits
    have distance : fewer + 1 - (others.length + 1) = fewer - others.length := by omega
    rw [List.map_cons, List.cons_append, readExact, rest, List.length_cons, distance]
    cases (readExact (fewer - others.length) later).1 <;> rfl

theorem readExact_bytes (bytes : Bytes) (later : List Signal) :
    readExact bytes.length (bytes.map .byte ++ later) = (.ok bytes, later) := by
  rw [readExact_bytes_append (Nat.le_refl _), Nat.sub_self, readExact]
  simp [Except.map]

/-- Signals in front of which reading breaks off: how it fails, and what is left. The end of all
signals is not taken off, so that it is met again. -/
inductive Breaks : List Signal → Failure → List Signal → Prop
  | finished : Breaks [] .endOfStream []
  | ended (later : List Signal) : Breaks (.ended :: later) .endOfStream later
  | failed (failure : Failure) (later : List Signal) :
    Breaks (.failed failure :: later) failure later

/-- Bytes that are too few are lost where reading breaks off. -/
theorem readExact_of_breaks {wanted : Nat} {start : Bytes} {behind left : List Signal}
    {failure : Failure} (few : start.length < wanted) (breaks : Breaks behind failure left) :
    readExact wanted (start.map .byte ++ behind) = (.error failure, left) := by
  obtain ⟨missing, count⟩ : ∃ missing, wanted - start.length = missing + 1 :=
    ⟨wanted - start.length - 1, by omega⟩
  rw [readExact_bytes_append (Nat.le_of_lt few), count]
  cases breaks <;> rfl

/-! ### Frames among signals -/

/-- Behind the bytes of a length the body is read. -/
theorem receive_of_width {header : Bytes} (width : header.length = Frame.headerLength)
    (later : List Signal) :
    receive (header.map .byte ++ later) = receiveBody (Bytes.ofBigEndian header) later := by
  obtain ⟨first, others, rfl⟩ : ∃ first others, header = first :: others :=
    List.exists_cons_of_length_eq_add_one width
  have fewer : others.length = Frame.headerLength - 1 := Nat.succ.inj width
  rw [List.map_cons, List.cons_append, receive, ← fewer, readExact_bytes]

/-- Behind a whole header the body is read. -/
theorem receive_header {frame : Bytes} (allowed : frame.length ≤ Frame.maxLength)
    (later : List Signal) :
    receive ((Frame.header frame).map .byte ++ later) = receiveBody frame.length later := by
  have width : (Frame.header frame).length = Frame.headerLength := Bytes.length_bigEndian _ _
  rw [receive_of_width width, Frame.ofBigEndian_header allowed]

/-- **A frame is received whole**, and nothing of what follows it. -/
theorem receive_framed {frame : Bytes} (allowed : frame.length ≤ Frame.maxLength)
    (later : List Signal) :
    receive ((Frame.framed frame).map .byte ++ later) = (.ok frame, later) := by
  rw [Frame.framed, List.map_append, List.append_assoc, receive_header allowed, receiveBody,
    if_neg (Nat.not_lt.2 allowed), readExact_bytes]
  rfl

/-- **A frame that has begun and does not go on** fails with what it breaks off at. -/
theorem receive_of_begun {start : Bytes} {behind left : List Signal} {failure : Failure}
    (begun : Frame.Begun start) (breaks : Breaks behind failure left) :
    receive (start.map .byte ++ behind) = (.error failure.midFrame, left) := by
  obtain ⟨something, whole⟩ := begun
  by_cases inHeader : start.length < Frame.headerLength
  · -- the length of the frame breaks off
    obtain ⟨first, others, rfl⟩ := List.exists_cons_of_ne_nil something
    have fewer : others.length < Frame.headerLength - 1 := Nat.lt_of_succ_lt_succ inHeader
    rw [List.map_cons, List.cons_append, receive, readExact_of_breaks fewer breaks]
  · -- the body of the frame breaks off
    obtain ⟨allowed, few⟩ := whole (Nat.le_of_not_lt inHeader)
    obtain ⟨header, body, rfl, width⟩ : ∃ header body, start = header ++ body ∧
        header.length = Frame.headerLength :=
      ⟨start.take Frame.headerLength, start.drop Frame.headerLength,
        (List.take_append_drop _ _).symm, by rw [List.length_take]; omega⟩
    rw [Frame.announced_append width] at allowed few
    have fewer : body.length < Bytes.ofBigEndian header := by
      rw [List.length_append, width] at few
      omega
    rw [List.map_append, List.append_assoc, receive_of_width width, receiveBody,
      if_neg (Nat.not_lt.2 allowed), readExact_of_breaks fewer breaks]
    rfl

/-- **From a proper part of a frame nothing is received.** The end of the stream is then the end
inside a frame, and everything is lost. -/
theorem receive_cut {frame : Bytes} (allowed : frame.length ≤ Frame.maxLength) {count : Nat}
    (begun : 0 < count) (missing : count < (Frame.framed frame).length) :
    receive (((Frame.framed frame).take count).map .byte) = (.error .endInsideFrame, []) := by
  have lost := receive_of_begun (Frame.begun_take allowed begun missing) .finished
  rw [List.append_nil] at lost
  exact lost

end Signal

namespace Source

/-! ### A source and its signals -/

@[simp] theorem signals_cons (arrival : Arrival) (later : Source) :
    signals (arrival :: later) = arrival.signals ++ signals later :=
  List.flatMap_cons

theorem signals_putBack (bytes : Bytes) (later : Source) :
    signals (putBack bytes later) = bytes.map .byte ++ signals later := by
  unfold putBack
  cases bytes with
  | nil => rfl
  | cons first others => rfl

/-- Pieces that are not empty bring their bytes, wherever the borders are. -/
theorem signals_pieces {pieces : List Bytes} (nonempty : ∀ piece ∈ pieces, piece ≠ []) :
    signals (pieces.map .piece) = pieces.flatten.map .byte := by
  induction pieces with
  | nil => rfl
  | cons piece later ih =>
    have rest := ih fun other member => nonempty other (List.mem_cons_of_mem _ member)
    rw [List.map_cons, signals_cons, rest, List.flatten_cons, List.map_append,
      Arrival.signals_piece (nonempty piece List.mem_cons_self)]

theorem signals_of_read_failed {wanted : Nat} {source left : Source} {failure : Failure}
    (given : source.read wanted = (.error failure, left)) :
    source.signals = .failed failure :: left.signals := by
  unfold read at given
  split at given
  · cases given
  · split at given
    · cases given
    · cases given
    · cases given
      rfl
    · cases given

/-- A read that gives nothing has met an end: one on the way, or that of the source. -/
theorem signals_of_read_nothing {wanted : Nat} {source left : Source} (positive : wanted ≠ 0)
    (given : source.read wanted = (.ok [], left)) :
    source.signals = [] ∧ left.signals = [] ∨ source.signals = .ended :: left.signals := by
  unfold read at given
  rw [if_neg positive] at given
  split at given
  · cases given
    exact .inl ⟨rfl, rfl⟩
  · cases given
    exact .inr rfl
  · cases given
  · next bytes later =>
    obtain ⟨nothing, rfl⟩ := Prod.mk.inj given
    cases bytes with
    | nil =>
      rw [List.drop_nil]
      exact .inr rfl
    | cons first others =>
      obtain ⟨fewer, rfl⟩ := Nat.exists_eq_succ_of_ne_zero positive
      cases nothing

/-- A read that gives bytes takes them off the signals. -/
theorem signals_of_read_bytes {wanted : Nat} {source left : Source} {first : UInt8}
    {others : Bytes} (given : source.read wanted = (.ok (first :: others), left)) :
    source.signals = (first :: others).map .byte ++ left.signals := by
  unfold read at given
  split at given
  · cases given
  · split at given
    · cases given
    · cases given
    · cases given
    · next bytes later =>
      obtain ⟨front, rfl⟩ := Prod.mk.inj given
      have front : bytes.take wanted = first :: others := Except.ok.inj front
      have something : bytes ≠ [] := by
        rintro rfl
        rw [List.take_nil] at front
        cases front
      rw [signals_cons, Arrival.signals_piece something, signals_putBack, ← front,
        ← List.append_assoc, ← List.map_append, List.take_append_drop]

/-- **An exact read sees no borders.** -/
theorem readExact_signals (wanted : Nat) (source : Source) :
    (source.readExact wanted).map id signals = Signal.readExact wanted source.signals := by
  fun_induction readExact wanted source with
  | case1 source => rfl
  | case2 wanted source nonzero failure left once =>
    obtain ⟨fewer, rfl⟩ := Nat.exists_eq_succ_of_ne_zero nonzero
    rw [signals_of_read_failed once]
    rfl
  | case3 wanted source nonzero left once =>
    obtain ⟨fewer, rfl⟩ := Nat.exists_eq_succ_of_ne_zero nonzero
    rcases signals_of_read_nothing nonzero once with ⟨finished, nothing⟩ | ended
    · rw [finished, Prod.map_apply, nothing]
      rfl
    · rw [ended]
      rfl
  | case4 wanted source nonzero first others middle once failure left exact ih =>
    have short := (byteCount_read once).2
    rw [exact] at ih
    rw [signals_of_read_bytes once, Signal.readExact_bytes_append short, List.length_cons, ← ih]
    rfl
  | case5 wanted source nonzero first others middle once rest left exact ih =>
    have short := (byteCount_read once).2
    rw [exact] at ih
    rw [signals_of_read_bytes once, Signal.readExact_bytes_append short, List.length_cons, ← ih]
    rfl

/-- The rest of a frame is received as from the signals, its first bytes among them. -/
theorem receiveRest_signals {first : UInt8} {others : Bytes} {source : Source}
    (short : (first :: others).length ≤ Frame.headerLength) :
    (receiveRest (first :: others) source).map id signals =
      Signal.receive ((first :: others).map .byte ++ source.signals) := by
  have fewer : others.length ≤ Frame.headerLength - 1 := by
    rw [List.length_cons] at short
    omega
  have distance : Frame.headerLength - 1 - others.length =
      Frame.headerLength - (first :: others).length := by
    rw [List.length_cons]
    omega
  have exact := readExact_signals (Frame.headerLength - (first :: others).length) source
  rw [List.map_cons, List.cons_append, Signal.receive, Signal.readExact_bytes_append fewer,
    distance, ← exact, receiveRest]
  rcases source.readExact (Frame.headerLength - (first :: others).length) with ⟨_ | rest, left⟩
  · rfl
  · -- the length is known, and the body is one more exact read
    show Prod.map id signals (if _ then _ else _) =
      Signal.receiveBody (Bytes.ofBigEndian (first :: (others ++ rest))) left.signals
    have body := readExact_signals (Bytes.ofBigEndian (first :: (others ++ rest))) left
    rw [Signal.receiveBody, ← body, List.cons_append]
    split
    · rfl
    · rcases left.readExact (Bytes.ofBigEndian (first :: (others ++ rest))) with ⟨_ | _, _⟩ <;> rfl

/-- **Receiving a frame sees no borders.** -/
theorem receive_signals (source : Source) :
    source.receive.map id signals = Signal.receive source.signals := by
  unfold receive
  split
  · next failure left once =>
    rw [signals_of_read_failed once]
    rfl
  · next left once =>
    rcases signals_of_read_nothing (by decide) once with ⟨finished, nothing⟩ | ended
    · rw [finished, Prod.map_apply, nothing]
      rfl
    · rw [ended]
      rfl
  · next first others left once =>
    rw [receiveRest_signals (byteCount_read once).2, signals_of_read_bytes once]

/-- Receives `count` times, going on after failures. -/
def receiveEach : Nat → Source → List (Except Failure Bytes) × Source
  | 0, source => ([], source)
  | count + 1, source =>
    (source.receive.1 :: (receiveEach count source.receive.2).1,
      (receiveEach count source.receive.2).2)

/-- **Any number of receptions sees no borders.** -/
theorem receiveEach_signals (count : Nat) (source : Source) :
    (receiveEach count source).map id signals = Signal.receiveEach count source.signals := by
  induction count generalizing source with
  | zero => rfl
  | succ count ih =>
    have once := receive_signals source
    rw [Signal.receiveEach, ← once, Prod.map_snd, ← ih, receiveEach]
    rfl

/-! ### Receptions up to the first failure -/

theorem receiveAll_of_failed {source left : Source} {failure : Failure}
    (given : source.receive = (.error failure, left)) :
    source.receiveAll = ([], failure, left) := by
  rw [receiveAll]
  split
  · next other after this =>
    rw [given] at this
    cases this
    rfl
  · next frame after this =>
    rw [given] at this
    cases this

theorem receiveAll_nil : receiveAll [] = ([], .endOfStream, []) :=
  receiveAll_of_failed rfl

theorem receiveAll_of_received {source left : Source} {frame : Bytes}
    (given : source.receive = (.ok frame, left)) :
    source.receiveAll = (frame :: left.receiveAll.1, left.receiveAll.2) := by
  rw [receiveAll]
  split
  · next failure after this =>
    rw [given] at this
    cases this
  · next other after this =>
    rw [given] at this
    cases this
    rfl

/-- What all receptions give tells what the first one gave. -/
theorem receive_of_receiveAll (source : Source) :
    (∃ failure left, source.receive = (.error failure, left) ∧
      source.receiveAll = ([], failure, left)) ∨
    ∃ frame left, source.receive = (.ok frame, left) ∧
      source.receiveAll = (frame :: left.receiveAll.1, left.receiveAll.2) := by
  rcases given : source.receive with ⟨failure | frame, left⟩
  · exact .inl ⟨failure, left, rfl, receiveAll_of_failed given⟩
  · exact .inr ⟨frame, left, rfl, receiveAll_of_received given⟩

theorem receiveAll_of_receiveEach {frames : List Bytes} {failure : Failure} {source left : Source}
    (given : receiveEach (frames.length + 1) source = (frames.map .ok ++ [.error failure], left)) :
    receiveAll source = (frames, failure, left) := by
  induction frames generalizing source with
  | nil =>
    obtain ⟨failed, rest⟩ := Prod.mk.inj given
    exact receiveAll_of_failed (Prod.ext (List.cons.inj failed).1 rest)
  | cons frame later ih =>
    obtain ⟨received, rest⟩ := Prod.mk.inj given
    obtain ⟨first, others⟩ := List.cons.inj received
    have once : source.receive = (.ok frame, source.receive.2) := Prod.ext first rfl
    have onward : source.receive.2.receiveAll = (later, failure, left) :=
      ih (Prod.ext others rest)
    rw [receiveAll_of_received once, onward]

end Source

end SharedWeights
