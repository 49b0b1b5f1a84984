/-
**A connection ends, and handles no more than it was sent.**

A connection has no counter and no limit on its turns. But each turn that does not end it takes a
frame off the reader, and a frame has a length in front even if it is empty, so that the bytes that
are there bound the turns. The turns are told here one by one, as they are taken:

* `goes_turn`: the three ways in which a turn goes;
* `turns_eq`: after as many turns as there may be frames the connection has ended as it does;
* `faithful_goes`: before every turn, the frames that were handed over are the first bytes of the
  reader, and the store is the one after them;
* `accounts_turns`: so it is in the end, where besides only part of a frame may be lost;
* `serve_ends`: all of this for a whole connection.

The invariant is stated on signals and not on bytes, because an end or a failure between two frames
would not show in the bytes.
-/

import SharedWeights.Proofs.Connection.Lockstep
import SharedWeights.Proofs.Transport.Outcomes

namespace SharedWeights

/-! ### The bytes of a source -/

/-- The bytes that an arrival brings. -/
def Arrival.bytes : Arrival → Bytes
  | .piece bytes => bytes
  | .ended => []
  | .failed _ => []

/-- The bytes of all pieces that are still to arrive. -/
def Source.bytes (source : Source) : Bytes :=
  source.flatMap Arrival.bytes

/-- The bytes among signals. -/
def Signal.bytes (signals : List Signal) : Bytes :=
  signals.filterMap fun signal =>
    match signal with
    | .byte value => some value
    | .ended => none
    | .failed _ => none

theorem Source.length_bytes (source : Source) : source.bytes.length = source.byteCount := by
  induction source with
  | nil => rfl
  | cons arrival later ih =>
    have first : arrival.bytes.length = arrivalCount arrival := by cases arrival <;> rfl
    rw [bytes, List.flatMap_cons, List.length_append, byteCount_cons, first, ← ih]
    rfl

namespace Signal

@[simp] theorem bytes_append (front back : List Signal) :
    bytes (front ++ back) = bytes front ++ bytes back :=
  List.filterMap_append

@[simp] theorem bytes_map_byte (values : Bytes) : bytes (values.map .byte) = values := by
  induction values with
  | nil => rfl
  | cons value others ih => exact congrArg (value :: ·) ih

theorem bytes_signals (source : Source) : bytes source.signals = source.bytes := by
  induction source with
  | nil => rfl
  | cons arrival later ih =>
    have first : bytes arrival.signals = arrival.bytes := by
      match arrival with
      | .piece [] | .ended | .failed _ => rfl
      | .piece (value :: others) => exact bytes_map_byte (value :: others)
    rw [Source.signals_cons, bytes_append, ih, first]
    rfl

/-- Reading breaks off at no byte. -/
theorem bytes_of_breaks {signals left : List Signal} {failure : Failure}
    (breaks : Breaks signals failure left) : bytes signals = bytes left := by
  cases breaks <;> rfl

/-- A reception that fails takes some bytes off the front, and none if the stream ends there. -/
theorem bytes_of_failed {signals left : List Signal} {failure : Failure}
    (outcome : Outcome signals (.error failure) left) :
    ∃ lost, bytes signals = lost ++ bytes left ∧ (failure.kind = .endOfStream → lost = []) := by
  rcases failed_cases outcome with breaks | ⟨header, -, -, rfl, rfl⟩ |
    ⟨start, behind, cause, -, rfl, breaks, rfl⟩
  · exact ⟨[], bytes_of_breaks breaks, fun _ => rfl⟩
  · exact ⟨header, by rw [bytes_append, bytes_map_byte], fun ended => nomatch ended⟩
  · refine ⟨start, by rw [bytes_append, bytes_map_byte, bytes_of_breaks breaks], fun ended => ?_⟩
    exact absurd ended cause.kind_midFrame_ne

end Signal

namespace Connection

/-! ### Turns -/

/-- A connection between two turns. -/
structure Standing where
  source : Source
  sink : Sink
  store : Store
  /-- The frames handed over so far. -/
  forwarded : List Bytes
  events : List Event

namespace Standing

/-- A connection before its first turn. -/
def opened (source : Source) (sink : Sink) (store : Store) : Standing :=
  ⟨source, sink, store, [], []⟩

/-- One turn: how the connection has ended by it, or how it stands then. -/
def turn (standing : Standing) : Ending ⊕ Standing :=
  match standing.source.receive with
  | (.error failure, left) =>
    .inl ⟨receiveOutcome failure, left, standing.sink, .serving standing.store, standing.forwarded,
      standing.events ++ [receiveEvent failure]⟩
  | (.ok frame, left) =>
    let answer := standing.store.handle frame
    match standing.sink.send answer.response.encode with
    | (.error failure, sink) =>
      .inl ⟨.error failure, left, sink, .serving answer.store, standing.forwarded ++ [frame],
        standing.events ++ answer.events⟩
    | (.ok (), sink) =>
      .inr ⟨left, sink, answer.store, standing.forwarded ++ [frame],
        standing.events ++ answer.events⟩

/-- How a turn goes: no frame is received, or the reply to a frame can't be sent, or it is. -/
inductive Goes (standing : Standing) : Ending ⊕ Standing → Prop
  | failed {failure : Failure} {left : Source}
      (given : standing.source.receive = (.error failure, left)) :
    Goes standing (.inl ⟨receiveOutcome failure, left, standing.sink, .serving standing.store,
      standing.forwarded, standing.events ++ [receiveEvent failure]⟩)
  | unsent {frame : Bytes} {failure : Failure} {left : Source} {broken : Sink}
      (given : standing.source.receive = (.ok frame, left))
      (unsent : standing.sink.send (standing.store.handle frame).response.encode =
        (.error failure, broken)) :
    Goes standing (.inl ⟨.error failure, left, broken,
      .serving (standing.store.handle frame).store, standing.forwarded ++ [frame],
      standing.events ++ (standing.store.handle frame).events⟩)
  | sent {frame : Bytes} {left : Source} {written : Sink}
      (given : standing.source.receive = (.ok frame, left))
      (sent : standing.sink.send (standing.store.handle frame).response.encode =
        (.ok (), written)) :
    Goes standing (.inr ⟨left, written, (standing.store.handle frame).store,
      standing.forwarded ++ [frame], standing.events ++ (standing.store.handle frame).events⟩)

/-- **A turn goes in one of three ways.** -/
theorem goes_turn (standing : Standing) : standing.Goes standing.turn := by
  unfold turn
  rcases given : standing.source.receive with ⟨failure | frame, left⟩
  · exact .failed given
  · dsimp only
    rcases sent : standing.sink.send (standing.store.handle frame).response.encode with
      ⟨failure | _, written⟩
    · exact .unsent given sent
    · exact .sent given sent

/-- Takes turns until the connection has ended, but at most `count`. -/
def turns : Nat → Standing → Ending ⊕ Standing
  | 0, standing => .inr standing
  | count + 1, standing =>
    match standing.turn with
    | .inl ending => .inl ending
    | .inr next => turns count next

/-- How a connection ends from here on, with what was before. -/
def ending (standing : Standing) : Ending :=
  let later := serve standing.source standing.sink (.serving standing.store)
  { later with
    forwarded := standing.forwarded ++ later.forwarded
    events := standing.events ++ later.events }

theorem ending_opened (source : Source) (sink : Sink) (store : Store) :
    (opened source sink store).ending = serve source sink (.serving store) := rfl

/-- A turn that ends the connection ends it as it would end from here on. -/
theorem ending_of_ended {standing : Standing} {last : Ending} (ends : standing.Goes (.inl last)) :
    standing.ending = last := by
  cases ends with
  | failed given =>
    rw [ending, serve_of_failed given]
    simp only [List.append_nil]
  | unsent given unsent => rw [ending, serve_of_unsent given unsent]

/-- A turn that goes on changes nothing in how the connection ends. -/
theorem ending_of_next {standing next : Standing} (goes : standing.Goes (.inr next)) :
    next.ending = standing.ending := by
  cases goes with
  | sent given sent =>
    rw [ending, ending, serve_of_sent given sent]
    simp only [List.append_assoc, List.singleton_append]

/-- A turn that goes on takes at least the length of a frame off the source. -/
theorem byteCount_next {standing next : Standing} (goes : standing.Goes (.inr next)) :
    next.source.byteCount + Frame.headerLength ≤ standing.source.byteCount := by
  cases goes with
  | sent given =>
    have taken := Source.byteCount_receive given
    rw [Frame.length_framed] at taken
    dsimp only
    omega

/-- **After as many turns as there may be frames the connection has ended**, as it does. -/
theorem turns_eq {count : Nat} {standing : Standing}
    (enough : standing.source.byteCount < Frame.headerLength * count) :
    standing.turns count = .inl standing.ending := by
  induction count generalizing standing with
  | zero => exact absurd enough (Nat.not_lt_zero _)
  | succ count ih =>
    have goes := standing.goes_turn
    rw [turns]
    rcases result : standing.turn with last | next
    · rw [result] at goes
      exact congrArg Sum.inl (ending_of_ended goes).symm
    · rw [result] at goes
      have fewer := byteCount_next goes
      rw [Nat.mul_succ] at enough
      show next.turns count = _
      rw [ih (by omega), ending_of_next goes]

/-! ### What was taken -/

/-- The frames handed over so far were the first signals of the source, what stood behind them is
still to arrive, and the store is the one after them. -/
structure Faithful (source : Source) (store : Store) (standing : Standing) : Prop where
  taken : source.signals =
    (Frame.stream standing.forwarded).map .byte ++ standing.source.signals
  handled : standing.store = store.after standing.forwarded

theorem faithful_opened (source : Source) (sink : Sink) (store : Store) :
    Faithful source store (opened source sink store) :=
  ⟨rfl, rfl⟩

section Received

variable {source left : Source} {store : Store} {standing : Standing} {frame : Bytes}

/-- A frame that is received stood behind the others. -/
theorem Faithful.taken_next (faithful : Faithful source store standing)
    (given : standing.source.receive = (.ok frame, left)) :
    source.signals = (Frame.stream (standing.forwarded ++ [frame])).map .byte ++ left.signals := by
  have outcome := standing.source.outcome_receive
  rw [given] at outcome
  rw [faithful.taken, (Signal.signals_of_received outcome).2, Frame.stream_append,
    Frame.stream_cons, Frame.stream_nil, List.append_nil, List.map_append, List.append_assoc]

/-- And it is handled after the others. -/
theorem Faithful.handled_next (faithful : Faithful source store standing) (frame : Bytes) :
    (standing.store.handle frame).store = store.after (standing.forwarded ++ [frame]) := by
  rw [Store.after_append, ← faithful.handled, Store.after_cons, Store.after_nil]

end Received

/-- **A turn that goes on keeps what was taken and handled.** -/
theorem faithful_goes {source : Source} {store : Store} {standing next : Standing}
    (faithful : Faithful source store standing) (goes : standing.Goes (.inr next)) :
    Faithful source store next := by
  cases goes with
  | sent given => exact ⟨faithful.taken_next given, faithful.handled_next _⟩

/-- The account of a connection in the end: its frames were the first bytes of the source, the store
is the one after them, and between them and what was not received at most part of a frame was lost,
but nothing if the connection ended well. -/
structure Accounts (source : Source) (store : Store) (ending : Ending) : Prop where
  handled : ending.counterpart = .serving (store.after ending.forwarded)
  taken : ∃ lost, source.bytes = Frame.stream ending.forwarded ++ lost ++ ending.source.bytes ∧
    (ending.outcome = .ok () → lost = [])

theorem accounts_goes {source : Source} {store : Store} {standing : Standing} {ending : Ending}
    (faithful : Faithful source store standing) (goes : standing.Goes (.inl ending)) :
    Accounts source store ending := by
  cases goes with
  | @failed failure left given =>
    have outcome := standing.source.outcome_receive
    rw [given] at outcome
    obtain ⟨lost, behind, nothing⟩ := Signal.bytes_of_failed outcome
    refine ⟨congrArg Counterpart.serving faithful.handled, lost, ?_, fun well => nothing ?_⟩
    · rw [← Signal.bytes_signals, faithful.taken, Signal.bytes_append, Signal.bytes_map_byte,
        behind, Signal.bytes_signals, List.append_assoc]
    · by_contra other
      have failed : receiveOutcome failure = .error failure := if_neg other
      rw [failed] at well
      cases well
  | @unsent frame failure left broken given =>
    refine ⟨congrArg Counterpart.serving (faithful.handled_next frame), [], ?_, fun _ => rfl⟩
    rw [← Signal.bytes_signals, faithful.taken_next given, Signal.bytes_append,
      Signal.bytes_map_byte, Signal.bytes_signals, List.append_nil]

/-- **Whatever turns a connection takes until it ends, its account is right.** -/
theorem accounts_turns {source : Source} {store : Store} {count : Nat} {standing : Standing}
    {ending : Ending} (faithful : Faithful source store standing)
    (ended : standing.turns count = .inl ending) : Accounts source store ending := by
  induction count generalizing standing with
  | zero => cases ended
  | succ count ih =>
    have goes := standing.goes_turn
    rw [turns] at ended
    rcases result : standing.turn with last | next
    · rw [result] at goes ended
      cases ended
      exact accounts_goes faithful goes
    · rw [result] at goes ended
      exact ih (faithful_goes faithful goes) ended

end Standing

end Connection

/-- **A connection ends, and handles no more than it was sent**, over any source that ends, with any
writer. It takes no more turns than one and one for every eight bytes. The frames that it has handed
over, each with its length, are the first bytes of the source, one behind the other, so that they
are no longer than all of it. The store is the one after these frames, and the server has nothing
more to do. Of the other bytes at most part of a frame was read, and none if the connection ended
well. -/
theorem serve_ends (source : Source) (sink : Sink) (store : Store) :
    let ending := Connection.serve source sink (.serving store)
    (∃ count ≤ source.bytes.length / Frame.headerLength + 1,
      (Connection.Standing.opened source sink store).turns count = .inl ending) ∧
    Frame.total ending.forwarded ≤ source.bytes.length ∧
    Frame.stream ending.forwarded <+: source.bytes ∧
    ending.counterpart = .serving (store.after ending.forwarded) ∧
    (Connection.serveAlone source sink (.serving store)).events = ending.events ++ [.idle] ∧
    ∃ lost, source.bytes = Frame.stream ending.forwarded ++ lost ++ ending.source.bytes ∧
      (ending.outcome = .ok () → lost = []) := by
  intro ending
  have enough : source.byteCount <
      Frame.headerLength * (source.bytes.length / Frame.headerLength + 1) := by
    rw [source.length_bytes]
    exact Nat.lt_mul_div_succ _ (by decide)
  have ended : (Connection.Standing.opened source sink store).turns
      (source.bytes.length / Frame.headerLength + 1) = .inl ending := by
    rw [Connection.Standing.turns_eq enough, Connection.Standing.ending_opened]
  obtain ⟨handled, lost, taken, nothing⟩ :=
    Connection.Standing.accounts_turns
      (Connection.Standing.faithful_opened source sink store) ended
  have front : Frame.stream ending.forwarded <+: source.bytes :=
    ⟨lost ++ ending.source.bytes, by rw [taken, List.append_assoc]⟩
  refine ⟨⟨_, Nat.le_refl _, ended⟩, ?_, front, handled, ?_, lost, taken, nothing⟩
  · rw [← Frame.length_stream]
    exact front.length_le
  · unfold Connection.serveAlone
    dsimp only
    rw [show (Connection.serve source sink (.serving store)).counterpart = _ from handled]

/-- Two empty frames in pieces, an end, and a byte behind it that is never read. -/
theorem serve_ends_between_frames :
    let store := Settings.standard.store
    let source : Source := [.piece [0, 0, 0], .piece (List.replicate 13 0), .ended, .piece [9]]
    let ending := Connection.serve source (Sink.fresh .unlimited) (.serving store)
    ending.outcome = .ok () ∧ ending.forwarded = [[], []] ∧
      source.bytes = Frame.stream ending.forwarded ++ ending.source.bytes ∧
      ending.source.bytes = [9] := by
  intro store source ending
  have signals := congrArg Prod.fst (Source.receiveEach_signals 3 source)
  have outcomes : (Source.receiveEach 3 source).1 = [.ok [], .ok [], .error .endOfStream] :=
    signals.trans rfl
  have given : source.receiveAll = ([[], []], .endOfStream, (Source.receiveEach 3 source).2) :=
    Source.receiveAll_of_receiveEach (Prod.ext outcomes rfl)
  have sent := Sink.sendEach_of_unfailing (Sink.fresh .unlimited) ⟨by decide, rfl, rfl⟩
    (store.replies source.receiveAll.1)
  obtain ⟨outcome, -, forwarded, -⟩ := Connection.serve_of_all_sent source _ store sent
  rw [given] at outcome forwarded
  have well : ending.outcome = .ok () := outcome
  obtain ⟨-, -, -, -, -, lost, taken, nothing⟩ :=
    serve_ends source (Sink.fresh .unlimited) store
  rw [nothing well, List.append_nil] at taken
  have whole : source.bytes = Frame.stream [[], []] ++ [9] := by decide
  refine ⟨well, forwarded, taken, ?_⟩
  rw [whole, show (Connection.serve source _ _).forwarded = _ from forwarded] at taken
  exact (List.append_cancel_left taken).symm

end SharedWeights
