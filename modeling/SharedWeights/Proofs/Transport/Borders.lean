/-
**Where a stream is cut means nothing.**

Two sources may bring the same bytes, ends and failures in the same order and differ only in where
their pieces are cut. Such sources are alike: with neighbouring pieces put together they are the
same. No number of receptions tells them apart, whatever they bring and whatever fails on the way.

* `signals_merged`: putting pieces together changes no signal;
* `gather_signals`: a source with its pieces put together is told by its signals alone;
* `alike_iff_signals_eq`: so two sources are alike exactly if their signals are the same;
* `receive_of_alike`: alike sources give the same frame or failure, and what is left is alike;
* `receiveEach_of_alike`: so it is for any number of receptions.
-/

import SharedWeights.Proofs.Transport.Signals

namespace SharedWeights

namespace Source

/-! ### Pieces put together -/

/-- Puts bytes in front of a source, into the piece that stands there if it has bytes. -/
def joinFront (bytes : Bytes) : Source → Source
  | .piece (first :: others) :: later => .piece (bytes ++ first :: others) :: later
  | later => .piece bytes :: later

/-- The source with neighbouring pieces put together. A piece without bytes is an end. -/
def merged : Source → Source
  | [] => []
  | .piece [] :: later => .ended :: merged later
  | .piece (first :: others) :: later => joinFront (first :: others) (merged later)
  | .ended :: later => .ended :: merged later
  | .failed failure :: later => .failed failure :: merged later

/-- Two sources that differ at most in where their pieces are cut. -/
def Alike (first second : Source) : Prop :=
  first.merged = second.merged

instance (first second : Source) : Decidable (Alike first second) :=
  inferInstanceAs (Decidable (first.merged = second.merged))

theorem joinFront_joinFront (front : Bytes) {back : Bytes} (nonempty : back ≠ [])
    (later : Source) :
    joinFront front (joinFront back later) = joinFront (front ++ back) later := by
  obtain ⟨first, others, rfl⟩ := List.exists_cons_of_ne_nil nonempty
  match later with
  | [] | .ended :: _ | .failed _ :: _ | .piece [] :: _ => rfl
  | .piece (_ :: _) :: _ => simp only [joinFront, List.cons_append, List.append_assoc]

theorem signals_joinFront {bytes : Bytes} (nonempty : bytes ≠ []) (later : Source) :
    signals (joinFront bytes later) = bytes.map .byte ++ signals later := by
  match later with
  | [] | .ended :: _ | .failed _ :: _ | .piece [] :: _ =>
    -- nothing stands there that the bytes could join
    show signals (.piece bytes :: _) = _
    rw [signals_cons, Arrival.signals_piece nonempty]
  | .piece (first :: others) :: later =>
    have joined : bytes ++ first :: others ≠ [] := List.append_ne_nil_of_left_ne_nil nonempty _
    rw [joinFront, signals_cons, signals_cons, Arrival.signals_piece joined, List.map_append,
      List.append_assoc]
    rfl

/-- **Putting pieces together changes no signal.** -/
theorem signals_merged (source : Source) : signals (merged source) = signals source := by
  fun_induction merged source with
  | case1 => rfl
  | case2 later ih =>
    rw [signals_cons, signals_cons, ih]
    rfl
  | case3 first others later ih =>
    rw [signals_joinFront (List.cons_ne_nil first others), ih, signals_cons]
    rfl
  | case4 later ih => rw [signals_cons, signals_cons, ih]
  | case5 failure later ih => rw [signals_cons, signals_cons, ih]

end Source

/-! ### Signals gathered into pieces -/

/-- The source that brings the given signals in pieces as long as possible. -/
def Signal.gather : List Signal → Source
  | [] => []
  | .byte value :: later => Source.joinFront [value] (gather later)
  | .ended :: later => .ended :: gather later
  | .failed failure :: later => .failed failure :: gather later

theorem Signal.gather_bytes {bytes : Bytes} (nonempty : bytes ≠ []) (later : List Signal) :
    gather (bytes.map .byte ++ later) = Source.joinFront bytes (gather later) := by
  induction bytes with
  | nil => exact absurd rfl nonempty
  | cons value others ih =>
    rw [List.map_cons, List.cons_append, gather]
    cases others with
    | nil => rfl
    | cons next rest =>
      have several : next :: rest ≠ [] := List.cons_ne_nil next rest
      rw [ih several, Source.joinFront_joinFront [value] several]
      rfl

namespace Source

/-- **A source with its pieces put together is told by its signals.** -/
theorem gather_signals (source : Source) : Signal.gather source.signals = source.merged := by
  fun_induction merged source with
  | case1 => rfl
  | case2 later ih =>
    rw [← ih]
    rfl
  | case3 first others later ih =>
    rw [signals_cons, Arrival.signals_piece (List.cons_ne_nil first others),
      Signal.gather_bytes (List.cons_ne_nil first others), ih]
  | case4 later ih =>
    rw [← ih]
    rfl
  | case5 failure later ih =>
    rw [← ih]
    rfl

theorem alike_iff_signals_eq {first second : Source} :
    Alike first second ↔ first.signals = second.signals := by
  constructor
  · intro alike
    rw [← signals_merged first, alike, signals_merged]
  · intro same
    rw [Alike, ← gather_signals, same, gather_signals]

/-! ### Receiving from alike sources -/

theorem receive_of_alike {first second : Source} (alike : Alike first second) :
    first.receive.1 = second.receive.1 ∧ Alike first.receive.2 second.receive.2 := by
  have same := alike_iff_signals_eq.1 alike
  have once : first.receive.map id signals = second.receive.map id signals := by
    rw [receive_signals, receive_signals, same]
  obtain ⟨outcome, left⟩ := Prod.mk.inj once
  exact ⟨outcome, alike_iff_signals_eq.2 left⟩

/-- **Where a stream is cut means nothing.** Any number of receptions, going on after failures,
gives the same frames and the same failures from alike sources, and leaves alike sources. -/
theorem receiveEach_of_alike {first second : Source} (alike : Alike first second) (count : Nat) :
    (receiveEach count first).1 = (receiveEach count second).1 ∧
      Alike (receiveEach count first).2 (receiveEach count second).2 := by
  induction count generalizing first second with
  | zero => exact ⟨rfl, alike⟩
  | succ count ih =>
    obtain ⟨outcome, left⟩ := receive_of_alike alike
    obtain ⟨outcomes, rest⟩ := ih left
    refine ⟨?_, rest⟩
    rw [receiveEach, receiveEach, outcome, outcomes]

/-- A frame, a header that a failure cuts off, an empty frame, and an end inside a header; cut in
two ways. -/
theorem receiveEach_of_alike_resumed :
    let reset : Failure := ⟨.connectionReset, "reset by peer"⟩
    let first : Source := [.piece [0, 0, 0, 0, 0, 0, 0, 2], .piece [7], .piece [8, 0, 0, 0],
      .failed reset, .piece [0, 0, 0, 0, 0, 0, 0, 0, 9], .ended]
    let second : Source := [.piece [0, 0, 0, 0, 0, 0], .piece [0, 2, 7, 8, 0], .piece [0, 0],
      .failed reset, .piece [0, 0, 0, 0], .piece [0, 0, 0, 0], .piece [9], .ended]
    Alike first second ∧
      (receiveEach 5 first).1 =
        [.ok [7, 8], .error reset, .ok [], .error .endInsideFrame, .error .endOfStream] ∧
      (receiveEach 5 second).1 = (receiveEach 5 first).1 ∧
      Alike (receiveEach 2 first).2 (receiveEach 2 second).2 := by
  intro reset first second
  have alike : Alike first second := by decide
  have given := congrArg Prod.fst (receiveEach_signals 5 first)
  exact ⟨alike, given.trans rfl, (receiveEach_of_alike alike 5).1.symm,
    (receiveEach_of_alike alike 2).2⟩

end Source

end SharedWeights
