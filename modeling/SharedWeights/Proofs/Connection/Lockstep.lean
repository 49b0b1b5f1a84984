/-
**A connection over any reader and any writer.**

A connection takes turns: a frame is received, handled, and answered before the next is received. So
a connection is told by three lists that know nothing of one another: the frames that the reader
gives until its first failure, the replies to these frames, and the outcomes of sending these
replies. Whichever fails first ends it.

* `serve_of_failed`, `serve_of_unsent`, `serve_of_sent`: the three ways in which a turn goes;
* `serve_of_all_sent`: a connection whose replies can all be sent ends with the reader;
* `serve_of_first_unsent`: any other ends with the first reply that can't be sent.
-/

import SharedWeights.Connection
import SharedWeights.Proofs.Server.Runs
import SharedWeights.Proofs.Transport.Delivery

namespace SharedWeights

namespace Connection

/-! ### One turn -/

section Turn

variable {source left : Source} {sink : Sink}

theorem serve_of_failed {failure : Failure} (given : source.receive = (.error failure, left))
    (counterpart : Counterpart) :
    serve source sink counterpart =
      ⟨receiveOutcome failure, left, sink, counterpart, [], [receiveEvent failure]⟩ := by
  rw [serve]
  split
  · next other after this =>
    rw [given] at this
    cases this
    rfl
  · next frame after this =>
    rw [given] at this
    cases this

variable {frame : Bytes} {store : Store}

/-- A reply that can't be sent ends the connection, but what the frame did to the store stays. -/
theorem serve_of_unsent {failure : Failure} {broken : Sink}
    (given : source.receive = (.ok frame, left))
    (unsent : sink.send (store.handle frame).response.encode = (.error failure, broken)) :
    serve source sink (.serving store) =
      ⟨.error failure, left, broken, .serving (store.handle frame).store, [frame],
        (store.handle frame).events⟩ := by
  rw [serve]
  split
  · next other after this =>
    rw [given] at this
    cases this
  · next other after this =>
    rw [given] at this
    cases this
    dsimp only
    rw [unsent]

theorem serve_of_sent {written : Sink} (given : source.receive = (.ok frame, left))
    (sent : sink.send (store.handle frame).response.encode = (.ok (), written)) :
    serve source sink (.serving store) =
      let ending := serve left written (.serving (store.handle frame).store)
      { ending with
        forwarded := frame :: ending.forwarded
        events := (store.handle frame).events ++ ending.events } := by
  rw [serve]
  split
  · next other after this =>
    rw [given] at this
    cases this
  · next other after this =>
    rw [given] at this
    cases this
    dsimp only
    rw [sent]

end Turn

/-! ### All turns -/

/-- **If every reply can be sent, the reader ends the connection.** -/
theorem serve_of_all_sent (source : Source) (sink : Sink) (store : Store)
    (sent : ∀ outcome ∈ (sink.sendEach (store.replies source.receiveAll.1)).1, outcome = .ok ()) :
    let ending := serve source sink (.serving store)
    ending.outcome = receiveOutcome source.receiveAll.2.1 ∧
      ending.counterpart = .serving (store.after source.receiveAll.1) ∧
      ending.forwarded = source.receiveAll.1 ∧
      ending.sink = (sink.sendEach (store.replies source.receiveAll.1)).2 := by
  -- by induction on the frames that are received
  induction frames : source.receiveAll.1 generalizing source sink store with
  | nil =>
    rcases source.receive_of_receiveAll with ⟨failure, left, given, all⟩ | ⟨first, left, _, all⟩
    · rw [serve_of_failed given, all]
      exact ⟨rfl, rfl, rfl, rfl⟩
    · rw [all] at frames
      cases frames
  | cons frame later ih =>
    rcases source.receive_of_receiveAll with ⟨failure, left, _, all⟩ | ⟨first, left, given, all⟩
    · rw [all] at frames
      cases frames
    · rw [all] at frames sent ⊢
      obtain ⟨rfl, others⟩ := List.cons.inj frames
      rw [others, Store.replies_cons] at sent
      have once := sent _ List.mem_cons_self
      have rest : ∀ outcome ∈ ((sink.send (store.handle first).response.encode).2.sendEach
          ((store.handle first).store.replies left.receiveAll.1)).1, outcome = .ok () := by
        intro outcome member
        rw [others] at member
        exact sent outcome (List.mem_cons_of_mem _ member)
      obtain ⟨outcome, counterpart, forwarded, written⟩ := ih left _ _ rest others
      rw [serve_of_sent given (Prod.ext once rfl)]
      refine ⟨outcome, counterpart, ?_, written⟩
      show first :: _ = _
      rw [forwarded]

/-- **The first reply that can't be sent ends the connection**, with its own failure. What its frame
did to the store stays, and no frame behind it is handled. -/
theorem serve_of_first_unsent (source : Source) (sink : Sink) (store : Store) {count : Nat}
    {failure : Failure}
    (earlier : ∀ index < count,
      (sink.sendEach (store.replies source.receiveAll.1)).1[index]? = some (.ok ()))
    (failed : (sink.sendEach (store.replies source.receiveAll.1)).1[count]? =
      some (.error failure)) :
    let ending := serve source sink (.serving store)
    let handled := source.receiveAll.1.take (count + 1)
    ending.outcome = .error failure ∧ ending.counterpart = .serving (store.after handled) ∧
      ending.forwarded = handled ∧ ending.sink = (sink.sendEach (store.replies handled)).2 := by
  induction count generalizing source sink store with
  | zero =>
    rcases source.receive_of_receiveAll with ⟨_, left, _, all⟩ | ⟨frame, left, given, all⟩
    · rw [all] at failed
      cases failed
    · rw [all] at failed ⊢
      have unsent : (sink.send (store.handle frame).response.encode).1 = .error failure :=
        Option.some.inj failed
      rw [serve_of_unsent given (Prod.ext unsent rfl), List.take_succ_cons, List.take_zero]
      exact ⟨rfl, rfl, rfl, rfl⟩
  | succ count ih =>
    rcases source.receive_of_receiveAll with ⟨_, left, _, all⟩ | ⟨frame, left, given, all⟩
    · rw [all] at failed
      cases failed
    · rw [all] at earlier failed ⊢
      have once : (sink.send (store.handle frame).response.encode).1 = .ok () :=
        Option.some.inj (earlier 0 (Nat.zero_lt_succ count))
      obtain ⟨outcome, counterpart, forwarded, written⟩ :=
        ih left (sink.send (store.handle frame).response.encode).2 (store.handle frame).store
          (fun index before => earlier (index + 1) (Nat.succ_lt_succ before)) failed
      rw [serve_of_sent given (Prod.ext once rfl), List.take_succ_cons]
      refine ⟨outcome, counterpart, ?_, written⟩
      show frame :: _ = _
      rw [forwarded]

end Connection

/-- **A connection over any reader and any writer.** Let the frames be those that the reader gives
until its first failure, and let the replies to them be sent in turn on the writer. If one send is
the first that fails, the connection ends with its failure; the store is the one after the frames up
to and with the one whose reply failed, no other was handed over, and written is what was emitted
for these replies. If no send fails, the store is the one after all frames, all replies are written,
and the outcome is the reader's: good at the end of the stream, and else its failure. -/
theorem serve_lockstep (source : Source) (sink : Sink) (store : Store) :
    let frames := source.receiveAll.1
    let replies := store.replies frames
    let outcomes := (sink.sendEach replies).1
    let ending := Connection.serve source sink (.serving store)
    (∀ count failure, (∀ index < count, outcomes[index]? = some (.ok ())) →
        outcomes[count]? = some (.error failure) →
      ending.outcome = .error failure ∧
        ending.counterpart = .serving (store.after (frames.take (count + 1))) ∧
        ending.forwarded = frames.take (count + 1) ∧
        ending.sink = (sink.sendEach (replies.take (count + 1))).2) ∧
    ((∀ outcome ∈ outcomes, outcome = .ok ()) →
      ending.outcome =
          (if source.receiveAll.2.1.kind = .endOfStream then .ok ()
          else .error source.receiveAll.2.1) ∧
        ending.counterpart = .serving (store.after frames) ∧ ending.forwarded = frames ∧
        ending.sink.written.toList = sink.written.toList ++ Frame.stream replies) := by
  intro frames replies outcomes ending
  refine ⟨fun count failure earlier failed => ?_, fun sent => ?_⟩
  · obtain ⟨outcome, counterpart, forwarded, written⟩ :=
      Connection.serve_of_first_unsent source sink store earlier failed
    refine ⟨outcome, counterpart, forwarded, ?_⟩
    rw [← Store.replies_take]
    exact written
  · obtain ⟨outcome, counterpart, forwarded, written⟩ :=
      Connection.serve_of_all_sent source sink store sent
    refine ⟨outcome, counterpart, forwarded, ?_⟩
    rw [show ending.sink = _ from written]
    exact Sink.written_sendEach_of_ok sent

/-- Two empty frames, which can't be read, and a writer with room for the first refusal only. -/
theorem serve_lockstep_full :
    let store := Settings.standard.store
    let source : Source := [.piece (List.replicate 16 0)]
    let sink := Sink.fresh ⟨some 7, some 100, none, none⟩
    let ending := Connection.serve source sink (.serving store)
    source.receiveAll.1 = [[], []] ∧
      (sink.sendEach (store.replies source.receiveAll.1)).1[0]? = some (.ok ()) ∧
      (sink.sendEach (store.replies source.receiveAll.1)).1[1]? = some (.error .nothingWritten) ∧
      ending.outcome = .error .nothingWritten ∧ ending.counterpart = .serving store ∧
      ending.forwarded = [[], []] := by
  intro store source sink ending
  have nonempty : ∀ piece ∈ [List.replicate 16 (0 : UInt8)], piece ≠ [] := by decide
  have allowed : ∀ frame ∈ [([] : Bytes), []], frame.length ≤ Frame.maxLength := by decide
  obtain ⟨left, -, given⟩ := Source.receiveAll_stream nonempty allowed rfl
  have frames : source.receiveAll.1 = [[], []] := congrArg Prod.fst given
  have portions : sink.limits.maxWrite? ≠ some 0 := by decide
  let reply := (store.handle []).response.encode
  have replies : store.replies source.receiveAll.1 = [reply, reply] := by
    rw [frames]
    rfl
  have first : sink.send reply = (sink.holding (Frame.framed reply)).flush := by
    rw [Sink.send_eq portions, if_pos (by decide)]
  have second : ((sink.send reply).2.send reply).1 = .error .nothingWritten := by
    rw [first, Sink.send_eq (by decide), if_neg (by decide)]
    rfl
  have sent : (sink.sendEach (store.replies source.receiveAll.1)).1[0]? = some (.ok ()) := by
    rw [replies, Sink.sendEach, first]
    rfl
  have unsent : (sink.sendEach (store.replies source.receiveAll.1)).1[1]? =
      some (.error .nothingWritten) := by
    rw [replies, Sink.sendEach, Sink.sendEach, second]
    rfl
  obtain ⟨outcome, counterpart, forwarded, -⟩ :=
    (serve_lockstep source sink store).1 1 .nothingWritten
      (fun index before => by rw [Nat.lt_one_iff.1 before, sent]) unsent
  rw [frames] at counterpart forwarded
  exact ⟨frames, sent, unsent, outcome, counterpart, forwarded⟩

end SharedWeights
