/-
**No connection is touched by what another sends.**

A connection whose frames are never answered with weights can send what it likes, and end where it
likes: the store and the replies to everybody else are what they would be without it.

* `eq_of_order`: a history is determined by the streams and by whose turn it was;
* `others_handled_eq`: so two runs whose streams differ for one connection only, and in which the
  others take their turns in the same order, answer the same of all others;
* `isolated_connections`: the store and the replies then.

Two runs are not compared step by step, since the connection's own steps may come anywhere in one
and nowhere in the other. Both are compared with what is left of them without it.
-/

import SharedWeights.Proofs.Service.Absence
import SharedWeights.Proofs.Transport.Delivery

namespace SharedWeights

/-! ### Whose turn it was -/

namespace Service

/-- The turns and the parts of all connections make up a history. -/
theorem eq_of_parts {first second : List (ConnectionId × Bytes)}
    (order : first.map Prod.fst = second.map Prod.fst)
    (parts : ∀ connection, ofConnection connection first = ofConnection connection second) :
    first = second := by
  induction first generalizing second with
  | nil => exact (List.map_eq_nil_iff.1 order.symm).symm
  | cons entry later ih =>
    obtain ⟨origin, bytes⟩ := entry
    rcases second with _ | ⟨⟨other, others⟩, rest⟩
    · cases order
    · obtain ⟨same, onward⟩ := List.cons.inj order
      cases (show origin = other from same)
      have own := parts origin
      rw [ofConnection_cons_self, ofConnection_cons_self] at own
      obtain ⟨rfl, -⟩ := List.cons.inj own
      refine congrArg _ (ih onward fun connection => ?_)
      have part := parts connection
      by_cases turn : origin = connection
      · subst turn
        exact (List.cons.inj own).2
      · rwa [ofConnection_cons_of_ne turn, ofConnection_cons_of_ne turn] at part

/-- **A history is determined by what its connections have to send and by whose turn it was.** -/
theorem eq_of_order {first second : List (ConnectionId × Bytes)}
    (sent : ConnectionId → List Bytes) (order : first.map Prod.fst = second.map Prod.fst)
    (firstSent : ∀ connection, ofConnection connection first <+: sent connection)
    (secondSent : ∀ connection, ofConnection connection second <+: sent connection) :
    first = second := by
  refine eq_of_parts order fun connection => ?_
  have long : (ofConnection connection first).length = (ofConnection connection second).length := by
    rw [length_ofConnection, length_ofConnection, order]
  rw [List.prefix_iff_eq_take.1 (firstSent connection),
    List.prefix_iff_eq_take.1 (secondSent connection), long]

end Service

/-! ### What was written -/

namespace Service

/-- A connection has written the replies that it was given, but for at most the last of them, and
all of them while it receives. -/
structure Wrote (service : Service) (connection : ConnectionId) (given : List Bytes) : Prop where
  front : ofConnection connection service.written <+: given
  owed : given.length ≤ (ofConnection connection service.written).length + 1
  receiving : service.phase connection = .receiving →
    ofConnection connection service.written = given

theorem Serialized.wrote {initial : Store} {service : Service}
    (serialized : service.Serialized initial) (connection : ConnectionId) :
    service.Wrote connection (ofConnection connection (answers initial service.handled)) := by
  obtain ⟨owed, due, owes⟩ := serialized.turns connection
  have few := Phase.length_le_of_owes owes
  rw [due]
  refine ⟨List.prefix_append .., ?_, fun receiving => ?_⟩
  · rw [List.length_append]
    omega
  · rw [receiving] at owes
    rw [owes.1, List.append_nil]

end Service

/-! ### Two runs -/

namespace Host

/-- **Two runs answer the same of all but one connection**, if only its stream differs and the
others take their turns in the same order. -/
theorem others_handled_eq {store : Store} {streams others : ConnectionId → Source}
    {host other : Host} {absent : ConnectionId} (reached : Reaches (start store streams) host)
    (otherReached : Reaches (start store others) other)
    (same : ∀ connection ≠ absent,
      (others connection).receiveAll.1 = (streams connection).receiveAll.1)
    (order : (Service.others absent other.service.handled).map Prod.fst =
      (Service.others absent host.service.handled).map Prod.fst) :
    Service.others absent other.service.handled = Service.others absent host.service.handled := by
  refine Service.eq_of_order (fun connection => (streams connection).receiveAll.1) order
    (fun connection => ?_) (fun connection => ?_)
  · by_cases own : connection = absent
    · rw [own, Service.ofConnection_others_self]
      exact List.nil_prefix
    · rw [Service.ofConnection_others_of_ne own]
      show _ <+: (streams connection).receiveAll.1
      rw [← same connection own]
      exact handled_prefix otherReached connection
  · by_cases own : connection = absent
    · rw [own, Service.ofConnection_others_self]
      exact List.nil_prefix
    · rw [Service.ofConnection_others_of_ne own]
      exact handled_prefix reached connection

end Host

/-- **No connection is touched by what another sends.** Connections receive from any streams, and
connections and server take their steps in any order. Let none of the frames of one connection be
answered with weights. Then all the same happens to the others if it sends nothing and does nothing
at all. And take any other run, in which the other connections have the same frames on their streams
and take their turns at the server in the same order, but this one has any other stream of which
still no frame is answered with weights. Then the store is the same, every other connection is given
the same replies, and what it wrote of them is the same but for a last reply that it still owes or
ended before it wrote. -/
theorem isolated_connections (store : Store) (streams : ConnectionId → Source) (host : Host)
    (hostile : ConnectionId) (reached : Host.Reaches (.start store streams) host)
    (spared : store.SparedBy hostile host.service.handled) :
    (∃ alone, Host.Reaches (.start store (Host.silenced hostile streams)) alone ∧
      alone.service.store = host.service.store ∧
      alone.service.forwarded = Service.others hostile host.service.forwarded ∧
      alone.service.handled = Service.others hostile host.service.handled ∧
      alone.service.written = Service.others hostile host.service.written) ∧
    ∀ (others : ConnectionId → Source) (other : Host),
      (∀ connection ≠ hostile,
        (others connection).receiveAll.1 = (streams connection).receiveAll.1) →
      Host.Reaches (.start store others) other →
      store.SparedBy hostile other.service.handled →
      (Service.others hostile other.service.handled).map Prod.fst =
        (Service.others hostile host.service.handled).map Prod.fst →
      other.service.store = host.service.store ∧
      Service.others hostile (Service.answers store other.service.handled) =
        Service.others hostile (Service.answers store host.service.handled) ∧
      ∀ connection ≠ hostile,
        let given := Service.ofConnection connection (Service.answers store host.service.handled)
        host.service.Wrote connection given ∧ other.service.Wrote connection given := by
  have serialized := Host.serialized_of_reaches reached
  refine ⟨?_, fun others other same otherReached otherSpared order => ?_⟩
  · obtain ⟨actions, replayed⟩ := reached
    refine ⟨host.without hostile, ?_, rfl, rfl, rfl, rfl⟩
    rw [← Host.without_start]
    exact Host.reaches_without (Service.serialized_start store) replayed spared
  · have otherSerialized := Host.serialized_of_reaches otherReached
    have handled := Host.others_handled_eq reached otherReached same order
    have answers : Service.others hostile (Service.answers store other.service.handled) =
        Service.others hostile (Service.answers store host.service.handled) := by
      rw [← otherSpared.answers_others, handled, spared.answers_others]
    refine ⟨?_, answers, fun connection distinct => ⟨serialized.wrote connection, ?_⟩⟩
    · rw [otherSerialized.store, serialized.store, ← otherSpared.after_others, handled,
        spared.after_others]
    · rw [← Service.ofConnection_others_of_ne distinct, ← answers,
        Service.ofConnection_others_of_ne distinct]
      exact otherSerialized.wrote connection

/-- A gradient is answered beside a frame that can't be read, and beside the length of a frame that
is too long to be received. -/
theorem isolated_connections_of_gradient :
    let store := Settings.standard.store
    let gradient : Bytes := [0xa0, 0xa9, 0x47, 0x52, 0x41, 0x44, 0x49, 0x45, 0x4e, 0x54, 0x53, 3,
      0xc4, 4, 0, 0, 0x80, 0x3f]
    let streams (hostile : Source) (connection : ConnectionId) : Source :=
      if connection = 7 then [.piece (Frame.framed gradient)]
      else if connection = 3 then hostile else []
    let unreadable : Source := [.piece (Frame.framed [0xc1])]
    let oversized : Source := [.piece (List.replicate 8 0xff)]
    ∃ host other, Host.Reaches (.start store (streams unreadable)) host ∧
      store.SparedBy 3 host.service.handled ∧
      (∀ connection ≠ 3, (streams oversized connection).receiveAll.1 =
        (streams unreadable connection).receiveAll.1) ∧
      Host.Reaches (.start store (streams oversized)) other ∧
      store.SparedBy 3 other.service.handled ∧
      host.service.handled = [(3, [0xc1]), (7, gradient)] ∧
      other.service.handled = [(7, gradient)] ∧
      (∃ alone, Host.Reaches (.start store (Host.silenced 3 (streams unreadable))) alone ∧
        alone.service.store = host.service.store) ∧
      other.service.store = host.service.store ∧
      host.service.store.weights = [⟨0x3f8147ae⟩] ∧
      Service.ofConnection 7 other.service.written =
        Service.ofConnection 7 host.service.written := by
  intro store gradient streams unreadable oversized
  have whole (frame : Bytes) (allowed : frame.length ≤ Frame.maxLength) :
      (Source.receiveAll ([Frame.framed frame].map .piece)).1 = [frame] := by
    have nonempty : ∀ piece ∈ [Frame.framed frame], piece ≠ [] := by
      intro piece among
      rw [List.mem_singleton.1 among]
      exact List.ne_nil_of_length_pos (by rw [Frame.length_framed, Frame.headerLength]; omega)
    have short : ∀ other ∈ [frame], other.length ≤ Frame.maxLength := by simpa using allowed
    obtain ⟨left, -, given⟩ := Source.receiveAll_stream nonempty short rfl
    exact congrArg Prod.fst given
  have sevenReceives (hostile : Source) : (streams hostile 7).receiveAll.1 = [gradient] :=
    whole gradient (by decide)
  have threeReceives : (streams unreadable 3).receiveAll.1 = [[0xc1]] := whole [0xc1] (by decide)
  -- the frame that can't be read is answered first
  let actions : List Action :=
    [.forward 3 [0xc1], .forward 7 gradient, .handle, .handle, .deliver 7, .leave 3]
  have possible : ((Service.start store).replay? actions).isSome = true := rfl
  obtain ⟨unread, reached⟩ : ∃ unread, Host.Reaches (.start store (streams unreadable))
      ⟨((Service.start store).replay? actions).get possible, unread⟩ := by
    refine Host.reaches_iff.2 ⟨⟨actions, (Option.some_get possible).symm⟩, fun connection => ?_⟩
    show Service.ofConnection connection [(3, [0xc1]), (7, gradient)] <+: _
    by_cases seven : connection = 7
    · rw [seven, sevenReceives]
      exact List.prefix_refl [gradient]
    by_cases three : connection = 3
    · rw [three, threeReceives]
      exact List.prefix_refl [[0xc1]]
    rw [Service.ofConnection_cons_of_ne (Ne.symm three),
      Service.ofConnection_cons_of_ne (Ne.symm seven)]
    exact List.nil_prefix
  have spared : store.SparedBy 3 [(3, [0xc1]), (7, gradient)] := by
    rintro response member command numbers rfl
    rcases List.mem_cons.1 member with same | member
    · cases congrArg Prod.snd same
    · cases congrArg Prod.fst (List.mem_singleton.1 member)
  -- the other connection ends at once
  let others : List Action := [.leave 3, .forward 7 gradient, .handle, .deliver 7]
  have otherPossible : ((Service.start store).replay? others).isSome = true := rfl
  obtain ⟨otherUnread, otherReached⟩ : ∃ unread,
      Host.Reaches (.start store (streams oversized))
        ⟨((Service.start store).replay? others).get otherPossible, unread⟩ := by
    refine Host.reaches_iff.2 ⟨⟨others, (Option.some_get otherPossible).symm⟩, fun connection => ?_⟩
    show Service.ofConnection connection [(7, gradient)] <+: _
    by_cases seven : connection = 7
    · rw [seven, sevenReceives]
      exact List.prefix_refl [gradient]
    rw [Service.ofConnection_cons_of_ne (Ne.symm seven)]
    exact List.nil_prefix
  have otherSpared : store.SparedBy 3 [(7, gradient)] := by
    rintro response member command numbers rfl
    cases congrArg Prod.fst (List.mem_singleton.1 member)
  have same : ∀ connection ≠ 3, (streams oversized connection).receiveAll.1 =
      (streams unreadable connection).receiveAll.1 := by
    intro connection distinct
    simp only [streams, if_neg distinct]
  obtain ⟨⟨alone, aloneReached, aloneStore, -⟩, compared⟩ :=
    isolated_connections store _ _ 3 reached spared
  obtain ⟨kept, -, wrote⟩ := compared _ _ same otherReached otherSpared rfl
  have sum : (store.after [[0xc1], gradient]).weights = [⟨0x3f8147ae⟩] := by decide
  obtain ⟨first, second⟩ := wrote 7 (by decide)
  refine ⟨_, _, reached, spared, same, otherReached, otherSpared, rfl, rfl,
    ⟨alone, aloneReached, aloneStore⟩, kept,
    (congrArg Store.weights (Host.serialized_of_reaches reached).store).trans sum, ?_⟩
  rw [first.receiving rfl, second.receiving rfl]

end SharedWeights
