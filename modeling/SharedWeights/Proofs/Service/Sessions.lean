/-
**A session is a run of its service.**

The clients of a session take turns, and the service does in each turn what it can. Whatever they
send, every turn is a list of steps of the service, each of them possible:

* `serveWhole_eq`: every whole request that a client has sent is answered, and the rest is kept;
* `Settled`: the invariant between two turns. The server has nothing to do, and every client has a
  connection of its own, which receives;
* `turn_eq`: what a client gets in its turn, and the session then;
* `settled_turn`, `reaches_turn`: a turn keeps the invariant and takes steps of the service;
* `serialized_of_run`: so what holds of every service holds of every session;
* `plays_of_dialled`: and nothing but a client that can't connect stops it.

Between two turns no request waits, since a client sends only in its own turn, and all that is whole
is answered in it.
-/

import SharedWeights.Proofs.Service.Exchanges
import SharedWeights.Proofs.Transport.Delivery
import SharedWeights.Proofs.Transport.Outcomes
import SharedWeights.Session

namespace SharedWeights

namespace Session

/-! ### Whole requests -/

/-- **Every whole request of a client is answered**, in the order sent, and what is not whole is
left. -/
theorem serveWhole_eq {service : Service} {client : Client}
    (idle : service.Idle client.connection) :
    let frames := client.unread.receiveAll.1
    ∃ left, serveWhole service client =
        (service.exchanged client.connection frames,
          ⟨client.connection, left, client.inbox ++ service.store.replies frames⟩) ∧
      left.receiveAll.1 = [] ∧
      client.unread.signals = (Frame.stream frames).map .byte ++ left.signals := by
  induction frames : client.unread.receiveAll.1 generalizing service client with
  | nil =>
    rcases client.unread.receive_of_receiveAll with ⟨failure, left, given, -⟩ | ⟨_, _, _, all⟩
    · refine ⟨client.unread, ?_, frames, ?_⟩
      · rw [serveWhole_of_none given, Service.exchanged_nil, Store.replies, Store.responses,
          List.map_nil, List.append_nil]
      · rw [Frame.stream_nil]
        rfl
    · rw [all] at frames
      cases frames
  | cons frame later ih =>
    rcases client.unread.receive_of_receiveAll with ⟨_, _, _, all⟩ | ⟨first, left, given, all⟩
    · rw [all] at frames
      cases frames
    rw [all] at frames
    obtain ⟨rfl, others⟩ := List.cons.inj frames
    obtain ⟨last, served, nothing, rest⟩ :=
      @ih (service.exchanged client.connection [first])
        { client with
          unread := left
          inbox := client.inbox ++ [(service.store.handle first).response.encode] }
        ⟨idle.queue, idle.receiving⟩ others
    have outcome := client.unread.outcome_receive
    rw [given] at outcome
    refine ⟨last, ?_, nothing, ?_⟩
    · rw [serveWhole_of_some given (Service.exchange?_of_idle idle first), served,
        Service.exchanged_cons service client.connection first later, Store.replies_cons,
        List.append_assoc]
      rfl
    · rw [(Signal.signals_of_received outcome).2, Frame.stream_cons, List.map_append,
        List.append_assoc]
      exact congrArg _ rest

/-! ### Between two turns -/

/-- A client between two turns: its connection receives, and all that is whole of what it sent was
answered. -/
structure Rests (session : Session) (client : Client) : Prop where
  receiving : session.service.phase client.connection = .receiving
  answered : client.unread.receiveAll.1 = []
  known : client.connection < session.next

/-- The server has nothing to do, every client has a connection of its own, and connections that are
still to come receive. -/
structure Settled (session : Session) : Prop where
  queue : session.service.queue = []
  rests : ∀ number client, session.clients number = some client → session.Rests client
  apart : ∀ number other client another, session.clients number = some client →
    session.clients other = some another → client.connection = another.connection → number = other
  fresh : ∀ connection, session.next ≤ connection →
    session.service.phase connection = .receiving

theorem settled_start (store : Store) : (start store).Settled where
  queue := rfl
  rests _ _ here := absurd here.symm (Option.some_ne_none _)
  apart _ _ _ _ here := absurd here.symm (Option.some_ne_none _)
  fresh _ _ := rfl

/-- A session in which a client is connected that was connected before or has just been. -/
structure Joined (session : Session) (number : Nat) (client : Client) (joined : Session) :
    Prop where
  service : joined.service = session.service
  clients : joined.clients = session.clients
  next : session.next ≤ joined.next
  known : client.connection < joined.next
  receiving : session.service.phase client.connection = .receiving
  apart : ∀ other another, session.clients other = some another →
    another.connection = client.connection → other = number

section Turn

variable {dial : Nat → Except Failure Unit} {session joined : Session} {number : Nat}
  {client : Client}

theorem joined_of_connect (settled : session.Settled)
    (connected : session.connect dial number = .ok (client, joined)) :
    session.Joined number client joined := by
  unfold connect at connected
  split at connected
  · next present here =>
    cases connected
    have rests := settled.rests _ _ here
    exact ⟨rfl, rfl, Nat.le_refl _, rests.known, rests.receiving, fun other another there same =>
      settled.apart _ _ _ _ there here same⟩
  · next absent =>
    cases dialled : dial number with
    | error failure =>
      rw [dialled] at connected
      cases connected
    | ok =>
      rw [dialled] at connected
      cases connected
      refine ⟨rfl, rfl, Nat.le_succ _, Nat.lt_succ_self _, settled.fresh _ (Nat.le_refl _),
        fun other another there same => ?_⟩
      have known := (settled.rests _ _ there).known
      rw [same] at known
      exact absurd known (Nat.lt_irrefl _)

/-- The service after a turn: the whole requests of the client were exchanged, and its connection has
ended if the client closes it. -/
def serviceAfter (session : Session) (client : Client) (turn : Turn) : Service :=
  let frames := (client.unread ++ Source.ofBytes turn.bytes).receiveAll.1
  let exchanged := session.service.exchanged client.connection frames
  if turn.closes then exchanged.setPhase client.connection .ended else exchanged

/-- What a client gets in its turn, given the replies that it has not read. -/
def resultOf (turn : Turn) (replies : List Bytes) : TurnResult :=
  if turn.closes then .closed (replies.map Response.decode)
  else
    .reply (match replies with
      | [] => .error .endOfStream
      | reply :: _ => .ok (Response.decode reply))

/-- **What a client gets in its turn, and the session then.** -/
theorem turn_eq {taken : Turn} (settled : session.Settled)
    (connected : session.connect dial taken.client = .ok (client, joined)) :
    let sent := client.unread ++ Source.ofBytes taken.bytes
    let frames := sent.receiveAll.1
    let replies := client.inbox ++ session.service.store.replies frames
    ∃ left, left.receiveAll.1 = [] ∧
      sent.signals = (Frame.stream frames).map .byte ++ left.signals ∧
      session.turn dial taken = .ok (resultOf taken replies,
        { joined.setClient taken.client
            (if taken.closes then none else some ⟨client.connection, left, replies.tail⟩) with
          service := session.serviceAfter client taken }) := by
  intro sent frames replies
  have joins := joined_of_connect settled connected
  have idle : session.service.Idle client.connection := ⟨settled.queue, joins.receiving⟩
  obtain ⟨left, served, nothing, rest⟩ :=
    @serveWhole_eq session.service { client with unread := sent } idle
  have answered : serveWhole joined.service { client with unread := sent } =
      (session.service.exchanged client.connection frames, ⟨client.connection, left, replies⟩) := by
    rw [joins.service]
    exact served
  refine ⟨left, nothing, rest, ?_⟩
  rw [Session.turn, connected]
  simp only [bind, Except.bind, pure, Except.pure]
  rw [show client.unread ++ Source.ofBytes taken.bytes = sent from rfl, answered]
  unfold resultOf serviceAfter
  cases taken.closes with
  | true =>
    have going : (session.service.exchanged client.connection frames).phase client.connection ≠
        .ended :=
      fun same => Phase.noConfusion (joins.receiving.symm.trans same)
    simp only [if_true, Service.step?_leave going, Option.getD_some]
    rfl
  | false =>
    simp only [Bool.false_eq_true, if_false]
    cases replies <;> rfl

theorem connect_of_turn {taken : Turn} {result : TurnResult} {next : Session}
    (turned : session.turn dial taken = .ok (result, next)) :
    ∃ client joined, session.connect dial taken.client = .ok (client, joined) := by
  rcases connected : session.connect dial taken.client with failure | ⟨client, joined⟩
  · rw [Session.turn, connected] at turned
    cases turned
  · exact ⟨client, joined, rfl⟩

/-! ### What a turn keeps -/

theorem phase_serviceAfter_of_ne {connection : ConnectionId} (other : connection ≠ client.connection)
    (taken : Turn) :
    (session.serviceAfter client taken).phase connection = session.service.phase connection := by
  unfold serviceAfter
  dsimp only
  split
  · exact Service.phase_setPhase_of_ne _ other _
  · rfl

theorem phase_serviceAfter_of_open {taken : Turn} (stays : taken.closes = false)
    (connection : ConnectionId) :
    (session.serviceAfter client taken).phase connection = session.service.phase connection := by
  unfold serviceAfter
  rw [stays]
  rfl

theorem queue_serviceAfter (session : Session) (client : Client) (taken : Turn) :
    (session.serviceAfter client taken).queue = session.service.queue := by
  unfold serviceAfter
  dsimp only
  split <;> rfl

theorem reaches_serviceAfter (idle : session.service.Idle client.connection) (taken : Turn) :
    session.service.Reaches (session.serviceAfter client taken) := by
  unfold serviceAfter
  dsimp only
  have reached := Service.reaches_exchanged idle
    (client.unread ++ Source.ofBytes taken.bytes).receiveAll.1
  split
  · refine reached.trans (.of_step (Service.step?_leave ?_))
    exact fun same => Phase.noConfusion (idle.receiving.symm.trans same)
  · exact reached

/-- **A turn takes steps of the service.** -/
theorem reaches_turn {taken : Turn} {result : TurnResult} {next : Session}
    (settled : session.Settled) (turned : session.turn dial taken = .ok (result, next)) :
    session.service.Reaches next.service := by
  obtain ⟨client, joined, connected⟩ := connect_of_turn turned
  obtain ⟨left, -, -, given⟩ := turn_eq settled connected
  rw [turned] at given
  cases given
  exact reaches_serviceAfter ⟨settled.queue, (joined_of_connect settled connected).receiving⟩ taken

/-- A client that is connected after a turn is the one whose turn it was, or another as before. -/
theorem Joined.cases_of_present {closes : Bool} {left : Source} {inbox : List Bytes} {other : Nat}
    {here : Client} (joins : session.Joined number client joined)
    (present : (joined.setClient number
      (if closes then none else some ⟨client.connection, left, inbox⟩)).clients other =
        some here) :
    (other = number ∧ closes = false ∧ here = ⟨client.connection, left, inbox⟩) ∨
      (session.clients other = some here ∧ here.connection ≠ client.connection) := by
  by_cases own : other = number
  · have moved := (if_pos own).symm.trans present
    cases closes with
    | true => cases moved
    | false => exact .inl ⟨own, rfl, (Option.some.inj moved).symm⟩
  · have before := (if_neg own).symm.trans present
    rw [joins.clients] at before
    exact .inr ⟨before, fun same => own (joins.apart other here before same)⟩

/-- **A turn leaves nothing to do.** -/
theorem settled_turn {taken : Turn} {result : TurnResult} {next : Session}
    (settled : session.Settled) (turned : session.turn dial taken = .ok (result, next)) :
    next.Settled := by
  obtain ⟨client, joined, connected⟩ := connect_of_turn turned
  have joins := joined_of_connect settled connected
  obtain ⟨left, nothing, -, given⟩ := turn_eq settled connected
  rw [turned] at given
  cases given
  refine ⟨(queue_serviceAfter ..).trans settled.queue, fun other here present => ?_,
    fun first second here there present alike same => ?_, fun connection beyond => ?_⟩
  · rcases joins.cases_of_present present with ⟨-, stays, rfl⟩ | ⟨before, apart⟩
    · exact ⟨(phase_serviceAfter_of_open stays _).trans joins.receiving, nothing, joins.known⟩
    · have rests := settled.rests other here before
      exact ⟨(phase_serviceAfter_of_ne apart taken).trans rests.receiving, rests.answered,
        Nat.lt_of_lt_of_le rests.known joins.next⟩
  · rcases joins.cases_of_present present with ⟨own, -, rfl⟩ | ⟨before, apart⟩
    · rcases joins.cases_of_present alike with ⟨owns, -⟩ | ⟨-, distinct⟩
      · rw [own, owns]
      · exact absurd same.symm distinct
    · rcases joins.cases_of_present alike with ⟨-, -, rfl⟩ | ⟨beside, -⟩
      · exact absurd same apart
      · exact settled.apart _ _ _ _ before beside same
  · have distinct : connection ≠ client.connection := by
      rintro rfl
      exact absurd joins.known (Nat.not_lt.2 beyond)
    exact (phase_serviceAfter_of_ne distinct taken).trans
      (settled.fresh connection (Nat.le_trans joins.next beyond))

end Turn

/-! ### Turn after turn -/

/-- Turns taken one after the other, with what the clients get and the session then. -/
inductive Plays (dial : Nat → Except Failure Unit) :
    Session → List Turn → List TurnResult → Session → Prop
  | nil (session : Session) : Plays dial session [] [] session
  | cons {session next last : Session} {taken : Turn} {later : List Turn} {result : TurnResult}
      {results : List TurnResult} (turned : session.turn dial taken = .ok (result, next))
      (onward : Plays dial next later results last) :
    Plays dial session (taken :: later) (result :: results) last

section Run

variable {dial : Nat → Except Failure Unit} {session last : Session} {turns : List Turn}
  {results : List TurnResult}

/-- A run gives what its turns give, if each of them can be taken. -/
theorem run_eq_ok_iff :
    session.run dial turns = .ok results ↔ ∃ last, Plays dial session turns results last := by
  induction turns generalizing session results with
  | nil =>
    rw [run]
    constructor
    · intro ran
      cases ran
      exact ⟨session, .nil session⟩
    · rintro ⟨last, plays⟩
      cases plays
      rfl
  | cons taken later ih =>
    rw [run]
    constructor
    · intro ran
      rcases turned : session.turn dial taken with failure | ⟨result, next⟩
      · rw [turned] at ran
        cases ran
      · rw [turned] at ran
        rcases onward : next.run dial later with failure | rest
        · simp only [bind, Except.bind, onward] at ran
          cases ran
        · simp only [bind, Except.bind, onward] at ran
          cases ran
          obtain ⟨last, plays⟩ := ih.1 onward
          exact ⟨last, .cons turned plays⟩
    · rintro ⟨last, plays⟩
      cases plays with
      | cons turned onward =>
        rw [turned]
        simp only [bind, Except.bind, ih.2 ⟨last, onward⟩]
        rfl

theorem Plays.settled (settled : session.Settled) (plays : Plays dial session turns results last) :
    last.Settled := by
  induction plays with
  | nil => exact settled
  | cons turned _ ih => exact ih (settled_turn settled turned)

theorem Plays.reaches (settled : session.Settled) (plays : Plays dial session turns results last) :
    session.service.Reaches last.service := by
  induction plays with
  | nil => exact .refl _
  | cons turned _ ih => exact (reaches_turn settled turned).trans (ih (settled_turn settled turned))

/-- **A session is a run of its service**, after which every request that was put into the queue is
answered, and the store is the one after all of them. -/
theorem serialized_of_run {store : Store} (ran : (start store).run dial turns = .ok results) :
    ∃ last, Plays dial (start store) turns results last ∧
      (Service.start store).Reaches last.service ∧ last.service.Serialized store ∧
      last.service.handled = last.service.forwarded ∧
      last.service.store = store.after (last.service.forwarded.map Prod.snd) := by
  obtain ⟨last, plays⟩ := run_eq_ok_iff.1 ran
  have reached := plays.reaches (settled_start store)
  have serialized := Service.serialized_of_reaches reached
  have all : last.service.handled = last.service.forwarded := by
    rw [serialized.queue, (plays.settled (settled_start store)).queue, List.append_nil]
  exact ⟨last, plays, reached, serialized, all, all ▸ serialized.store⟩

/-- **If every client can connect, a session goes through**, with one result for each turn. -/
theorem plays_of_dialled (dialled : ∀ number, dial number = .ok ()) (settled : session.Settled)
    (turns : List Turn) :
    ∃ results last, Plays dial session turns results last ∧ results.length = turns.length := by
  induction turns generalizing session with
  | nil => exact ⟨[], session, .nil session, rfl⟩
  | cons taken later ih =>
    obtain ⟨client, joined, connected⟩ :
        ∃ client joined, session.connect dial taken.client = .ok (client, joined) := by
      unfold connect
      split
      · exact ⟨_, _, rfl⟩
      · rw [dialled]
        exact ⟨_, _, rfl⟩
    obtain ⟨left, -, -, turned⟩ := turn_eq settled connected
    obtain ⟨results, last, onward, long⟩ := ih (settled_turn settled turned)
    exact ⟨_ :: results, last, .cons turned onward, congrArg Nat.succ long⟩

end Run

end Session

end SharedWeights
