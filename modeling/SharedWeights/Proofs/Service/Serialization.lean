/-
**Concurrent connections are served as if in one line.**

Connections and server take their steps in any order. In every state that they can reach, what
happened is told by one list, that of the requests answered so far:

* `step?_eq_some`: what a step of each kind needs and does;
* `Serialized`: the invariant. The store is that of the answered requests handled in their order,
  the queue is what was put into it and not yet answered, and each connection has been given the
  replies to its own requests, of which it may owe the last;
* `serialized_step`, `serialized_of_reaches`: every step keeps the invariant, and so does every run;
* `serialized_service`: what the invariant says of the store, the queue and the connections.

The invariant is stated per connection by what the connection's phase leaves open
(`Phase.Owes`), because a step changes the phase of one connection and only shifts an entry from
one of its lists to another.
-/

import SharedWeights.Proofs.Server.Runs
import SharedWeights.Service

namespace SharedWeights

/-- What may be open for a connection in each phase: replies that it was given and has not written
(`owed`), and requests of its that are in the queue (`queued`). -/
def Phase.Owes (owed queued : List Bytes) : Phase → Prop
  | .receiving => owed = [] ∧ queued = []
  | .waiting => owed = [] ∧ queued.length = 1
  | .replying reply => owed = [reply] ∧ queued = []
  | .ended => owed.length + queued.length ≤ 1

theorem Phase.length_le_of_owes {owed queued : List Bytes} {phase : Phase}
    (owes : phase.Owes owed queued) : owed.length + queued.length ≤ 1 := by
  cases phase with
  | receiving =>
    obtain ⟨rfl, rfl⟩ := owes
    exact Nat.zero_le 1
  | waiting =>
    obtain ⟨rfl, one⟩ := owes
    rw [one]
    exact Nat.le_refl 1
  | replying reply =>
    obtain ⟨rfl, rfl⟩ := owes
    exact Nat.le_refl 1
  | ended => exact owes

/-- An answer comes to a connection that owes nothing and has no other request in the queue. -/
theorem Phase.owes_answered {owed others : List Bytes} {frame : Bytes} {phase : Phase}
    (owes : phase.Owes owed (frame :: others)) (reply : Bytes) :
    owed = [] ∧ (phase.answered reply).Owes [reply] others := by
  have few := Phase.length_le_of_owes owes
  rw [List.length_cons] at few
  have nothing : owed = [] := List.length_eq_zero_iff.1 (by omega)
  have alone : others = [] := List.length_eq_zero_iff.1 (by omega)
  subst alone
  refine ⟨nothing, ?_⟩
  cases phase with
  | receiving => exact absurd owes.2 (List.cons_ne_nil _ _)
  | waiting => exact ⟨rfl, rfl⟩
  | replying other => exact absurd owes.2 (List.cons_ne_nil _ _)
  | ended => exact Nat.le_refl 1

namespace Service

/-! ### One connection's part of a history -/

/-- What a history has of one connection. -/
def ofConnection (connection : ConnectionId) (history : List (ConnectionId × Bytes)) :
    List Bytes :=
  history.filterMap fun entry => if entry.1 = connection then some entry.2 else none

/-- The replies to requests handled in their order, as they are sent, each with the connection that
it is for. -/
def answers (store : Store) (handled : List (ConnectionId × Bytes)) :
    List (ConnectionId × Bytes) :=
  (store.answersTo handled).map fun answer => (answer.1, answer.2.encode)

@[simp] theorem ofConnection_nil (connection : ConnectionId) : ofConnection connection [] = [] :=
  rfl

@[simp] theorem ofConnection_append (connection : ConnectionId)
    (front back : List (ConnectionId × Bytes)) :
    ofConnection connection (front ++ back) =
      ofConnection connection front ++ ofConnection connection back :=
  List.filterMap_append

theorem ofConnection_cons_self (connection : ConnectionId) (bytes : Bytes)
    (later : List (ConnectionId × Bytes)) :
    ofConnection connection ((connection, bytes) :: later) =
      bytes :: ofConnection connection later := by
  simp [ofConnection]

theorem ofConnection_cons_of_ne {connection other : ConnectionId} (distinct : other ≠ connection)
    (bytes : Bytes) (later : List (ConnectionId × Bytes)) :
    ofConnection connection ((other, bytes) :: later) = ofConnection connection later := by
  simp [ofConnection, distinct]

/-- What a connection's own new entry does to its part. -/
theorem ofConnection_append_self (connection : ConnectionId)
    (history : List (ConnectionId × Bytes)) (bytes : Bytes) :
    ofConnection connection (history ++ [(connection, bytes)]) =
      ofConnection connection history ++ [bytes] := by
  rw [ofConnection_append, ofConnection_cons_self, ofConnection_nil]

theorem ofConnection_append_of_ne {connection other : ConnectionId}
    (distinct : other ≠ connection) (history : List (ConnectionId × Bytes)) (bytes : Bytes) :
    ofConnection connection (history ++ [(other, bytes)]) = ofConnection connection history := by
  rw [ofConnection_append, ofConnection_cons_of_ne distinct, ofConnection_nil, List.append_nil]

theorem length_ofConnection (connection : ConnectionId) (history : List (ConnectionId × Bytes)) :
    (ofConnection connection history).length = (history.map Prod.fst).count connection := by
  induction history with
  | nil => rfl
  | cons entry later ih =>
    obtain ⟨origin, bytes⟩ := entry
    rw [List.map_cons]
    by_cases own : origin = connection
    · subst own
      rw [ofConnection_cons_self, List.length_cons, ih, List.count_cons_self]
    · rw [ofConnection_cons_of_ne own, ih, List.count_cons_of_ne own]

theorem answers_cons (store : Store) (connection : ConnectionId) (frame : Bytes)
    (later : List (ConnectionId × Bytes)) :
    answers store ((connection, frame) :: later) =
      (connection, (store.handle frame).response.encode) ::
        answers (store.handle frame).store later := rfl

theorem answers_append_single (store : Store) (handled : List (ConnectionId × Bytes))
    (connection : ConnectionId) (frame : Bytes) :
    answers store (handled ++ [(connection, frame)]) = answers store handled ++
      [(connection, ((store.after (handled.map Prod.snd)).handle frame).response.encode)] := by
  rw [answers, Store.answersTo_append, List.map_append]
  rfl

theorem length_ofConnection_answers (store : Store) (connection : ConnectionId)
    (handled : List (ConnectionId × Bytes)) :
    (ofConnection connection (answers store handled)).length =
      (ofConnection connection handled).length := by
  have origins : (answers store handled).map Prod.fst = handled.map Prod.fst := by
    rw [answers, List.map_map]
    exact store.map_fst_answersTo handled
  rw [length_ofConnection, length_ofConnection, origins]

/-- **The reply at a place of a connection's answers** is the response that its request at that
place was given, by the store after all requests handled before it. -/
theorem request_of_answer {store : Store} {connection : ConnectionId}
    {handled : List (ConnectionId × Bytes)} {index : Nat} {reply : Bytes}
    (answered : (ofConnection connection (answers store handled))[index]? = some reply) :
    ∃ earlier frame later, handled = earlier ++ (connection, frame) :: later ∧
      (ofConnection connection earlier).length = index ∧
      reply = ((store.after (earlier.map Prod.snd)).handle frame).response.encode := by
  induction handled generalizing store index with
  | nil => cases answered
  | cons entry later ih =>
    obtain ⟨other, frame⟩ := entry
    rw [answers_cons] at answered
    by_cases own : other = connection
    · subst own
      rw [ofConnection_cons_self] at answered
      cases index with
      | zero => exact ⟨[], frame, later, rfl, rfl, (Option.some.inj answered).symm⟩
      | succ index =>
        obtain ⟨earlier, request, rest, rfl, place, same⟩ := ih answered
        refine ⟨(other, frame) :: earlier, request, rest, rfl, ?_, same⟩
        rw [ofConnection_cons_self, List.length_cons, place]
    · rw [ofConnection_cons_of_ne own] at answered
      obtain ⟨earlier, request, rest, rfl, place, same⟩ := ih answered
      refine ⟨(other, frame) :: earlier, request, rest, rfl, ?_, same⟩
      rw [ofConnection_cons_of_ne own, place]

/-! ### Steps -/

theorem phase_setPhase_self (service : Service) (connection : ConnectionId) (phase : Phase) :
    (service.setPhase connection phase).phase connection = phase :=
  if_pos rfl

theorem phase_setPhase_of_ne (service : Service) {connection other : ConnectionId}
    (distinct : other ≠ connection) (phase : Phase) :
    (service.setPhase connection phase).phase other = service.phase other :=
  if_neg distinct

/-- **What a step needs and what it does.** -/
theorem step?_eq_some {service next : Service} {action : Action}
    (stepped : service.step? action = some next) :
    (∃ connection frame, action = .forward connection frame ∧
      service.phase connection = .receiving ∧
      next = { service.setPhase connection .waiting with
        queue := service.queue ++ [(connection, frame)]
        forwarded := service.forwarded ++ [(connection, frame)] }) ∨
    (∃ connection frame later, action = .handle ∧ service.queue = (connection, frame) :: later ∧
      next = { service.setPhase connection ((service.phase connection).answered
          (service.store.handle frame).response.encode) with
        store := (service.store.handle frame).store
        queue := later
        handled := service.handled ++ [(connection, frame)] }) ∨
    (∃ connection reply, action = .deliver connection ∧
      service.phase connection = .replying reply ∧
      next = { service.setPhase connection .receiving with
        written := service.written ++ [(connection, reply)] }) ∨
    ∃ connection, action = .leave connection ∧ next = service.setPhase connection .ended := by
  cases action with
  | forward connection frame =>
    simp only [step?, Option.ite_none_right_eq_some, Option.some.injEq] at stepped
    obtain ⟨⟨ready, _⟩, same⟩ := stepped
    exact .inl ⟨connection, frame, rfl, ready, same.symm⟩
  | handle =>
    rcases oldest : service.queue with _ | ⟨⟨connection, frame⟩, later⟩
    · simp [step?, oldest] at stepped
    · simp only [step?, oldest, Option.some.injEq] at stepped
      exact .inr (.inl ⟨connection, frame, later, rfl, rfl, stepped.symm⟩)
  | deliver connection =>
    simp only [step?] at stepped
    split at stepped
    · next reply phase =>
      exact .inr (.inr (.inl ⟨connection, reply, rfl, phase, (Option.some.inj stepped).symm⟩))
    · cases stepped
  | leave connection =>
    simp only [step?, Option.ite_none_left_eq_some, Option.some.injEq] at stepped
    exact .inr (.inr (.inr ⟨connection, rfl, stepped.2.symm⟩))

/-! ### The invariant -/

/-- A connection has written the replies to its own requests, but for what its phase owes. -/
def InTurn (initial : Store) (service : Service) (connection : ConnectionId) : Prop :=
  ∃ owed, ofConnection connection (answers initial service.handled) =
      ofConnection connection service.written ++ owed ∧
    (service.phase connection).Owes owed (ofConnection connection service.queue)

/-- All that happened is told by the requests answered so far. -/
structure Serialized (initial : Store) (service : Service) : Prop where
  /-- The store is the fold of the answered requests. -/
  store : service.store = initial.after (service.handled.map Prod.snd)
  /-- What was put into the queue was answered, in this order, or is still there. -/
  queue : service.forwarded = service.handled ++ service.queue
  turns : ∀ connection, InTurn initial service connection

/-- A step that leaves a connection's phase and its parts of the lists alone leaves its turn. -/
theorem InTurn.congr {initial : Store} {service next : Service} {connection : ConnectionId}
    (turn : InTurn initial service connection)
    (phase : next.phase connection = service.phase connection)
    (queue : ofConnection connection next.queue = ofConnection connection service.queue)
    (answered : ofConnection connection (answers initial next.handled) =
      ofConnection connection (answers initial service.handled))
    (written : ofConnection connection next.written = ofConnection connection service.written) :
    InTurn initial next connection := by
  unfold InTurn
  rw [phase, queue, answered, written]
  exact turn

theorem serialized_start (store : Store) : Serialized store (start store) :=
  ⟨rfl, rfl, fun _ => ⟨[], rfl, rfl, rfl⟩⟩

section Steps

variable {initial : Store} {service : Service} {connection : ConnectionId}

/-- A request is put behind the queue by a connection that owes nothing. -/
theorem serialized_forward (before : Serialized initial service)
    (ready : service.phase connection = .receiving) (frame : Bytes) :
    Serialized initial { service.setPhase connection .waiting with
      queue := service.queue ++ [(connection, frame)]
      forwarded := service.forwarded ++ [(connection, frame)] } := by
  refine ⟨before.store, ?_, fun other => ?_⟩
  · show service.forwarded ++ _ = service.handled ++ (service.queue ++ _)
    rw [before.queue, List.append_assoc]
  · by_cases own : other = connection
    · subst own
      obtain ⟨owed, due, owes⟩ := before.turns other
      rw [ready] at owes
      obtain ⟨rfl, nothing⟩ := owes
      refine ⟨[], due, ?_⟩
      show ((service.setPhase other .waiting).phase other).Owes []
        (ofConnection other (service.queue ++ [(other, frame)]))
      rw [phase_setPhase_self, ofConnection_append_self, nothing]
      exact ⟨rfl, rfl⟩
    · exact (before.turns other).congr (phase_setPhase_of_ne service own _)
        (ofConnection_append_of_ne (Ne.symm own) _ _) rfl rfl

/-- The oldest request is answered, and its connection owes the reply. -/
theorem serialized_handle (before : Serialized initial service) {frame : Bytes}
    {later : List (ConnectionId × Bytes)} (oldest : service.queue = (connection, frame) :: later) :
    Serialized initial { service.setPhase connection ((service.phase connection).answered
        (service.store.handle frame).response.encode) with
      store := (service.store.handle frame).store
      queue := later
      handled := service.handled ++ [(connection, frame)] } := by
  have answered := answers_append_single initial service.handled connection frame
  rw [← before.store] at answered
  refine ⟨?_, ?_, fun other => ?_⟩
  · show (service.store.handle frame).store =
      initial.after ((service.handled ++ [(connection, frame)]).map Prod.snd)
    rw [List.map_append, Store.after_append, ← before.store]
    rfl
  · show service.forwarded = service.handled ++ [(connection, frame)] ++ later
    rw [before.queue, oldest, List.append_assoc, List.singleton_append]
  · by_cases own : other = connection
    · subst own
      obtain ⟨owed, due, owes⟩ := before.turns other
      rw [oldest, ofConnection_cons_self] at owes
      obtain ⟨rfl, given⟩ := Phase.owes_answered owes (service.store.handle frame).response.encode
      refine ⟨[(service.store.handle frame).response.encode], ?_, ?_⟩
      · show ofConnection other (answers initial (service.handled ++ [(other, frame)])) = _
        rw [answered, ofConnection_append_self, due, List.append_nil]
        rfl
      · show ((service.setPhase other _).phase other).Owes _ _
        rw [phase_setPhase_self]
        exact given
    · refine (before.turns other).congr (phase_setPhase_of_ne service own _) ?_ ?_ rfl
      · rw [oldest, ofConnection_cons_of_ne (Ne.symm own)]
      · show ofConnection other (answers initial (service.handled ++ [(connection, frame)])) = _
        rw [answered, ofConnection_append_of_ne (Ne.symm own)]

/-- The reply that is owed is written. -/
theorem serialized_deliver (before : Serialized initial service) {reply : Bytes}
    (phase : service.phase connection = .replying reply) :
    Serialized initial { service.setPhase connection .receiving with
      written := service.written ++ [(connection, reply)] } := by
  refine ⟨before.store, before.queue, fun other => ?_⟩
  by_cases own : other = connection
  · subst own
    obtain ⟨owed, due, owes⟩ := before.turns other
    rw [phase] at owes
    obtain ⟨rfl, nothing⟩ := owes
    refine ⟨[], ?_, ?_⟩
    · show _ = ofConnection other (service.written ++ [(other, reply)]) ++ []
      rw [ofConnection_append_self, List.append_nil]
      exact due
    · show ((service.setPhase other .receiving).phase other).Owes _ _
      rw [phase_setPhase_self]
      exact ⟨rfl, nothing⟩
  · exact (before.turns other).congr (phase_setPhase_of_ne service own _) rfl rfl
      (ofConnection_append_of_ne (Ne.symm own) _ _)

/-- A connection that ends may leave one request or one reply behind. -/
theorem serialized_leave (before : Serialized initial service) (connection : ConnectionId) :
    Serialized initial (service.setPhase connection .ended) := by
  refine ⟨before.store, before.queue, fun other => ?_⟩
  by_cases own : other = connection
  · subst own
    obtain ⟨owed, due, owes⟩ := before.turns other
    refine ⟨owed, due, ?_⟩
    rw [phase_setPhase_self]
    exact Phase.length_le_of_owes owes
  · exact (before.turns other).congr (phase_setPhase_of_ne service own _) rfl rfl rfl

end Steps

theorem serialized_step {initial : Store} {service next : Service} {action : Action}
    (before : Serialized initial service) (stepped : service.step? action = some next) :
    Serialized initial next := by
  rcases step?_eq_some stepped with ⟨connection, frame, _, ready, rfl⟩ |
    ⟨connection, frame, later, _, oldest, rfl⟩ | ⟨connection, reply, _, phase, rfl⟩ |
    ⟨connection, _, rfl⟩
  · exact serialized_forward before ready frame
  · exact serialized_handle before oldest
  · exact serialized_deliver before phase
  · exact serialized_leave before connection

theorem serialized_replay {initial : Store} {service later : Service} {actions : List Action}
    (before : Serialized initial service) (replayed : service.replay? actions = some later) :
    Serialized initial later := by
  induction actions generalizing service with
  | nil => exact Option.some.inj replayed ▸ before
  | cons action actions ih =>
    obtain ⟨next, stepped, rest⟩ := Option.bind_eq_some_iff.1 replayed
    exact ih (serialized_step before stepped) rest

/-- **Every service that can be reached is serialized.** -/
theorem serialized_of_reaches {store : Store} {service : Service}
    (reached : Reaches (start store) service) : Serialized store service := by
  obtain ⟨actions, replayed⟩ := reached
  exact serialized_replay (serialized_start store) replayed

theorem Serialized.length_queue_le {initial : Store} {service : Service}
    (serialized : Serialized initial service) (connection : ConnectionId) :
    (ofConnection connection service.queue).length ≤ 1 := by
  obtain ⟨owed, _, owes⟩ := serialized.turns connection
  have few := Phase.length_le_of_owes owes
  omega

/-- A connection has at most one request whose reply it has not written. -/
theorem Serialized.length_forwarded_le {initial : Store} {service : Service}
    (serialized : Serialized initial service) (connection : ConnectionId) :
    (ofConnection connection service.forwarded).length ≤
      (ofConnection connection service.written).length + 1 := by
  obtain ⟨owed, due, owes⟩ := serialized.turns connection
  have few := Phase.length_le_of_owes owes
  have answered := congrArg List.length due
  rw [length_ofConnection_answers, List.length_append] at answered
  rw [serialized.queue, ofConnection_append, List.length_append]
  omega

/-- **The replies written are those to the requests of the same connection, one by one.** -/
theorem Serialized.reply_of_written {initial : Store} {service : Service}
    (serialized : Serialized initial service) {connection : ConnectionId} {index : Nat}
    {reply : Bytes}
    (written : (ofConnection connection service.written)[index]? = some reply) :
    ∃ earlier frame later, service.handled = earlier ++ (connection, frame) :: later ∧
      (ofConnection connection earlier).length = index ∧
      (ofConnection connection service.forwarded)[index]? = some frame ∧
      reply = ((initial.after (earlier.map Prod.snd)).handle frame).response.encode := by
  obtain ⟨owed, due, _⟩ := serialized.turns connection
  have answered : (ofConnection connection (answers initial service.handled))[index]? =
      some reply := by
    rw [due, List.getElem?_append_left (List.getElem?_eq_some_iff.1 written).1, written]
  obtain ⟨earlier, frame, later, handled, place, same⟩ := request_of_answer answered
  refine ⟨earlier, frame, later, handled, place, ?_, same⟩
  rw [serialized.queue, handled, List.append_assoc, ofConnection_append, List.cons_append,
    ofConnection_cons_self, List.getElem?_append_right (Nat.le_of_eq place), place, Nat.sub_self]
  rfl

end Service

/-- **Concurrent connections are served as if in one line.** Any number of connections take their
steps and the server takes its own, in any order. In every state that is reached, the store is the
fold of the requests answered so far, in the order in which they were taken from the queue; what was
put into the queue is what was answered, in this order, and behind it what is still there; no
connection has more than one request in the queue, or more than one whose reply it has not written;
and a reply that a connection wrote is the encoding of the response to its own request of the same
number. -/
theorem serialized_service (store : Store) (service : Service)
    (reached : Service.Reaches (.start store) service) :
    service.store = (service.handled.map Prod.snd).foldl
        (fun current frame => (current.handle frame).store) store ∧
      service.forwarded = service.handled ++ service.queue ∧
      (∀ connection, (Service.ofConnection connection service.queue).length ≤ 1 ∧
        (Service.ofConnection connection service.forwarded).length ≤
          (Service.ofConnection connection service.written).length + 1) ∧
      ∀ connection index reply,
        (Service.ofConnection connection service.written)[index]? = some reply →
        ∃ earlier frame later, service.handled = earlier ++ (connection, frame) :: later ∧
          (Service.ofConnection connection earlier).length = index ∧
          (Service.ofConnection connection service.forwarded)[index]? = some frame ∧
          reply = ((store.after (earlier.map Prod.snd)).handle frame).response.encode := by
  have serialized := Service.serialized_of_reaches reached
  refine ⟨serialized.store, serialized.queue, fun connection => ?_, fun _ _ _ written => ?_⟩
  · exact ⟨serialized.length_queue_le connection, serialized.length_forwarded_le connection⟩
  · exact serialized.reply_of_written written

/-- A connection sends a gradient and one with another dimension, which is refused because of the
first; the gradient of another connection still waits. -/
theorem serialized_service_of_two :
    let store := Settings.standard.store
    let gradient : Bytes := [0xa0, 0xa9, 0x47, 0x52, 0x41, 0x44, 0x49, 0x45, 0x4e, 0x54, 0x53, 3,
      0xc4, 4, 0, 0, 0x80, 0x3f]
    let wider : Bytes := [0xa0, 0xa9, 0x47, 0x52, 0x41, 0x44, 0x49, 0x45, 0x4e, 0x54, 0x53, 3,
      0xc4, 8, 0, 0, 0x80, 0x3f, 0, 0, 0x80, 0x3f]
    let mismatch := (ServerError.store (.dimensionMismatch 1 2)).message
    ∃ service, Service.Reaches (.start store) service ∧
      service.handled = [(7, gradient), (7, wider)] ∧ service.queue = [(3, gradient)] ∧
      service.store = [gradient, wider].foldl
        (fun current frame => (current.handle frame).store) store ∧
      service.store.weights = [⟨0x3f8147ae⟩] ∧
      (Service.ofConnection 3 service.queue).length ≤ 1 ∧
      (Service.ofConnection 7 service.written)[1]? =
        some (Response.refused mismatch).encode ∧
      ∃ earlier frame later, service.handled = earlier ++ (7, frame) :: later ∧
        (Service.ofConnection 7 earlier).length = 1 ∧
        (Response.refused mismatch).encode =
          ((store.after (earlier.map Prod.snd)).handle frame).response.encode := by
  intro store gradient wider mismatch
  let actions : List Action := [.forward 7 gradient, .handle, .deliver 7, .forward 7 wider,
    .forward 3 gradient, .handle, .deliver 7]
  have possible : ((Service.start store).replay? actions).isSome = true := rfl
  have reached : Service.Reaches (.start store)
      (((Service.start store).replay? actions).get possible) :=
    ⟨actions, (Option.some_get possible).symm⟩
  obtain ⟨folded, -, few, replies⟩ := serialized_service store _ reached
  have refused : ((store.after [gradient]).handle wider).response = .refused mismatch := rfl
  have written : (Service.ofConnection 7 (((Service.start store).replay? actions).get
      possible).written)[1]? = some (Response.refused mismatch).encode := by
    rw [← refused]
    rfl
  obtain ⟨earlier, frame, later, handled, place, -, same⟩ := replies 7 1 _ written
  have sum : (store.after [gradient, wider]).weights = [⟨0x3f8147ae⟩] := by decide
  exact ⟨_, reached, rfl, rfl, folded, (congrArg Store.weights folded).trans sum, (few 3).1,
    written, earlier, frame, later, handled, place, same⟩

end SharedWeights
