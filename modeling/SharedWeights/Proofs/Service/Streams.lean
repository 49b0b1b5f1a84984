/-
**A service whose connections receive from streams.**

What a connection puts into the queue is what it has received, and it receives from what its worker
sends, whatever that is. So every step of a host is a step of its service, but a request is only put
into the queue if it is the next on the stream of its connection.

* `step?_eq_some_iff`: what a step needs and does;
* `serialized_of_reaches`: what holds of every service holds of a host's;
* `held_of_reaches`: of each stream, the frames in front were put into the queue, in their order, and
  the others are still unread;
* `reaches_iff`: and that is all that a stream has to do with it.
-/

import SharedWeights.Proofs.Service.Serialization
import SharedWeights.Proofs.Transport.Signals

namespace SharedWeights

namespace Service

/-- What was put into the queue and what was answered stays on record. -/
theorem history_step {service next : Service} {action : Action}
    (stepped : service.step? action = some next) :
    service.forwarded <+: next.forwarded ∧ service.handled <+: next.handled := by
  rcases step?_eq_some stepped with ⟨_, _, _, _, rfl⟩ | ⟨_, _, _, _, _, rfl⟩ |
    ⟨_, _, _, _, rfl⟩ | ⟨_, _, rfl⟩
  · exact ⟨List.prefix_append .., List.prefix_refl _⟩
  · exact ⟨List.prefix_refl _, List.prefix_append ..⟩
  · exact ⟨List.prefix_refl _, List.prefix_refl _⟩
  · exact ⟨List.prefix_refl _, List.prefix_refl _⟩

theorem history_replay {service later : Service} {actions : List Action}
    (replayed : service.replay? actions = some later) :
    service.forwarded <+: later.forwarded ∧ service.handled <+: later.handled := by
  induction actions generalizing service with
  | nil => exact Option.some.inj replayed ▸ ⟨List.prefix_refl _, List.prefix_refl _⟩
  | cons action actions ih =>
    obtain ⟨next, stepped, rest⟩ := Option.bind_eq_some_iff.1 replayed
    obtain ⟨forwarded, handled⟩ := history_step stepped
    exact ⟨forwarded.trans (ih rest).1, handled.trans (ih rest).2⟩

theorem forwarded_of_forward {service next : Service} {connection : ConnectionId} {frame : Bytes}
    (stepped : service.step? (.forward connection frame) = some next) :
    next.forwarded = service.forwarded ++ [(connection, frame)] := by
  simp only [step?, Option.ite_none_right_eq_some, Option.some.injEq] at stepped
  rw [← stepped.2]

end Service

/-- A service, and what its connections have not received. -/
structure Host where
  service : Service
  unread : ConnectionId → Source

namespace Host

/-- A host before its first request. -/
def start (store : Store) (streams : ConnectionId → Source) : Host := ⟨.start store, streams⟩

/-- Whether a request that is put into the queue is what its connection receives. -/
def Receives (host : Host) : Action → Prop
  | .forward connection frame => (host.unread connection).receive.1 = .ok frame
  | _ => True

instance (host : Host) (action : Action) : Decidable (host.Receives action) :=
  match action with
  | .forward connection frame =>
    match received : (host.unread connection).receive.1 with
    | .ok other => decidable_of_iff (other = frame) (by simp [Receives, received])
    | .error _ => isFalse (by simp [Receives, received])
  | .handle | .deliver _ | .leave _ => isTrue trivial

/-- What the connections have not received after a step. -/
def unreadAfter (host : Host) : Action → ConnectionId → Source
  | .forward connection _ => fun other =>
    if other = connection then (host.unread connection).receive.2 else host.unread other
  | _ => host.unread

/-- The host after a step, if the step is possible. -/
def step? (host : Host) (action : Action) : Option Host :=
  if host.Receives action then
    (host.service.step? action).map fun service => ⟨service, host.unreadAfter action⟩
  else none

/-- The host after a list of steps, if each of them is possible. -/
def replay? (host : Host) : List Action → Option Host
  | [] => some host
  | action :: later => (host.step? action).bind fun next => next.replay? later

/-- Whether some list of steps leads from one host to another. -/
def Reaches (earlier later : Host) : Prop :=
  ∃ actions, earlier.replay? actions = some later

theorem step?_eq_some_iff {host next : Host} {action : Action} :
    host.step? action = some next ↔ host.Receives action ∧
      host.service.step? action = some next.service ∧ next.unread = host.unreadAfter action := by
  rw [step?, Option.ite_none_right_eq_some, Option.map_eq_some_iff]
  refine and_congr_right fun _ => ⟨?_, ?_⟩
  · rintro ⟨service, stepped, rfl⟩
    exact ⟨stepped, rfl⟩
  · rintro ⟨stepped, unread⟩
    exact ⟨next.service, stepped, unread ▸ rfl⟩

/-! ### The service of a host -/

theorem service_replay {host later : Host} {actions : List Action}
    (replayed : host.replay? actions = some later) :
    host.service.replay? actions = some later.service := by
  induction actions generalizing host with
  | nil => exact congrArg (Option.map Host.service) replayed
  | cons action actions ih =>
    obtain ⟨next, stepped, rest⟩ := Option.bind_eq_some_iff.1 replayed
    exact Option.bind_eq_some_iff.2 ⟨next.service, (step?_eq_some_iff.1 stepped).2.1, ih rest⟩

theorem serialized_of_reaches {store : Store} {streams : ConnectionId → Source} {host : Host}
    (reached : Reaches (start store streams) host) : host.service.Serialized store := by
  obtain ⟨actions, replayed⟩ := reached
  exact Service.serialized_of_reaches ⟨actions, service_replay replayed⟩

/-! ### The streams of a host -/

/-- What a connection's stream held, as far as it is told by what was put into the queue and what is
unread. -/
def held (host : Host) (connection : ConnectionId) : List Bytes :=
  Service.ofConnection connection host.service.forwarded ++ (host.unread connection).receiveAll.1

/-- **No step loses a frame of a stream, or adds one.** -/
theorem held_step {host next : Host} {action : Action} (stepped : host.step? action = some next)
    (connection : ConnectionId) : next.held connection = host.held connection := by
  obtain ⟨receives, served, unread⟩ := step?_eq_some_iff.1 stepped
  rw [held, held, unread]
  rcases Service.step?_eq_some served with ⟨other, frame, rfl, -, same⟩ |
    ⟨_, _, _, rfl, -, same⟩ | ⟨_, _, rfl, -, same⟩ | ⟨_, rfl, same⟩
  · rw [same]
    by_cases own : connection = other
    · subst own
      have taken : host.unreadAfter (.forward connection frame) connection =
          (host.unread connection).receive.2 := if_pos rfl
      rw [taken, Service.ofConnection_append_self, List.append_assoc,
        Source.receiveAll_of_received (Prod.ext receives rfl)]
      rfl
    · have left : host.unreadAfter (.forward other frame) connection = host.unread connection :=
        if_neg own
      rw [left, Service.ofConnection_append_of_ne (Ne.symm own)]
  all_goals
    rw [same]
    rfl

theorem held_replay {host later : Host} {actions : List Action}
    (replayed : host.replay? actions = some later) (connection : ConnectionId) :
    later.held connection = host.held connection := by
  induction actions generalizing host with
  | nil => exact Option.some.inj replayed ▸ rfl
  | cons action actions ih =>
    obtain ⟨next, stepped, rest⟩ := Option.bind_eq_some_iff.1 replayed
    rw [ih rest, held_step stepped]

theorem held_of_reaches {store : Store} {streams : ConnectionId → Source} {host : Host}
    (reached : Reaches (start store streams) host) (connection : ConnectionId) :
    host.held connection = (streams connection).receiveAll.1 := by
  obtain ⟨actions, replayed⟩ := reached
  exact held_replay replayed connection

/-- What was answered of a connection is the front of its stream. -/
theorem handled_prefix {store : Store} {streams : ConnectionId → Source} {host : Host}
    (reached : Reaches (start store streams) host) (connection : ConnectionId) :
    Service.ofConnection connection host.service.handled <+:
      (streams connection).receiveAll.1 := by
  rw [← held_of_reaches reached connection, held, (serialized_of_reaches reached).queue,
    Service.ofConnection_append, List.append_assoc]
  exact List.prefix_append ..

/-! ### Which runs a host has -/

/-- What stands first on a stream is received. -/
theorem receives_of_prefix {host : Host} {connection : ConnectionId} {frame : Bytes}
    (first : [frame] <+: (host.unread connection).receiveAll.1) :
    host.Receives (.forward connection frame) := by
  rcases (host.unread connection).receive_of_receiveAll with
    ⟨_, _, _, all⟩ | ⟨received, _, given, all⟩
  · rw [all] at first
    exact absurd (List.prefix_nil.1 first) (List.cons_ne_nil _ _)
  · rw [all] at first
    rw [Receives, given, (List.cons_prefix_cons.1 first).1]

theorem exists_replay (host : Host) {later : Service} {actions : List Action}
    (replayed : host.service.replay? actions = some later)
    (fronts : ∀ connection,
      Service.ofConnection connection later.forwarded <+: host.held connection) :
    ∃ unread, host.replay? actions = some ⟨later, unread⟩ := by
  induction actions generalizing host with
  | nil => exact ⟨host.unread, Option.some.inj replayed ▸ rfl⟩
  | cons action actions ih =>
    obtain ⟨served, taken, rest⟩ := Option.bind_eq_some_iff.1 replayed
    have receives : host.Receives action := by
      cases action with
      | forward connection frame =>
        have front := ((Service.history_replay rest).1.filterMap _).trans (fronts connection)
        rw [Service.forwarded_of_forward taken] at front
        rw [← Service.ofConnection, Service.ofConnection_append_self] at front
        exact receives_of_prefix ((List.prefix_append_right_inj _).1 front)
      | handle | deliver | leave => trivial
    let next : Host := ⟨served, host.unreadAfter action⟩
    have stepped : host.step? action = some next := step?_eq_some_iff.2 ⟨receives, taken, rfl⟩
    obtain ⟨unread, onward⟩ := ih next rest fun connection => by
      rw [held_step stepped]
      exact fronts connection
    exact ⟨unread, Option.bind_eq_some_iff.2 ⟨next, stepped, onward⟩⟩

/-- **The runs of a host are the runs of its service that are fed by its streams.** -/
theorem reaches_iff {store : Store} {streams : ConnectionId → Source} {service : Service} :
    (∃ unread, Reaches (start store streams) ⟨service, unread⟩) ↔
      Service.Reaches (.start store) service ∧ ∀ connection,
        Service.ofConnection connection service.forwarded <+: (streams connection).receiveAll.1 := by
  constructor
  · rintro ⟨unread, reached⟩
    refine ⟨?_, fun connection => ?_⟩
    · obtain ⟨actions, replayed⟩ := reached
      exact ⟨actions, service_replay replayed⟩
    · rw [← held_of_reaches reached connection]
      exact List.prefix_append ..
  · rintro ⟨⟨actions, replayed⟩, fronts⟩
    obtain ⟨unread, onward⟩ := exists_replay (start store streams) replayed fronts
    exact ⟨unread, actions, onward⟩

end Host

end SharedWeights
