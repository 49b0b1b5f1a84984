/-
**Requests exchanged one after the other.**

A connection takes a request from its receipt to its written reply while nothing else happens. The
service is then as before, but for the store and for what is on record:

* `replay?_owing`, `exchange?_of_idle`: one request, up to its answer and up to its written reply;
* `reaches_exchanged`: one request after the other.
-/

import SharedWeights.Proofs.Service.Serialization

namespace SharedWeights

namespace Service

/-! ### Runs behind runs -/

theorem replay?_append (service : Service) (front back : List Action) :
    service.replay? (front ++ back) =
      (service.replay? front).bind fun next => next.replay? back := by
  induction front generalizing service with
  | nil => rfl
  | cons action later ih =>
    rw [List.cons_append, replay?, replay?, Option.bind_assoc]
    exact congrArg _ (funext ih)

theorem Reaches.refl (service : Service) : Reaches service service := ⟨[], rfl⟩

theorem Reaches.trans {first second third : Service} (front : Reaches first second)
    (back : Reaches second third) : Reaches first third := by
  obtain ⟨earlier, before⟩ := front
  obtain ⟨later, behind⟩ := back
  exact ⟨earlier ++ later, by rw [replay?_append, before, Option.bind_some, behind]⟩

theorem Reaches.of_step {service next : Service} {action : Action}
    (stepped : service.step? action = some next) : Reaches service next :=
  ⟨[action], by rw [replay?, stepped, Option.bind_some, replay?]⟩

/-! ### One request -/

/-- The server has nothing to do, and the connection receives. -/
structure Idle (service : Service) (connection : ConnectionId) : Prop where
  queue : service.queue = []
  receiving : service.phase connection = .receiving

/-- A service after one connection has exchanged requests one after the other. -/
def exchanged (service : Service) (connection : ConnectionId) (frames : List Bytes) : Service :=
  { service with
    store := service.store.after frames
    forwarded := service.forwarded ++ frames.map (connection, ·)
    handled := service.handled ++ frames.map (connection, ·)
    written := service.written ++ (service.store.replies frames).map (connection, ·) }

/-- A service after a request was answered whose reply is still to be written. -/
def owing (service : Service) (connection : ConnectionId) (frame : Bytes) : Service :=
  { service.setPhase connection (.replying (service.store.handle frame).response.encode) with
    store := (service.store.handle frame).store
    forwarded := service.forwarded ++ [(connection, frame)]
    handled := service.handled ++ [(connection, frame)] }

section Exchange

variable {service : Service} {connection : ConnectionId}

theorem replay?_owing (idle : service.Idle connection) (frame : Bytes) :
    service.replay? [.forward connection frame, .handle] =
      some (service.owing connection frame) := by
  have room : service.queue.length < queueCapacity := by
    rw [idle.queue]
    decide
  have oldest : service.queue ++ [(connection, frame)] = [(connection, frame)] := by
    rw [idle.queue, List.nil_append]
  rw [replay?, step?_forward idle.receiving room, Option.bind_some, replay?, step?_handle oldest,
    Option.bind_some, replay?, owing]
  simp only [setPhase, if_true, Phase.answered, idle.queue, Option.some.injEq, Service.mk.injEq,
    true_and, and_true]
  funext other
  split <;> rfl

theorem phase_owing (service : Service) (connection : ConnectionId) (frame : Bytes) :
    (service.owing connection frame).phase connection =
      .replying (service.store.handle frame).response.encode :=
  phase_setPhase_self service connection _

/-- Once its reply is written the connection receives again, as before. -/
theorem phase_delivered (idle : service.Idle connection) (frame : Bytes) :
    ((service.owing connection frame).setPhase connection .receiving).phase = service.phase := by
  funext other
  by_cases own : other = connection
  · rw [own, phase_setPhase_self, idle.receiving]
  · rw [phase_setPhase_of_ne _ own]
    exact phase_setPhase_of_ne service own _

/-- **A request that finds nothing else to do is exchanged.** -/
theorem exchange?_of_idle (idle : service.Idle connection) (frame : Bytes) :
    service.exchange? connection frame =
      some (service.exchanged connection [frame],
        (service.store.handle frame).response.encode) := by
  have replying := phase_owing service connection frame
  simp only [exchange?, replay?_owing idle, Option.bind_eq_bind, Option.bind_some, replying,
    step?_deliver replying, phase_delivered idle]
  rfl

theorem reaches_exchange (idle : service.Idle connection) (frame : Bytes) :
    service.Reaches (service.exchanged connection [frame]) := by
  have delivered := step?_deliver (phase_owing service connection frame)
  simp only [phase_delivered idle] at delivered
  exact Reaches.trans ⟨_, replay?_owing idle frame⟩ (.of_step delivered)

/-! ### Request after request -/

theorem exchanged_nil (service : Service) (connection : ConnectionId) :
    service.exchanged connection [] = service := by
  simp [exchanged, Store.replies, Store.responses]

theorem exchanged_cons (service : Service) (connection : ConnectionId) (frame : Bytes)
    (later : List Bytes) :
    service.exchanged connection (frame :: later) =
      (service.exchanged connection [frame]).exchanged connection later := by
  simp [exchanged, Store.replies, Store.responses]

/-- **One request after the other is exchanged.** -/
theorem reaches_exchanged (idle : service.Idle connection) (frames : List Bytes) :
    service.Reaches (service.exchanged connection frames) := by
  induction frames generalizing service with
  | nil =>
    rw [exchanged_nil]
    exact .refl service
  | cons frame later ih =>
    rw [exchanged_cons]
    exact (reaches_exchange idle frame).trans (ih ⟨idle.queue, idle.receiving⟩)

end Exchange

end Service

end SharedWeights
