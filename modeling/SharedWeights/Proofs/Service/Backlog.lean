/-
**A service works off its queue as the server does alone.**

The server by itself is given all its requests beforehand, each with whether its sender waits for the
reply. In a service this shows in the phase of the connection when its request is answered:

* `Serialized.nodup_queue`: no connection stands twice in the queue, so that no answer changes what
  is known of the others;
* `drained_of_nodup`: the steps of the server alone are those of its loop, one after the other;
* `reaches_drained`: so from every service that is reached the queue can be worked off, with the
  store, the replies and the lost replies of the loop.
-/

import SharedWeights.Proofs.Server.Queue
import SharedWeights.Proofs.Service.Serialization
import Mathlib.Data.List.Nodup

namespace SharedWeights

theorem Phase.answered_of_ne {phase : Phase} (elsewhere : phase ≠ .waiting) (reply : Bytes) :
    phase.answered reply = phase := by
  cases phase with
  | waiting => exact absurd rfl elsewhere
  | receiving | replying | ended => rfl

namespace Service

/-- The requests in the queue as the server takes them, each with whether its connection waits. -/
def exchanges (service : Service) : List Exchange :=
  service.queue.map fun entry => ⟨entry.2, service.phase entry.1 = .waiting⟩

/-- No connection has two requests in the queue. -/
theorem Serialized.nodup_queue {initial : Store} {service : Service}
    (serialized : service.Serialized initial) : (service.queue.map Prod.fst).Nodup := by
  rw [List.nodup_iff_count_le_one]
  intro connection
  rw [← length_ofConnection]
  exact serialized.length_queue_le connection

theorem exists_handle {service : Service} {connection : ConnectionId} {frame : Bytes}
    {later : List (ConnectionId × Bytes)} (oldest : service.queue = (connection, frame) :: later) :
    ∃ next, service.step? .handle = some next ∧
      next.store = (service.store.handle frame).store ∧ next.queue = later ∧
      next.handled = service.handled ++ [(connection, frame)] ∧
      next.forwarded = service.forwarded ∧ next.written = service.written ∧
      next.phase connection = (service.phase connection).answered
        (service.store.handle frame).response.encode ∧
      ∀ other ≠ connection, next.phase other = service.phase other :=
  ⟨_, step?_handle oldest, rfl, rfl, rfl, rfl, rfl, phase_setPhase_self .., fun _ distinct =>
    phase_setPhase_of_ne service distinct _⟩

/-- The service once the server has worked off the queue with this result. -/
structure Drained (service : Service) (result : QueueResult) (last : Service) : Prop where
  queue : last.queue = []
  store : last.store = result.store
  handled : last.handled = service.handled ++ service.queue
  forwarded : last.forwarded = service.forwarded
  written : last.written = service.written
  /-- A connection has its reply if it waited for one, and is as before if it did not. -/
  replied : ∀ (place : Nat) connection frame, service.queue[place]? = some (connection, frame) →
    ∃ reply? : Option Response, result.replies[place]? = some reply? ∧
      last.phase connection =
        reply?.elim (service.phase connection) fun reply => .replying reply.encode
  others : ∀ connection ∉ service.queue.map Prod.fst,
    last.phase connection = service.phase connection

/-- **The steps of the server alone are those of its loop.** -/
theorem drained_of_nodup {service : Service} (apart : (service.queue.map Prod.fst).Nodup) :
    ∃ last, service.replay? (List.replicate service.queue.length .handle) = some last ∧
      service.Drained (service.store.runQueue service.exchanges) last := by
  induction entries : service.queue generalizing service with
  | nil =>
    refine ⟨service, rfl, entries, ?_, ?_, rfl, rfl, fun place connection frame stands => ?_,
      fun _ _ => rfl⟩
    · rw [exchanges, entries]
      rfl
    · rw [entries, List.append_nil]
    · rw [entries] at stands
      cases stands
  | cons entry later ih =>
    obtain ⟨connection, frame⟩ := entry
    rw [entries, List.map_cons, List.nodup_cons] at apart
    obtain ⟨once, distinct⟩ := apart
    obtain ⟨next, stepped, store, queue, handled, forwarded, written, own, other⟩ :=
      exists_handle entries
    -- the phases of the later connections are not touched by the answer
    have same : ∀ (place : Nat) origin bytes, later[place]? = some (origin, bytes) →
        next.phase origin = service.phase origin := by
      intro place origin bytes stands
      refine other origin ?_
      rintro rfl
      exact once (List.mem_map.2 ⟨_, List.mem_of_getElem? stands, rfl⟩)
    have ahead : service.exchanges =
        ⟨frame, service.phase connection = .waiting⟩ :: next.exchanges := by
      rw [exchanges, exchanges, entries, queue, List.map_cons]
      refine congrArg _ (List.map_congr_left fun entry member => ?_)
      obtain ⟨place, stands⟩ := List.mem_iff_getElem?.1 member
      rw [same place _ _ stands]
    have apart : (next.queue.map Prod.fst).Nodup := queue ▸ distinct
    obtain ⟨last, replayed, drained⟩ := ih apart queue
    refine ⟨last, ?_, drained.queue, ?_, ?_, drained.forwarded.trans forwarded,
      drained.written.trans written, fun place origin bytes stands => ?_, fun origin absent => ?_⟩
    · rw [List.length_cons, List.replicate_succ, replay?, stepped]
      exact replayed
    · rw [ahead, Store.runQueue_cons, drained.store, store]
    · rw [drained.handled, handled, entries, queue, List.append_assoc, List.singleton_append]
    · rw [entries] at stands
      rw [ahead, Store.runQueue_cons]
      cases place with
      | zero =>
        cases Option.some.inj stands
        refine ⟨_, rfl, ?_⟩
        rw [drained.others connection (queue ▸ once), own]
        by_cases waits : service.phase connection = .waiting
        · rw [waits]
          rfl
        · rw [Phase.answered_of_ne waits, decide_eq_false waits]
          rfl
      | succ place =>
        obtain ⟨reply?, given, phase⟩ := drained.replied place origin bytes (queue ▸ stands)
        rw [store] at given
        rw [same place origin bytes stands] at phase
        exact ⟨reply?, given, phase⟩
    · rw [entries, List.map_cons, List.mem_cons, not_or] at absent
      rw [drained.others origin (queue ▸ absent.2), other origin absent.1]

/-- **The queue of a service that is reached is worked off as the server's own**, with the same
store, the same replies to those who wait, and no reply to those who don't. -/
theorem reaches_drained {initial : Store} {service : Service}
    (reached : Reaches (start initial) service) :
    ∃ last, service.Reaches last ∧
      service.Drained (service.store.runQueue service.exchanges) last := by
  obtain ⟨last, replayed, drained⟩ := drained_of_nodup (serialized_of_reaches reached).nodup_queue
  exact ⟨last, ⟨_, replayed⟩, drained⟩

end Service

end SharedWeights
