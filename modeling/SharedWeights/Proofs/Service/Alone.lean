/-
**A connection served alone and a service with one connection.**

A connection is served by itself up to its end, and a service takes the steps of any number of
connections. With one connection they tell the same:

* `reaches_served`: what the connection does alone the service does in as many steps, whatever ends
  the connection;
* `reaches_alone`: so does a host that has this one connection;
* `store_of_alone`: and a host with one connection can do nothing else, however far it has come.

The run is built along the stream, since a connection on its own has no list of steps to go by.
-/

import SharedWeights.Proofs.Connection.Lockstep
import SharedWeights.Proofs.Service.Exchanges
import SharedWeights.Proofs.Service.Streams

namespace SharedWeights

namespace Service

/-! ### A connection up to its end -/

section Served

variable {service : Service} {connection : ConnectionId}

/-- The service when a connection has ended as it ends alone: the server has answered what the
connection handed over, and of the replies those were written that could be sent. -/
structure Served (service : Service) (connection : ConnectionId) (sink : Sink) (ending : Ending)
    (last : Service) : Prop where
  queue : last.queue = []
  ended : last.phase connection = .ended
  counterpart : ending.counterpart = .serving last.store
  forwarded : last.forwarded = service.forwarded ++ ending.forwarded.map (connection, ·)
  handled : last.handled = service.handled ++ ending.forwarded.map (connection, ·)
  /-- Only the last reply may be left behind, when its failure to be sent ends the connection. -/
  written : ∃ sent unsent, service.store.replies ending.forwarded = sent ++ unsent ∧
    last.written = service.written ++ sent.map (connection, ·) ∧ unsent.length ≤ 1 ∧
    (sink.sendEach (sent ++ unsent)).1 =
      sent.map (fun _ => .ok ()) ++ unsent.map (fun _ => ending.outcome)

/-- **A service does what a connection does alone**, if nothing comes in between. -/
theorem reaches_served (idle : service.Idle connection) (source : Source) (sink : Sink) :
    let ending := Connection.serve source sink (.serving service.store)
    ∃ last, service.Reaches last ∧ service.Served connection sink ending last := by
  -- by induction on the frames that are received
  induction frames : source.receiveAll.1 generalizing service source sink with
  | nil =>
    rcases source.receive_of_receiveAll with ⟨failure, left, given, -⟩ | ⟨_, _, _, all⟩
    · rw [Connection.serve_of_failed given]
      have going : service.phase connection ≠ .ended := by
        rw [idle.receiving]
        exact Phase.noConfusion
      refine ⟨_, .of_step (step?_leave going), idle.queue, phase_setPhase_self .., rfl, ?_, ?_,
        [], [], rfl, ?_, Nat.zero_le 1, rfl⟩
      all_goals exact (List.append_nil _).symm
    · rw [all] at frames
      cases frames
  | cons frame later ih =>
    rcases source.receive_of_receiveAll with ⟨_, _, _, all⟩ | ⟨first, left, given, all⟩
    · rw [all] at frames
      cases frames
    rw [all] at frames
    obtain ⟨rfl, others⟩ := List.cons.inj frames
    rcases sent : sink.send (service.store.handle first).response.encode with
      ⟨failure | _, written⟩
    · -- the reply can't be sent
      rw [Connection.serve_of_unsent given sent]
      have going : (service.owing connection first).phase connection ≠ .ended := by
        rw [phase_owing]
        exact Phase.noConfusion
      refine ⟨_, Reaches.trans ⟨_, replay?_owing idle first⟩ (.of_step (step?_leave going)),
        idle.queue, phase_setPhase_self .., rfl, rfl, rfl, [],
        [(service.store.handle first).response.encode], rfl, (List.append_nil _).symm,
        Nat.le_refl 1, ?_⟩
      rw [List.nil_append, Sink.sendEach, Sink.sendEach, sent]
      rfl
    · rw [Connection.serve_of_sent given sent]
      have again : (service.exchanged connection [first]).Idle connection :=
        ⟨idle.queue, idle.receiving⟩
      obtain ⟨last, reached, served⟩ := ih again left written others
      obtain ⟨earlier, unsent, replies, wrote, few, outcomes⟩ := served.written
      refine ⟨last, (reaches_exchange idle first).trans reached, served.queue, served.ended,
        served.counterpart, ?_, ?_, (service.store.handle first).response.encode :: earlier, unsent,
        ?_, ?_, few, ?_⟩
      · rw [served.forwarded]
        exact List.append_assoc ..
      · rw [served.handled]
        exact List.append_assoc ..
      · rw [Store.replies_cons]
        exact congrArg _ replies
      · rw [wrote]
        exact List.append_assoc ..
      · rw [List.cons_append, Sink.sendEach, sent]
        exact congrArg _ outcomes

end Served

/-! ### One connection's history -/

theorem ofConnection_map_self (connection : ConnectionId) (entries : List Bytes) :
    ofConnection connection (entries.map (connection, ·)) = entries := by
  induction entries with
  | nil => rfl
  | cons bytes later ih => rw [List.map_cons, ofConnection_cons_self, ih]

theorem ofConnection_map_of_ne {connection other : ConnectionId} (distinct : connection ≠ other)
    (entries : List Bytes) : ofConnection other (entries.map (connection, ·)) = [] := by
  induction entries with
  | nil => rfl
  | cons bytes later ih => rw [List.map_cons, ofConnection_cons_of_ne distinct, ih]

theorem map_snd_of_one (connection : ConnectionId) (entries : List Bytes) :
    (entries.map (connection, ·)).map Prod.snd = entries := by
  rw [List.map_map]
  exact List.map_id entries

/-- A history of which no other connection has a part is that of one connection. -/
theorem eq_map_ofConnection {connection : ConnectionId} {history : List (ConnectionId × Bytes)}
    (alone : ∀ other ≠ connection, ofConnection other history = []) :
    history = (ofConnection connection history).map (connection, ·) := by
  induction history with
  | nil => rfl
  | cons entry later ih =>
    obtain ⟨origin, bytes⟩ := entry
    have own : origin = connection := by
      by_contra apart
      have part := alone origin apart
      rw [ofConnection_cons_self] at part
      cases part
    subst own
    rw [ofConnection_cons_self, List.map_cons]
    refine congrArg _ (ih fun other distinct => ?_)
    have part := alone other distinct
    rwa [ofConnection_cons_of_ne (Ne.symm distinct)] at part

end Service

namespace Connection

/-- Nothing is handed over but what the reader gives, in its order. -/
theorem forwarded_prefix (source : Source) (sink : Sink) (store : Store) :
    (serve source sink (.serving store)).forwarded <+: source.receiveAll.1 := by
  induction frames : source.receiveAll.1 generalizing source sink store with
  | nil =>
    rcases source.receive_of_receiveAll with ⟨failure, left, given, -⟩ | ⟨_, _, _, all⟩
    · simp only [serve_of_failed given, List.prefix_refl]
    · rw [all] at frames
      cases frames
  | cons frame later ih =>
    rcases source.receive_of_receiveAll with ⟨_, _, _, all⟩ | ⟨first, left, given, all⟩
    · rw [all] at frames
      cases frames
    rw [all] at frames
    obtain ⟨rfl, others⟩ := List.cons.inj frames
    rcases sent : sink.send (store.handle first).response.encode with ⟨failure | _, written⟩
    · rw [serve_of_unsent given sent]
      exact List.cons_prefix_cons.2 ⟨rfl, List.nil_prefix⟩
    · rw [serve_of_sent given sent]
      exact List.cons_prefix_cons.2 ⟨rfl, ih left written _ others⟩

end Connection

/-! ### A host with one connection -/

namespace Host

/-- Streams of which only one holds anything. -/
def only (connection : ConnectionId) (source : Source) : ConnectionId → Source :=
  fun other => if other = connection then source else []

section Only

variable {store : Store} {connection : ConnectionId} {source : Source}

theorem only_self (connection : ConnectionId) (source : Source) :
    only connection source connection = source :=
  if_pos rfl

theorem only_of_ne {other : ConnectionId} (distinct : other ≠ connection) (source : Source) :
    only connection source other = [] :=
  if_neg distinct

/-- **A host with one connection does what the connection does alone.** -/
theorem reaches_alone (store : Store) (connection : ConnectionId) (source : Source) (sink : Sink) :
    let ending := Connection.serve source sink (.serving store)
    ∃ host, Reaches (start store (only connection source)) host ∧
      (Service.start store).Served connection sink ending host.service := by
  intro ending
  have idle : (Service.start store).Idle connection := ⟨rfl, rfl⟩
  obtain ⟨last, reached, served⟩ := Service.reaches_served idle source sink
  have forwarded : last.forwarded = ending.forwarded.map (connection, ·) := served.forwarded
  obtain ⟨unread, hosted⟩ : ∃ unread, Reaches (start store (only connection source))
      ⟨last, unread⟩ := by
    refine reaches_iff.2 ⟨reached, fun other => ?_⟩
    rw [forwarded]
    by_cases own : other = connection
    · rw [own, Service.ofConnection_map_self, only_self]
      exact Connection.forwarded_prefix source sink store
    · rw [Service.ofConnection_map_of_ne (Ne.symm own)]
      exact List.nil_prefix
  exact ⟨_, hosted, served⟩

/-- **A host with one connection can do nothing else**: it has answered a front part of the stream,
and once it has answered as many requests as the connection alone, its store is the same. -/
theorem store_of_alone {host : Host}
    (reached : Reaches (start store (only connection source)) host) :
    ∃ frames, frames <+: source.receiveAll.1 ∧
      host.service.handled = frames.map (connection, ·) ∧
      host.service.store = store.after frames ∧
      ∀ sink : Sink, let ending := Connection.serve source sink (.serving store)
        frames.length = ending.forwarded.length →
          ending.forwarded = frames ∧ ending.counterpart = .serving host.service.store := by
  have front := handled_prefix reached connection
  rw [only_self] at front
  have others : ∀ other ≠ connection, Service.ofConnection other host.service.handled = [] := by
    intro other distinct
    have nothing := handled_prefix reached other
    rw [only_of_ne distinct, Source.receiveAll_nil] at nothing
    exact List.prefix_nil.1 nothing
  have history := Service.eq_map_ofConnection others
  have kept := (serialized_of_reaches reached).store
  rw [history, Service.map_snd_of_one] at kept
  refine ⟨_, front, history, kept, fun sink => ?_⟩
  intro ending long
  have same : ending.forwarded = Service.ofConnection connection host.service.handled := by
    rw [List.prefix_iff_eq_take.1 front,
      List.prefix_iff_eq_take.1 (Connection.forwarded_prefix source sink store), long]
  obtain ⟨alone, aloneReached, served⟩ := reaches_alone store connection source sink
  have aloneKept := (serialized_of_reaches aloneReached).store
  rw [show alone.service.handled = ending.forwarded.map (connection, ·) from served.handled,
    Service.map_snd_of_one, same, ← kept] at aloneKept
  exact ⟨same, served.counterpart.trans (congrArg Counterpart.serving aloneKept)⟩

end Only

end Host

end SharedWeights
