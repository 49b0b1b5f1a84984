/-
**A service without one of its connections.**

A connection whose frames are never answered with weights spares the store. It may be left out of
everything that happens, and what is left still happens as it did.

* `after_others`, `answers_others`: the store and the replies to all others are the same without it;
* `without_of_own`: its own steps, wherever they come, do nothing without it;
* `step?_without_of_other`: all other steps are as possible without it as they were;
* `reaches_without`: so every run of a host is one without it as well.

A step of the server belongs to the connection whose request it answers (`subject`).
-/

import SharedWeights.Proofs.Server.Traces
import SharedWeights.Proofs.Service.Streams

namespace SharedWeights

/-! ### Histories without a connection -/

section Histories

variable {Entry : Type} {absent connection : ConnectionId}

/-- A history without one connection. -/
def Service.others (absent : ConnectionId) (history : List (ConnectionId × Entry)) :
    List (ConnectionId × Entry) :=
  ofOrigins (· != absent) history

namespace Service

theorem others_cons_self (entry : Entry) (later : List (ConnectionId × Entry)) :
    others absent ((absent, entry) :: later) = others absent later := by
  simp [others, ofOrigins]

theorem others_cons_of_ne (distinct : connection ≠ absent) (entry : Entry)
    (later : List (ConnectionId × Entry)) :
    others absent ((connection, entry) :: later) = (connection, entry) :: others absent later := by
  simp [others, ofOrigins, distinct]

theorem others_append (front back : List (ConnectionId × Entry)) :
    others absent (front ++ back) = others absent front ++ others absent back :=
  List.filter_append front back

theorem others_append_self (history : List (ConnectionId × Entry)) (entry : Entry) :
    others absent (history ++ [(absent, entry)]) = others absent history := by
  rw [others_append, others_cons_self]
  exact List.append_nil _

theorem others_append_of_ne (distinct : connection ≠ absent)
    (history : List (ConnectionId × Entry)) (entry : Entry) :
    others absent (history ++ [(connection, entry)]) =
      others absent history ++ [(connection, entry)] := by
  rw [others_append, others_cons_of_ne distinct]
  rfl

theorem length_others_le (history : List (ConnectionId × Entry)) :
    (others absent history).length ≤ history.length :=
  List.length_filter_le _ history

theorem ofConnection_others_self (history : List (ConnectionId × Bytes)) :
    ofConnection absent (others absent history) = [] := by
  induction history with
  | nil => rfl
  | cons entry later ih =>
    obtain ⟨origin, bytes⟩ := entry
    by_cases own : origin = absent
    · rw [own, others_cons_self, ih]
    · rw [others_cons_of_ne own, ofConnection_cons_of_ne own, ih]

theorem ofConnection_others_of_ne (distinct : connection ≠ absent)
    (history : List (ConnectionId × Bytes)) :
    ofConnection connection (others absent history) = ofConnection connection history := by
  induction history with
  | nil => rfl
  | cons entry later ih =>
    obtain ⟨origin, bytes⟩ := entry
    by_cases own : origin = absent
    · subst own
      rw [others_cons_self, ofConnection_cons_of_ne (Ne.symm distinct), ih]
    · rw [others_cons_of_ne own]
      by_cases same : origin = connection
      · subst same
        rw [ofConnection_cons_self, ofConnection_cons_self, ih]
      · rw [ofConnection_cons_of_ne same, ofConnection_cons_of_ne same, ih]

end Service

end Histories

/-! ### Connections that spare the store -/

namespace Store

/-- None of a connection's frames is answered with weights. -/
def SparedBy (store : Store) (connection : ConnectionId)
    (handled : List (ConnectionId × Bytes)) : Prop :=
  ∀ response, (connection, response) ∈ store.answersTo handled →
    ∀ command numbers, response ≠ .weights command numbers

namespace SparedBy

variable {store : Store} {connection : ConnectionId} {handled : List (ConnectionId × Bytes)}

theorem spared (spared : store.SparedBy connection handled) :
    store.Spared (· != connection) handled := by
  intro origin response member own
  cases bne_eq_false_iff_eq.1 own
  exact spared response member

theorem front {later : List (ConnectionId × Bytes)}
    (spared : store.SparedBy connection (handled ++ later)) : store.SparedBy connection handled :=
  fun response member => spared response <| by
    rw [answersTo_append]
    exact List.mem_append_left _ member

theorem store_handle {frame : Bytes}
    (spared : store.SparedBy connection (handled ++ [(connection, frame)])) :
    ((store.after (handled.map Prod.snd)).handle frame).store =
      store.after (handled.map Prod.snd) := by
  refine store_of_step (step_handle _ frame) (spared _ ?_)
  rw [answersTo_append]
  exact List.mem_append_right _ List.mem_cons_self

theorem after_others (spared : store.SparedBy connection handled) :
    store.after ((Service.others connection handled).map Prod.snd) =
      store.after (handled.map Prod.snd) :=
  after_ofOrigins spared.spared

theorem answers_others (spared : store.SparedBy connection handled) :
    Service.answers store (Service.others connection handled) =
      Service.others connection (Service.answers store handled) := by
  rw [Service.answers, Service.others, answersTo_ofOrigins spared.spared, Service.answers,
    Service.others, ofOrigins, ofOrigins, List.filter_map]
  rfl

end SparedBy

end Store

/-! ### Services without a connection -/

namespace Service

variable {service next : Service} {absent connection : ConnectionId} {action : Action}

/-- A service as if one connection had done nothing. -/
def without (absent : ConnectionId) (service : Service) : Service where
  store := service.store
  queue := others absent service.queue
  phase other := if other = absent then .receiving else service.phase other
  forwarded := others absent service.forwarded
  handled := others absent service.handled
  written := others absent service.written

/-- The connection that a step is about. -/
def subject (service : Service) : Action → Option ConnectionId
  | .forward connection _ | .deliver connection | .leave connection => some connection
  | .handle => service.queue.head?.map Prod.fst

theorem phase_without (distinct : connection ≠ absent) :
    (service.without absent).phase connection = service.phase connection :=
  if_neg distinct

theorem eq_without {result : Service} (store : result.store = service.store)
    (queue : result.queue = others absent service.queue)
    (own : result.phase absent = .receiving)
    (phase : ∀ other ≠ absent, result.phase other = service.phase other)
    (forwarded : result.forwarded = others absent service.forwarded)
    (handled : result.handled = others absent service.handled)
    (written : result.written = others absent service.written) :
    result = service.without absent := by
  have phases : result.phase = (service.without absent).phase := by
    funext other
    by_cases same : other = absent
    · rw [same, own]
      exact (if_pos rfl).symm
    · rw [phase other same, phase_without same]
  cases result
  simp_all [without]

theorem without_congr (store : next.store = service.store)
    (queue : others absent next.queue = others absent service.queue)
    (phase : ∀ other ≠ absent, next.phase other = service.phase other)
    (forwarded : others absent next.forwarded = others absent service.forwarded)
    (handled : others absent next.handled = others absent service.handled)
    (written : others absent next.written = others absent service.written) :
    next.without absent = service.without absent :=
  eq_without store queue (if_pos rfl)
    (fun other distinct => (phase_without distinct).trans (phase other distinct))
    forwarded handled written

theorem without_start (store : Store) (absent : ConnectionId) :
    (start store).without absent = start store :=
  (eq_without rfl rfl rfl (fun _ _ => rfl) rfl rfl rfl).symm

/-- A step of another connection changes the phase of that connection alone. -/
theorem phase_setPhase_without (service : Service) (distinct : connection ≠ absent)
    (phase : Phase) :
    ((service.without absent).setPhase connection phase).phase absent = .receiving ∧
      ∀ other ≠ absent, ((service.without absent).setPhase connection phase).phase other =
        (service.setPhase connection phase).phase other := by
  constructor
  · rw [phase_setPhase_of_ne _ (Ne.symm distinct)]
    exact if_pos rfl
  · intro other apart
    by_cases same : other = connection
    · rw [same, phase_setPhase_self, phase_setPhase_self]
    · rw [phase_setPhase_of_ne _ same, phase_setPhase_of_ne _ same, phase_without apart]

/-- **A connection's own steps do nothing without it**, if its frames spare the store. -/
theorem without_of_own {initial : Store} (before : service.Serialized initial)
    (stepped : service.step? action = some next)
    (spared : initial.SparedBy absent next.handled)
    (own : service.subject action = some absent) : next.without absent = service.without absent := by
  have phase (given : Phase) (other : ConnectionId) (distinct : other ≠ absent) :
      (service.setPhase absent given).phase other = service.phase other :=
    phase_setPhase_of_ne service distinct given
  rcases step?_eq_some stepped with ⟨connection, frame, rfl, -, rfl⟩ |
    ⟨connection, frame, later, rfl, oldest, rfl⟩ | ⟨connection, reply, rfl, -, rfl⟩ |
    ⟨connection, rfl, rfl⟩
  · cases own
    exact without_congr rfl (others_append_self ..) (phase _) (others_append_self ..) rfl rfl
  · rw [subject, oldest] at own
    cases own
    have kept : (service.store.handle frame).store = service.store := by
      rw [before.store]
      exact spared.store_handle
    refine without_congr kept ?_ (phase _) rfl (others_append_self ..) rfl
    rw [oldest, others_cons_self]
  · cases own
    exact without_congr rfl rfl (phase _) rfl rfl (others_append_self ..)
  · cases own
    exact without_congr rfl rfl (phase _) rfl rfl rfl

/-- **All other steps are as possible without it as they were.** -/
theorem step?_without_of_other (stepped : service.step? action = some next)
    (other : service.subject action ≠ some absent) :
    (service.without absent).step? action = some (next.without absent) := by
  cases action with
  | forward connection frame =>
    have distinct : connection ≠ absent := fun same => other (congrArg some same)
    simp only [step?, Option.ite_none_right_eq_some, Option.some.injEq] at stepped
    obtain ⟨⟨ready, room⟩, rfl⟩ := stepped
    obtain ⟨own, phase⟩ := phase_setPhase_without service distinct .waiting
    rw [step?, if_pos ⟨(phase_without distinct).trans ready,
      Nat.lt_of_le_of_lt (length_others_le _) room⟩]
    exact congrArg some (eq_without rfl (others_append_of_ne distinct ..).symm own phase
      (others_append_of_ne distinct ..).symm rfl rfl)
  | handle =>
    rcases oldest : service.queue with _ | ⟨⟨connection, frame⟩, later⟩
    · simp [step?, oldest] at stepped
    · have distinct : connection ≠ absent := by
        rintro rfl
        exact other (by rw [subject, oldest]; rfl)
      simp only [step?, oldest, Option.some.injEq] at stepped
      subst stepped
      have first : (service.without absent).queue = (connection, frame) :: others absent later := by
        rw [without, oldest, others_cons_of_ne distinct]
      obtain ⟨own, phase⟩ := phase_setPhase_without service distinct
        ((service.phase connection).answered (service.store.handle frame).response.encode)
      simp only [step?, first]
      rw [phase_without distinct]
      exact congrArg some (eq_without rfl rfl own phase rfl
        (others_append_of_ne distinct ..).symm rfl)
  | deliver connection =>
    have distinct : connection ≠ absent := fun same => other (congrArg some same)
    simp only [step?] at stepped
    split at stepped
    · next reply replying =>
      cases stepped
      obtain ⟨own, phase⟩ := phase_setPhase_without service distinct .receiving
      simp only [step?, phase_without distinct, replying]
      exact congrArg some (eq_without rfl rfl own phase rfl rfl
        (others_append_of_ne distinct ..).symm)
    · cases stepped
  | leave connection =>
    have distinct : connection ≠ absent := fun same => other (congrArg some same)
    simp only [step?, Option.ite_none_left_eq_some, Option.some.injEq] at stepped
    obtain ⟨going, rfl⟩ := stepped
    obtain ⟨own, phase⟩ := phase_setPhase_without service distinct .ended
    rw [step?, if_neg (by rwa [phase_without distinct])]
    exact congrArg some (eq_without rfl rfl own phase rfl rfl rfl)

end Service

/-! ### Hosts without a connection -/

namespace Host

variable {host next later : Host} {absent connection : ConnectionId} {action : Action}

/-- Streams of which one holds nothing. -/
def silenced (absent : ConnectionId) (streams : ConnectionId → Source) : ConnectionId → Source :=
  fun other => if other = absent then [] else streams other

/-- A host as if one connection had sent and done nothing. -/
def without (absent : ConnectionId) (host : Host) : Host :=
  ⟨host.service.without absent, silenced absent host.unread⟩

theorem without_start (store : Store) (streams : ConnectionId → Source) (absent : ConnectionId) :
    (start store streams).without absent = start store (silenced absent streams) :=
  congrArg (mk · _) (Service.without_start store absent)

theorem silenced_self (absent : ConnectionId) (streams : ConnectionId → Source) :
    silenced absent streams absent = [] :=
  if_pos rfl

theorem silenced_of_ne (distinct : connection ≠ absent) (streams : ConnectionId → Source) :
    silenced absent streams connection = streams connection :=
  if_neg distinct

theorem silenced_congr {streams others : ConnectionId → Source}
    (same : ∀ connection ≠ absent, streams connection = others connection) :
    silenced absent streams = silenced absent others := by
  funext connection
  by_cases gone : connection = absent
  · rw [gone, silenced_self, silenced_self]
  · rw [silenced_of_ne gone, silenced_of_ne gone, same connection gone]

theorem unreadAfter_of_subject_ne (other : host.service.subject action ≠ some connection) :
    host.unreadAfter action connection = host.unread connection := by
  cases action with
  | forward subject frame => exact if_neg fun same => other (congrArg some same.symm)
  | handle | deliver | leave => rfl

theorem without_of_own {initial : Store} (before : host.service.Serialized initial)
    (stepped : host.step? action = some next)
    (spared : initial.SparedBy absent next.service.handled)
    (own : host.service.subject action = some absent) : next.without absent = host.without absent := by
  obtain ⟨-, served, unread⟩ := step?_eq_some_iff.1 stepped
  have streams : silenced absent next.unread = silenced absent host.unread := by
    refine silenced_congr fun connection distinct => ?_
    rw [unread, unreadAfter_of_subject_ne]
    rw [own]
    exact fun same => distinct (Option.some.inj same).symm
  rw [without, without, streams, Service.without_of_own before served spared own]

theorem step?_without_of_other (stepped : host.step? action = some next)
    (other : host.service.subject action ≠ some absent) :
    (host.without absent).step? action = some (next.without absent) := by
  obtain ⟨receives, served, unread⟩ := step?_eq_some_iff.1 stepped
  refine step?_eq_some_iff.2 ⟨?_, Service.step?_without_of_other served other, ?_⟩
  · cases action with
    | forward connection frame =>
      have distinct : connection ≠ absent := fun same => other (congrArg some same)
      show (silenced absent host.unread connection).receive.1 = .ok frame
      rw [silenced_of_ne distinct]
      exact receives
    | handle | deliver | leave => exact receives
  · show silenced absent next.unread = _
    rw [unread]
    cases action with
    | forward connection frame =>
      have distinct : connection ≠ absent := fun same => other (congrArg some same)
      funext reader
      show silenced absent _ reader =
        if reader = connection then (silenced absent host.unread connection).receive.2
        else silenced absent host.unread reader
      rw [silenced_of_ne distinct]
      by_cases gone : reader = absent
      · rw [gone, silenced_self, silenced_self, if_neg (Ne.symm distinct)]
      · rw [silenced_of_ne gone, silenced_of_ne gone]
        rfl
    | handle | deliver | leave => rfl

/-- **Every run is one without the connection as well**, if its frames spare the store. -/
theorem reaches_without {initial : Store} {actions : List Action}
    (before : host.service.Serialized initial) (replayed : host.replay? actions = some later)
    (spared : initial.SparedBy absent later.service.handled) :
    Reaches (host.without absent) (later.without absent) := by
  induction actions generalizing host with
  | nil => exact ⟨[], congrArg (Option.map (without absent)) replayed⟩
  | cons action actions ih =>
    obtain ⟨next, stepped, rest⟩ := Option.bind_eq_some_iff.1 replayed
    obtain ⟨-, served, -⟩ := step?_eq_some_iff.1 stepped
    obtain ⟨others, onward⟩ := ih (Service.serialized_step before served) rest
    by_cases own : host.service.subject action = some absent
    · obtain ⟨later, handled⟩ := (Service.history_replay (service_replay rest)).2
      rw [← handled] at spared
      exact ⟨others, without_of_own before stepped spared.front own ▸ onward⟩
    · exact ⟨action :: others,
        Option.bind_eq_some_iff.2 ⟨_, step?_without_of_other stepped own, onward⟩⟩

end Host

end SharedWeights
