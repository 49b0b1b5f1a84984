/-
**A queue of requests is worked off alike, whoever still waits.**

A request in the queue comes with a way back for one reply. Whoever asked may be gone by the time
that its request is answered, and the server learns of it only when it sends the reply, after it has
changed the store. The loop of the server is told here step by step, with all the ways back:

* `due?_congr`: who waits is owed the same, whoever else is gone;
* `runQueue_cons`: one exchange of a queue;
* `Served`: before each step the store is the one after the requests so far, and on the ways back
  are the replies to these, and no others;
* `served_answer`, `served_work`: every step keeps this, and so does the whole loop;
* `answered_once`: so whoever waits gets one reply, and those who are gone change nothing for the
  others.

The invariant also holds the loop against `runQueue`, which works off the queue from its front and
gives the responses before they are encoded: what that says of the rest of the queue is the part of
its result that is still to come.
-/

import SharedWeights.Proofs.Server.Runs

namespace SharedWeights

/-- The way back of an exchange. -/
structure WayBack where
  /-- Whether somebody still waits at its end. -/
  isAwaited : Bool
  /-- The replies that have arrived there, the oldest first. -/
  arrived : List Bytes

/-- Sends a reply back. It gets nowhere if nobody waits, and gives whether somebody did. -/
def WayBack.send (way : WayBack) (reply : Bytes) : Bool × WayBack :=
  if way.isAwaited then (true, { way with arrived := way.arrived ++ [reply] }) else (false, way)

/-- The server in its loop: the store, the ways back of all exchanges by their numbers, and what has
happened. -/
structure Desk where
  store : Store
  ways : Nat → WayBack
  events : List Event

namespace Desk

/-- Answers one exchange: handles its frame and sends the encoded response back. -/
def answer (desk : Desk) (number : Nat) (frame : Bytes) : Desk :=
  let answer := desk.store.handle frame
  let (passed, way) := (desk.ways number).send answer.response.encode
  { store := answer.store
    ways := fun other => if other = number then way else desk.ways other
    events := desk.events ++ answer.events ++ if passed then [] else [.replyLost] }

/-- Answers exchanges one after the other, each given by its number and its frame. -/
def work (desk : Desk) (entries : List (Nat × Bytes)) : Desk :=
  entries.foldl (fun current entry => current.answer entry.1 entry.2) desk

/-- The server before a queue. Nothing has arrived on any way back. -/
def opened (store : Store) (queue : List Exchange) : Desk :=
  ⟨store, fun place => ⟨queue[place]?.any Exchange.isAwaited, []⟩, []⟩

/-- The entries of a queue, numbered by their places. -/
def entries (queue : List Exchange) : List (Nat × Bytes) :=
  queue.mapIdx fun place exchange => (place, exchange.frame)

/-- The server once it has worked off a queue. -/
def closed (store : Store) (queue : List Exchange) : Desk :=
  (opened store queue).work (entries queue)

end Desk

namespace Store

/-- What the exchange in a place is owed: the response to its frame by the store as it is then, if
somebody waits for it. -/
def due? (store : Store) (queue : List Exchange) (place : Nat) : Option Response :=
  queue[place]?.bind fun exchange =>
    if exchange.isAwaited then
      some ((store.after ((queue.take place).map Exchange.frame)).handle exchange.frame).response
    else none

section Due

variable {store : Store} {queue : List Exchange} {place : Nat} {exchange : Exchange}

theorem due?_of_awaited (stands : queue[place]? = some exchange)
    (waits : exchange.isAwaited = true) :
    store.due? queue place = some ((store.after ((queue.map Exchange.frame).take place)).handle
      exchange.frame).response := by
  rw [due?, stands, Option.bind_some, if_pos waits, List.map_take]

theorem due?_of_lost (stands : queue[place]? = some exchange)
    (gone : exchange.isAwaited = false) : store.due? queue place = none := by
  rw [due?, stands, Option.bind_some, gone]
  rfl

theorem due?_of_nobody (nobody : queue[place]? = none) : store.due? queue place = none := by
  rw [due?, nobody, Option.bind_none]

/-- **Who waits is owed the same whoever else does**, as long as the frames are the same. -/
theorem due?_congr {others : List Exchange} {instead : Exchange}
    (same : others.map Exchange.frame = queue.map Exchange.frame)
    (stands : queue[place]? = some exchange) (standsInstead : others[place]? = some instead)
    (waits : exchange.isAwaited = true) (waitsInstead : instead.isAwaited = true) :
    store.due? others place = store.due? queue place := by
  have frame : instead.frame = exchange.frame := by
    have framed := congrArg (fun list => list[place]?) same
    simp only [List.getElem?_map, stands, standsInstead, Option.map_some] at framed
    exact Option.some.inj framed
  rw [due?_of_awaited standsInstead waitsInstead, due?_of_awaited stands waits, frame, same]

end Due

/-! ### The queue from its front -/

/-- **One exchange of a queue**: whether somebody waits for its reply shows in that reply and in one
event, and nowhere else. -/
theorem runQueue_cons (store : Store) (exchange : Exchange) (rest : List Exchange) :
    store.runQueue (exchange :: rest) =
      let answer := store.handle exchange.frame
      let later := answer.store.runQueue rest
      ⟨later.store, (if exchange.isAwaited then some answer.response else none) :: later.replies,
        answer.events ++ (if exchange.isAwaited then [] else [.replyLost]) ++ later.events⟩ := by
  rw [runQueue]
  cases exchange.isAwaited <;> simp

theorem store_runQueue (store : Store) (queue : List Exchange) :
    (store.runQueue queue).store = store.after (queue.map Exchange.frame) := by
  induction queue generalizing store with
  | nil => rfl
  | cons exchange rest ih =>
    rw [runQueue_cons, List.map_cons, after_cons]
    exact ih _

theorem length_replies_runQueue (store : Store) (queue : List Exchange) :
    (store.runQueue queue).replies.length = queue.length := by
  induction queue generalizing store with
  | nil => rfl
  | cons exchange rest ih =>
    rw [runQueue_cons, List.length_cons, List.length_cons, ih]

/-- **The reply in each place is what is due there.** -/
theorem replies_runQueue (store : Store) (queue : List Exchange) (place : Nat) :
    (store.runQueue queue).replies[place]? = queue[place]?.map fun _ => store.due? queue place := by
  induction queue generalizing store place with
  | nil => rfl
  | cons exchange rest ih =>
    rw [runQueue_cons]
    cases place with
    | zero => rfl
    | succ place =>
      rw [List.getElem?_cons_succ, List.getElem?_cons_succ, ih]
      -- the places of the rest are counted from the second exchange on
      rfl

end Store

namespace Desk

/-! ### One step -/

section Answer

variable (desk : Desk) (number : Nat) (frame : Bytes)

theorem store_answer : (desk.answer number frame).store = (desk.store.handle frame).store := rfl

theorem isAwaited_answer (other : Nat) :
    ((desk.answer number frame).ways other).isAwaited = (desk.ways other).isAwaited := by
  unfold answer WayBack.send
  dsimp only
  split
  · next same =>
    rw [same]
    split <;> rfl
  · rfl

theorem arrived_answer_self :
    ((desk.answer number frame).ways number).arrived = (desk.ways number).arrived ++
      if (desk.ways number).isAwaited then [(desk.store.handle frame).response.encode] else [] := by
  unfold answer WayBack.send
  dsimp only
  rw [if_pos rfl]
  split
  · rfl
  · rw [List.append_nil]

/-- **A reply arrives on no other way.** -/
theorem arrived_answer_of_ne {other : Nat} (distinct : other ≠ number) :
    ((desk.answer number frame).ways other).arrived = (desk.ways other).arrived := by
  unfold answer
  dsimp only
  rw [if_neg distinct]

theorem events_answer :
    (desk.answer number frame).events = desk.events ++ (desk.store.handle frame).events ++
      if (desk.ways number).isAwaited then [] else [.replyLost] := by
  unfold answer WayBack.send
  dsimp only
  split <;> rfl

end Answer

/-! ### The whole loop -/

/-- The server has answered the first `count` exchanges of a queue. -/
structure Served (store : Store) (queue : List Exchange) (count : Nat) (desk : Desk) : Prop where
  handled : desk.store = store.after ((queue.take count).map Exchange.frame)
  awaited : ∀ place, (desk.ways place).isAwaited = queue[place]?.any Exchange.isAwaited
  arrived : ∀ place, (desk.ways place).arrived =
    if place < count then ((store.due? queue place).map Response.encode).toList else []
  events : desk.events ++ (desk.store.runQueue (queue.drop count)).events =
    (store.runQueue queue).events

theorem served_opened (store : Store) (queue : List Exchange) :
    Served store queue 0 (opened store queue) :=
  ⟨rfl, fun _ => rfl, fun _ => rfl, rfl⟩

/-- **Each step serves one more exchange.** -/
theorem served_answer {store : Store} {queue : List Exchange} {count : Nat} {desk : Desk}
    (served : Served store queue count desk) {exchange : Exchange}
    (stands : queue[count]? = some exchange) :
    Served store queue (count + 1) (desk.answer count exchange.frame) := by
  obtain ⟨inside, rfl⟩ := List.getElem?_eq_some_iff.1 stands
  have waits : (desk.ways count).isAwaited = queue[count].isAwaited := by
    rw [served.awaited, stands, Option.any_some]
  have due : store.due? queue count = if queue[count].isAwaited then
      some (desk.store.handle queue[count].frame).response else none := by
    rw [Store.due?, stands, Option.bind_some, ← served.handled]
  refine ⟨?_, fun place => ?_, fun place => ?_, ?_⟩
  · rw [store_answer, served.handled, List.take_succ_eq_append_getElem inside, List.map_append,
      Store.after_append]
    rfl
  · rw [isAwaited_answer, served.awaited]
  · by_cases here : place = count
    · subst here
      rw [arrived_answer_self, served.arrived, if_neg (Nat.lt_irrefl place), waits, due,
        if_pos (Nat.lt_succ_self place), List.nil_append]
      cases queue[place].isAwaited <;> rfl
    · rw [arrived_answer_of_ne _ _ _ here, served.arrived]
      have before : place < count ↔ place < count + 1 := by omega
      simp only [before]
  · rw [← served.events, List.drop_eq_getElem_cons inside, Store.runQueue_cons, events_answer,
      store_answer, waits]
    simp only [List.append_assoc]

/-- **The loop serves all exchanges**, in the order of the queue. -/
theorem served_work (store : Store) (queue : List Exchange) {count : Nat}
    (within : count ≤ queue.length) :
    Served store queue count ((opened store queue).work ((entries queue).take count)) := by
  induction count with
  | zero => exact served_opened store queue
  | succ count ih =>
    have inside : count < (entries queue).length := by
      rw [entries, List.length_mapIdx]
      exact within
    have entry : (entries queue)[count] = (count, queue[count].frame) := List.getElem_mapIdx
    rw [List.take_succ_eq_append_getElem inside, work, List.foldl_append, List.foldl_cons,
      List.foldl_nil, entry]
    exact served_answer (ih (Nat.le_of_succ_le within)) (List.getElem?_eq_getElem within)

theorem served_closed (store : Store) (queue : List Exchange) :
    Served store queue queue.length (closed store queue) := by
  have served := served_work store queue (Nat.le_refl queue.length)
  have all : (entries queue).take queue.length = entries queue :=
    List.take_of_length_le (Nat.le_of_eq List.length_mapIdx)
  rwa [all] at served

/-- What has arrived in each place once the queue is worked off. -/
theorem arrived_closed (store : Store) (queue : List Exchange) (place : Nat) :
    ((closed store queue).ways place).arrived =
      ((store.due? queue place).map Response.encode).toList := by
  rw [(served_closed store queue).arrived]
  split
  · rfl
  · next behind =>
    rw [Store.due?_of_nobody (List.getElem?_eq_none (Nat.le_of_not_lt behind))]
    rfl

end Desk

/-- **Each exchange is answered once, and lost clients change nothing.** A queue is worked off in its
order, and the store is then the one after all its frames, those of lost clients included. Whoever
still waits gets exactly one reply: the encoded response to its frame, by the store after the frames
before it. Whoever is gone gets none, and nobody else gets any. If the same frames are in the queue
and others are gone, the store is the same, and so is the reply of everyone who waits both times. -/
theorem answered_once (store : Store) (queue : List Exchange) :
    let frames := queue.map Exchange.frame
    let result := store.runQueue queue
    let desk := Desk.closed store queue
    (result.store = desk.store ∧ result.events = desk.events ++ [.idle] ∧
      result.replies.length = queue.length) ∧
    result.store = store.after frames ∧
    (∀ place exchange, queue[place]? = some exchange →
      let response := ((store.after (frames.take place)).handle exchange.frame).response
      (exchange.isAwaited = true → result.replies[place]? = some (some response) ∧
        (desk.ways place).arrived = [response.encode]) ∧
      (exchange.isAwaited = false → result.replies[place]? = some none ∧
        (desk.ways place).arrived = [])) ∧
    (∀ place, queue[place]? = none → (desk.ways place).arrived = []) ∧
    ∀ others : List Exchange, others.map Exchange.frame = frames →
      (store.runQueue others).store = result.store ∧
      ∀ place first second, queue[place]? = some first → others[place]? = some second →
        first.isAwaited = true → second.isAwaited = true →
          (store.runQueue others).replies[place]? = result.replies[place]? ∧
            ((Desk.closed store others).ways place).arrived = (desk.ways place).arrived := by
  intro frames result desk
  have served := Desk.served_closed store queue
  have kept : result.store = store.after frames := store.store_runQueue queue
  have events : result.events = desk.events ++ [.idle] := by
    have whole := served.events
    rw [List.drop_length] at whole
    exact whole.symm
  refine ⟨⟨?_, events, store.length_replies_runQueue queue⟩, kept, fun place exchange stands => ?_,
    fun place nobody => ?_, fun others same => ⟨?_, fun place first second stands instead waits
      still => ?_⟩⟩
  · rw [kept, served.handled, List.take_length]
  · rw [store.replies_runQueue queue place, Desk.arrived_closed, stands]
    refine ⟨fun waits => ?_, fun gone => ?_⟩
    · rw [Store.due?_of_awaited stands waits]
      exact ⟨rfl, rfl⟩
    · rw [Store.due?_of_lost stands gone]
      exact ⟨rfl, rfl⟩
  · rw [Desk.arrived_closed, Store.due?_of_nobody nobody]
    rfl
  · rw [kept, Store.store_runQueue, same]
  · rw [Store.replies_runQueue, Store.replies_runQueue, Desk.arrived_closed, Desk.arrived_closed,
      stands, instead, Store.due?_congr same stands instead waits still]
    exact ⟨rfl, rfl⟩

/-- A gradient whose worker is gone, and a longer one whose worker waits: it learns of the first
from its refusal. Behind them a message, once from a worker that is gone and once from one that
waits. -/
theorem answered_once_of_lost :
    let store := Settings.standard.store
    let gradient : Bytes := [0xa0, 0xa9, 0x47, 0x52, 0x41, 0x44, 0x49, 0x45, 0x4e, 0x54, 0x53, 3,
      0xc4, 4, 0, 0, 0x80, 0x3f]
    let longer : Bytes := [0xa0, 0xa9, 0x47, 0x52, 0x41, 0x44, 0x49, 0x45, 0x4e, 0x54, 0x53, 3,
      0xc4, 8, 0, 0, 0x80, 0x3f, 0, 0, 0x80, 0x3f]
    let queue : List Exchange := [⟨gradient, false⟩, ⟨longer, true⟩, ⟨[0xa0, 0xa0], false⟩]
    let others : List Exchange := [⟨gradient, true⟩, ⟨longer, true⟩, ⟨[0xa0, 0xa0], true⟩]
    let refusal := Response.refused (ServerError.store (.dimensionMismatch 1 2)).message
    queue[1]? = some ⟨longer, true⟩ ∧ queue[2]? = some ⟨[0xa0, 0xa0], false⟩ ∧ queue[3]? = none ∧
      others[1]? = some ⟨longer, true⟩ ∧ others.map Exchange.frame = queue.map Exchange.frame ∧
      ((Desk.closed store queue).ways 1).arrived = [refusal.encode] ∧
      ((Desk.closed store queue).ways 2).arrived = [] ∧
      ((Desk.closed store queue).ways 3).arrived = [] ∧
      ((Desk.closed store others).ways 1).arrived = [refusal.encode] ∧
      (store.runQueue others).store = (store.runQueue queue).store ∧
      (store.runQueue queue).store.weights = [⟨0x3f8147ae⟩] := by
  intro store gradient longer queue others refusal
  have mismatch : ((store.after [gradient]).handle longer).response = refusal := rfl
  obtain ⟨-, handled, each, nobody, whoever⟩ := answered_once store queue
  have first : ((Desk.closed store queue).ways 1).arrived = [refusal.encode] := by
    rw [← mismatch]
    exact ((each 1 _ rfl).1 rfl).2
  obtain ⟨kept, alike⟩ := whoever others rfl
  have sum : (store.runQueue queue).store.weights = [⟨0x3f8147ae⟩] := by
    rw [handled]
    decide
  exact ⟨rfl, rfl, rfl, rfl, rfl, first, ((each 2 _ rfl).2 rfl).2, nobody 3 rfl,
    (alike 1 _ _ rfl rfl rfl rfl).2.trans first, kept, sum⟩

end SharedWeights
