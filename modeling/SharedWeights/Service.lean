/-
**A service with many connections.**

Any number of connections share one server. Each receives requests on its own and puts them into one
queue, of limited length, from which the server takes the oldest; the reply goes back to the
connection that asked, which writes it before it receives again. Connections and server take their
steps in any order. A service also keeps a history of what was put into the queue, taken out of it
and written back, by which nothing is decided.

* `step?_forward`, `step?_handle`, `step?_deliver`, `step?_leave`: when a step is possible, and what
  it does.
-/

import SharedWeights.Server
import SharedWeights.Transport.Framing

namespace SharedWeights

/-- The number that tells a connection from the others. -/
abbrev ConnectionId := Nat

/-- What a connection is doing. -/
inductive Phase where
  /-- It receives a request. -/
  | receiving
  /-- Its request is in the queue. -/
  | waiting
  /-- Its reply is there and is being written. -/
  | replying (reply : Bytes)
  /-- It has ended. -/
  | ended
deriving DecidableEq

/-- What becomes of a connection when its request was answered: one that has ended misses the
reply. -/
def Phase.answered (reply : Bytes) : Phase → Phase
  | .waiting => .replying reply
  | phase => phase

/-- A step of a connection or of the server. -/
inductive Action where
  /-- A connection has received a request and puts it into the queue. -/
  | forward (connection : ConnectionId) (frame : Bytes)
  /-- The server answers the oldest request in the queue. -/
  | handle
  /-- A connection has written its reply. -/
  | deliver (connection : ConnectionId)
  /-- A connection ends, because its worker left or because receiving or writing failed. -/
  | leave (connection : ConnectionId)

/-- The server and its connections. -/
structure Service where
  store : Store
  /-- The requests in the queue, the oldest first. -/
  queue : List (ConnectionId × Bytes)
  phase : ConnectionId → Phase
  /-- The requests ever put into the queue, the oldest first. -/
  forwarded : List (ConnectionId × Bytes)
  /-- The requests ever answered, the oldest first. -/
  handled : List (ConnectionId × Bytes)
  /-- The replies ever written, the oldest first. -/
  written : List (ConnectionId × Bytes)

namespace Service

/-- How many requests may be in the queue. -/
def queueCapacity : Nat := 64

/-- A service before its first request. -/
def start (store : Store) : Service := ⟨store, [], fun _ => .receiving, [], [], []⟩

/-- The service with one connection in another phase. -/
def setPhase (service : Service) (connection : ConnectionId) (phase : Phase) : Service :=
  { service with phase := fun other => if other = connection then phase else service.phase other }

/-- The service after a step, if the step is possible. -/
def step? (service : Service) : Action → Option Service
  | .forward connection frame =>
    if service.phase connection = .receiving ∧ service.queue.length < queueCapacity then
      some { service.setPhase connection .waiting with
        queue := service.queue ++ [(connection, frame)]
        forwarded := service.forwarded ++ [(connection, frame)] }
    else none
  | .handle =>
    match service.queue with
    | [] => none
    | (connection, frame) :: later =>
      let answer := service.store.handle frame
      let phase := (service.phase connection).answered answer.response.encode
      some { service.setPhase connection phase with
        store := answer.store
        queue := later
        handled := service.handled ++ [(connection, frame)] }
  | .deliver connection =>
    match service.phase connection with
    | .replying reply =>
      some { service.setPhase connection .receiving with
        written := service.written ++ [(connection, reply)] }
    | _ => none
  | .leave connection =>
    if service.phase connection = .ended then none else some (service.setPhase connection .ended)

/-- The service after a list of steps, if each of them is possible. -/
def replay? (service : Service) : List Action → Option Service
  | [] => some service
  | action :: later => (service.step? action).bind fun next => next.replay? later

/-- Whether some list of steps leads from one service to another. -/
def Reaches (earlier later : Service) : Prop :=
  ∃ actions, earlier.replay? actions = some later

section Steps

variable {service : Service} {connection : ConnectionId}

theorem step?_forward (ready : service.phase connection = .receiving)
    (room : service.queue.length < queueCapacity) (frame : Bytes) :
    service.step? (.forward connection frame) =
      some { service.setPhase connection .waiting with
        queue := service.queue ++ [(connection, frame)]
        forwarded := service.forwarded ++ [(connection, frame)] } :=
  if_pos ⟨ready, room⟩

theorem step?_handle {frame : Bytes} {later : List (ConnectionId × Bytes)}
    (oldest : service.queue = (connection, frame) :: later) :
    service.step? .handle =
      some { service.setPhase connection ((service.phase connection).answered
          (service.store.handle frame).response.encode) with
        store := (service.store.handle frame).store
        queue := later
        handled := service.handled ++ [(connection, frame)] } := by
  rw [step?, oldest]

theorem step?_deliver {reply : Bytes} (replying : service.phase connection = .replying reply) :
    service.step? (.deliver connection) =
      some { service.setPhase connection .receiving with
        written := service.written ++ [(connection, reply)] } := by
  rw [step?, replying]

theorem step?_leave (going : service.phase connection ≠ .ended) :
    service.step? (.leave connection) = some (service.setPhase connection .ended) :=
  if_neg going

end Steps

/-- One request from its receipt to its written reply, with nothing else in between. -/
def exchange? (service : Service) (connection : ConnectionId) (frame : Bytes) :
    Option (Service × Bytes) := do
  let answered ← service.replay? [.forward connection frame, .handle]
  match answered.phase connection with
  | .replying reply => return (← answered.step? (.deliver connection), reply)
  | _ => none

end Service

end SharedWeights
