/-
**Clients that take turns.**

Clients of one service take turns. In its turn a client connects if it is not connected, sends some
bytes, and then either waits for one reply, or ends its side and reads all replies until the service
ends the connection. Whether a client can connect at all is for the network to say.

* `serveWhole_of_none`, `serveWhole_of_some`: what is not a whole request is left for later.
-/

import SharedWeights.Service

namespace SharedWeights

/-- What a client does in its turn. -/
structure Turn where
  client : Nat
  bytes : Bytes
  /-- Whether the client ends its side then. -/
  closes : Bool

/-- What a client gets in its turn. -/
inductive TurnResult where
  /-- One reply, or why none came. -/
  | reply (outcome : Except Failure (Except DecodeError Response))
  /-- All replies that came until the connection was ended. -/
  | closed (replies : List (Except DecodeError Response))

/-- A client's side of its connection. -/
structure Client where
  connection : ConnectionId
  /-- What it sent that the service has not received. -/
  unread : Source
  /-- The replies that it has not read, the oldest first. -/
  inbox : List Bytes

/-- A service and its connected clients. -/
structure Session where
  service : Service
  /-- The number of the next connection. -/
  next : ConnectionId
  /-- The client behind a number, while it is connected. -/
  clients : Nat → Option Client

namespace Session

/-- A session before its first turn. -/
def start (store : Store) : Session := ⟨.start store, 0, fun _ => none⟩

/-- Lets the service answer every whole request that a client has sent. -/
def serveWhole (service : Service) (client : Client) : Service × Client :=
  match _given : client.unread.receive with
  | (.error _, _) => (service, client)
  | (.ok frame, left) =>
    match service.exchange? client.connection frame with
    | none => (service, client)
    | some (service, reply) =>
      serveWhole service { client with unread := left, inbox := client.inbox ++ [reply] }
termination_by client.unread.byteCount
decreasing_by exact Source.byteCount_receive_lt _given

theorem serveWhole_of_none {client : Client} {failure : Failure} {left : Source}
    (nothing : client.unread.receive = (.error failure, left)) (service : Service) :
    serveWhole service client = (service, client) := by
  rw [serveWhole]
  split <;> simp_all

theorem serveWhole_of_some {client : Client} {frame reply : Bytes} {left : Source}
    {service next : Service} (given : client.unread.receive = (.ok frame, left))
    (exchanged : service.exchange? client.connection frame = some (next, reply)) :
    serveWhole service client =
      serveWhole next { client with unread := left, inbox := client.inbox ++ [reply] } := by
  rw [serveWhole]
  split
  · next failure after this =>
    rw [given] at this
    cases this
  · next other after this =>
    rw [given] at this
    cases this
    rw [exchanged]

/-- The session with another client behind a number. -/
def setClient (session : Session) (number : Nat) (client : Option Client) : Session :=
  { session with
    clients := fun other => if other = number then client else session.clients other }

/-- A client that is connected, by `dial` if it was not. -/
def connect (dial : Nat → Except Failure Unit) (session : Session) (number : Nat) :
    Except Failure (Client × Session) :=
  match session.clients number with
  | some client => .ok (client, session)
  | none =>
    (dial number).map fun () => (⟨session.next, [], []⟩, { session with next := session.next + 1 })

/-- The session after a turn, and what the client got. -/
def turn (dial : Nat → Except Failure Unit) (session : Session) (turn : Turn) :
    Except Failure (TurnResult × Session) := do
  let (client, session) ← session.connect dial turn.client
  let sent := { client with unread := client.unread ++ Source.ofBytes turn.bytes }
  let (service, served) := serveWhole session.service sent
  let session := { session with service }
  if turn.closes then
    let left := (service.step? (.leave served.connection)).getD service
    return (.closed (served.inbox.map Response.decode),
      { session.setClient turn.client none with service := left })
  else
    match served.inbox with
    | [] => return (.reply (.error .endOfStream), session.setClient turn.client (some served))
    | reply :: inbox =>
      return (.reply (.ok (Response.decode reply)),
        session.setClient turn.client (some { served with inbox }))

/-- What the clients get in their turns, in order. -/
def run (dial : Nat → Except Failure Unit) (session : Session) :
    List Turn → Except Failure (List TurnResult)
  | [] => .ok []
  | first :: later => do
    let (result, session) ← session.turn dial first
    return result :: (← session.run dial later)

end Session

end SharedWeights
