/-
**A connection of a worker.**

A connection receives one request after the other, hands it to the server, and sends back the reply
before it receives the next. It ends well when the worker leaves between two requests, and with a
failure in every other case.

* `serve_of_gone`, `serve_of_silent`: without a server that answers, the first request ends the
  connection, and nothing is written.
-/

import SharedWeights.Server
import SharedWeights.Transport.Framing

namespace SharedWeights

/-- Who takes the requests of a connection. -/
inductive Counterpart where
  /-- A server that answers. -/
  | serving (store : Store)
  /-- Nobody takes requests any more. -/
  | gone
  /-- Requests are taken and dropped. -/
  | silent

/-- How a connection ended. -/
structure Ending where
  outcome : Except Failure Unit
  /-- What was not received. -/
  source : Source
  sink : Sink
  counterpart : Counterpart
  /-- The requests that were handed over. -/
  forwarded : List Bytes
  events : List Event

namespace Connection

/-- The outcome of a failure to receive: the end of the stream is no failure. -/
def receiveOutcome (failure : Failure) : Except Failure Unit :=
  if failure.kind = .endOfStream then .ok () else .error failure

/-- What is put on record about a failure to receive. -/
def receiveEvent (failure : Failure) : Event :=
  if failure.kind = .endOfStream then .workerLeft else .receiveFailed failure

/-- Serves a connection until it ends. -/
def serve (source : Source) (sink : Sink) (counterpart : Counterpart) : Ending :=
  match _given : source.receive with
  | (.error failure, left) =>
    ⟨receiveOutcome failure, left, sink, counterpart, [], [receiveEvent failure]⟩
  | (.ok frame, left) =>
    match counterpart with
    | .gone => ⟨.error .serverGone, left, sink, .gone, [], []⟩
    | .silent => ⟨.error .serverGone, left, sink, .silent, [frame], []⟩
    | .serving store =>
      let answer := store.handle frame
      match sink.send answer.response.encode with
      | (.error failure, sink) =>
        ⟨.error failure, left, sink, .serving answer.store, [frame], answer.events⟩
      | (.ok (), sink) =>
        let ending := serve left sink (.serving answer.store)
        { ending with
          forwarded := frame :: ending.forwarded
          events := answer.events ++ ending.events }
termination_by source.byteCount
decreasing_by exact Source.byteCount_receive_lt _given

/-- Serves the only connection of a server, which has nothing more to do when the connection has
ended. -/
def serveAlone (source : Source) (sink : Sink) (counterpart : Counterpart) : Ending :=
  let ending := serve source sink counterpart
  match ending.counterpart with
  | .serving _ => { ending with events := ending.events ++ [.idle] }
  | _ => ending

theorem serve_of_gone {source left : Source} {frame : Bytes}
    (given : source.receive = (.ok frame, left)) (sink : Sink) :
    serve source sink .gone = ⟨.error .serverGone, left, sink, .gone, [], []⟩ := by
  rw [serve]
  split <;> simp_all

theorem serve_of_silent {source left : Source} {frame : Bytes}
    (given : source.receive = (.ok frame, left)) (sink : Sink) :
    serve source sink .silent = ⟨.error .serverGone, left, sink, .silent, [frame], []⟩ := by
  rw [serve]
  split <;> simp_all

end Connection

end SharedWeights
