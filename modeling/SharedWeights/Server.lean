/-
**Answering requests.**

The server owns the store. Every request is answered, one after the other: a gradient with the
updated weights, any other message with an acknowledgement, and what can't be read or is turned away
with the reason, in which case the store stays as it is.

* `handle_of_unreadable`, `handle_of_refused`, `handle_of_answered`: the three ways in which a frame
  is answered.
-/

import SharedWeights.Journal
import SharedWeights.Message.Request

namespace SharedWeights

/-- The reply to a request, the store after it, and what happened. -/
structure Answer where
  response : Response
  store : Store
  events : List Event

namespace Store

/-- The command for a worker that reports this epoch. -/
def commandFor (store : Store) (epoch : UInt64) : Command :=
  if store.isLastEpoch epoch then .stop else .goOn

/-- What the server replies to a request, and the store after it. -/
def reply (store : Store) : Request → Except StoreError (Response × Store)
  | .other _ _ => .ok (.acknowledged, store)
  | .gradients report =>
    (store.apply report.gradient).map fun updated =>
      (.weights (updated.commandFor report.epoch) updated.weights, updated)

/-- What happens once a request of `length` bytes was read. -/
def answerEvents (length : Nat) (request : Request)
    (outcome : Except StoreError (Response × Store)) : List Event :=
  let read := Event.requestRead request.workerId request.messageType length
  match request, outcome with
  | .other _ _, _ => [read]
  | .gradients report, .error reason =>
    [read, .gradientRead report.workerId report.epoch report.gradient,
      .failed length (.store reason)]
  | .gradients report, .ok (_, updated) =>
    [read, .gradientRead report.workerId report.epoch report.gradient,
      .weightsSent report.workerId report.epoch (updated.commandFor report.epoch) updated.weights]

/-- Answers a frame. -/
def handle (store : Store) (frame : Bytes) : Answer :=
  match Request.decode frame with
  | .error reason =>
    ⟨.refused (ServerError.decode reason).message, store, [.failed frame.length (.decode reason)]⟩
  | .ok request =>
    let outcome := store.reply request
    let events := answerEvents frame.length request outcome
    match outcome with
    | .error reason => ⟨.refused (ServerError.store reason).message, store, events⟩
    | .ok (response, updated) => ⟨response, updated, events⟩

theorem handle_of_unreadable {frame : Bytes} {reason : DecodeError}
    (unreadable : Request.decode frame = .error reason) (store : Store) :
    store.handle frame = ⟨.refused (ServerError.decode reason).message, store,
      [.failed frame.length (.decode reason)]⟩ := by
  simp [handle, unreadable]

theorem handle_of_refused {frame : Bytes} {request : Request} {reason : StoreError} {store : Store}
    (read : Request.decode frame = .ok request) (refused : store.reply request = .error reason) :
    store.handle frame = ⟨.refused (ServerError.store reason).message, store,
      answerEvents frame.length request (.error reason)⟩ := by
  simp [handle, read, refused]

theorem handle_of_answered {frame : Bytes} {request : Request} {response : Response}
    {store updated : Store} (read : Request.decode frame = .ok request)
    (answered : store.reply request = .ok (response, updated)) :
    store.handle frame = ⟨response, updated,
      answerEvents frame.length request (.ok (response, updated))⟩ := by
  simp [handle, read, answered]

end Store

/-! ### A queue of requests -/

/-- A frame on its way to the server, and whether anybody still waits for the reply. -/
structure Exchange where
  frame : Bytes
  isAwaited : Bool

/-- The store after a queue was worked off, the replies that somebody waited for, and what
happened. -/
structure QueueResult where
  store : Store
  replies : List (Option Response)
  events : List Event

/-- Works off a queue of requests until no more can come. -/
def Store.runQueue (store : Store) : List Exchange → QueueResult
  | [] => ⟨store, [], [.idle]⟩
  | exchange :: rest =>
    let answer := store.handle exchange.frame
    let later := answer.store.runQueue rest
    if exchange.isAwaited then
      ⟨later.store, some answer.response :: later.replies, answer.events ++ later.events⟩
    else ⟨later.store, none :: later.replies, answer.events ++ .replyLost :: later.events⟩

end SharedWeights
