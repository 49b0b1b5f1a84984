/-
**The journal of a service.**

What happens to requests and connections is put on record. An event says what happened; its record
gives it a level, words, and named fields.
-/

import SharedWeights.Binary32.Printed
import SharedWeights.Message.Response
import SharedWeights.ServerError

namespace SharedWeights

/-- How much a record matters. -/
inductive Level where
  | debug
  | info
  | warn
deriving DecidableEq, Repr

/-- An entry of the journal. -/
structure Record where
  level : Level
  message : String
  fields : List (String × String)
deriving DecidableEq, Repr

/-- What happens to requests and connections. -/
inductive Event where
  /-- A request was understood. -/
  | requestRead (workerId messageType : String) (length : Nat)
  /-- A gradient is about to be added. -/
  | gradientRead (workerId : String) (epoch : UInt64) (gradient : List Binary32)
  /-- The weights after a gradient go back to the worker. -/
  | weightsSent (workerId : String) (epoch : UInt64) (command : Command) (weights : List Binary32)
  /-- A request could not be met. -/
  | failed (length : Nat) (error : ServerError)
  /-- Nobody waited for a reply any more. -/
  | replyLost
  /-- Every connection is gone. -/
  | idle
  /-- A worker ended its connection between two requests. -/
  | workerLeft
  /-- A request could not be received. -/
  | receiveFailed (failure : Failure)
deriving DecidableEq

namespace Event

/-- How many numbers at either end of a vector are shown. -/
def previewLength : Nat := 3

/-- Numbers in brackets. -/
def listed (numbers : List Binary32) : String :=
  "[" ++ String.intercalate ", " (numbers.map Binary32.printed) ++ "]"

/-- The first and the last numbers of a vector. -/
def preview (numbers : List Binary32) : String :=
  listed (numbers.take previewLength) ++ " ... " ++
    listed (numbers.drop (numbers.length - previewLength))

/-- How much an event matters. -/
def level : Event → Level
  | requestRead .. => .info
  | gradientRead .. => .debug
  | weightsSent .. => .debug
  | failed .. => .warn
  | replyLost => .debug
  | idle => .info
  | workerLeft => .debug
  | receiveFailed _ => .warn

/-- An event in words. -/
def message : Event → String
  | requestRead .. => "got msg"
  | gradientRead _ _ gradient => s!"got grads[{gradient.length}] " ++ preview gradient
  | weightsSent _ _ command weights =>
    "sent " ++ command.name ++ s!" wgts[{weights.length}] " ++ preview weights
  | failed _ error => "failed to handle request: " ++ error.message
  | replyLost => "connection dropped before receiving it's reply"
  | idle => "every connection is gone, stopping"
  | workerLeft => "worker disconnected"
  | receiveFailed failure => "failed to receive request: " ++ failure.message

/-- The named fields of an event. -/
def fields : Event → List (String × String)
  | requestRead workerId messageType length =>
    [("worker_id", workerId), ("msgtype", messageType), ("len", toString length)]
  | gradientRead workerId epoch _ => [("worker_id", workerId), ("epoch", toString epoch.toNat)]
  | weightsSent workerId epoch _ _ => [("worker_id", workerId), ("epoch", toString epoch.toNat)]
  | failed length _ => [("len", toString length)]
  | replyLost | idle | workerLeft | receiveFailed _ => []

/-- The entry of an event in the journal. -/
def record (event : Event) : Record := ⟨event.level, event.message, event.fields⟩

end Event

end SharedWeights
