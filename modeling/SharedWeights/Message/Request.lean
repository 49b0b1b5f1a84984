/-
**What a worker asks.**

A worker reports a gradient, or sends a message of some other type that is only acknowledged. Both
begin with the worker's name and the type of the message; a gradient's frame holds its epoch and its
numbers and nothing else, while behind any other type anything may stand.

* `toList_encodeOnto`: writing onto a buffer leaves what is in it and adds the request's frame.
-/

import SharedWeights.Frame.Cursor
import SharedWeights.Frame.Encoding

namespace SharedWeights

/-- A gradient that a worker found in an epoch. -/
structure GradientReport where
  workerId : String
  epoch : UInt64
  gradient : List Binary32
deriving DecidableEq

/-- A request of a worker. -/
inductive Request where
  | gradients (report : GradientReport)
  | other (workerId messageType : String)
deriving DecidableEq

namespace Request

/-- The type of the messages that carry a gradient. -/
def gradientsType : String := "GRADIENTS"

/-- The worker who sent the request. -/
def workerId : Request → String
  | .gradients report => report.workerId
  | .other workerId _ => workerId

/-- The type of the message. -/
def messageType : Request → String
  | .gradients _ => gradientsType
  | .other _ messageType => messageType

/-! ### Reading -/

/-- An epoch, which is no negative number. -/
def epochOf (number : Int64) : Except DecodeError UInt64 :=
  if 0 ≤ number.toInt then .ok number.toUInt64
  else .error (.invalidField "epoch" (.negative number.toInt))

/-- How a request stands in its frame. -/
def schema : Schema Request := do
  let workerId ← Schema.field (Value.asText "worker_id")
  let messageType ← Schema.field (Value.asText "msgtype")
  if messageType = gradientsType then do
    let epoch ← Schema.field fun value => (value.asInt "epoch").bind epochOf
    let gradient ← Schema.field (Value.asFloats "gradient")
    Schema.finish
    return .gradients ⟨workerId, epoch, gradient⟩
  else return .other workerId messageType

/-- The request in a frame. -/
def decode (frame : Bytes) : Except DecodeError Request :=
  schema.decode frame

/-! ### Writing -/

/-- The largest epoch that an integer in a frame can state. -/
def lastWireEpoch : Nat := 0x7fffffffffffffff

/-- An epoch as it is stated in a frame; a later one is stated as the last. -/
def wireEpoch (epoch : UInt64) : Int64 :=
  Int64.ofNat (min epoch.toNat lastWireEpoch)

/-- The values of a request's frame. -/
def values : Request → List Value
  | .gradients report =>
    [.str report.workerId, .str gradientsType, .int (wireEpoch report.epoch),
      .bin (Binary32.toBlob report.gradient)]
  | .other workerId messageType => [.str workerId, .str messageType]

/-- The frame of a request. -/
def encode (request : Request) : Bytes :=
  Frame.encode request.values

/-- Writes the frame of a request onto the end of a buffer. -/
def encodeOnto (buffer : Array UInt8) (request : Request) : Array UInt8 :=
  Frame.encodeOnto buffer request.values

theorem toList_encodeOnto (buffer : Array UInt8) (request : Request) :
    (encodeOnto buffer request).toList = buffer.toList ++ encode request :=
  Frame.toList_encodeOnto buffer request.values

end Request

end SharedWeights
