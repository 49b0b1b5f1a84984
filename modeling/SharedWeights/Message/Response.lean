/-
**What a worker is told.**

A gradient is answered with the weights and the command to go on or to stop, any other message with
an acknowledgement, and a request that could not be met with the reason. The acknowledgement is
three plain bytes and not a frame of values.

* `toList_encodeOnto`: writing onto a buffer leaves what is in it and adds the response;
* `ofName?_name`: a command is read off its name;
* `ofName?_errorName`: the mark of a refusal is the name of no command.
-/

import SharedWeights.Frame.Cursor
import SharedWeights.Frame.Encoding

namespace SharedWeights

/-- Whether a worker goes on with its training. -/
inductive Command where
  | goOn
  | stop
deriving DecidableEq, Repr

namespace Command

/-- The name of a command. -/
def name : Command → String
  | .goOn => "CONTINUE"
  | .stop => "STOP"

/-- The command of a name. -/
def ofName? (name : String) : Option Command :=
  if name = "CONTINUE" then some .goOn else if name = "STOP" then some .stop else none

theorem ofName?_name (command : Command) : ofName? command.name = some command := by
  cases command <;> decide

end Command

/-- The reply to a request. -/
inductive Response where
  | weights (command : Command) (numbers : List Binary32)
  | acknowledged
  | refused (detail : String)
deriving DecidableEq

namespace Response

/-- The bytes of an acknowledgement: the letters `ACK`. -/
def acknowledgement : Bytes := [0x41, 0x43, 0x4b]

/-- What stands in place of a command in front of a reason. -/
def errorName : String := "ERROR"

theorem ofName?_errorName : Command.ofName? errorName = none := by
  decide

/-! ### Reading -/

/-- How a response other than an acknowledgement stands in its frame. -/
def schema : Schema Response := do
  let name ← Schema.field (Value.asStr "command")
  if name = errorName then do
    let detail ← Schema.field (Value.asStr "detail")
    Schema.finish
    return .refused detail
  else
    match Command.ofName? name with
    | some command => do
      let numbers ← Schema.field (Value.asFloats "weights")
      Schema.finish
      return .weights command numbers
    | none => throw (.invalidField "command" (.unknownCommand name))

/-- The response in a frame. -/
def decode (frame : Bytes) : Except DecodeError Response :=
  if frame = acknowledgement then .ok .acknowledged else schema.decode frame

/-! ### Writing -/

/-- The values of a response's frame; none for an acknowledgement. -/
def values : Response → List Value
  | .weights command numbers => [.str command.name, .bin (Binary32.toBlob numbers)]
  | .acknowledged => []
  | .refused detail => [.str errorName, .str detail]

/-- The bytes of a response. -/
def encode : Response → Bytes
  | .acknowledged => acknowledgement
  | response => Frame.encode response.values

/-- Writes a response onto the end of a buffer. -/
def encodeOnto (buffer : Array UInt8) : Response → Array UInt8
  | .acknowledged => buffer ++ acknowledgement
  | response => Frame.encodeOnto buffer response.values

theorem toList_encodeOnto (buffer : Array UInt8) (response : Response) :
    (encodeOnto buffer response).toList = buffer.toList ++ encode response := by
  cases response with
  | acknowledged => simp [encodeOnto, encode]
  | weights command numbers => exact Frame.toList_encodeOnto buffer _
  | refused detail => exact Frame.toList_encodeOnto buffer _

end Response

end SharedWeights
