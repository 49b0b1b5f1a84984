/-
**The values that a frame is made of.**

A value is one of seven kinds. Integers have 64 bits and a sign; floating-point numbers are kept as
their bits.
-/

import SharedWeights.Binary32.Basic
import SharedWeights.Bytes

namespace SharedWeights

/-- A single value of a frame. -/
inductive Value where
  | nil
  | bool (truth : Bool)
  | int (number : Int64)
  | float32 (number : Binary32)
  | float64 (bits : UInt64)
  | str (text : String)
  | bin (blob : Bytes)
deriving DecidableEq

/-- The name of a value's kind, as messages give it. -/
def Value.kind : Value → String
  | .nil => "nil"
  | .bool _ => "bool"
  | .int _ => "int"
  | .float32 _ => "f32"
  | .float64 _ => "f64"
  | .str _ => "str"
  | .bin _ => "bin"

end SharedWeights
