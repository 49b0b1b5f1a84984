/-
**Why a frame is not what it is expected to be.**

The five causes name the position of a value or the field that it was read for.
-/

import SharedWeights.MessagePack.Reader
import SharedWeights.Text.Quoted

namespace SharedWeights

/-- What is wrong with the content of a field of the right kind. -/
inductive FieldFault where
  /-- A blob that should be a text is not UTF-8. -/
  | notText (fault : Text.Utf8.Fault)
  /-- The length of a blob of numbers is no multiple of four. -/
  | ragged (length : Nat)
  /-- A count is below zero. -/
  | negative (number : Int)
  /-- A text is none of the commands. -/
  | unknownCommand (name : String)
  /-- A fault in words, from another reader. -/
  | other (reason : String)
deriving DecidableEq, Repr

/-- The fault in words. -/
def FieldFault.message : FieldFault → String
  | .notText fault => fault.message
  | .ragged length => s!"blob of {length} bytes is not a multiple of 4"
  | .negative number => s!"{number} is negative"
  | .unknownCommand name => "unknown command " ++ Text.quote name
  | .other reason => reason

/-- Why a frame can't be read as the values that it is expected to hold. -/
inductive DecodeError where
  /-- A value was asked for past the end. -/
  | exhausted (index : Nat)
  /-- The bytes at this position are no value. -/
  | malformed (index : Nat) (reason : MessagePack.Malformation)
  /-- The value of a field is of another kind. -/
  | unexpectedType (field expected got : String)
  /-- The value of a field has the right kind and a wrong content. -/
  | invalidField (field : String) (fault : FieldFault)
  /-- More stands behind the values that were expected. -/
  | trailingValues (expected : Nat)
deriving DecidableEq, Repr

/-- The error in words. -/
def DecodeError.message : DecodeError → String
  | .exhausted index => s!"frame exhausted: no value left at position {index}"
  | .malformed index reason => s!"malformed value at position {index}: " ++ reason.message
  | .unexpectedType field expected got =>
    s!"unexpected type for {field}: expected {expected}, got {got}"
  | .invalidField field fault => s!"invalid {field}: " ++ fault.message
  | .trailingValues expected => s!"frame carries more than the expected {expected} values"

end SharedWeights
