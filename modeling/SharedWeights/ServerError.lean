/-
**What can go wrong in a service.**

A service fails to start for want of settings or of a stream; a single request fails because it
can't be read or because its gradient is turned away, and is then answered with the reason.
-/

import SharedWeights.Frame.DecodeError
import SharedWeights.Settings
import SharedWeights.Transport.Failure

namespace SharedWeights

/-- An error of a service. -/
inductive ServerError where
  | transport (failure : Failure)
  | settings (reason : SettingsError)
  | decode (reason : DecodeError)
  | store (reason : StoreError)
deriving DecidableEq

/-- A frame that can't be read is a stream's bad data. -/
def DecodeError.toFailure (error : DecodeError) : Failure := ⟨.invalidData, error.message⟩

namespace ServerError

/-- The words of the cause. -/
def causeMessage : ServerError → String
  | .transport failure => failure.message
  | .settings reason => reason.message
  | .decode reason => reason.message
  | .store reason => reason.message

/-- The error in words. -/
def message (error : ServerError) : String :=
  let scope := match error with
    | .transport _ => "transport error: "
    | .settings _ => "configuration error: "
    | .decode _ => "decode error: "
    | .store _ => "rejected gradient: "
  scope ++ error.causeMessage

/-- The error as the failure of a stream. -/
def toFailure : ServerError → Failure
  | .transport failure => failure
  | error => ⟨.invalidData, error.message⟩

end ServerError

end SharedWeights
