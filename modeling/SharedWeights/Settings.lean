/-
**The settings of a service.**

Three variables of the environment may be set; what is not set keeps its standard value. They are
looked at one by one, and the first that is wrong is reported.
-/

import SharedWeights.Binary32.Literal
import SharedWeights.Endpoint
import SharedWeights.Store
import SharedWeights.Text.Blank

namespace SharedWeights

/-- The settings of a service. -/
structure Settings where
  endpoint : Endpoint
  maxEpochs : UInt64
  step : Binary32
deriving DecidableEq

/-- What can be set. -/
inductive Setting where
  | endpoint
  | maxEpochs
  | step
deriving DecidableEq, Repr

/-- The variable of the environment that a setting is read from. -/
def Setting.variableName : Setting → String
  | .endpoint => "PS_ENDPOINT"
  | .maxEpochs => "PS_MAX_EPOCHS"
  | .step => "PS_REGULARIZATION_STEP"

/-- Why a text is no value for a setting. -/
inductive SettingFault where
  | noEndpoint (reason : EndpointError)
  | noCount (text : String) (reason : Text.Numeral.Fault)
  | noNumber (text : String) (reason : Binary32.LiteralFault)
  | notFinite (text : String)
deriving DecidableEq

/-- The fault in words. -/
def SettingFault.message : SettingFault → String
  | .noEndpoint reason => reason.message
  | .noCount text reason => Text.quote text ++ " " ++ reason.message
  | .noNumber text reason => Text.quote text ++ " " ++ reason.message
  | .notFinite text => Text.quote text ++ " is not a finite number"

/-- A setting whose variable holds no value for it. -/
structure SettingsError where
  setting : Setting
  fault : SettingFault
deriving DecidableEq

/-- The error in words. -/
def SettingsError.message (error : SettingsError) : String :=
  "invalid value for " ++ error.setting.variableName ++ ": " ++ error.fault.message

namespace Settings

/-- The settings of a service for which no variable is set. -/
def standard : Settings := ⟨.standard, Store.standardMaxEpochs, Accumulation.standardStep⟩

/-- An endpoint, as the text states it. -/
def readEndpoint (text : String) : Except SettingFault Endpoint :=
  (Endpoint.parse text).mapError .noEndpoint

/-- A count of epochs, with blanks around it. -/
def readMaxEpochs (text : String) : Except SettingFault UInt64 :=
  match Text.Numeral.read 0xffffffffffffffff (Text.trim text.toList) with
  | .ok number => .ok (UInt64.ofNat number)
  | .error reason => .error (.noCount text reason)

/-- A finite number, with blanks around it. -/
def readStep (text : String) : Except SettingFault Binary32 :=
  match Binary32.ofLiteral (Text.trim text.toList) with
  | .ok number => if number.isFinite then .ok number else .error (.notFinite text)
  | .error reason => .error (.noNumber text reason)

/-- The value of a setting; the standard one if its variable is not set. -/
def readOr {Field : Type} (standard : Field) (lookup : String → Option String) (setting : Setting)
    (read : String → Except SettingFault Field) : Except SettingsError Field :=
  match lookup setting.variableName with
  | none => .ok standard
  | some text => (read text).mapError (SettingsError.mk setting)

/-- The settings that an environment states. -/
def load (lookup : String → Option String) : Except SettingsError Settings := do
  let endpoint ← readOr standard.endpoint lookup .endpoint readEndpoint
  let maxEpochs ← readOr standard.maxEpochs lookup .maxEpochs readMaxEpochs
  let step ← readOr standard.step lookup .step readStep
  return ⟨endpoint, maxEpochs, step⟩

/-- The store of a service with these settings. -/
def store (settings : Settings) : Store := .fresh ⟨settings.step⟩ settings.maxEpochs

end Settings

end SharedWeights
