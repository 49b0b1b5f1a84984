/-
**Settings are read variable by variable.**

Each of the three variables is judged by its own text alone. An environment is refused if one of its
texts is no value for its setting, and the first such setting is reported; what is set behind it
makes no difference. What a text states is told here by grammars, not by the readers:

* `readMaxEpochs_eq_ok_iff`, `readStep_eq_ok_iff`: which texts are values of a setting, and of what;
* `readMaxEpochs_eq_error_iff`, `readStep_eq_error_iff`: why any other text is none;
* `readOr_eq_ok_iff`, `readOr_eq_error_iff`: what becomes of one variable;
* `load_eq_ok_iff`, `load_eq_error_iff`: what becomes of them all;
* `loaded_by_variable`: all of this together.
-/

import SharedWeights.Proofs.Binary32.Literal
import SharedWeights.Proofs.Text.Blank
import SharedWeights.Settings

namespace SharedWeights

/-- The settings that are looked at before a setting. -/
def Setting.earlier : Setting → List Setting
  | .endpoint => []
  | .maxEpochs => [.endpoint]
  | .step => [.endpoint, .maxEpochs]

namespace Settings

/-! ### What texts state -/

/-- A text states a count of epochs: without the blanks around it, it is a numeral of it. -/
def StatesMaxEpochs (text : String) (count : UInt64) : Prop :=
  ∃ core, Text.Trimmed text.toList core ∧ Text.Numeral.Denotes core count.toNat

/-- A text states a step: without the blanks around it, it is a literal of it, and it is finite. -/
def StatesStep (text : String) (step : Binary32) : Prop :=
  ∃ core, Text.Trimmed text.toList core ∧ Binary32.Literal core step ∧ step.isFinite = true

/-- A text is a value for a setting. -/
def Valid (text : String) : Setting → Prop
  | .endpoint => ∃ endpoint, Endpoint.parse text = .ok endpoint
  | .maxEpochs => ∃ count, StatesMaxEpochs text count
  | .step => ∃ step, StatesStep text step

/-- Why a text is no value for a setting. -/
inductive Refuses (text : String) : Setting → SettingFault → Prop
  | endpoint {reason : EndpointError} (refused : Endpoint.parse text = .error reason) :
    Refuses text .endpoint (.noEndpoint reason)
  | maxEpochs {core : List Char} {reason : Text.Numeral.Fault}
      (trimmed : Text.Trimmed text.toList core)
      (faulty : Text.Numeral.Faulty 0xffffffffffffffff core reason) :
    Refuses text .maxEpochs (.noCount text reason)
  | step {core : List Char} (trimmed : Text.Trimmed text.toList core)
      (unstated : ∀ number, ¬ Binary32.Literal core number) :
    Refuses text .step (.noNumber text (if core = [] then .empty else .invalid))
  | infinite {core : List Char} {number : Binary32} (trimmed : Text.Trimmed text.toList core)
      (literal : Binary32.Literal core number) (infinite : number.isFinite = false) :
    Refuses text .step (.notFinite text)

/-! ### Outcomes -/

section Outcomes

variable {Reason Other Given Result : Type} {outcome : Except Reason Given}

/-- Another name for the reason does not change a result. -/
theorem mapError_eq_ok_iff {name : Reason → Other} {given : Given} :
    outcome.mapError name = .ok given ↔ outcome = .ok given := by
  cases outcome with
  | error reason => exact ⟨nofun, nofun⟩
  | ok other => constructor <;> (intro same; cases same; rfl)

theorem mapError_eq_error_iff {name : Reason → Other} {named : Other} :
    outcome.mapError name = .error named ↔
      ∃ reason, outcome = .error reason ∧ name reason = named := by
  cases outcome with
  | error reason =>
    constructor
    · intro same
      cases same
      exact ⟨reason, rfl, rfl⟩
    · rintro ⟨_, same, rfl⟩
      cases same
      rfl
  | ok given => exact ⟨nofun, nofun⟩

theorem bind_eq_ok_iff {next : Given → Except Reason Result} {result : Result} :
    outcome >>= next = .ok result ↔ ∃ given, outcome = .ok given ∧ next given = .ok result := by
  cases outcome with
  | error reason => exact ⟨nofun, nofun⟩
  | ok given =>
    constructor
    · exact fun same => ⟨given, rfl, same⟩
    · rintro ⟨_, same, goes⟩
      cases same
      exact goes

/-- The first reason is the one that is given. -/
theorem bind_eq_error_iff {next : Given → Except Reason Result} {reason : Reason} :
    outcome >>= next = .error reason ↔
      outcome = .error reason ∨ ∃ given, outcome = .ok given ∧ next given = .error reason := by
  cases outcome with
  | error other =>
    constructor
    · intro same
      cases same
      exact .inl rfl
    · rintro (same | ⟨_, same, -⟩) <;> cases same
      rfl
  | ok given =>
    constructor
    · exact fun same => .inr ⟨given, rfl, same⟩
    · rintro (same | ⟨_, same, goes⟩) <;> cases same
      exact goes

end Outcomes

/-! ### What becomes of a text -/

theorem readEndpoint_eq_ok_iff {text : String} {endpoint : Endpoint} :
    readEndpoint text = .ok endpoint ↔ Endpoint.parse text = .ok endpoint :=
  mapError_eq_ok_iff

theorem readEndpoint_eq_error_iff {text : String} {fault : SettingFault} :
    readEndpoint text = .error fault ↔ Refuses text .endpoint fault := by
  rw [readEndpoint, mapError_eq_error_iff]
  constructor
  · rintro ⟨reason, refused, rfl⟩
    exact .endpoint refused
  · rintro ⟨refused⟩
    exact ⟨_, refused, rfl⟩

theorem readMaxEpochs_eq_ok_iff {text : String} {count : UInt64} :
    readMaxEpochs text = .ok count ↔ StatesMaxEpochs text count := by
  unfold readMaxEpochs
  constructor
  · intro read
    split at read
    · next number stated =>
      cases read
      obtain ⟨denoted, within⟩ := Text.Numeral.read_eq_ok_iff_denotes.1 stated
      refine ⟨_, Text.trimmed_trim _, ?_⟩
      rw [UInt64.toNat_ofNat_of_lt' (Nat.lt_succ_of_le within)]
      exact denoted
    · cases read
  · rintro ⟨core, trimmed, denoted⟩
    have within : count.toNat ≤ 0xffffffffffffffff := Nat.le_of_lt_succ count.toNat_lt
    rw [Text.trim_eq_iff.2 trimmed, Text.Numeral.read_eq_ok_iff_denotes.2 ⟨denoted, within⟩]
    dsimp only
    rw [UInt64.ofNat_toNat]

theorem readMaxEpochs_eq_error_iff {text : String} {fault : SettingFault} :
    readMaxEpochs text = .error fault ↔ Refuses text .maxEpochs fault := by
  unfold readMaxEpochs
  constructor
  · intro refused
    split at refused
    · cases refused
    · next reason faulty =>
      cases refused
      exact .maxEpochs (Text.trimmed_trim _) (Text.Numeral.read_eq_error_iff.1 faulty)
  · rintro (_ | ⟨trimmed, faulty⟩)
    rw [Text.trim_eq_iff.2 trimmed, Text.Numeral.read_eq_error_iff.2 faulty]

theorem readStep_eq_ok_iff {text : String} {step : Binary32} :
    readStep text = .ok step ↔ StatesStep text step := by
  unfold readStep
  constructor
  · intro read
    split at read
    · next number literal =>
      split at read
      · next finite =>
        cases read
        exact ⟨_, Text.trimmed_trim _, Binary32.ofLiteral_eq_ok_iff.1 literal, finite⟩
      · cases read
    · cases read
  · rintro ⟨core, trimmed, literal, finite⟩
    rw [Text.trim_eq_iff.2 trimmed, Binary32.ofLiteral_eq_ok_iff.2 literal]
    exact if_pos finite

theorem readStep_eq_error_iff {text : String} {fault : SettingFault} :
    readStep text = .error fault ↔ Refuses text .step fault := by
  unfold readStep
  constructor
  · intro refused
    split at refused
    · next number literal =>
      split at refused
      · cases refused
      · next infinite =>
        cases refused
        exact .infinite (Text.trimmed_trim _) (Binary32.ofLiteral_eq_ok_iff.1 literal)
          (Bool.eq_false_iff.2 infinite)
    · next reason faulty =>
      cases refused
      obtain ⟨unstated, rfl⟩ := Binary32.ofLiteral_eq_error_iff.1 faulty
      exact .step (Text.trimmed_trim _) unstated
  · rintro (_ | _ | ⟨trimmed, unstated⟩ | ⟨trimmed, literal, infinite⟩)
    · rw [Text.trim_eq_iff.2 trimmed, Binary32.ofLiteral_eq_error_iff.2 ⟨unstated, rfl⟩]
    · rw [Text.trim_eq_iff.2 trimmed, Binary32.ofLiteral_eq_ok_iff.2 literal]
      dsimp only
      rw [infinite]
      rfl

/-! ### One variable -/

/-- A field has the value that the text of its variable states, or the standard one if the variable
is not set. -/
def Takes {Field : Type} (States : String → Field → Prop) (standard : Field)
    (lookup : String → Option String) (setting : Setting) (value : Field) : Prop :=
  match lookup setting.variableName with
  | none => value = standard
  | some text => States text value

/-- The variable of a setting is not set, or holds a value for it. -/
def Sound (lookup : String → Option String) (setting : Setting) : Prop :=
  ∀ text, lookup setting.variableName = some text → Valid text setting

section Variable

variable {Field : Type} {standard : Field} {lookup : String → Option String} {setting : Setting}
  {read : String → Except SettingFault Field} {States : String → Field → Prop}

theorem exists_takes_iff :
    (∃ value, Takes States standard lookup setting value) ↔
      ∀ text, lookup setting.variableName = some text → ∃ value, States text value := by
  unfold Takes
  cases lookup setting.variableName <;> simp

theorem readOr_eq_ok_iff (stated : ∀ {text value}, read text = .ok value ↔ States text value)
    {value : Field} :
    readOr standard lookup setting read = .ok value ↔
      Takes States standard lookup setting value := by
  unfold readOr Takes
  cases lookup setting.variableName with
  | none => rw [Except.ok.injEq, eq_comm]
  | some text =>
    dsimp only
    rw [← stated, mapError_eq_ok_iff]

theorem exists_readOr_iff (stated : ∀ {text value}, read text = .ok value ↔ States text value) :
    (∃ value, readOr standard lookup setting read = .ok value) ↔
      ∀ text, lookup setting.variableName = some text → ∃ value, States text value := by
  simp only [readOr_eq_ok_iff stated]
  exact exists_takes_iff

theorem readOr_eq_error_iff
    (refused : ∀ {text fault}, read text = .error fault ↔ Refuses text setting fault)
    {error : SettingsError} :
    readOr standard lookup setting read = .error error ↔
      error.setting = setting ∧
        ∃ text, lookup setting.variableName = some text ∧ Refuses text setting error.fault := by
  obtain ⟨named, fault⟩ := error
  unfold readOr
  simp only [← refused]
  cases lookup setting.variableName with
  | none => simp
  | some text =>
    dsimp only
    rw [mapError_eq_error_iff]
    constructor
    · rintro ⟨reason, found, same⟩
      cases same
      exact ⟨rfl, text, rfl, found⟩
    · rintro ⟨rfl, other, same, found⟩
      cases same
      exact ⟨fault, found, rfl⟩

end Variable

/-! ### All variables -/

/-- An error is about the first setting whose variable holds no value for it. -/
structure First (lookup : String → Option String) (error : SettingsError) : Prop where
  refused : ∃ text, lookup error.setting.variableName = some text ∧
    Refuses text error.setting error.fault
  earlier : ∀ setting ∈ error.setting.earlier, Sound lookup setting

variable {lookup : String → Option String}

/-- **An environment is loaded if each variable can be**, each field by its own. -/
theorem load_eq_ok_iff {settings : Settings} :
    load lookup = .ok settings ↔
      Takes (fun text endpoint => Endpoint.parse text = .ok endpoint) standard.endpoint lookup
          .endpoint settings.endpoint ∧
        Takes StatesMaxEpochs standard.maxEpochs lookup .maxEpochs settings.maxEpochs ∧
        Takes StatesStep standard.step lookup .step settings.step := by
  rw [← readOr_eq_ok_iff readEndpoint_eq_ok_iff, ← readOr_eq_ok_iff readMaxEpochs_eq_ok_iff,
    ← readOr_eq_ok_iff readStep_eq_ok_iff, load]
  simp only [bind_eq_ok_iff]
  constructor
  · rintro ⟨_, hasEndpoint, _, hasMaxEpochs, _, hasStep, same⟩
    cases same
    exact ⟨hasEndpoint, hasMaxEpochs, hasStep⟩
  · rintro ⟨hasEndpoint, hasMaxEpochs, hasStep⟩
    exact ⟨_, hasEndpoint, _, hasMaxEpochs, _, hasStep, rfl⟩

/-- The first variable that can't be read decides on the error. -/
theorem load_eq_error_iff_readOr {error : SettingsError} :
    load lookup = .error error ↔
      readOr standard.endpoint lookup .endpoint readEndpoint = .error error ∨
      (∃ endpoint, readOr standard.endpoint lookup .endpoint readEndpoint = .ok endpoint) ∧
        (readOr standard.maxEpochs lookup .maxEpochs readMaxEpochs = .error error ∨
        (∃ count, readOr standard.maxEpochs lookup .maxEpochs readMaxEpochs = .ok count) ∧
          readOr standard.step lookup .step readStep = .error error) := by
  simp only [load, bind_eq_error_iff]
  constructor
  · rintro (first | ⟨_, found, second | ⟨_, alsoFound, third | ⟨_, -, nothing⟩⟩⟩)
    · exact .inl first
    · exact .inr ⟨⟨_, found⟩, .inl second⟩
    · exact .inr ⟨⟨_, found⟩, .inr ⟨⟨_, alsoFound⟩, third⟩⟩
    · cases nothing
  · rintro (first | ⟨⟨_, found⟩, second | ⟨⟨_, alsoFound⟩, third⟩⟩)
    · exact .inl first
    · exact .inr ⟨_, found, .inl second⟩
    · exact .inr ⟨_, found, .inr ⟨_, alsoFound, .inl third⟩⟩

/-- **And else the first setting that can't be is reported.** -/
theorem load_eq_error_iff {error : SettingsError} :
    load lookup = .error error ↔ First lookup error := by
  have endpoint : (∃ endpoint, readOr standard.endpoint lookup .endpoint readEndpoint =
      .ok endpoint) ↔ Sound lookup .endpoint := exists_readOr_iff readEndpoint_eq_ok_iff
  have maxEpochs : (∃ count, readOr standard.maxEpochs lookup .maxEpochs readMaxEpochs =
      .ok count) ↔ Sound lookup .maxEpochs := exists_readOr_iff readMaxEpochs_eq_ok_iff
  rw [load_eq_error_iff_readOr, endpoint, maxEpochs, readOr_eq_error_iff readEndpoint_eq_error_iff,
    readOr_eq_error_iff readMaxEpochs_eq_error_iff, readOr_eq_error_iff readStep_eq_error_iff]
  obtain ⟨setting, fault⟩ := error
  constructor
  · rintro (⟨rfl, refused⟩ | ⟨first, ⟨rfl, refused⟩ | ⟨second, rfl, refused⟩⟩)
    · exact ⟨refused, fun _ before => nomatch before⟩
    · exact ⟨refused, by simpa [Setting.earlier] using first⟩
    · exact ⟨refused, by simpa [Setting.earlier] using ⟨first, second⟩⟩
  · rintro ⟨refused, earlier⟩
    cases setting with
    | endpoint => exact .inl ⟨rfl, refused⟩
    | maxEpochs => exact .inr ⟨earlier _ List.mem_cons_self, .inl ⟨rfl, refused⟩⟩
    | step =>
      have before := earlier .maxEpochs (List.mem_cons_of_mem _ List.mem_cons_self)
      exact .inr ⟨earlier _ List.mem_cons_self, .inr ⟨before, rfl, refused⟩⟩

theorem exists_load_iff :
    (∃ settings, load lookup = .ok settings) ↔ ∀ setting, Sound lookup setting := by
  constructor
  · rintro ⟨settings, loaded⟩ setting
    obtain ⟨endpoint, maxEpochs, step⟩ := load_eq_ok_iff.1 loaded
    cases setting with
    | endpoint => exact exists_takes_iff.1 ⟨_, endpoint⟩
    | maxEpochs => exact exists_takes_iff.1 ⟨_, maxEpochs⟩
    | step => exact exists_takes_iff.1 ⟨_, step⟩
  · intro sound
    obtain ⟨endpoint, takesEndpoint⟩ := exists_takes_iff.2 (sound .endpoint)
    obtain ⟨maxEpochs, takesMaxEpochs⟩ := exists_takes_iff.2 (sound .maxEpochs)
    obtain ⟨step, takesStep⟩ := exists_takes_iff.2 (sound .step)
    exact ⟨⟨endpoint, maxEpochs, step⟩,
      load_eq_ok_iff.2 ⟨takesEndpoint, takesMaxEpochs, takesStep⟩⟩

theorem isFinite_of_takes {step : Binary32}
    (takes : Takes StatesStep standard.step lookup .step step) : step.isFinite = true := by
  unfold Takes at takes
  split at takes
  · rw [takes]
    decide
  · obtain ⟨-, -, -, finite⟩ := takes
    exact finite

/-- What is set behind the setting that is reported makes no difference. -/
theorem First.congr {other : String → Option String} {error : SettingsError}
    (first : First lookup error)
    (same : ∀ setting, setting = error.setting ∨ setting ∈ error.setting.earlier →
      other setting.variableName = lookup setting.variableName) : First other error := by
  refine ⟨?_, fun setting before text set => first.earlier setting before text ?_⟩
  · rw [same _ (.inl rfl)]
    exact first.refused
  · rw [← same setting (.inr before)]
    exact set

/-- **Settings are read variable by variable**, for every environment. It is loaded exactly if each
variable that is set holds a value for its setting, and then each field has the value of its own
variable, or the standard one, so that the step by which the store adds up is always finite. Else
the first setting is reported whose variable holds no value for it, with the reason, whatever the
variables behind it hold. -/
theorem loaded_by_variable (lookup : String → Option String) :
    ((∃ settings, load lookup = .ok settings) ↔
      ∀ setting text, lookup setting.variableName = some text → Valid text setting) ∧
    (∀ settings, load lookup = .ok settings ↔
      Takes (fun text endpoint => Endpoint.parse text = .ok endpoint) standard.endpoint lookup
          .endpoint settings.endpoint ∧
        Takes StatesMaxEpochs standard.maxEpochs lookup .maxEpochs settings.maxEpochs ∧
        Takes StatesStep standard.step lookup .step settings.step) ∧
    (∀ settings, load lookup = .ok settings → settings.store.rule.step.isFinite = true) ∧
    (∀ error, load lookup = .error error ↔ First lookup error) ∧
    ∀ error other, load lookup = .error error →
      (∀ setting, setting = error.setting ∨ setting ∈ error.setting.earlier →
        other setting.variableName = lookup setting.variableName) →
      load other = .error error :=
  ⟨exists_load_iff, fun _ => load_eq_ok_iff,
    fun _ loaded => isFinite_of_takes (load_eq_ok_iff.1 loaded).2.2,
    fun _ => load_eq_error_iff,
    fun _ _ refused same => load_eq_error_iff.2 ((load_eq_error_iff.1 refused).congr same)⟩

/-- A count with a sign, a zero and blanks, and a step in scientific notation with a point and no
digit in front of it; and a count below zero, with a step behind it that is no number or with none.
-/
theorem loaded_by_variable_of_blanks :
    let set (name : String) : Option String :=
      if name = "PS_MAX_EPOCHS" then some "\u00a0+07 "
      else if name = "PS_REGULARIZATION_STEP" then some "\t-.5E-1" else none
    let wrong (name : String) : Option String :=
      if name = "PS_MAX_EPOCHS" then some "-1"
      else if name = "PS_REGULARIZATION_STEP" then some "nan" else none
    let alone (name : String) : Option String :=
      if name = "PS_MAX_EPOCHS" then some "-1" else none
    let settings : Settings := ⟨standard.endpoint, 7, ⟨0xbd4ccccd⟩⟩
    let error : SettingsError := ⟨.maxEpochs, .noCount "-1" .notADigit⟩
    load set = .ok settings ∧ settings.store.rule.step.isFinite = true ∧
      load wrong = .error error ∧
      (∀ setting, setting = error.setting ∨ setting ∈ error.setting.earlier →
        alone setting.variableName = wrong setting.variableName) ∧
      load alone = .error error := by
  intro set wrong alone settings error
  have count : StatesMaxEpochs "\u00a0+07 " 7 :=
    ⟨['+', '0', '7'], Text.trim_eq_iff.1 (by decide), .signed (by decide)⟩
  have fraction : Text.Numeral.Digits ([] ++ ['5']) := by decide
  have tenths : Text.Numeral.Digits ['1'] := by decide
  have mantissa : Binary32.Mantissa ['.', '5'] [] ['5'] := .pointed fraction
  have exponent : Binary32.Exponent ['E', '-', '1'] (-1) := .stated (.inr rfl) .minus tenths
  have literal : Binary32.Literal ['-', '.', '5', 'E', '-', '1'] ⟨0xbd4ccccd⟩ :=
    .decimal .minus (.of mantissa exponent)
  have step : StatesStep "\t-.5E-1" ⟨0xbd4ccccd⟩ :=
    ⟨_, Text.trim_eq_iff.1 (by decide), literal, by decide⟩
  have loaded : load set = .ok settings :=
    ((loaded_by_variable set).2.1 settings).2 ⟨rfl, count, step⟩
  have negative : Refuses "-1" .maxEpochs (.noCount "-1" .notADigit) :=
    .maxEpochs (Text.trimmed_trim _)
      (Text.Numeral.read_eq_error_iff.1 (show Text.Numeral.read _ ['-', '1'] = _ from rfl))
  have unset : ∀ setting ∈ error.setting.earlier, Sound wrong setting := by
    intro setting before text isSet
    rw [List.mem_singleton.1 before] at isSet
    cases isSet
  have refused : load wrong = .error error :=
    ((loaded_by_variable wrong).2.2.2.1 error).2 ⟨⟨"-1", rfl, negative⟩, unset⟩
  have same : ∀ setting, setting = error.setting ∨ setting ∈ error.setting.earlier →
      alone setting.variableName = wrong setting.variableName := by
    rintro setting (rfl | before)
    · rfl
    · rw [List.mem_singleton.1 before]
      rfl
  exact ⟨loaded, (loaded_by_variable set).2.2.1 settings loaded, refused, same,
    (loaded_by_variable wrong).2.2.2.2 error alone refused same⟩

end Settings

end SharedWeights
