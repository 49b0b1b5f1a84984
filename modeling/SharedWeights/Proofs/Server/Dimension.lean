/-
**Agreement on the dimension.**

The first gradient settles how many weights there are, and from then on only gradients of as many
numbers are added. A store that is changed in place fills itself with zeros for the first gradient
and compares the numbers only then; that no zeros are left behind by a gradient that is turned away
is due to how the two fit together.

* `apply_eq`: what becomes of a gradient, in one equation;
* `applyInPlace_eq`: the same in place, where a gradient that is turned away leaves nothing behind;
* `sound_step`, `dimension_step`: what every frame keeps;
* `dimension_agreement`: which gradients are answered with weights, at any time of any run.
-/

import SharedWeights.Proofs.Server.Steps

namespace SharedWeights.Store

/-! ### One gradient -/

/-- The weights that a gradient is added to: before the first one, as many zeros. -/
def opened (store : Store) (gradient : List Binary32) : List Binary32 :=
  store.weights?.getD (List.replicate gradient.length Binary32.zero)

/-- What a gradient and the step make of the weights. -/
def sums (store : Store) (gradient : List Binary32) : List Binary32 :=
  List.zipWith (fun weight slope => weight + (slope + store.rule.step)) (store.opened gradient)
    gradient

/-- Whether a gradient has the store's dimension, or may settle it. -/
def Fits (store : Store) (gradient : List Binary32) : Prop :=
  store.isSettled = false ∨ store.dimension = gradient.length

instance (store : Store) (gradient : List Binary32) : Decidable (store.Fits gradient) :=
  inferInstanceAs (Decidable (_ ∨ _))

theorem fits_iff {store : Store} {gradient : List Binary32} :
    store.Fits gradient ↔ gradient.length = (store.opened gradient).length := by
  unfold Fits isSettled dimension weights opened
  cases store.weights? with
  | none => simp
  | some weights => simp [eq_comm]

theorem length_sums {store : Store} {gradient : List Binary32} (fits : store.Fits gradient) :
    (store.sums gradient).length = gradient.length := by
  rw [sums, List.length_zipWith, ← fits_iff.1 fits, Nat.min_self]

theorem weights?_of_misfit {store : Store} {gradient : List Binary32}
    (misfit : ¬ store.Fits gradient) : store.weights? = some (store.opened gradient) := by
  unfold Fits isSettled at misfit
  unfold opened
  cases settled : store.weights? with
  | none => simp [settled] at misfit
  | some weights => rfl

theorem update_of_fits {store : Store} {gradient : List Binary32} (fits : store.Fits gradient) :
    store.rule.update (store.opened gradient) gradient = .ok (store.sums gradient) :=
  if_pos (fits_iff.1 fits)

theorem update_of_misfit {store : Store} {gradient : List Binary32}
    (misfit : ¬ store.Fits gradient) :
    store.rule.update (store.opened gradient) gradient =
      .error (.dimensionMismatch store.dimension gradient.length) := by
  have same : store.dimension = (store.opened gradient).length := by
    rw [dimension, weights, weights?_of_misfit misfit, Option.getD_some]
  rw [same]
  exact if_neg (mt fits_iff.2 misfit)

/-- **What becomes of a gradient**: it is turned away if it has no numbers, or another number of
them than there are weights; else it is added to the weights. -/
theorem apply_eq (store : Store) (gradient : List Binary32) :
    store.apply gradient =
      if gradient = [] then .error .emptyGradient
      else if store.Fits gradient then .ok { store with weights? := some (store.sums gradient) }
      else .error (.dimensionMismatch store.dimension gradient.length) := by
  unfold apply
  rw [← opened]
  dsimp only
  split
  · rfl
  · split
    · next fits =>
      rw [update_of_fits fits]
      rfl
    · next misfit =>
      rw [update_of_misfit misfit]
      rfl

theorem apply_eq_ok_iff {store updated : Store} {gradient : List Binary32} :
    store.apply gradient = .ok updated ↔
      gradient ≠ [] ∧ store.Fits gradient ∧
        updated = { store with weights? := some (store.sums gradient) } := by
  rw [apply_eq]
  by_cases empty : gradient = []
  · simp [empty]
  · by_cases fits : store.Fits gradient
    · simp [empty, fits, eq_comm]
    · simp [empty, fits]

/-! ### The same, in place -/

/-- A gradient added in place, as to a store of which there is only one: before the first gradient
the zeros are put in at once, and stay there if the gradient is then turned away. -/
def applyInPlace (store : Store) (gradient : List Binary32) : Except StoreError Unit × Store :=
  if gradient = [] then (.error .emptyGradient, store)
  else
    let filled := { store with weights? := some (store.opened gradient) }
    match store.rule.update (store.opened gradient) gradient with
    | .ok updated => (.ok (), { filled with weights? := some updated })
    | .error reason => (.error reason, filled)

/-- **A gradient that is turned away leaves nothing behind**: zeros are only put in for a gradient
that has their number, so that it can't be turned away any more. -/
theorem applyInPlace_eq (store : Store) (gradient : List Binary32) :
    store.applyInPlace gradient =
      match store.apply gradient with
      | .ok updated => (.ok (), updated)
      | .error reason => (.error reason, store) := by
  rw [apply_eq]
  unfold applyInPlace
  split
  · rfl
  · by_cases fits : store.Fits gradient
    · rw [if_pos fits, update_of_fits fits]
    · rw [if_neg fits, update_of_misfit fits, ← weights?_of_misfit fits]

theorem applyInPlace_handle {store : Store} {frame : Bytes} {report : GradientReport}
    (read : Request.decode frame = .ok (.gradients report)) :
    (store.applyInPlace report.gradient).2 = (store.handle frame).store := by
  rw [applyInPlace_eq]
  cases applied : store.apply report.gradient with
  | error reason => rw [handle_of_refused read (reply_of_refused applied)]
  | ok updated => rw [handle_of_answered read (reply_of_updated applied)]

/-! ### One frame -/

theorem handle_of_empty {store : Store} {frame : Bytes} {report : GradientReport}
    (read : Request.decode frame = .ok (.gradients report)) (empty : report.gradient = []) :
    (store.handle frame).response = .refused (ServerError.store .emptyGradient).message ∧
      (store.handle frame).store = store := by
  have applied : store.apply report.gradient = .error .emptyGradient := by
    rw [apply_eq, if_pos empty]
  rw [handle_of_refused read (reply_of_refused applied)]
  exact ⟨rfl, rfl⟩

theorem handle_of_misfit {store : Store} {frame : Bytes} {report : GradientReport}
    (read : Request.decode frame = .ok (.gradients report)) (something : report.gradient ≠ [])
    (misfit : ¬ store.Fits report.gradient) :
    (store.handle frame).response = .refused (ServerError.store
        (.dimensionMismatch store.dimension report.gradient.length)).message ∧
      (store.handle frame).store = store := by
  have applied : store.apply report.gradient =
      .error (.dimensionMismatch store.dimension report.gradient.length) := by
    rw [apply_eq, if_neg something, if_neg misfit]
  rw [handle_of_refused read (reply_of_refused applied)]
  exact ⟨rfl, rfl⟩

theorem handle_of_fits {store : Store} {frame : Bytes} {report : GradientReport}
    (read : Request.decode frame = .ok (.gradients report)) (something : report.gradient ≠ [])
    (fits : store.Fits report.gradient) :
    (store.handle frame).response =
        .weights (store.commandFor report.epoch) (store.sums report.gradient) ∧
      (store.handle frame).store = { store with weights? := some (store.sums report.gradient) } := by
  have applied : store.apply report.gradient =
      .ok { store with weights? := some (store.sums report.gradient) } :=
    apply_eq_ok_iff.2 ⟨something, fits, rfl⟩
  rw [handle_of_answered read (reply_of_updated applied)]
  exact ⟨rfl, rfl⟩

/-- **A frame of a gradient is answered with weights exactly if the gradient has numbers and fits**,
with as many as it has. -/
theorem answered_iff_fits {store : Store} {frame : Bytes} {report : GradientReport}
    (read : Request.decode frame = .ok (.gradients report)) :
    (∃ command numbers, (store.handle frame).response = .weights command numbers) ↔
      report.gradient ≠ [] ∧ store.Fits report.gradient := by
  by_cases empty : report.gradient = []
  · simp [handle_of_empty read empty, empty]
  · by_cases fits : store.Fits report.gradient
    · simp [handle_of_fits read empty fits, empty, fits]
    · simp [handle_of_misfit read empty fits, empty, fits]

theorem length_of_answered {store : Store} {frame : Bytes} {report : GradientReport}
    {command : Command} {numbers : List Binary32}
    (read : Request.decode frame = .ok (.gradients report))
    (answered : (store.handle frame).response = .weights command numbers) :
    numbers.length = report.gradient.length ∧
      (store.handle frame).store.dimension = report.gradient.length := by
  obtain ⟨something, fits⟩ := (answered_iff_fits read).1 ⟨command, numbers, answered⟩
  obtain ⟨response, updated⟩ := handle_of_fits read something fits
  rw [response] at answered
  cases answered
  rw [updated]
  exact ⟨length_sums fits, length_sums fits⟩

/-! ### Runs -/

/-- What holds of the store of a service with these settings at any time. -/
structure Sound (settings : Settings) (store : Store) : Prop where
  step_eq : store.rule.step = settings.step
  maxEpochs_eq : store.maxEpochs = settings.maxEpochs
  nonempty : ∀ weights ∈ store.weights?, weights ≠ []

theorem sound_store (settings : Settings) : Sound settings settings.store :=
  ⟨rfl, rfl, fun _ member => nomatch member⟩

theorem sound_step {settings : Settings} {store updated : Store} {frame : Bytes}
    {response : Response} (step : store.Step frame response updated)
    (sound : Sound settings store) : Sound settings updated := by
  cases step with
  | unreadable | acknowledged | refused => exact sound
  | updated read applied =>
    obtain ⟨something, fits, rfl⟩ := apply_eq_ok_iff.1 applied
    refine ⟨sound.step_eq, sound.maxEpochs_eq, ?_⟩
    rintro _ ⟨⟩ empty
    have length := length_sums fits
    rw [empty] at length
    exact something (List.eq_nil_of_length_eq_zero length.symm)

theorem dimension_step {store updated : Store} {frame : Bytes} {response : Response}
    (step : store.Step frame response updated) (settled : store.isSettled = true) :
    updated.isSettled = true ∧ updated.dimension = store.dimension := by
  cases step with
  | unreadable | acknowledged | refused => exact ⟨settled, rfl⟩
  | updated read applied =>
    obtain ⟨-, fits, rfl⟩ := apply_eq_ok_iff.1 applied
    refine ⟨rfl, (length_sums fits).trans ?_⟩
    rcases fits with unsettled | same
    · rw [settled] at unsettled
      cases unsettled
    · exact same.symm

/-- **The dimension stays, once it is settled.** -/
theorem dimension_after {store : Store} (settled : store.isSettled = true) (later : List Bytes) :
    (store.after later).isSettled = true ∧ (store.after later).dimension = store.dimension := by
  refine @kept_after
    (fun current => current.isSettled = true ∧ current.dimension = store.dimension) later
    (fun _ _ {_ _ _} step kept => ?_) store ⟨settled, rfl⟩
  obtain ⟨stays, same⟩ := dimension_step step kept.1
  exact ⟨stays, same.trans kept.2⟩

theorem Sound.isSettled_iff {settings : Settings} {store : Store} (sound : Sound settings store) :
    store.isSettled = true ↔ 0 < store.dimension := by
  have nonempty := sound.nonempty
  unfold isSettled dimension weights
  cases held : store.weights? with
  | none => simp
  | some weights => simpa [List.length_pos_iff] using nonempty weights held

/-- **Agreement on the dimension, at any time of any run.** Either no gradient has been added yet or
there is at least one weight, and then their number stays; the settings stay in any case. Of the
frames that read as a gradient those are answered with weights whose gradient has numbers, and as
many as there are weights if there are any. Any other is refused for the want of numbers or for their
number, and the store stays as it is, also if it is changed in place. -/
theorem dimension_agreement (settings : Settings) (frames : List Bytes) :
    let store := settings.store.after frames
    Sound settings store ∧ (store.isSettled = true ↔ 0 < store.dimension) ∧
    (store.isSettled = true → ∀ later, (store.after later).isSettled = true ∧
      (store.after later).dimension = store.dimension) ∧
    ∀ frame report, Request.decode frame = .ok (.gradients report) →
      let gradient := report.gradient
      let answer := store.handle frame
      ((∃ command numbers, answer.response = .weights command numbers) ↔
        gradient ≠ [] ∧ (store.isSettled = false ∨ store.dimension = gradient.length)) ∧
      (∀ command numbers, answer.response = .weights command numbers →
        numbers.length = gradient.length ∧ answer.store.dimension = gradient.length) ∧
      (gradient = [] →
        answer.response = .refused (ServerError.store .emptyGradient).message ∧
          answer.store = store) ∧
      (gradient ≠ [] → store.isSettled = true → store.dimension ≠ gradient.length →
        answer.response = .refused
            (ServerError.store (.dimensionMismatch store.dimension gradient.length)).message ∧
          answer.store = store) ∧
      (store.applyInPlace gradient).2 = answer.store := by
  intro store
  have sound : Sound settings store :=
    kept_after (fun _ _ => sound_step) (sound_store settings)
  refine ⟨sound, sound.isSettled_iff, fun settled later => ?_, fun frame report read => ?_⟩
  · exact dimension_after settled later
  · refine ⟨answered_iff_fits read, fun command numbers => length_of_answered read,
      handle_of_empty read, fun something settled different => ?_, applyInPlace_handle read⟩
    refine handle_of_misfit read something ?_
    rintro (unsettled | same)
    · rw [settled] at unsettled
      cases unsettled
    · exact different same

end SharedWeights.Store
