/-
**Frames that leave no trace.**

A frame that is acknowledged or refused might as well not have been sent: the server is afterwards
as it was before, so that every other frame is answered as it would have been without it.

* `store_of_step`: only a frame that is answered with weights changes the store;
* `answersTo_ofOrigins`, `after_ofOrigins`: of the frames of a run, those of certain origins may be
  left out if none of them is answered with weights, and nothing changes for the others;
* `runInPlace_eq`: the same holds of a server that changes its store in place, though it puts zeros
  into it before it knows whether a gradient fits;
* `traceless`: both together, for frames in any places of a run.

Frames go with their origins (`answersTo`), since leaving some out moves the others to other places,
where their answers have to be found again. An origin may be the place that a frame had, or the
connection that it came over.
-/

import SharedWeights.Proofs.Server.Dimension

namespace SharedWeights

/-! ### Entries with their origins -/

section Origins

variable {Origin Entry : Type} {kept : Origin → Bool} {origin : Origin}

/-- The entries that come from certain origins. -/
def ofOrigins (kept : Origin → Bool) (entries : List (Origin × Entry)) : List (Origin × Entry) :=
  entries.filter fun entry => kept entry.1

theorem ofOrigins_cons_of_kept (stays : kept origin = true) (entry : Entry)
    (later : List (Origin × Entry)) :
    ofOrigins kept ((origin, entry) :: later) = (origin, entry) :: ofOrigins kept later :=
  List.filter_cons_of_pos stays

theorem ofOrigins_cons_of_left (left : kept origin = false) (entry : Entry)
    (later : List (Origin × Entry)) :
    ofOrigins kept ((origin, entry) :: later) = ofOrigins kept later :=
  List.filter_cons_of_neg (Bool.eq_false_iff.1 left)

/-- A list without what stands in certain places. -/
def without (deleted : Nat → Bool) (list : List Entry) : List Entry :=
  (ofOrigins (fun place => !deleted place) (list.mapIdx Prod.mk)).map Prod.snd

theorem map_snd_mapIdx (list : List Entry) : (list.mapIdx Prod.mk).map Prod.snd = list :=
  List.ext_getElem (by simp) (by simp)

theorem map_without {Image : Type} (deleted : Nat → Bool) (list : List Entry)
    (image : Entry → Image) : (without deleted list).map image = without deleted (list.map image) := by
  have placed : (list.map image).mapIdx Prod.mk =
      (list.mapIdx Prod.mk).map fun entry => (entry.1, image entry.2) :=
    List.ext_getElem (by simp) (by simp)
  rw [without, without, ofOrigins, ofOrigins, placed, List.filter_map, List.map_map, List.map_map]
  rfl

end Origins

namespace Store

/-! ### One frame -/

theorem store_of_step {store updated : Store} {frame : Bytes} {response : Response}
    (step : store.Step frame response updated)
    (harmless : ∀ command numbers, response ≠ .weights command numbers) : updated = store := by
  cases step with
  | unreadable | acknowledged | refused => rfl
  | updated => exact absurd rfl (harmless _ _)

/-! ### Runs -/

section Runs

variable {Origin : Type}

theorem answersTo_mapIdx (store : Store) (frames : List Bytes) (origin : Nat → Origin) :
    store.answersTo (frames.mapIdx fun place frame => (origin place, frame)) =
      (store.responses frames).mapIdx fun place response => (origin place, response) := by
  induction frames generalizing store origin with
  | nil => rfl
  | cons frame later ih =>
    rw [List.mapIdx_cons, answersTo, responses, List.mapIdx_cons]
    exact congrArg _ (ih _ fun place => origin (place + 1))

/-- None of the frames is answered with weights, but for those of certain origins. -/
def Spared (store : Store) (kept : Origin → Bool) (entries : List (Origin × Bytes)) : Prop :=
  ∀ origin response, (origin, response) ∈ store.answersTo entries → kept origin = false →
    ∀ command numbers, response ≠ .weights command numbers

variable {store : Store} {kept : Origin → Bool} {origin : Origin} {frame : Bytes}
  {later : List (Origin × Bytes)}

theorem Spared.tail (spared : store.Spared kept ((origin, frame) :: later)) :
    (store.handle frame).store.Spared kept later :=
  fun origin response member => spared origin response (List.mem_cons_of_mem _ member)

theorem Spared.store_handle (spared : store.Spared kept ((origin, frame) :: later))
    (left : kept origin = false) : (store.handle frame).store = store :=
  store_of_step (step_handle store frame) (spared _ _ List.mem_cons_self left)

/-- **What is left out is not missed**: the frames that are kept are answered as they were. -/
theorem answersTo_ofOrigins {entries : List (Origin × Bytes)}
    (spared : store.Spared kept entries) :
    store.answersTo (ofOrigins kept entries) = ofOrigins kept (store.answersTo entries) := by
  induction entries generalizing store with
  | nil => rfl
  | cons entry later ih =>
    obtain ⟨origin, frame⟩ := entry
    have rest := ih spared.tail
    rw [answersTo]
    cases stays : kept origin with
    | true => rw [ofOrigins_cons_of_kept stays, ofOrigins_cons_of_kept stays, answersTo, rest]
    | false =>
      rw [spared.store_handle stays] at rest ⊢
      rw [ofOrigins_cons_of_left stays, ofOrigins_cons_of_left stays, rest]

/-- **What is left out leaves no trace** in the store. -/
theorem after_ofOrigins {entries : List (Origin × Bytes)} (spared : store.Spared kept entries) :
    store.after ((ofOrigins kept entries).map Prod.snd) = store.after (entries.map Prod.snd) := by
  induction entries generalizing store with
  | nil => rfl
  | cons entry later ih =>
    obtain ⟨origin, frame⟩ := entry
    have rest := ih spared.tail
    rw [List.map_cons, after_cons, ← rest]
    cases stays : kept origin with
    | true => rw [ofOrigins_cons_of_kept stays, List.map_cons, after_cons]
    | false => rw [ofOrigins_cons_of_left stays, spared.store_handle stays]

end Runs

/-! ### A store that is changed in place -/

/-- The response to a frame, by a server that changes its store in place, and the store then. -/
def handleInPlace (store : Store) (frame : Bytes) : Response × Store :=
  match Request.decode frame with
  | .error reason => (.refused (ServerError.decode reason).message, store)
  | .ok (.other _ _) => (.acknowledged, store)
  | .ok (.gradients report) =>
    match store.applyInPlace report.gradient with
    | (.error reason, touched) => (.refused (ServerError.store reason).message, touched)
    | (.ok (), updated) => (.weights (updated.commandFor report.epoch) updated.weights, updated)

/-- The responses to frames in their order, and the store after them. -/
def runInPlace (store : Store) : List Bytes → List Response × Store
  | [] => ([], store)
  | frame :: later =>
    let (response, current) := store.handleInPlace frame
    let (responses, last) := current.runInPlace later
    (response :: responses, last)

theorem handleInPlace_eq (store : Store) (frame : Bytes) :
    store.handleInPlace frame = ((store.handle frame).response, (store.handle frame).store) := by
  unfold handleInPlace
  cases read : Request.decode frame with
  | error reason => rw [handle_of_unreadable read]
  | ok request =>
    cases request with
    | other workerId messageType => rw [handle_of_answered read rfl]
    | gradients report =>
      dsimp only
      rw [applyInPlace_eq]
      cases applied : store.apply report.gradient with
      | error reason => rw [handle_of_refused read (reply_of_refused applied)]
      | ok updated => rw [handle_of_answered read (reply_of_updated applied)]

/-- **A store that is changed in place is changed no further.** -/
theorem runInPlace_eq (store : Store) (frames : List Bytes) :
    store.runInPlace frames = (store.responses frames, store.after frames) := by
  induction frames generalizing store with
  | nil => rfl
  | cons frame later ih =>
    rw [runInPlace, handleInPlace_eq]
    dsimp only
    rw [ih, responses, after_cons]

/-! ### Places in a run -/

section Places

variable {store : Store} {frames : List Bytes} {deleted : Nat → Bool}

/-- The frames in some places are acknowledged or refused. -/
def Harmless (store : Store) (frames : List Bytes) (deleted : Nat → Bool) : Prop :=
  ∀ place response, deleted place = true → (store.responses frames)[place]? = some response →
    response = .acknowledged ∨ ∃ detail, response = .refused detail

theorem Harmless.spared (harmless : store.Harmless frames deleted) :
    store.Spared (fun place => !deleted place) (frames.mapIdx Prod.mk) := by
  intro place response member left command numbers weights
  rw [show frames.mapIdx Prod.mk = frames.mapIdx fun place frame => (place, frame) from rfl,
    answersTo_mapIdx store frames fun place => place] at member
  obtain ⟨index, inside, same⟩ := List.mem_mapIdx.1 member
  cases same
  rcases harmless _ _ (by simpa using left) (List.getElem?_eq_getElem inside) with
    same | ⟨detail, same⟩
  · rw [same] at weights
    cases weights
  · rw [same] at weights
    cases weights

theorem after_without (harmless : store.Harmless frames deleted) :
    store.after (without deleted frames) = store.after frames := by
  rw [without, after_ofOrigins harmless.spared, map_snd_mapIdx]

theorem responses_without (harmless : store.Harmless frames deleted) :
    store.responses (without deleted frames) = without deleted (store.responses frames) := by
  rw [without, ← map_snd_answersTo, answersTo_ofOrigins harmless.spared]
  rw [answersTo_mapIdx store frames fun place => place]
  rfl

end Places

end Store

/-- **Frames that leave no trace.** Of the frames of any run, whatever they are, any that were
acknowledged or refused may be left out: the store is the same in the end, and every other frame
gets the same reply. So it is with a server that changes its store in place. -/
theorem traceless (store : Store) {frames : List Bytes} {deleted : Nat → Bool}
    (harmless : store.Harmless frames deleted) :
    store.after (without deleted frames) = store.after frames ∧
      store.replies (without deleted frames) = without deleted (store.replies frames) ∧
      store.runInPlace (without deleted frames) =
        (without deleted (store.runInPlace frames).1, (store.runInPlace frames).2) := by
  have kept := Store.after_without harmless
  have answered := Store.responses_without harmless
  refine ⟨kept, ?_, ?_⟩
  · rw [Store.replies, answered, map_without, Store.replies]
  · rw [Store.runInPlace_eq, Store.runInPlace_eq, kept, answered]

/-- A gradient, between a frame that can't be read and one that has another dimension, and again
behind a message. The two make 2.02 of the number one and the step. -/
theorem traceless_around_gradient :
    let store := Settings.standard.store
    let gradient : Bytes := [0xa0, 0xa9, 0x47, 0x52, 0x41, 0x44, 0x49, 0x45, 0x4e, 0x54, 0x53, 3,
      0xc4, 4, 0, 0, 0x80, 0x3f]
    let wider : Bytes := [0xa0, 0xa9, 0x47, 0x52, 0x41, 0x44, 0x49, 0x45, 0x4e, 0x54, 0x53, 3,
      0xc4, 8, 0, 0, 0x80, 0x3f, 0, 0, 0x80, 0x3f]
    let frames : List Bytes := [[0xc1], gradient, wider, [0xa0, 0xa0], gradient]
    let deleted (place : Nat) : Bool := place == 0 || place == 2 || place == 3
    store.Harmless frames deleted ∧ without deleted frames = [gradient, gradient] ∧
      store.after [gradient, gradient] = store.after frames ∧
      (store.after frames).weights = [⟨0x400147ae⟩] ∧
      store.replies [gradient, gradient] = without deleted (store.replies frames) := by
  intro store gradient wider frames deleted
  have harmless : store.Harmless frames deleted := by
    intro place response gone answered
    have few : place = 0 ∨ place = 2 ∨ place = 3 := by simpa [deleted, or_assoc] using gone
    rcases few with rfl | rfl | rfl
    · exact .inr ⟨_, (Option.some.inj answered).symm⟩
    · exact .inr ⟨_, (Option.some.inj answered).symm⟩
    · exact .inl (Option.some.inj answered).symm
  have left : without deleted frames = [gradient, gradient] := rfl
  obtain ⟨kept, replies, -⟩ := traceless store harmless
  rw [left] at kept replies
  exact ⟨harmless, left, kept, by decide, replies⟩

end SharedWeights
