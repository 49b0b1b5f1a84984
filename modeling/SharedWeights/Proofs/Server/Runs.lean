/-
**Frames handled one after the other.**

What the server makes of a list of frames is the fold of what it makes of one: the store goes on
from frame to frame, and every frame gets one response, given by the store as it was then.

* `after_append`, `answersTo_append`: a run may be stopped anywhere and taken up again;
* `responses_take`: the first responses are those to the first frames.

Where frames come from several origins, each response goes with the origin of its frame (`answersTo`).
-/

import SharedWeights.Server

namespace SharedWeights.Store

/-- The store after frames. -/
def after (store : Store) (frames : List Bytes) : Store :=
  frames.foldl (fun current frame => (current.handle frame).store) store

/-- The responses to frames, in their order. -/
def responses (store : Store) : List Bytes → List Response
  | [] => []
  | frame :: later => (store.handle frame).response :: (store.handle frame).store.responses later

/-- The responses to frames as they are sent. -/
def replies (store : Store) (frames : List Bytes) : List Bytes :=
  (store.responses frames).map Response.encode

@[simp] theorem after_nil (store : Store) : store.after [] = store := rfl

@[simp] theorem after_cons (store : Store) (frame : Bytes) (later : List Bytes) :
    store.after (frame :: later) = (store.handle frame).store.after later := rfl

theorem after_append (store : Store) (front back : List Bytes) :
    store.after (front ++ back) = (store.after front).after back :=
  List.foldl_append

theorem replies_cons (store : Store) (frame : Bytes) (later : List Bytes) :
    store.replies (frame :: later) =
      (store.handle frame).response.encode :: (store.handle frame).store.replies later := rfl

theorem responses_take (store : Store) (frames : List Bytes) (count : Nat) :
    store.responses (frames.take count) = (store.responses frames).take count := by
  induction count generalizing store frames with
  | zero => rw [List.take_zero, List.take_zero, responses]
  | succ count ih =>
    cases frames with
    | nil => rfl
    | cons frame later => rw [List.take_succ_cons, responses, responses, List.take_succ_cons, ih]

theorem replies_take (store : Store) (frames : List Bytes) (count : Nat) :
    store.replies (frames.take count) = (store.replies frames).take count := by
  rw [replies, replies, responses_take, List.map_take]

/-! ### Frames of several origins -/

section Origins

variable {Origin : Type}

/-- The responses to frames, each with where its frame came from. -/
def answersTo (store : Store) : List (Origin × Bytes) → List (Origin × Response)
  | [] => []
  | (origin, frame) :: later =>
    (origin, (store.handle frame).response) :: (store.handle frame).store.answersTo later

theorem answersTo_append (store : Store) (front back : List (Origin × Bytes)) :
    store.answersTo (front ++ back) =
      store.answersTo front ++ (store.after (front.map Prod.snd)).answersTo back := by
  induction front generalizing store with
  | nil => rfl
  | cons entry later ih =>
    rw [List.cons_append, answersTo, ih, answersTo, List.map_cons, after_cons, List.cons_append]

theorem map_fst_answersTo (store : Store) (entries : List (Origin × Bytes)) :
    (store.answersTo entries).map Prod.fst = entries.map Prod.fst := by
  induction entries generalizing store with
  | nil => rfl
  | cons entry later ih => rw [answersTo, List.map_cons, List.map_cons, ih]

theorem map_snd_answersTo (store : Store) (entries : List (Origin × Bytes)) :
    (store.answersTo entries).map Prod.snd = store.responses (entries.map Prod.snd) := by
  induction entries generalizing store with
  | nil => rfl
  | cons entry later ih => rw [answersTo, List.map_cons, List.map_cons, responses, ih]

end Origins

end SharedWeights.Store
