/-
**Neither who asks nor in what spelling matters.**

A gradient may be reported by any worker, and its frame may spell its texts, its epoch and its
numbers in many ways. The server sees the name of the worker and the length of the frame, since both
go into its journal. But of a gradient only the epoch and the numbers have a part in the reply and
in the weights, and of any other message nothing has:

* `handleInPlace_of_interchangeable`: frames that say the same, or nothing, are handled alike;
* `runInPlace_of_interchangeable`: so are runs of such frames, one for the other in each place;
* `unbiased`: the replies, and the stores after every frame.

The two runs are compared on the store that is changed in place, where handling a frame is one
function of the request in it; the other facts follow since that store is the same as the store that
is given on (`runInPlace_eq`).
-/

import Mathlib.Data.List.Forall2
import SharedWeights.Proofs.Server.Traces

namespace SharedWeights

/-- Frames of which one may stand for the other: they are the same, or report the same numbers in
the same epoch, or are both messages that are no gradients. -/
inductive Interchangeable (first second : Bytes) : Prop
  | same (equal : first = second)
  | gradients {one other : GradientReport}
    (firstRead : Request.decode first = .ok (.gradients one))
    (secondRead : Request.decode second = .ok (.gradients other))
    (epoch : one.epoch = other.epoch) (gradient : one.gradient = other.gradient)
  | messages {workerId messageType otherId otherType : String}
    (firstRead : Request.decode first = .ok (.other workerId messageType))
    (secondRead : Request.decode second = .ok (.other otherId otherType))

namespace Store

/-- **Interchangeable frames are handled alike.** -/
theorem handleInPlace_of_interchangeable {first second : Bytes}
    (alike : Interchangeable first second) (store : Store) :
    store.handleInPlace first = store.handleInPlace second := by
  cases alike with
  | same equal => rw [equal]
  | gradients firstRead secondRead epoch gradient =>
    unfold handleInPlace
    rw [firstRead, secondRead]
    dsimp only
    rw [epoch, gradient]
  | messages firstRead secondRead =>
    unfold handleInPlace
    rw [firstRead, secondRead]

variable {first second : List Bytes} (alike : List.Forall₂ Interchangeable first second)
  (store : Store)

include alike

/-- **So are runs of interchangeable frames.** -/
theorem runInPlace_of_interchangeable : store.runInPlace first = store.runInPlace second := by
  induction alike generalizing store with
  | nil => rfl
  | cons once later ih =>
    rw [runInPlace, runInPlace, handleInPlace_of_interchangeable once]
    dsimp only
    rw [ih]

theorem responses_of_interchangeable : store.responses first = store.responses second := by
  have runs := runInPlace_of_interchangeable alike store
  rw [runInPlace_eq, runInPlace_eq] at runs
  exact (Prod.mk.inj runs).1

theorem after_of_interchangeable : store.after first = store.after second := by
  have runs := runInPlace_of_interchangeable alike store
  rw [runInPlace_eq, runInPlace_eq] at runs
  exact (Prod.mk.inj runs).2

end Store

/-- **Neither who asks nor in what spelling matters.** From any store, two runs of frames that are
interchangeable place by place get the same replies, byte by byte, and the same store after every
frame; and so it is with a server that changes its store in place. -/
theorem unbiased {first second : List Bytes} (alike : List.Forall₂ Interchangeable first second)
    (store : Store) :
    store.replies first = store.replies second ∧
      ∀ count, store.after (first.take count) = store.after (second.take count) ∧
        store.runInPlace (first.take count) = store.runInPlace (second.take count) := by
  refine ⟨?_, fun count => ?_⟩
  · rw [Store.replies, Store.replies, Store.responses_of_interchangeable alike]
  · have front := List.forall₂_take count alike
    exact ⟨Store.after_of_interchangeable front store,
      Store.runInPlace_of_interchangeable front store⟩

set_option maxRecDepth 2000 in
/-- A gradient, a message and a frame that can't be read; and the same gradient from another worker,
with every field in a longer spelling, another message with more behind it, and the same frame. -/
theorem unbiased_by_spelling :
    let store := Settings.standard.store
    let report : Bytes := [0xa1, 0x77, 0xa9, 0x47, 0x52, 0x41, 0x44, 0x49, 0x45, 0x4e, 0x54, 0x53,
      3, 0xc4, 4, 0, 0, 0x80, 0x3f]
    let respelled : Bytes := [0xc4, 2, 0x76, 0x76, 0xc5, 0, 9, 0x47, 0x52, 0x41, 0x44, 0x49, 0x45,
      0x4e, 0x54, 0x53, 0xd1, 0, 3, 0xa4, 0, 0, 0x80, 0x3f]
    let first : List Bytes := [report, [0xa1, 0x77, 0xa0], [0xc1]]
    let second : List Bytes := [respelled, [0xa0, 0xd9, 1, 0x6d, 0xc1], [0xc1]]
    List.Forall₂ Interchangeable first second ∧ store.replies first = store.replies second ∧
      store.after (first.take 2) = store.after (second.take 2) ∧
      (store.after first).weights = [⟨0x3f8147ae⟩] := by
  intro store report respelled first second
  have reported : Request.decode report = .ok (.gradients ⟨"w", 3, [⟨0x3f800000⟩]⟩) := rfl
  have again : Request.decode respelled = .ok (.gradients ⟨"vv", 3, [⟨0x3f800000⟩]⟩) := rfl
  have message : Request.decode [0xa1, 0x77, 0xa0] = .ok (.other "w" "") := rfl
  have other : Request.decode [0xa0, 0xd9, 1, 0x6d, 0xc1] = .ok (.other "" "m") := rfl
  have alike : List.Forall₂ Interchangeable first second :=
    .cons (.gradients reported again rfl rfl)
      (.cons (.messages message other) (.cons (.same rfl) .nil))
  obtain ⟨replies, stores⟩ := unbiased alike store
  exact ⟨alike, replies, (stores 2).1, by decide⟩

end SharedWeights
