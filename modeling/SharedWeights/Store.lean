/-
**The shared weights.**

The weights of the model are a vector whose length the first gradient settles. From then on every
gradient of that length is added to them, together with a constant step on each element; any other
is turned away and leaves them as they are.
-/

import SharedWeights.Binary32.Basic

namespace SharedWeights

/-- Why a gradient is turned away. -/
inductive StoreError where
  | dimensionMismatch (expected got : Nat)
  | emptyGradient
deriving DecidableEq, Repr

/-- The error in words. -/
def StoreError.message : StoreError → String
  | .dimensionMismatch expected got =>
    s!"dimension mismatch: the weights have {expected} elements but the gradient has {got}"
  | .emptyGradient => "received an empty gradient"

/-- The rule by which gradients are added up: a step is added to every element on every update. -/
structure Accumulation where
  step : Binary32
deriving DecidableEq

namespace Accumulation

/-- The step of a rule that is not told otherwise: 0.01. -/
def standardStep : Binary32 := ⟨0x3c23d70a⟩

/-- The weights after a gradient. -/
def update (rule : Accumulation) (weights gradient : List Binary32) :
    Except StoreError (List Binary32) :=
  if gradient.length = weights.length then
    .ok (List.zipWith (fun weight slope => weight + (slope + rule.step)) weights gradient)
  else .error (.dimensionMismatch weights.length gradient.length)

end Accumulation

/-- The weights with the rule that updates them and the epoch from which workers are to stop. -/
structure Store where
  rule : Accumulation
  maxEpochs : UInt64
  /-- Nothing before the first gradient. -/
  weights? : Option (List Binary32)
deriving DecidableEq

namespace Store

/-- The epoch from which workers stop that are not told otherwise. -/
def standardMaxEpochs : UInt64 := 10

/-- A store before the first gradient. -/
def fresh (rule : Accumulation) (maxEpochs : UInt64) : Store := ⟨rule, maxEpochs, none⟩

/-- The weights; none before the first gradient. -/
def weights (store : Store) : List Binary32 := store.weights?.getD []

/-- Whether a gradient has settled the dimension. -/
def isSettled (store : Store) : Bool := store.weights?.isSome

/-- The number of weights. -/
def dimension (store : Store) : Nat := store.weights.length

/-- The store after a gradient; the first is added to as many zeros. -/
def apply (store : Store) (gradient : List Binary32) : Except StoreError Store :=
  if gradient = [] then .error .emptyGradient
  else
    let weights := store.weights?.getD (List.replicate gradient.length Binary32.zero)
    (store.rule.update weights gradient).map fun updated => { store with weights? := some updated }

/-- Whether a worker that reports this epoch is to stop. -/
def isLastEpoch (store : Store) (epoch : UInt64) : Bool := decide (store.maxEpochs ≤ epoch)

end Store

end SharedWeights
