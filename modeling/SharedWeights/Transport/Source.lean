/-
**Reading from a stream.**

What arrives from the other end comes in pieces whose borders mean nothing. A read takes at most one
piece; it may also give nothing, which is how a stream says that it has ended, or fail. Behind all
that arrives the stream has ended for good.

* `byteCount_read`: what a read gives is taken off the bytes to come;
* `byteCount_readExact`: so is what an exact read gives, and it has the length asked for.
-/

import SharedWeights.Bytes
import SharedWeights.Transport.Failure

namespace SharedWeights

/-- What may arrive: a piece of data, an end, or a failure. -/
inductive Arrival where
  | piece (bytes : Bytes)
  | ended
  | failed (failure : Failure)
deriving DecidableEq

/-- All that is still to arrive. -/
abbrev Source := List Arrival

namespace Source

/-- How many bytes an arrival brings. -/
def arrivalCount : Arrival → Nat
  | .piece bytes => bytes.length
  | .ended => 0
  | .failed _ => 0

/-- How many bytes are still to arrive. -/
def byteCount (source : Source) : Nat :=
  source.foldr (fun arrival count => arrivalCount arrival + count) 0

/-- The source with bytes in front of it that were not taken. -/
def putBack (bytes : Bytes) (source : Source) : Source :=
  if bytes = [] then source else .piece bytes :: source

/-- All the bytes at once, and then the end. -/
def ofBytes (bytes : Bytes) : Source :=
  putBack bytes []

/-- Reads once, at most `wanted` bytes. No bytes mean the end, unless none are wanted. -/
def read (wanted : Nat) (source : Source) : Except Failure Bytes × Source :=
  if wanted = 0 then (.ok [], source)
  else
    match source with
    | [] => (.ok [], [])
    | .ended :: later => (.ok [], later)
    | .failed failure :: later => (.error failure, later)
    | .piece bytes :: later => (.ok (bytes.take wanted), putBack (bytes.drop wanted) later)

/-- Reads until there are `wanted` bytes. If the stream ends or fails before, what was read of them
is lost. -/
def readExact (wanted : Nat) (source : Source) : Except Failure Bytes × Source :=
  if wanted = 0 then (.ok [], source)
  else
    match source.read wanted with
    | (.error failure, left) => (.error failure, left)
    | (.ok [], left) => (.error .endOfStream, left)
    | (.ok (first :: others), left) =>
      match readExact (wanted - (others.length + 1)) left with
      | (.error failure, left) => (.error failure, left)
      | (.ok rest, left) => (.ok (first :: others ++ rest), left)
termination_by wanted

@[simp] theorem byteCount_cons (arrival : Arrival) (source : Source) :
    byteCount (arrival :: source) = arrivalCount arrival + byteCount source := rfl

@[simp] theorem byteCount_putBack (bytes : Bytes) (source : Source) :
    byteCount (putBack bytes source) = bytes.length + byteCount source := by
  unfold putBack
  split
  · next nothing => simp [nothing]
  · simp [arrivalCount]

theorem byteCount_read {wanted : Nat} {source left : Source} {bytes : Bytes}
    (given : source.read wanted = (.ok bytes, left)) :
    byteCount left + bytes.length = byteCount source ∧ bytes.length ≤ wanted := by
  unfold read at given
  split at given
  · cases given
    simp
  · split at given
    · cases given
      simp
    · cases given
      simp [arrivalCount]
    · cases given
    · next piece later _ =>
      cases given
      simp only [byteCount_putBack, byteCount_cons, arrivalCount, List.length_drop,
        List.length_take]
      omega

theorem byteCount_readExact {wanted : Nat} {source left : Source} {bytes : Bytes}
    (given : source.readExact wanted = (.ok bytes, left)) :
    byteCount left + bytes.length = byteCount source ∧ bytes.length = wanted := by
  fun_induction readExact wanted source generalizing bytes left with
  | case1 => cases given; simp_all
  | case2 => cases given
  | case3 => cases given
  | case4 => simp_all
  | case5 wanted source nonzero first others middle once rest last exact ih =>
    have head := byteCount_read once
    have tail := ih exact
    cases given
    simp only [List.length_cons, List.length_append] at head ⊢
    omega

end Source

end SharedWeights
