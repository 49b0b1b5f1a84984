/-
**Writing to a stream.**

A writer takes what it is given in portions, up to a room that may be limited. Without room it
refuses, or takes nothing. Flushing is counted, and may fail.

* `writeAll_nil`: writing nothing changes nothing.
-/

import SharedWeights.Bytes
import SharedWeights.Transport.Failure

namespace SharedWeights

/-- What a writer can do. -/
structure Sink.Limits where
  /-- How many bytes it takes at once; any number if nothing is said. -/
  maxWrite? : Option Nat
  /-- How many bytes it takes altogether; any number if nothing is said. -/
  capacity? : Option Nat
  /-- How it refuses what it has no room for; if nothing is said it takes no bytes. -/
  refusal? : Option Failure
  /-- How flushing fails, if it does. -/
  flushFailure? : Option Failure
deriving DecidableEq

/-- A writer without limits. -/
def Sink.Limits.unlimited : Sink.Limits := ⟨none, none, none, none⟩

/-- A writer, with what it has taken. -/
structure Sink where
  limits : Sink.Limits
  written : Array UInt8
  flushes : Nat
deriving DecidableEq

namespace Sink

/-- A writer that has taken nothing yet. -/
def fresh (limits : Limits) : Sink := ⟨limits, #[], 0⟩

/-- How many bytes there is room for; any number if nothing is said. -/
def room? (sink : Sink) : Option Nat :=
  sink.limits.capacity?.map fun capacity => capacity - sink.written.size

/-- What a write takes of the bytes that it is given. -/
def portion (sink : Sink) (bytes : Bytes) : Bytes :=
  let fitting := match sink.room? with
    | some room => bytes.take room
    | none => bytes
  match sink.limits.maxWrite? with
  | some maxWrite => fitting.take maxWrite
  | none => fitting

/-- Writes once; gives the number of bytes taken. -/
def write (sink : Sink) (bytes : Bytes) : Except Failure Nat × Sink :=
  match sink.room?, sink.limits.refusal? with
  | some 0, some refusal => (if bytes = [] then .ok 0 else .error refusal, sink)
  | _, _ =>
    let taken := sink.portion bytes
    (.ok taken.length, { sink with written := sink.written ++ taken })

/-- Writes until all bytes are taken. -/
def writeAll (sink : Sink) (bytes : Bytes) : Except Failure Unit × Sink :=
  if _nonempty : bytes = [] then (.ok (), sink)
  else
    match sink.write bytes with
    | (.error failure, sink) => (.error failure, sink)
    | (.ok 0, sink) => (.error .nothingWritten, sink)
    | (.ok (count + 1), sink) => sink.writeAll (bytes.drop (count + 1))
termination_by bytes.length
decreasing_by
  have positive := List.length_pos_iff.2 _nonempty
  rw [List.length_drop]
  omega

/-- Flushes. -/
def flush (sink : Sink) : Except Failure Unit × Sink :=
  let flushed := { sink with flushes := sink.flushes + 1 }
  match sink.limits.flushFailure? with
  | some failure => (.error failure, flushed)
  | none => (.ok (), flushed)

theorem writeAll_nil (sink : Sink) : sink.writeAll [] = (.ok (), sink) := by
  simp [writeAll]

end Sink

end SharedWeights
