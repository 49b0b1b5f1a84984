/-
**Failures of a stream.**

A stream of bytes fails for reasons of the machine or of the network, of which it gives the kind and
some words. Four kinds are also raised here: the end of a stream, data that are no frame, a writer
that takes nothing more, and a server that is gone.

* `midFrame_of_endOfStream`: a stream that ends inside a frame has not simply ended;
* `midFrame_of_other`: any other failure is passed on as it is.
-/

namespace SharedWeights

/-- The kinds of failures that a stream can have. -/
inductive Failure.Kind where
  | notFound
  | permissionDenied
  | connectionRefused
  | connectionReset
  | hostUnreachable
  | networkUnreachable
  | connectionAborted
  | notConnected
  | addressInUse
  | addressNotAvailable
  | networkDown
  | brokenPipe
  | alreadyExists
  | wouldBlock
  | notADirectory
  | isADirectory
  | directoryNotEmpty
  | readOnlyFilesystem
  | staleNetworkFileHandle
  | invalidInput
  | invalidData
  | timedOut
  | writeZero
  | storageFull
  | notSeekable
  | quotaExceeded
  | fileTooLarge
  | resourceBusy
  | executableFileBusy
  | deadlock
  | crossesDevices
  | tooManyLinks
  | invalidFilename
  | argumentListTooLong
  | interrupted
  | unsupported
  | endOfStream
  | outOfMemory
  | other
deriving DecidableEq, Repr

/-- A failure: its kind, and what it is in words. -/
structure Failure where
  kind : Failure.Kind
  message : String
deriving DecidableEq, Repr

namespace Failure

/-- The stream has ended. -/
def endOfStream : Failure := ⟨.endOfStream, "unexpected end of file"⟩

/-- The writer takes nothing more. -/
def nothingWritten : Failure := ⟨.writeZero, "write zero"⟩

/-- The stream has ended inside a frame. -/
def endInsideFrame : Failure := ⟨.invalidData, "peer disconnected mid frame"⟩

/-- The frame announced is longer than any may be. -/
def oversized (length limit : Nat) : Failure :=
  ⟨.invalidData, s!"frame of {length} bytes exceeds the limit of {limit} bytes"⟩

/-- Nobody answers requests any more. -/
def serverGone : Failure := ⟨.brokenPipe, "the parameter server stopped serving requests"⟩

/-- What a failure means after the first byte of a frame. -/
def midFrame (failure : Failure) : Failure :=
  if failure.kind = .endOfStream then endInsideFrame else failure

theorem midFrame_of_endOfStream {failure : Failure} (ended : failure.kind = .endOfStream) :
    failure.midFrame = endInsideFrame :=
  if_pos ended

theorem midFrame_of_other {failure : Failure} (other : failure.kind ≠ .endOfStream) :
    failure.midFrame = failure :=
  if_neg other

theorem kind_midFrame_ne (failure : Failure) : failure.midFrame.kind ≠ .endOfStream := by
  unfold midFrame
  split
  · decide
  · assumption

end Failure

end SharedWeights
