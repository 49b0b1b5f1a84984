/-
**Frames on a stream.**

A frame is sent behind its length, which takes eight bytes. Whoever receives gives back whole frames
only: a stream may end before a frame, but not inside one, and no frame may be longer than a limit.

* `length_framed`: a frame takes eight bytes more on the stream;
* `byteCount_receive`: receiving a frame takes it and its length off the stream, and nothing else.
-/

import SharedWeights.Transport.Sink
import SharedWeights.Transport.Source

namespace SharedWeights

namespace Frame

/-- How many bytes the length of a frame takes. -/
def headerLength : Nat := 8

/-- The length of the longest frame that is received. -/
def maxLength : Nat := 0x40000000

/-- The length of a frame as it stands before it. -/
def header (frame : Bytes) : Bytes :=
  Bytes.bigEndian headerLength frame.length

/-- A frame as it stands on a stream. -/
def framed (frame : Bytes) : Bytes :=
  header frame ++ frame

theorem length_framed (frame : Bytes) : (framed frame).length = headerLength + frame.length := by
  rw [framed, header, List.length_append, Bytes.length_bigEndian]

end Frame

/-- Sends a frame: its length, itself, and a flush, each only after the one before. -/
def Sink.send (sink : Sink) (frame : Bytes) : Except Failure Unit × Sink :=
  match sink.writeAll (Frame.header frame) with
  | (.error failure, sink) => (.error failure, sink)
  | (.ok (), sink) =>
    match sink.writeAll frame with
    | (.error failure, sink) => (.error failure, sink)
    | (.ok (), sink) => sink.flush

namespace Source

/-- Receives the rest of a frame whose first bytes are `start`. -/
def receiveRest (start : Bytes) (source : Source) : Except Failure Bytes × Source :=
  match source.readExact (Frame.headerLength - start.length) with
  | (.error failure, left) => (.error failure.midFrame, left)
  | (.ok others, left) =>
    let length := Bytes.ofBigEndian (start ++ others)
    if Frame.maxLength < length then (.error (.oversized length Frame.maxLength), left)
    else
      match left.readExact length with
      | (.error failure, left) => (.error failure.midFrame, left)
      | (.ok frame, left) => (.ok frame, left)

/-- Receives a frame. Only before its first byte does the end of the stream count as such. -/
def receive (source : Source) : Except Failure Bytes × Source :=
  match source.read Frame.headerLength with
  | (.error failure, left) => (.error failure, left)
  | (.ok [], left) => (.error .endOfStream, left)
  | (.ok (first :: others), left) => receiveRest (first :: others) left

theorem byteCount_receiveRest {start frame : Bytes} {source left : Source}
    (given : receiveRest start source = (.ok frame, left)) :
    byteCount left + (Frame.headerLength - start.length) + frame.length = byteCount source := by
  unfold receiveRest at given
  split at given
  · cases given
  · next others middle header =>
    dsimp only at given
    split at given
    · cases given
    · split at given
      · cases given
      · next body last exact =>
        cases given
        have first := byteCount_readExact header
        have second := byteCount_readExact exact
        omega

theorem byteCount_receive {frame : Bytes} {source left : Source}
    (given : receive source = (.ok frame, left)) :
    byteCount left + (Frame.framed frame).length = byteCount source := by
  unfold receive at given
  split at given
  · cases given
  · cases given
  · next first others middle once =>
    have head := byteCount_read once
    have rest := byteCount_receiveRest given
    rw [Frame.length_framed]
    omega

/-- Receiving a frame leaves less to receive. -/
theorem byteCount_receive_lt {frame : Bytes} {source left : Source}
    (given : receive source = (.ok frame, left)) : byteCount left < byteCount source := by
  have taken := byteCount_receive given
  rw [Frame.length_framed, Frame.headerLength] at taken
  omega

/-- All the frames up to the first failure, that failure, and what is left then. -/
def receiveAll (source : Source) : List Bytes × Failure × Source :=
  match _given : source.receive with
  | (.error failure, left) => ([], failure, left)
  | (.ok frame, left) =>
    let (frames, failure, left) := receiveAll left
    (frame :: frames, failure, left)
termination_by source.byteCount
decreasing_by exact byteCount_receive_lt _given

end Source

end SharedWeights
