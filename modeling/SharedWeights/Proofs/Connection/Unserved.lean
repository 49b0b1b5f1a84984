/-
**A connection without a server stays silent.**

A connection can lose its server in two places: when it hands a request over and nobody takes it, and
when it waits for a reply and the request was dropped. Either way its first request is its last. It
is only then that the connection learns of it, so that until a request is received nothing differs
from a connection that is served:

* `serve_of_lost`: the first request ends the connection, wherever the server was lost;
* `serve_of_lost_failed`: without a request it ends as it would with any server;
* `signals_of_given`: a request that is received is all that is taken off the reader;
* `silent_unserved`: all of this together.
-/

import SharedWeights.Proofs.Connection.Turns

namespace SharedWeights

/-- There is no server behind a connection that would answer: nobody takes its requests, or they are
taken and dropped. -/
inductive Counterpart.Lost : Counterpart → Prop
  | gone : Counterpart.gone.Lost
  | silent : Counterpart.silent.Lost

/-- The requests that still get away from a connection whose server is lost. -/
def Counterpart.taken (counterpart : Counterpart) (frame : Bytes) : List Bytes :=
  match counterpart with
  | .gone => []
  | _ => [frame]

theorem Source.signals_of_given {source left : Source} {frame : Bytes}
    (given : source.receive = (.ok frame, left)) :
    source.signals = (Frame.framed frame).map .byte ++ left.signals := by
  have outcome := source.outcome_receive
  rw [given] at outcome
  exact (Signal.signals_of_received outcome).2

namespace Connection

section Lost

variable {counterpart : Counterpart} {source left : Source}

/-- **The first request ends the connection, wherever the server was lost.** -/
theorem serve_of_lost (lost : counterpart.Lost) {frame : Bytes}
    (given : source.receive = (.ok frame, left)) (sink : Sink) :
    serve source sink counterpart =
      ⟨.error .serverGone, left, sink, counterpart, counterpart.taken frame, []⟩ := by
  cases lost with
  | gone => exact serve_of_gone given sink
  | silent => exact serve_of_silent given sink

/-- Without a request the connection ends as it would with any server. -/
theorem serve_of_lost_failed {failure : Failure} (given : source.receive = (.error failure, left))
    (sink : Sink) (counterpart other : Counterpart) :
    serve source sink counterpart =
      { serve source sink other with counterpart := counterpart } := by
  rw [serve_of_failed given, serve_of_failed given]

end Lost

end Connection

/-- **A connection without a server stays silent**, over any reader and with any writer: it writes
nothing and does not flush. If it receives a request, it ends by saying that the server is gone, and
has taken that one frame off the reader and no byte behind it. If it receives none, it ends just as
it would with a server, whatever the store. -/
theorem silent_unserved (source : Source) (sink : Sink) {counterpart : Counterpart}
    (lost : counterpart.Lost) :
    let ending := Connection.serve source sink counterpart
    ending.sink = sink ∧
    (∀ frame, source.receive.1 = .ok frame →
      ending.outcome =
          .error ⟨.brokenPipe, "the parameter server stopped serving requests"⟩ ∧
        ending.forwarded = counterpart.taken frame ∧ ending.events = [] ∧
        source.signals = (Frame.framed frame).map .byte ++ ending.source.signals ∧
        source.bytes = Frame.framed frame ++ ending.source.bytes) ∧
    ∀ failure store, source.receive.1 = .error failure →
      ending = { Connection.serve source sink (.serving store) with counterpart := counterpart } := by
  intro ending
  rcases given : source.receive with ⟨failure | frame, left⟩
  · have ended : ending = ⟨_, _, _, _, _, _⟩ := Connection.serve_of_failed given counterpart
    refine ⟨by rw [ended], ?_, ?_⟩
    · intro frame received
      cases received
    · intro other store _
      exact Connection.serve_of_lost_failed given sink counterpart (.serving store)
  · have ended : ending = ⟨_, _, _, _, _, _⟩ := Connection.serve_of_lost lost given sink
    refine ⟨by rw [ended], ?_, ?_⟩
    · intro received same
      cases same
      have signals := Source.signals_of_given given
      have bytes := congrArg Signal.bytes signals
      rw [Signal.bytes_append, Signal.bytes_map_byte, Signal.bytes_signals,
        Signal.bytes_signals] at bytes
      rw [ended]
      exact ⟨rfl, rfl, rfl, signals, bytes⟩
    · intro failure store failed
      cases failed

/-- An empty frame in two pieces with a byte behind it; and a frame that breaks off. -/
theorem silent_unserved_of_empty :
    let source : Source := [.piece [0, 0, 0], .piece [0, 0, 0, 0, 0, 9]]
    let torn : Source := [.piece [0, 0, 0], .ended]
    let sink := Sink.fresh .unlimited
    let gone := Connection.serve source sink .gone
    let silent := Connection.serve source sink .silent
    source.receive.1 = .ok [] ∧ gone.sink = sink ∧
      gone.outcome = .error ⟨.brokenPipe, "the parameter server stopped serving requests"⟩ ∧
      gone.source.bytes = [9] ∧ silent.sink = sink ∧ silent.forwarded = [[]] ∧
      torn.receive.1 = .error .endInsideFrame ∧
      Connection.serve torn sink .gone = { Connection.serve torn sink
        (.serving Settings.standard.store) with counterpart := .gone } := by
  intro source torn sink gone silent
  have arrives : source.signals = (Frame.framed []).map .byte ++ [.byte 9] := rfl
  have received : source.receive.1 = .ok [] :=
    (Source.receive_of_outcome arrives (.whole (by decide) [.byte 9])).1
  obtain ⟨kept, served, -⟩ := silent_unserved source sink .gone
  obtain ⟨outcome, -, -, -, bytes⟩ := served [] received
  obtain ⟨keptSilent, servedSilent, -⟩ := silent_unserved source sink .silent
  obtain ⟨-, forwarded, -⟩ := servedSilent [] received
  have parted : Frame.framed [] ++ [9] = Frame.framed [] ++ gone.source.bytes := bytes
  have behind : gone.source.bytes = [9] := (List.append_cancel_left parted).symm
  have begun : Frame.Begun [0, 0, 0] := by decide
  have breaks : torn.signals = [0, 0, 0].map .byte ++ [.ended] := rfl
  have broken : torn.receive.1 = .error .endInsideFrame :=
    (Source.receive_of_outcome breaks (.cut begun (.ended []))).1
  have same := (silent_unserved torn sink .gone).2.2 _ Settings.standard.store broken
  exact ⟨received, kept, outcome, behind, keptSilent, forwarded, broken, same⟩

end SharedWeights
