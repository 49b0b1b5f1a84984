/-
**A session that is cut anywhere.**

A worker sends its requests and the connection is lost at some byte. What the server has received by
then are the requests that lie whole before the cut, and a piece of another is never looked at: the
weights, the replies and the end of the connection tell of the whole requests and of nothing else.

* `serve_front`: a connection over the first bytes of a stream of frames;
* `receiveAll_replies`: replies to typed requests read back as the responses that were meant;
* `serve_cut`: the whole session.
-/

import SharedWeights.Proofs.Connection.Lockstep
import SharedWeights.Proofs.Server.Ledger
import SharedWeights.Proofs.Transport.Delivery

namespace SharedWeights

namespace Connection

/-- **A connection over the first bytes of a stream of frames** whose replies can all be sent. -/
theorem serve_front {pieces frames : List Bytes} (nonempty : ∀ piece ∈ pieces, piece ≠ [])
    (allowed : ∀ frame ∈ frames, frame.length ≤ Frame.maxLength) {cut : Nat}
    (arrived : pieces.flatten = (Frame.stream frames).take cut) {sink : Sink}
    (unfailing : sink.limits.Unfailing) (store : Store) :
    let whole := frames.take (Frame.wholeWithin cut frames)
    let ending := serve (pieces.map .piece) sink (.serving store)
    ending.outcome = receiveOutcome (Frame.verdict cut frames) ∧
      ending.counterpart = .serving (store.after whole) ∧ ending.forwarded = whole ∧
      ending.sink.written.toList = sink.written.toList ++ Frame.stream (store.replies whole) := by
  obtain ⟨left, -, given⟩ := Source.receiveAll_front nonempty allowed arrived
  have sent := Sink.sendEach_of_unfailing sink unfailing
    (store.replies (Source.receiveAll (pieces.map .piece)).1)
  obtain ⟨outcome, counterpart, forwarded, written⟩ :=
    serve_of_all_sent (pieces.map .piece) sink store sent
  have kept := Sink.written_sendEach_of_ok sent
  rw [given] at outcome counterpart forwarded written kept
  intro whole ending
  refine ⟨outcome, counterpart, forwarded, ?_⟩
  rw [show ending.sink = _ from written]
  exact kept

end Connection

/-- Replies that arrive whole read back as the responses. -/
theorem Source.receiveAll_replies {responses : List Response}
    (short : ∀ response ∈ responses, response.encode.length ≤ Frame.maxLength)
    {parts : List Bytes} (nonempty : ∀ part ∈ parts, part ≠ [])
    (arrived : parts.flatten = Frame.stream (responses.map Response.encode)) :
    let received := receiveAll (parts.map .piece)
    received.1.map Response.decode = responses.map .ok ∧ received.2.1 = .endOfStream ∧
      received.2.2.signals = [] := by
  have allowed : ∀ frame ∈ responses.map Response.encode, frame.length ≤ Frame.maxLength :=
    List.forall_mem_map.2 short
  obtain ⟨left, nothing, given⟩ := receiveAll_stream nonempty allowed arrived
  rw [given]
  refine ⟨?_, rfl, nothing⟩
  show (responses.map Response.encode).map Response.decode = _
  rw [List.map_map]
  exact List.map_congr_left fun response among =>
    Response.decode_encode_of_le (short response among)

theorem Connection.receiveOutcome_verdict {cut : Nat} {frames : List Bytes}
    (within : cut ≤ Frame.total frames) :
    (Frame.IsBoundary cut frames → receiveOutcome (Frame.verdict cut frames) = .ok ()) ∧
    (¬ Frame.IsBoundary cut frames →
      ∃ failure, receiveOutcome (Frame.verdict cut frames) = .error failure ∧
        failure.kind = .invalidData) := by
  constructor
  · intro boundary
    rw [(Frame.verdict_eq_endOfStream_iff within).2 boundary]
    rfl
  · intro inside
    have cutShort : Frame.verdict cut frames = .endInsideFrame := by
      have goesOn := mt (Frame.verdict_eq_endOfStream_iff within).1 inside
      unfold Frame.verdict at goesOn ⊢
      split at goesOn
      · exact absurd rfl goesOn
      · next differs => exact if_neg differs
    rw [cutShort]
    exact ⟨.endInsideFrame, rfl, rfl⟩

/-- **A session that is cut anywhere.** A worker sends typed requests, and of the bytes that it has
sent those before the cut arrive in any pieces. Let the whole requests be those that lie before the
cut with all their bytes. Then the store is the one of a ledger after the whole requests; what the
server has written reads back, however it arrives, as the ledger's responses to them and nothing
else; and the connection ends well if the cut is on a boundary of frames, and else with invalid
data. -/
theorem serve_cut (settings : Settings) (requests : List Request)
    (typed : ∀ request ∈ requests, request.Typed)
    (allowed : ∀ request ∈ requests, request.encode.length ≤ Frame.maxLength)
    (worker server : Sink.Limits) (asking : worker.Unfailing) (replying : server.Unfailing)
    (cut : Nat)
    (within : cut ≤ ((Sink.fresh worker).sendEach (requests.map Request.encode)).2.written.size)
    (pieces : List Bytes) (nonempty : ∀ piece ∈ pieces, piece ≠ [])
    (arrived : pieces.flatten =
      ((Sink.fresh worker).sendEach (requests.map Request.encode)).2.written.toList.take cut) :
    let frames := requests.map Request.encode
    let whole := requests.take (Frame.wholeWithin cut frames)
    let ledger := Ledger.opened settings
    let ending := Connection.serve (pieces.map .piece) (Sink.fresh server) (.serving settings.store)
    ending.counterpart = .serving (ledger.after whole).store ∧
    ending.forwarded = whole.map Request.encode ∧
    (∀ parts : List Bytes, (∀ part ∈ parts, part ≠ []) →
        parts.flatten = ending.sink.written.toList →
      let received := Source.receiveAll (parts.map .piece)
      received.1.map Response.decode = (ledger.responses whole).map .ok ∧
        received.2.1 = .endOfStream ∧ received.2.2.signals = []) ∧
    (Frame.IsBoundary cut frames → ending.outcome = .ok ()) ∧
    (¬ Frame.IsBoundary cut frames →
      ∃ failure, ending.outcome = .error failure ∧ failure.kind = .invalidData) := by
  intro frames whole ledger ending
  have stream : ((Sink.fresh worker).sendEach frames).2.written.toList = Frame.stream frames := by
    rw [Sink.toList_written_fresh asking.portions, asking.room]
  have total : cut ≤ Frame.total frames := by
    rw [← Frame.length_stream, ← stream, Array.length_toList]
    exact within
  have short : ∀ frame ∈ frames, frame.length ≤ Frame.maxLength :=
    List.forall_mem_map.2 allowed
  have front : frames.take (Frame.wholeWithin cut frames) = whole.map Request.encode :=
    (List.map_take ..).symm
  have among : ∀ request ∈ whole, request ∈ requests := fun request member =>
    List.mem_of_mem_take member
  have read : ∀ request ∈ whole, Request.decode request.encode = .ok request :=
    fun request member => Request.decode_encode_of_typed (typed _ (among _ member))
      (allowed _ (among _ member))
  obtain ⟨outcome, counterpart, forwarded, written⟩ :=
    Connection.serve_front nonempty short (arrived.trans (congrArg _ stream))
      (show (Sink.fresh server).limits.Unfailing from replying) settings.store
  rw [front, ← Ledger.store_opened] at counterpart written
  rw [front] at forwarded
  rw [Ledger.after_encode read] at counterpart
  rw [Store.replies, Ledger.responses_encode read] at written
  obtain ⟨onBoundary, offBoundary⟩ := Connection.receiveOutcome_verdict total
  refine ⟨counterpart, forwarded, fun parts something back => ?_, fun boundary => ?_,
    fun inside => ?_⟩
  · exact Source.receiveAll_replies (Ledger.length_responses_le (Ledger.short_opened settings)
      fun request member => allowed _ (among _ member)) something (back.trans written)
  · exact outcome.trans (onBoundary boundary)
  · obtain ⟨failure, ended, kind⟩ := offBoundary inside
    exact ⟨failure, outcome.trans ended, kind⟩

/-- A gradient, and a message of which no more than three bytes of its length arrive. -/
theorem serve_cut_in_header :
    let gradient : Request := .gradients ⟨"a", 3, [⟨0x3f800000⟩]⟩
    let message : Request := .other "a" "BYE"
    let pieces : List Bytes :=
      [[0, 0, 0], [0, 0, 0, 0, 19, 0xa1, 0x61, 0xa9, 0x47, 0x52, 0x41, 0x44, 0x49, 0x45, 0x4e],
        [0x54, 0x53, 3, 0xc4, 4, 0, 0, 0x80, 0x3f, 0, 0, 0]]
    let ending := Connection.serve (pieces.map .piece) (Sink.fresh .unlimited)
      (.serving Settings.standard.store)
    (∀ request ∈ [gradient, message], request.Typed) ∧
      (∀ request ∈ [gradient, message], request.encode.length ≤ Frame.maxLength) ∧
      Sink.Limits.unlimited.Unfailing ∧
      30 ≤ ((Sink.fresh .unlimited).sendEach
        ([gradient, message].map Request.encode)).2.written.size ∧
      (∀ piece ∈ pieces, piece ≠ []) ∧
      pieces.flatten = ((Sink.fresh .unlimited).sendEach
        ([gradient, message].map Request.encode)).2.written.toList.take 30 ∧
      ending.forwarded = [gradient.encode] ∧
      ∃ failure, ending.outcome = .error failure ∧ failure.kind = .invalidData := by
  intro gradient message pieces ending
  have typed : ∀ request ∈ [gradient, message], request.Typed := by
    intro request member
    rcases List.mem_cons.1 member with rfl | member
    · exact show (3 : UInt64).toNat < 0x8000000000000000 by decide
    · cases List.mem_singleton.1 member
      exact show "BYE" ≠ Request.gradientsType by decide
  have allowed : ∀ request ∈ [gradient, message], request.encode.length ≤ Frame.maxLength := by
    decide
  have unfailing : Sink.Limits.unlimited.Unfailing := ⟨by decide, rfl, rfl⟩
  have stream : ((Sink.fresh .unlimited).sendEach
      ([gradient, message].map Request.encode)).2.written.toList =
        Frame.stream ([gradient, message].map Request.encode) :=
    Sink.toList_written_fresh unfailing.portions _
  have within : 30 ≤ ((Sink.fresh .unlimited).sendEach
      ([gradient, message].map Request.encode)).2.written.size := by
    rw [← Array.length_toList, stream]
    decide
  have nonempty : ∀ piece ∈ pieces, piece ≠ [] := by decide
  have arrived : pieces.flatten = ((Sink.fresh .unlimited).sendEach
      ([gradient, message].map Request.encode)).2.written.toList.take 30 := by
    rw [stream]
    decide
  have inside : ¬ Frame.IsBoundary 30 ([gradient, message].map Request.encode) := by decide
  obtain ⟨-, forwarded, -, -, ended⟩ := serve_cut .standard [gradient, message] typed allowed
    .unlimited .unlimited unfailing unfailing 30 within pieces nonempty arrived
  have single : Frame.wholeWithin 30 ([gradient, message].map Request.encode) = 1 := by decide
  rw [single] at forwarded
  exact ⟨typed, allowed, unfailing, within, nonempty, arrived, forwarded, ended inside⟩

end SharedWeights
