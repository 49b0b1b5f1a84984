/-
**What a schema accepts, field by field.**

A field reads the next value and looks at it. So it takes certain objects for certain things
(`Takes`), and a schema accepts a frame exactly if each field in turn takes the object that stands
there:

* `field_bind`: a field reads a spelled value and leaves the rest to the next field;
* `field_bind_of_empty`: where nothing is left, a field fails with the number of values before it;
* `finish_bind_of_more`: where something is left, the end fails with that number;
* `field_bind_eq`: a field is the next value, then the look at it, then what follows;
* `field_bind_ok_iff`: it succeeds exactly on an object that it takes, in front of a rest that the
  other fields accept;
* `field_bind_error`: it fails in one of four ways: nothing is left, or no value stands there
  (`field_bind_of_malformed`), or not the one that is wanted (`field_bind_of_refused`), or what
  follows fails;
* `finish_bind_ok_iff`: the end succeeds exactly if nothing is left.
-/

import SharedWeights.Proofs.Frame.Codec

namespace SharedWeights

open MessagePack (Spells)

theorem Cursor.next_eq_ok {cursor moved : Cursor} {value : Value}
    (given : cursor.next = (.ok value, moved)) :
    ∃ object rest, Spells value object ∧ cursor.rest = object ++ rest ∧
      moved = ⟨rest, cursor.index + 1⟩ := by
  unfold Cursor.next at given
  split at given
  · cases given
  · split at given
    · next read rest found =>
      cases given
      obtain ⟨object, spells, same⟩ := MessagePack.spells_of_read found
      exact ⟨object, rest, spells, same, rfl⟩
    · cases given

theorem Cursor.next_eq_error {cursor moved : Cursor} {reason : DecodeError}
    (given : cursor.next = (.error reason, moved)) :
    reason = .exhausted cursor.index ∨
      ∃ malformation, (MessagePack.read cursor.rest).1 = .error malformation ∧
        reason = .malformed cursor.index malformation := by
  unfold Cursor.next at given
  split at given
  · cases given
    exact .inl rfl
  · split at given
    · cases given
    · next malformation rest found =>
      cases given
      exact .inr ⟨malformation, congrArg Prod.fst found, rfl⟩

namespace Schema

/-- **A field reads a spelled value** and goes on with what follows it. -/
theorem field_bind {Wanted Result : Type} {look : Value → Except DecodeError Wanted}
    {next : Wanted → Schema Result} {value : Value} {bytes : Bytes} {wanted : Wanted}
    (spells : Spells value bytes) (looked : look value = .ok wanted) (rest : Bytes) (index : Nat) :
    (field look >>= next) ⟨bytes ++ rest, index⟩ = next wanted ⟨rest, index + 1⟩ := by
  have once : field look ⟨bytes ++ rest, index⟩ = .ok (wanted, ⟨rest, index + 1⟩) := by
    rw [field, Cursor.pull, Cursor.next_of_spells spells]
    dsimp only [Except.bind]
    rw [looked]
  show Except.bind (field look ⟨bytes ++ rest, index⟩) _ = _
  rw [once]
  rfl

theorem field_bind_of_empty {Wanted Result : Type} (look : Value → Except DecodeError Wanted)
    (next : Wanted → Schema Result) (index : Nat) :
    (field look >>= next) ⟨[], index⟩ = .error (.exhausted index) := rfl

/-- A field fails on a spelled value that is not what is wanted, whatever follows it. -/
theorem field_bind_of_refused {Wanted Result : Type} {look : Value → Except DecodeError Wanted}
    {value : Value} {bytes : Bytes} {reason : DecodeError} (spells : Spells value bytes)
    (refused : look value = .error reason) (next : Wanted → Schema Result) (rest : Bytes)
    (index : Nat) : (field look >>= next) ⟨bytes ++ rest, index⟩ = .error reason := by
  have once : field look ⟨bytes ++ rest, index⟩ = .error reason := by
    rw [field, Cursor.pull, Cursor.next_of_spells spells]
    dsimp only [Except.bind]
    rw [refused]
  show Except.bind (field look ⟨bytes ++ rest, index⟩) _ = _
  rw [once]
  rfl

theorem finish_bind {Result : Type} (next : Unit → Schema Result) (index : Nat) :
    (finish >>= next) ⟨[], index⟩ = next () ⟨[], index⟩ := rfl

theorem finish_bind_of_more {Result : Type} {rest : Bytes} (more : rest ≠ [])
    (next : Unit → Schema Result) (index : Nat) :
    (finish >>= next) ⟨rest, index⟩ = .error (.trailingValues index) := by
  cases rest with
  | nil => exact absurd rfl more
  | cons first others => rfl

/-- The objects that a field takes for what is wanted. -/
def Takes {Wanted : Type} (look : Value → Except DecodeError Wanted) (wanted : Wanted)
    (object : Bytes) : Prop :=
  ∃ value, Spells value object ∧ look value = .ok wanted

/-- A field is the next value, then the look at it, then what follows. -/
theorem field_bind_eq {Wanted Result : Type} (look : Value → Except DecodeError Wanted)
    (next : Wanted → Schema Result) (cursor : Cursor) :
    (field look >>= next) cursor =
      match cursor.next with
      | (.error reason, _) => .error reason
      | (.ok value, moved) =>
        match look value with
        | .error reason => .error reason
        | .ok wanted => next wanted moved := by
  show Except.bind (field look cursor) _ = _
  unfold field Cursor.pull
  rcases cursor.next with ⟨reason | value, moved⟩
  · rfl
  · cases looked : look value <;> simp only [Except.bind, looked]

/-- A field fails on bytes that are no value. -/
theorem field_bind_of_malformed {Wanted Result : Type} {frame : Bytes}
    {malformation : MessagePack.Malformation} (something : frame ≠ [])
    (unreadable : (MessagePack.read frame).1 = .error malformation)
    (look : Value → Except DecodeError Wanted) (next : Wanted → Schema Result) (index : Nat) :
    (field look >>= next) ⟨frame, index⟩ = .error (.malformed index malformation) := by
  rw [field_bind_eq, Cursor.next, if_neg something]
  rcases given : MessagePack.read frame with ⟨cause | value, left⟩
  · rw [given] at unreadable
    cases unreadable
    rfl
  · rw [given] at unreadable
    cases unreadable

theorem field_bind_ok_iff {Wanted Result : Type} {look : Value → Except DecodeError Wanted}
    {next : Wanted → Schema Result} {frame : Bytes} {index : Nat} {result : Result × Cursor} :
    (field look >>= next) ⟨frame, index⟩ = .ok result ↔
      ∃ wanted object rest, frame = object ++ rest ∧ Takes look wanted object ∧
        next wanted ⟨rest, index + 1⟩ = .ok result := by
  constructor
  · intro read
    rw [field_bind_eq] at read
    split at read
    · cases read
    · next value moved given =>
      obtain ⟨object, rest, spells, same, rfl⟩ := Cursor.next_eq_ok given
      split at read
      · cases read
      · next wanted looked => exact ⟨wanted, object, rest, same, ⟨value, spells, looked⟩, read⟩
  · rintro ⟨wanted, object, rest, rfl, ⟨value, spells, looked⟩, onward⟩
    rw [field_bind spells looked]
    exact onward

/-- A field fails on the frame, or the look at its value fails, or what follows it. -/
theorem field_bind_error {Wanted Result : Type} {look : Value → Except DecodeError Wanted}
    {next : Wanted → Schema Result} {frame : Bytes} {index : Nat} {reason : DecodeError}
    (failed : (field look >>= next) ⟨frame, index⟩ = .error reason) :
    reason = .exhausted index ∨
    (∃ malformation, (MessagePack.read frame).1 = .error malformation ∧
      reason = .malformed index malformation) ∨
    (∃ value object rest, Spells value object ∧ frame = object ++ rest ∧
      look value = .error reason) ∨
    ∃ wanted object rest, frame = object ++ rest ∧ Takes look wanted object ∧
      next wanted ⟨rest, index + 1⟩ = .error reason := by
  rw [field_bind_eq] at failed
  split at failed
  · next given =>
    cases failed
    rcases Cursor.next_eq_error given with rfl | malformed
    · exact .inl rfl
    · exact .inr (.inl malformed)
  · next value moved given =>
    obtain ⟨object, rest, spells, same, rfl⟩ := Cursor.next_eq_ok given
    split at failed
    · next looked =>
      cases failed
      exact .inr (.inr (.inl ⟨value, object, rest, spells, same, looked⟩))
    · next wanted looked =>
      exact .inr (.inr (.inr ⟨wanted, object, rest, same, ⟨value, spells, looked⟩, failed⟩))

theorem finish_bind_ok_iff {Result : Type} {next : Unit → Schema Result} {frame : Bytes}
    {index : Nat} {result : Result × Cursor} :
    (finish >>= next) ⟨frame, index⟩ = .ok result ↔
      frame = [] ∧ next () ⟨[], index⟩ = .ok result := by
  cases frame with
  | nil => exact (and_iff_right rfl).symm
  | cons first rest =>
    constructor
    · intro read
      cases read
    · rintro ⟨nothing, -⟩
      cases nothing

theorem decode_eq_ok_iff {Wanted : Type} {schema : Schema Wanted} {frame : Bytes}
    {wanted : Wanted} :
    schema.decode frame = .ok wanted ↔ ∃ left, schema ⟨frame, 0⟩ = .ok (wanted, left) := by
  unfold decode Cursor.ofBytes
  cases schema ⟨frame, 0⟩ with
  | error reason => simp
  | ok result =>
    obtain ⟨given, left⟩ := result
    simp

theorem decode_eq_error_iff {Wanted : Type} {schema : Schema Wanted} {frame : Bytes}
    {reason : DecodeError} :
    schema.decode frame = .error reason ↔ schema ⟨frame, 0⟩ = .error reason := by
  unfold decode Cursor.ofBytes
  cases schema ⟨frame, 0⟩ <;> simp

end Schema

end SharedWeights
