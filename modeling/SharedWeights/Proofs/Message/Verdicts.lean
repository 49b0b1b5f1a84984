/-
**Which verdicts on a request are final.**

Whoever reads a request before all of it has arrived can be wrong in two ways only: a value may be
missing that is still to come, and an object may be cut that goes on. Every other error is about
bytes that are there, and no byte behind them changes it:

* `local_read`: what reading gives, and how far it reads, do not depend on what follows the bytes
  read;
* `Schema.decisive_field`, `Schema.decisive_finish`: so it is with the errors of each field and of
  the end, and therefore of a schema made of them;
* `Request.decode_append_of_settled`: so it is with a request;
* `Request.verdict_settled`: all verdicts on a request, and what more bytes make of them.
-/

import SharedWeights.Proofs.Message.Extent

namespace SharedWeights

/-! ### Objects -/

namespace MessagePack

/-- Whether the bytes end inside the object. -/
def Malformation.IsCut : Malformation → Prop
  | .fieldCut | .bodyCut => True
  | .reserved | .compound _ | .tooLarge _ | .other _ => False

instance : (malformation : Malformation) → Decidable malformation.IsCut
  | .fieldCut | .bodyCut => inferInstanceAs (Decidable True)
  | .reserved | .compound _ | .tooLarge _ | .other _ => inferInstanceAs (Decidable False)

/-- A reading that did not fail for the end of the bytes. -/
def Settled (reading : Reading) : Prop :=
  ∀ malformation, reading.1 = .error malformation → ¬ malformation.IsCut

/-- A reader that does not look behind what it takes. -/
def Local (reader : Bytes → Reading) : Prop :=
  ∀ bytes tail, Settled (reader bytes) →
    reader (bytes ++ tail) = ((reader bytes).1, (reader bytes).2 ++ tail)

/-- A reader that takes nothing. -/
theorem local_judged (judged : Except Malformation Value) : Local fun rest => (judged, rest) :=
  fun _ _ _ => rfl

theorem local_withNumber {width : Nat} {next : Nat → Bytes → Reading}
    (onward : ∀ number, Local (next number)) : Local fun bytes => withNumber width bytes next := by
  intro bytes tail settled
  cases cut : Bytes.splitExact? width bytes with
  | none =>
    have failed : withNumber width bytes next = (.error .fieldCut, []) := by rw [withNumber, cut]
    exact absurd trivial (settled .fieldCut (congrArg Prod.fst failed))
  | some parts =>
    obtain ⟨field, rest⟩ := parts
    obtain ⟨rfl, rfl⟩ := Bytes.splitExact?_eq_some_iff.1 cut
    dsimp only at settled ⊢
    rw [withNumber_append] at settled
    rw [List.append_assoc, withNumber_append, withNumber_append]
    exact onward _ rest tail settled

theorem local_withBody (value : Bytes → Value) (length : Nat) : Local (withBody value length) := by
  intro bytes tail settled
  cases cut : Bytes.splitExact? length bytes with
  | none =>
    have failed : withBody value length bytes = (.error .bodyCut, []) := by rw [withBody, cut]
    exact absurd trivial (settled .bodyCut (congrArg Prod.fst failed))
  | some parts =>
    obtain ⟨body, rest⟩ := parts
    obtain ⟨rfl, rfl⟩ := Bytes.splitExact?_eq_some_iff.1 cut
    rw [List.append_assoc, withBody_append, withBody_append]

theorem local_readBehind (format : Format) : Local fun rest => readBehind rest format := by
  cases format with
  | positiveFixint | negativeFixint | nil | bool | reserved | fixarray | fixmap | fixext =>
    exact local_judged _
  | uint | int | float32 | float64 | array | map | ext =>
    exact local_withNumber fun _ => local_judged _
  | fixstr => exact local_withBody _ _
  | str | bin => exact local_withNumber (local_withBody _)

/-- **Reading does not look behind an object.** -/
theorem local_read : Local read := by
  intro bytes tail settled
  cases bytes with
  | nil => exact absurd trivial (settled .fieldCut rfl)
  | cons first rest => exact local_readBehind (Format.ofByte first) rest tail settled

/-- What is no value for another reason than its end is none with more behind it. -/
theorem read_append_of_settled {bytes : Bytes} {malformation : Malformation}
    (unreadable : (read bytes).1 = .error malformation) (uncut : ¬ malformation.IsCut)
    (tail : Bytes) : (read (bytes ++ tail)).1 = .error malformation := by
  have settled : Settled (read bytes) := by
    intro other found
    rw [unreadable] at found
    cases found
    exact uncut
  rw [local_read bytes tail settled]
  exact unreadable

end MessagePack

/-! ### Fields -/

/-- An error about bytes that are there: neither is a value missing, nor is an object cut. -/
def DecodeError.Settled : DecodeError → Prop
  | .exhausted _ => False
  | .malformed _ malformation => ¬ malformation.IsCut
  | .unexpectedType _ _ _ | .invalidField _ _ | .trailingValues _ => True

namespace Schema

/-- A schema whose settled errors stay, whatever follows. -/
def Decisive {Result : Type} (schema : Schema Result) : Prop :=
  ∀ rest tail index reason, schema ⟨rest, index⟩ = .error reason → reason.Settled →
    schema ⟨rest ++ tail, index⟩ = .error reason

theorem decisive_pure {Result : Type} (result : Result) : Decisive (pure result) := by
  intro rest tail index reason failed
  cases failed

theorem decisive_field {Wanted Result : Type} {look : Value → Except DecodeError Wanted}
    {next : Wanted → Schema Result} (onward : ∀ wanted, Decisive (next wanted)) :
    Decisive (field look >>= next) := by
  intro rest tail index reason failed settled
  rcases field_bind_error failed with rfl | ⟨malformation, unreadable, rfl⟩ |
    ⟨value, object, left, spells, rfl, refused⟩ |
    ⟨wanted, object, left, rfl, ⟨value, spells, looked⟩, failed⟩
  · exact settled.elim
  · -- from no bytes at all an object is cut, so there are some
    have something : rest ≠ [] := by
      rintro rfl
      cases unreadable
      exact settled trivial
    have same := MessagePack.read_append_of_settled unreadable settled tail
    exact field_bind_of_malformed (List.append_ne_nil_of_left_ne_nil something tail) same look next
      index
  · rw [List.append_assoc]
    exact field_bind_of_refused spells refused next (left ++ tail) index
  · rw [List.append_assoc, field_bind spells looked]
    exact onward wanted left tail (index + 1) reason failed settled

theorem decisive_finish {Result : Type} (result : Result) :
    Decisive (finish >>= fun _ => pure result) := by
  intro rest tail index reason failed settled
  by_cases nothing : rest = []
  · rw [nothing, finish_bind] at failed
    cases failed
  · rw [finish_bind_of_more nothing] at failed
    rw [finish_bind_of_more (List.append_ne_nil_of_left_ne_nil nothing tail), failed]

end Schema

/-! ### Requests -/

namespace Request

theorem decisive_schema : Schema.Decisive schema := by
  refine Schema.decisive_field fun workerId => Schema.decisive_field fun messageType => ?_
  split
  · exact Schema.decisive_field fun epoch => Schema.decisive_field fun gradient =>
      Schema.decisive_finish _
  · exact Schema.decisive_pure _

/-- **A settled error stays**, whatever follows the frame. -/
theorem decode_append_of_settled {frame : Bytes} {reason : DecodeError}
    (failed : decode frame = .error reason) (settled : reason.Settled) (tail : Bytes) :
    decode (frame ++ tail) = .error reason :=
  Schema.decode_eq_error_iff.2
    (decisive_schema frame tail 0 reason (Schema.decode_eq_error_iff.1 failed) settled)

/-- **More bytes never change a settled verdict.** A message that is no gradient, and an error that
is settled, stay what they are. A gradient becomes a frame with something behind it. So if more
bytes make a request of a frame that was none, or only change what is wrong with it, then a value
was missing there or an object was cut. -/
theorem verdict_settled (frame : Bytes) {tail : Bytes} (more : tail ≠ []) :
    (∀ workerId messageType, decode frame = .ok (.other workerId messageType) →
      decode (frame ++ tail) = .ok (.other workerId messageType)) ∧
    (∀ reason, decode frame = .error reason → reason.Settled →
      decode (frame ++ tail) = .error reason) ∧
    (∀ report, decode frame = .ok (.gradients report) →
      decode (frame ++ tail) = .error (.trailingValues 4)) ∧
    ∀ reason, decode frame = .error reason → decode (frame ++ tail) ≠ .error reason →
      (∃ index, reason = .exhausted index) ∨
        ∃ index malformation, reason = .malformed index malformation ∧ malformation.IsCut := by
  refine ⟨fun workerId messageType read => decode_append_of_other read tail,
    fun reason failed settled => decode_append_of_settled failed settled tail,
    fun report read => decode_append_of_gradients read more, fun reason failed changed => ?_⟩
  have unsettled : ¬ reason.Settled :=
    fun settled => changed (decode_append_of_settled failed settled tail)
  cases reason with
  | exhausted index => exact .inl ⟨index, rfl⟩
  | malformed index malformation =>
    exact .inr ⟨index, malformation, rfl, Decidable.of_not_not unsettled⟩
  | unexpectedType | invalidField | trailingValues => exact absurd trivial unsettled

/-- A message and a byte that begins no object, both with more behind them; and a gradient that is
cut in its numbers, goes on to its end and then beyond. -/
theorem verdict_settled_each_kind :
    let tail : Bytes := [0x80, 0xff]
    let front : Bytes := [0xa1, 0x77, 0xa9, 0x47, 0x52, 0x41, 0x44, 0x49, 0x45, 0x4e, 0x54, 0x53,
      3, 0xc4, 4, 0, 0]
    let report : GradientReport := ⟨"w", 3, [⟨0xff800000⟩]⟩
    let cut : DecodeError := .malformed 3 .bodyCut
    let unreadable : DecodeError := .malformed 0 .reserved
    tail ≠ [] ∧
    (decode [0xa1, 0x77, 0xa0] = .ok (.other "w" "") ∧
      decode ([0xa1, 0x77, 0xa0] ++ tail) = .ok (.other "w" "")) ∧
    (decode [0xc1] = .error unreadable ∧ unreadable.Settled ∧
      decode ([0xc1] ++ tail) = .error unreadable) ∧
    (decode front = .error cut ∧ decode (front ++ tail) = .ok (.gradients report) ∧
      decode (front ++ tail ++ tail) = .error (.trailingValues 4)) ∧
    ((∃ index, cut = .exhausted index) ∨
      ∃ index malformation, cut = .malformed index malformation ∧ malformation.IsCut) := by
  intro tail front report cut unreadable
  have more : tail ≠ [] := by decide
  have message : decode [0xa1, 0x77, 0xa0] = .ok (.other "w" "") := rfl
  have refused : decode [0xc1] = .error unreadable := rfl
  have settled : unreadable.Settled := id
  have begun : decode front = .error cut := rfl
  have whole : decode (front ++ tail) = .ok (.gradients report) := by
    dsimp only [front, tail]
    rfl
  have changed : decode (front ++ tail) ≠ .error cut := by
    rw [whole]
    exact nofun
  exact ⟨more, ⟨message, (verdict_settled _ more).1 "w" "" message⟩,
    ⟨refused, settled, (verdict_settled _ more).2.1 unreadable refused settled⟩,
    ⟨begun, whole, (verdict_settled _ more).2.2.1 report whole⟩,
    (verdict_settled front more).2.2.2 cut begun changed⟩

end Request

end SharedWeights
