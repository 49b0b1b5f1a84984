/-
**What a request is refused for, and in how many words.**

A frame comes from outside and may hold anything, but what the server objects to in it is one of a
few errors (`Arises`): each names the value or one of the four fields of a request, and the numbers
in it are no larger than the frame or than a number of 64 bits. So the words of a refusal are few,
whatever the frame.

* `arises_of_decode`: what a frame that is no request is refused for;
* `DecodeError.Arises.size_message_le`: how many bytes the words for it take;
* `ServerError.size_mismatch_le`: the same for a gradient that is turned away.
-/

import SharedWeights.Proofs.Message.Grammar
import SharedWeights.Proofs.Message.Size
import SharedWeights.ServerError

namespace SharedWeights

/-! ### What reading objects to -/

namespace Text.Utf8

theorem mismatch?_eq_none {seen : Nat} {ranges : List ByteRange} {bytes : Bytes}
    (fits : mismatch? seen ranges bytes = none) : ranges.length ≤ bytes.length := by
  fun_induction mismatch? seen ranges bytes with
  | case1 => exact Nat.zero_le _
  | case2 => cases fits
  | case3 seen range ranges byte rest inside ih => exact Nat.succ_le_succ (ih fits)
  | case4 => cases fits

theorem mismatch?_eq_some {seen count : Nat} {ranges : List ByteRange} {bytes : Bytes}
    (found : mismatch? seen ranges bytes = some (some count)) : count < seen + ranges.length := by
  fun_induction mismatch? seen ranges bytes with
  | case1 => cases found
  | case2 => cases found
  | case3 seen range ranges byte rest inside ih =>
    have bound := ih found
    rw [List.length_cons]
    omega
  | case4 seen range ranges =>
    cases found
    rw [List.length_cons]
    omega

theorem length_continuation?_le {lead : UInt8} {ranges : List ByteRange}
    (found : continuation? lead = some ranges) : ranges.length ≤ 3 := by
  unfold continuation? at found
  dsimp only at found
  repeat' split at found
  all_goals cases found <;> decide

/-- A fault lies within the bytes, and is no longer than a character could be. -/
theorem firstFault_within (position : Nat) (bytes : Bytes) :
    (firstFault position bytes).position ≤ position + bytes.length ∧
      ∀ count ∈ (firstFault position bytes).length, count ≤ 3 := by
  fun_induction firstFault position bytes with
  | case1 position => exact ⟨Nat.le_refl _, nofun⟩
  | case2 position lead rest => exact ⟨Nat.le_add_right _ _, by rintro _ ⟨⟩; decide⟩
  | case3 position lead rest ranges continues length found =>
    refine ⟨Nat.le_add_right _ _, ?_⟩
    rintro count ⟨⟩
    have bound := mismatch?_eq_some found
    have short := length_continuation?_le continues
    omega
  | case4 position lead rest ranges continues fits ih =>
    obtain ⟨inside, few⟩ := ih
    have long := mismatch?_eq_none fits
    refine ⟨?_, few⟩
    rw [List.length_drop] at inside
    rw [List.length_cons]
    omega

theorem fault_within {blob : Bytes} {fault : Fault} (failed : decode blob = .error fault) :
    fault.position ≤ blob.length ∧ ∀ count ∈ fault.length, count ≤ 3 := by
  unfold decode at failed
  split at failed
  · cases failed
  · cases failed
    have within := firstFault_within 0 blob
    rwa [Nat.zero_add] at within

end Text.Utf8

namespace MessagePack

/-- The malformations that reading finds: a number that is too large still has only 64 bits, and
there are no reasons from elsewhere. -/
def Malformation.Arises : Malformation → Prop
  | .fieldCut | .bodyCut | .reserved | .compound _ => True
  | .tooLarge number => number ≤ 0xffffffffffffffff
  | .other _ => False

theorem arises_of_withNumber {width : Nat} {bytes : Bytes} {next : Nat → Bytes → Reading}
    {malformation : Malformation}
    (onward : ∀ number rest, number < Bytes.span width →
      (next number rest).1 = .error malformation → malformation.Arises)
    (failed : (withNumber width bytes next).1 = .error malformation) : malformation.Arises := by
  unfold withNumber at failed
  split at failed
  · next field rest found =>
    obtain ⟨-, rfl⟩ := Bytes.splitExact?_eq_some_iff.1 found
    exact onward _ rest (Bytes.ofBigEndian_lt field) failed
  · cases failed
    trivial

theorem arises_of_withBody {value : Bytes → Value} {length : Nat} {bytes : Bytes}
    {malformation : Malformation}
    (failed : (withBody value length bytes).1 = .error malformation) : malformation.Arises := by
  unfold withBody at failed
  split at failed
  · cases failed
  · cases failed
    trivial

theorem span_fieldSize_le (width : Fin 4) :
    Bytes.span (fieldSize width) ≤ 0x10000000000000000 := by
  revert width
  decide

theorem arises_of_read {bytes : Bytes} {malformation : Malformation}
    (failed : (read bytes).1 = .error malformation) : malformation.Arises := by
  cases bytes with
  | nil =>
    cases failed
    trivial
  | cons first rest =>
    rw [read] at failed
    generalize Format.ofByte first = format at failed
    cases format with
    | positiveFixint | negativeFixint | nil | bool => cases failed
    | reserved | fixarray | fixmap | fixext =>
      cases failed
      trivial
    | int | float32 | float64 =>
      refine arises_of_withNumber (fun number rest _ found => ?_) failed
      cases found
    | uint width =>
      refine arises_of_withNumber (fun number rest fits found => ?_) failed
      have largest := span_fieldSize_le width
      change ofNatural number = _ at found
      unfold ofNatural at found
      split at found
      · cases found
      · cases found
        exact Nat.le_of_lt_succ (Nat.lt_of_lt_of_le fits largest)
    | array | map | ext =>
      refine arises_of_withNumber (fun number rest _ found => ?_) failed
      cases found
      trivial
    | fixstr => exact arises_of_withBody failed
    | str | bin => exact arises_of_withNumber (fun _ _ _ found => arises_of_withBody found) failed

/-- The object of a blob is no shorter than the blob. -/
theorem Spells.length_le {blob object : Bytes} (spells : Spells (.bin blob) object) :
    blob.length ≤ object.length := by
  rcases spells_bin_iff.1 spells with isBin | ⟨isStr, -⟩
  · have length := isBin.lt_length
    omega
  · have length := isStr.le_length
    omega

end MessagePack

/-! ### What a request can be refused for -/

/-- The names of the fields of a gradient's frame. -/
def Request.fieldNames : List String := ["worker_id", "msgtype", "epoch", "gradient"]

/-- The errors of frames of at most `length` bytes that should hold a request. Each names the value
or the field that it is about. -/
inductive DecodeError.Arises (length : Nat) : DecodeError → Prop
  | exhausted {index : Nat} (early : index < 4) : Arises length (.exhausted index)
  | malformed {index : Nat} {reason : MessagePack.Malformation} (early : index < 4)
      (arises : reason.Arises) : Arises length (.malformed index reason)
  | unexpectedType {field expected : String} (value : Value) (isField : field ∈ Request.fieldNames)
      (isKind : expected ∈ ["str", "int", "bin"]) :
    Arises length (.unexpectedType field expected value.kind)
  | notText {field : String} {fault : Text.Utf8.Fault} (isField : field ∈ Request.fieldNames)
      (inside : fault.position ≤ length) (few : ∀ count ∈ fault.length, count ≤ 3) :
    Arises length (.invalidField field (.notText fault))
  | negative (number : Int64) : Arises length (.invalidField "epoch" (.negative number.toInt))
  | ragged {count : Nat} (inside : count ≤ length) :
    Arises length (.invalidField "gradient" (.ragged count))
  | trailing : Arises length (.trailingValues 4)

namespace Request

open MessagePack (Spells)

variable {length : Nat} {reason : DecodeError} {value : Value} {object : Bytes}

theorem arises_of_asText {field : String} (isField : field ∈ fieldNames)
    (spells : Spells value object) (room : object.length ≤ length)
    (failed : value.asText field = .error reason) : reason.Arises length := by
  cases value with
  | str => cases failed
  | bin blob =>
    cases decoded : Text.Utf8.decode blob with
    | ok text =>
      rw [Value.asText_of_text decoded] at failed
      cases failed
    | error fault =>
      rw [Value.asText_of_noText decoded] at failed
      cases failed
      obtain ⟨inside, few⟩ := Text.Utf8.fault_within decoded
      exact .notText isField (Nat.le_trans inside (Nat.le_trans spells.length_le room)) few
  | nil | bool | int | float32 | float64 =>
    cases failed
    exact .unexpectedType _ isField (by decide)

theorem arises_of_epoch (failed : (value.asInt "epoch").bind epochOf = .error reason) :
    reason.Arises length := by
  cases value with
  | int number =>
    change epochOf number = _ at failed
    unfold epochOf at failed
    split at failed
    · cases failed
    · cases failed
      exact .negative number
  | nil | bool | float32 | float64 | str | bin =>
    cases failed
    exact .unexpectedType _ (by decide) (by decide)

theorem arises_of_asFloats (spells : Spells value object) (room : object.length ≤ length)
    (failed : value.asFloats "gradient" = .error reason) : reason.Arises length := by
  cases value with
  | bin blob =>
    cases found : Binary32.ofBlob? blob with
    | some numbers =>
      rw [Value.asFloats_of_numbers found] at failed
      cases failed
    | none =>
      rw [Value.asFloats_of_ragged found] at failed
      cases failed
      exact .ragged (Nat.le_trans spells.length_le room)
  | nil | bool | int | float32 | float64 | str =>
    cases failed
    exact .unexpectedType _ (by decide) (by decide)

/-- One field of a request, whose look at the value and whose followers fail as requests do. -/
theorem arises_of_field {Wanted Result : Type} {look : Value → Except DecodeError Wanted}
    {next : Wanted → Schema Result} {frame : Bytes} {index : Nat} (early : index < 4)
    (room : frame.length ≤ length)
    (failed : (Schema.field look >>= next) ⟨frame, index⟩ = .error reason)
    (looks : ∀ value object, Spells value object → object.length ≤ length →
      look value = .error reason → reason.Arises length)
    (onward : ∀ wanted rest, rest.length ≤ length →
      next wanted ⟨rest, index + 1⟩ = .error reason → reason.Arises length) :
    reason.Arises length := by
  rcases Schema.field_bind_error failed with rfl | ⟨malformation, found, rfl⟩ |
    ⟨value, object, rest, spells, rfl, looked⟩ | ⟨wanted, object, rest, rfl, -, followed⟩
  · exact .exhausted early
  · exact .malformed early (MessagePack.arises_of_read found)
  · rw [List.length_append] at room
    exact looks value object spells (by omega) looked
  · rw [List.length_append] at room
    exact onward wanted rest (by omega) followed

/-- **What a frame is refused for** is one of a few errors, each of which names its field. -/
theorem arises_of_decode {frame : Bytes} (failed : decode frame = .error reason) :
    reason.Arises frame.length := by
  have run : schema ⟨frame, 0⟩ = .error reason := Schema.decode_eq_error_iff.1 failed
  -- the fields in their order; whatever one leaves is no longer than the frame
  refine arises_of_field (by decide) (Nat.le_refl _) run
    (fun _ _ => arises_of_asText (by decide)) fun workerId rest room run => ?_
  refine arises_of_field (by decide) room run
    (fun _ _ => arises_of_asText (by decide)) fun messageType rest room run => ?_
  split at run
  · refine arises_of_field (by decide) room run
      (fun _ _ _ _ => arises_of_epoch) fun epoch rest room run => ?_
    refine arises_of_field (by decide) room run
      (fun _ _ => arises_of_asFloats) fun gradient rest room run => ?_
    cases rest with
    | nil => cases run
    | cons first rest =>
      cases run
      exact .trailing
  · cases run

end Request

/-! ### In words -/

theorem MessagePack.Malformation.Arises.size_message_le {reason : Malformation}
    (arises : reason.Arises) : reason.message.utf8ByteSize ≤ 24 + 80 + 33 := by
  cases reason with
  | fieldCut | bodyCut | reserved => decide
  | compound shape => cases shape <;> decide
  | tooLarge number =>
    have digits : (toString 0xffffffffffffffff).length = 20 := by decide
    exact Text.size_append_le (Text.size_append_le (by decide)
      (Text.size_toString_le arises digits)) (by decide)
  | other => exact arises.elim

/-- A number of one digit. -/
theorem Text.size_digit_le {number : Nat} (small : number ≤ 9) :
    (toString number).utf8ByteSize ≤ 4 :=
  size_toString_le small (by decide : (toString 9).length = 1)

theorem Text.Utf8.Fault.size_message_le {fault : Fault}
    (inside : fault.position ≤ Frame.maxLength) (few : ∀ count ∈ fault.length, count ≤ 3) :
    fault.message.utf8ByteSize ≤ 26 + 4 + 18 + 40 := by
  obtain ⟨position, length⟩ := fault
  have place := size_length_le inside
  cases length with
  | none => exact Nat.le_trans (size_append_le (by decide : _ ≤ 42) place) (by decide)
  | some count =>
    have digit := size_digit_le (Nat.le_trans (few count rfl) (by decide))
    exact size_append_le (size_append_le (size_append_le (by decide) digit) (by decide)) place

theorem Text.size_int_le (number : Int64) : (toString number.toInt).utf8ByteSize ≤ 1 + 76 := by
  have above := number.le_toInt
  have below := number.toInt_lt
  have digits : (toString 0x8000000000000000).length = 19 := by decide
  generalize number.toInt = integer at above below ⊢
  cases integer with
  | ofNat natural =>
    rw [Int.ofNat_eq_natCast] at below
    have small : natural ≤ 0x8000000000000000 := by omega
    exact Nat.le_trans (size_toString_le small digits) (by decide)
  | negSucc natural =>
    have small : natural + 1 ≤ 0x8000000000000000 := by omega
    exact size_append_le (by decide) (size_toString_le small digits)

theorem Request.size_fieldName_le : ∀ field ∈ fieldNames, field.utf8ByteSize ≤ 9 := by
  decide

theorem Value.size_kind_le (value : Value) : value.kind.utf8ByteSize ≤ 4 := by
  cases value <;> exact Nat.le_of_ble_eq_true rfl

theorem FieldFault.size_negative_le (number : Int64) :
    (negative number.toInt).message.utf8ByteSize ≤ 1 + 76 + 12 :=
  Text.size_append_le (Text.size_int_le number) (by decide)

theorem FieldFault.size_ragged_le {count : Nat} (allowed : count ≤ Frame.maxLength) :
    (ragged count).message.utf8ByteSize ≤ 8 + 40 + 29 :=
  Text.size_append_le (Text.size_append_le (by decide) (Text.size_length_le allowed)) (by decide)

theorem DecodeError.size_invalidField_le {field : String} {fault : FieldFault}
    (isField : field ∈ Request.fieldNames) (few : fault.message.utf8ByteSize ≤ 89) :
    (invalidField field fault).message.utf8ByteSize ≤ 8 + 9 + 2 + 89 := by
  have name := Request.size_fieldName_le field isField
  exact Text.size_append_le (Text.size_append_le (Text.size_append_le (by decide) name) (by decide))
    few

theorem DecodeError.size_unexpectedType_le {field expected got : String}
    (isField : field ∈ Request.fieldNames) (isKind : expected ∈ ["str", "int", "bin"])
    (few : got.utf8ByteSize ≤ 4) :
    (unexpectedType field expected got).message.utf8ByteSize ≤ 20 + 9 + 11 + 3 + 6 + 4 := by
  have name := Request.size_fieldName_le field isField
  have kinds : ∀ kind ∈ ["str", "int", "bin"], kind.utf8ByteSize ≤ 3 := by decide
  have wanted : ("unexpected type for " ++ field ++ ": expected " ++ expected).utf8ByteSize ≤
      20 + 9 + 11 + 3 :=
    Text.size_append_le (Text.size_append_le (Text.size_append_le (by decide) name) (by decide))
      (kinds expected isKind)
  exact Text.size_append_le (Text.size_append_le wanted (by decide)) few

theorem DecodeError.size_malformed_le {index : Nat} {reason : MessagePack.Malformation}
    (early : index < 4) (arises : reason.Arises) :
    (malformed index reason).message.utf8ByteSize ≤ 28 + 4 + 2 + (24 + 80 + 33) := by
  have digit := Text.size_digit_le (Nat.le_trans (Nat.le_of_lt early) (by decide))
  exact Text.size_append_le (Text.size_append_le (Text.size_append_le (by decide) digit) (by decide))
    arises.size_message_le

/-- **What a frame that may be received is refused for has few words.** -/
theorem DecodeError.Arises.size_message_le {length : Nat} {reason : DecodeError}
    (arises : reason.Arises length) (allowed : length ≤ Frame.maxLength) :
    reason.message.utf8ByteSize ≤ 171 := by
  cases arises with
  | exhausted early =>
    have digit := Text.size_digit_le (Nat.le_trans (Nat.le_of_lt early) (by decide))
    exact Nat.le_trans (Text.size_append_le (by decide : _ ≤ 43) digit) (by decide)
  | malformed early arises => exact size_malformed_le early arises
  | unexpectedType value isField isKind =>
    exact Nat.le_trans (size_unexpectedType_le isField isKind value.size_kind_le) (by decide)
  | notText isField inside few =>
    have words : (FieldFault.notText _).message.utf8ByteSize ≤ 26 + 4 + 18 + 40 :=
      Text.Utf8.Fault.size_message_le (Nat.le_trans inside allowed) few
    exact Nat.le_trans (size_invalidField_le isField (Nat.le_trans words (by decide))) (by decide)
  | negative number =>
    have words := FieldFault.size_negative_le number
    exact Nat.le_trans (size_invalidField_le (by decide) words) (by decide)
  | ragged inside =>
    have words := FieldFault.size_ragged_le (Nat.le_trans inside allowed)
    exact Nat.le_trans (size_invalidField_le (by decide) (Nat.le_trans words (by decide)))
      (by decide)
  | trailing => exact Nat.le_of_ble_eq_true rfl

theorem ServerError.size_decode_le {reason : DecodeError} {count : Nat}
    (few : reason.message.utf8ByteSize ≤ count) :
    (ServerError.decode reason).message.utf8ByteSize ≤ 14 + count :=
  Text.size_append_le (by decide : "decode error: ".utf8ByteSize ≤ 14) few

/-- **A gradient is turned away in few words**, whatever the two lengths are that don't agree. -/
theorem ServerError.size_mismatch_le {expected got : Nat} (first : expected ≤ Frame.maxLength)
    (second : got ≤ Frame.maxLength) :
    (ServerError.store (.dimensionMismatch expected got)).message.utf8ByteSize ≤
      19 + (37 + 40 + 31 + 40) := by
  have lengths := Text.size_append_le (Text.size_append_le (Text.size_append_le
    (by decide : "dimension mismatch: the weights have ".utf8ByteSize ≤ 37)
    (Text.size_length_le first)) (by decide : " elements but the gradient has ".utf8ByteSize ≤ 31))
    (Text.size_length_le second)
  exact Text.size_append_le (by decide : "rejected gradient: ".utf8ByteSize ≤ 19) lengths

end SharedWeights
