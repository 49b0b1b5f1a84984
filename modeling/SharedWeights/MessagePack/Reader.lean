/-
**Reading MessagePack objects as values.**

Reading takes one object off the front of a byte string. It accepts every width of every kind of
value. When it fails, the bytes that it had read by then are gone: what is left is given back with
the failure as well.

* `read_left_suffix`: what is left is an end of what was there;
* `length_read_left_lt`: from a byte string that is not empty at least one byte is taken.
-/

import SharedWeights.MessagePack.Format
import SharedWeights.Value
import SharedWeights.Text.Utf8

namespace SharedWeights.MessagePack

/-- Objects that hold other objects, or data of a type that only an application knows. -/
inductive Compound where
  | sequence
  | map
  | extension
deriving DecidableEq, Repr

/-- The name of a compound, as messages give it. -/
def Compound.name : Compound → String
  | .sequence => "sequence"
  | .map => "map"
  | .extension => "newtype struct"

/-- Why bytes are no value. -/
inductive Malformation where
  /-- The bytes end inside a number or a length field. -/
  | fieldCut
  /-- The bytes end inside a text or a blob. -/
  | bodyCut
  /-- The first byte is the one that no object begins with. -/
  | reserved
  /-- The object is no single value. -/
  | compound (shape : Compound)
  /-- The number is too large for a signed integer of 64 bits. -/
  | tooLarge (number : Nat)
  /-- A reason in words, from another reader. -/
  | other (reason : String)
deriving DecidableEq, Repr

/-- The malformation in words. -/
def Malformation.message : Malformation → String
  | .fieldCut => "IO error while reading data: failed to fill whole buffer"
  | .bodyCut => "IO error while reading data: unexpected end of file"
  | .reserved => "wrong msgpack marker Reserved"
  | .compound shape =>
    "invalid type: " ++ shape.name ++
      ", expected a nil, bool, integer, float, string or binary value"
  | .tooLarge number =>
    "invalid value: integer `" ++ toString number ++ "`, expected an integer below 2^63"
  | .other reason => reason

/-- What reading gives: a value or a malformation, and what is left. -/
abbrev Reading := Except Malformation Value × Bytes

/-- Reads a number of `width` bytes and goes on with it. -/
def withNumber (width : Nat) (bytes : Bytes) (next : Nat → Bytes → Reading) : Reading :=
  match Bytes.splitExact? width bytes with
  | some (field, rest) => next (Bytes.ofBigEndian field) rest
  | none => (.error .fieldCut, [])

/-- Reads a body of `length` bytes. -/
def withBody (value : Bytes → Value) (length : Nat) (bytes : Bytes) : Reading :=
  match Bytes.splitExact? length bytes with
  | some (body, rest) => (.ok (value body), rest)
  | none => (.error .bodyCut, [])

/-- The number that a field of `width` bytes spells in two's complement. -/
def ofTwosComplement (width field : Nat) : Int :=
  (field : Int).bmod (Bytes.span width)

/-- The value of a text's body: a blob if it is not UTF-8. -/
def ofTextBody (body : Bytes) : Value :=
  match Text.Utf8.decode body with
  | .ok text => .str text
  | .error _ => .bin body

/-- A natural number as a value, if it is below `2 ^ 63`. -/
def ofNatural (number : Nat) : Except Malformation Value :=
  if number < 0x8000000000000000 then .ok (.int (Int64.ofNat number)) else .error (.tooLarge number)

/-- Reads what follows a first byte. -/
def readBehind (rest : Bytes) : Format → Reading
  | .positiveFixint number => (.ok (.int (Int64.ofNat number)), rest)
  | .negativeFixint number => (.ok (.int (Int64.ofInt (number - 32))), rest)
  | .uint width => withNumber (fieldSize width) rest fun number rest => (ofNatural number, rest)
  | .int width => withNumber (fieldSize width) rest fun field rest =>
      (.ok (.int (Int64.ofInt (ofTwosComplement (fieldSize width) field))), rest)
  | .nil => (.ok .nil, rest)
  | .bool truth => (.ok (.bool truth), rest)
  | .float32 => withNumber 4 rest fun bits rest => (.ok (.float32 ⟨UInt32.ofNat bits⟩), rest)
  | .float64 => withNumber 8 rest fun bits rest => (.ok (.float64 (UInt64.ofNat bits)), rest)
  | .fixstr length => withBody ofTextBody length rest
  | .str width => withNumber (fieldSize width) rest (withBody ofTextBody)
  | .bin width => withNumber (fieldSize width) rest (withBody .bin)
  | .reserved => (.error .reserved, rest)
  | .fixarray _ => (.error (.compound .sequence), rest)
  | .array width => withNumber (fieldSize (width + 1)) rest fun _ rest =>
      (.error (.compound .sequence), rest)
  | .fixmap _ => (.error (.compound .map), rest)
  | .map width => withNumber (fieldSize (width + 1)) rest fun _ rest =>
      (.error (.compound .map), rest)
  | .fixext _ => (.error (.compound .extension), rest)
  | .ext width => withNumber (fieldSize width) rest fun _ rest =>
      (.error (.compound .extension), rest)

/-- Reads one object off the front. -/
def read : Bytes → Reading
  | [] => (.error .fieldCut, [])
  | first :: rest => readBehind rest (Format.ofByte first)

/-! ### What is left -/

theorem withNumber_left_suffix {width : Nat} {bytes : Bytes} {next : Nat → Bytes → Reading}
    (onward : ∀ number rest, (next number rest).2 <:+ rest) :
    (withNumber width bytes next).2 <:+ bytes := by
  unfold withNumber
  split
  · next field rest found =>
    obtain ⟨rfl, -⟩ := Bytes.splitExact?_eq_some_iff.1 found
    exact (onward _ rest).trans (List.suffix_append field rest)
  · exact List.nil_suffix

theorem withBody_left_suffix (value : Bytes → Value) (length : Nat) (bytes : Bytes) :
    (withBody value length bytes).2 <:+ bytes := by
  unfold withBody
  split
  · next body rest found =>
    obtain ⟨rfl, -⟩ := Bytes.splitExact?_eq_some_iff.1 found
    exact List.suffix_append body rest
  · exact List.nil_suffix

/-- A number that is judged and followed by nothing else. -/
theorem withNumber_only_left_suffix (width : Nat) (bytes : Bytes)
    (judge : Nat → Except Malformation Value) :
    (withNumber width bytes fun number rest => (judge number, rest)).2 <:+ bytes :=
  withNumber_left_suffix fun _ rest => List.suffix_refl rest

theorem readBehind_left_suffix (rest : Bytes) (format : Format) :
    (readBehind rest format).2 <:+ rest := by
  cases format with
  | positiveFixint | negativeFixint | nil | bool | reserved | fixarray | fixmap | fixext =>
    exact List.suffix_refl rest
  | uint | int | float32 | float64 | array | map | ext =>
    exact withNumber_only_left_suffix _ rest _
  | fixstr => exact withBody_left_suffix _ _ rest
  | str | bin => exact withNumber_left_suffix (withBody_left_suffix _)

theorem read_left_suffix (bytes : Bytes) : (read bytes).2 <:+ bytes := by
  cases bytes with
  | nil => exact List.nil_suffix
  | cons first rest => exact (readBehind_left_suffix rest _).trans (List.suffix_cons first rest)

theorem length_read_left_lt {bytes : Bytes} (nonempty : bytes ≠ []) :
    (read bytes).2.length < bytes.length := by
  cases bytes with
  | nil => exact absurd rfl nonempty
  | cons first rest => exact Nat.lt_succ_of_le (readBehind_left_suffix rest _).length_le

end SharedWeights.MessagePack
