/-
**Text as bytes.**

Texts cross the wire in UTF-8. Reading is the exact inverse of writing, and what is no text is
answered with the place where it goes wrong.

* `decode_eq_ok_iff`: a byte string reads as a text exactly when it is that text's encoding;
* `decode_encode`: every text reads back.
-/

import SharedWeights.Bytes

namespace SharedWeights.Text.Utf8

/-- The bytes of a text. -/
def encode (text : String) : Bytes :=
  text.toByteArray.data.toList

/-- Where a byte string stops being text. The bytes before `position` are text. `length` counts the
bytes there that begin no character; without it the bytes end inside a character. -/
structure Fault where
  position : Nat
  length : Option Nat
deriving DecidableEq, Repr

/-- The fault in words. -/
def Fault.message : Fault → String
  | ⟨position, some length⟩ => s!"invalid utf-8 sequence of {length} bytes from index {position}"
  | ⟨position, none⟩ => s!"incomplete utf-8 byte sequence from index {position}"

/-- An inclusive range of byte values. -/
structure ByteRange where
  first : Nat
  last : Nat

/-- Whether a byte lies in the range. -/
def ByteRange.contains (range : ByteRange) (byte : UInt8) : Bool :=
  decide (range.first ≤ byte.toNat) && decide (byte.toNat ≤ range.last)

/-- The bytes that may stand behind the first byte of a character. -/
def tail : ByteRange := ⟨0x80, 0xbf⟩

/-- The ranges of the bytes that complete a character, by its first byte. Overlong forms,
surrogates and what lies beyond the last code point are kept out by the first of them. -/
def continuation? (lead : UInt8) : Option (List ByteRange) :=
  let value := lead.toNat
  if value < 0x80 then some []
  else if value < 0xc2 then none
  else if value < 0xe0 then some [tail]
  else if value = 0xe0 then some [⟨0xa0, 0xbf⟩, tail]
  else if value = 0xed then some [⟨0x80, 0x9f⟩, tail]
  else if value < 0xf0 then some [tail, tail]
  else if value = 0xf0 then some [⟨0x90, 0xbf⟩, tail, tail]
  else if value < 0xf4 then some [tail, tail, tail]
  else if value = 0xf4 then some [⟨0x80, 0x8f⟩, tail, tail]
  else none

/-- Holds bytes against the ranges that they must lie in, after `seen` bytes of the character:
nothing if all fit, else the length of a fault. -/
def mismatch? (seen : Nat) : List ByteRange → Bytes → Option (Option Nat)
  | [], _ => none
  | _ :: _, [] => some none
  | range :: ranges, byte :: rest =>
    if range.contains byte then mismatch? (seen + 1) ranges rest else some (some seen)

/-- The first fault of a byte string that begins at `position`; at its end if there is none. -/
def firstFault (position : Nat) : Bytes → Fault
  | [] => ⟨position, none⟩
  | lead :: rest =>
    match continuation? lead with
    | none => ⟨position, some 1⟩
    | some ranges =>
      match mismatch? 1 ranges rest with
      | some length => ⟨position, length⟩
      | none => firstFault (position + 1 + ranges.length) (rest.drop ranges.length)
termination_by bytes => bytes.length
decreasing_by
  rw [List.length_drop, List.length_cons]
  omega

/-- The text that a byte string spells, or its first fault. -/
def decode (bytes : Bytes) : Except Fault String :=
  if valid : (ByteArray.mk bytes.toArray).IsValidUTF8 then
    .ok (String.fromUTF8 (ByteArray.mk bytes.toArray) valid)
  else
    .error (firstFault 0 bytes)

theorem decode_eq_ok_iff {bytes : Bytes} {text : String} :
    decode bytes = .ok text ↔ bytes = encode text := by
  unfold decode encode
  constructor
  · intro read
    split at read
    · cases read
      simp [String.fromUTF8]
    · cases read
  · rintro rfl
    have same : ByteArray.mk text.toByteArray.data.toList.toArray = text.toByteArray := by simp
    rw [dif_pos (same ▸ text.isValidUTF8)]
    exact congrArg Except.ok (String.toByteArray_inj.1 same)

@[simp] theorem decode_encode (text : String) : decode (encode text) = .ok text :=
  decode_eq_ok_iff.2 rfl

end SharedWeights.Text.Utf8
