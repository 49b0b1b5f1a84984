/-
**The spellings of a value.**

MessagePack has several objects for one value: a number may stand in any field that is wide enough,
signed or unsigned, and the length of a text or blob in any of its headers. `Spells` lists them all.
Reading accepts each of them and nothing else, and writing chooses one:

* `read_of_spells`: every spelling reads as its value, and what follows it is left;
* `Spells.append_inj`: so no object is the beginning of another;
* `spells_of_read`: whatever is read stood in front in one of its spellings;
* `spells_write`: what is written is a spelling;
* `read_write`: so what is written reads back in front of anything.
-/

import SharedWeights.MessagePack.Reader
import SharedWeights.MessagePack.Writer

namespace SharedWeights

/-- A value that can be written: its text or blob has a length of at most 32 bits. -/
def Value.Encodable : Value → Prop
  | .str text => (Text.Utf8.encode text).length < 0x100000000
  | .bin blob => blob.length < 0x100000000
  | _ => True

instance : (value : Value) → Decidable value.Encodable
  | .str text => inferInstanceAs (Decidable ((Text.Utf8.encode text).length < 0x100000000))
  | .bin blob => inferInstanceAs (Decidable (blob.length < 0x100000000))
  | .nil | .bool _ | .int _ | .float32 _ | .float64 _ => inferInstanceAs (Decidable True)

namespace MessagePack

/-- What may stand in front of the body of a text. -/
inductive TextHeader (length : Nat) : Bytes → Prop
  | short (fits : length < 32) : TextHeader length [(Format.fixstr ⟨length, fits⟩).toByte]
  | field (width : Fin 3) (fits : length < Bytes.span (fieldSize width)) :
    TextHeader length ((Format.str width).toByte :: Bytes.bigEndian (fieldSize width) length)

/-- The objects of a value. A text object whose body is no UTF-8 is one of a blob. -/
inductive Spells : Value → Bytes → Prop
  | nil : Spells .nil [Format.nil.toByte]
  | bool (truth : Bool) : Spells (.bool truth) [(Format.bool truth).toByte]
  | positive (number : Fin 128) :
    Spells (.int (Int64.ofNat number)) [(Format.positiveFixint number).toByte]
  | negative (number : Fin 32) :
    Spells (.int (Int64.ofInt (number - 32))) [(Format.negativeFixint number).toByte]
  | unsigned (width : Fin 4) {number : Nat} (fits : number < Bytes.span (fieldSize width))
      (small : number < 0x8000000000000000) :
    Spells (.int (Int64.ofNat number))
      ((Format.uint width).toByte :: Bytes.bigEndian (fieldSize width) number)
  | signed (width : Fin 4) {number : Int}
      (above : -(Bytes.span (fieldSize width) / 2 : Int) ≤ number)
      (below : number < (Bytes.span (fieldSize width) / 2 : Int)) :
    Spells (.int (Int64.ofInt number))
      ((Format.int width).toByte :: twosComplement (fieldSize width) number)
  | float32 (number : Binary32) :
    Spells (.float32 number) (Format.float32.toByte :: Bytes.bigEndian 4 number.bits.toNat)
  | float64 (bits : UInt64) :
    Spells (.float64 bits) (Format.float64.toByte :: Bytes.bigEndian 8 bits.toNat)
  | text {text : String} {header : Bytes}
      (heads : TextHeader (Text.Utf8.encode text).length header) :
    Spells (.str text) (header ++ Text.Utf8.encode text)
  | noText {body header : Bytes} (heads : TextHeader body.length header)
      (noText : ∀ text, body ≠ Text.Utf8.encode text) :
    Spells (.bin body) (header ++ body)
  | blob (width : Fin 3) {body : Bytes} (fits : body.length < Bytes.span (fieldSize width)) :
    Spells (.bin body)
      ((Format.bin width).toByte :: Bytes.bigEndian (fieldSize width) body.length ++ body)

/-! ### Every spelling reads as its value -/

theorem withNumber_append (field rest : Bytes) (next : Nat → Bytes → Reading) :
    withNumber field.length (field ++ rest) next = next (Bytes.ofBigEndian field) rest := by
  have cut := Bytes.splitExact?_append (rfl : field.length = field.length) rest
  unfold withNumber
  rw [cut]

theorem withNumber_bigEndian {width number : Nat} (fits : number < Bytes.span width)
    (rest : Bytes) (next : Nat → Bytes → Reading) :
    withNumber width (Bytes.bigEndian width number ++ rest) next = next number rest := by
  have given := withNumber_append (Bytes.bigEndian width number) rest next
  rwa [Bytes.length_bigEndian, Bytes.ofBigEndian_bigEndian, Nat.mod_eq_of_lt fits] at given

theorem withBody_append (value : Bytes → Value) (body rest : Bytes) :
    withBody value body.length (body ++ rest) = (.ok (value body), rest) := by
  have cut := Bytes.splitExact?_append (rfl : body.length = body.length) rest
  unfold withBody
  rw [cut]

theorem ofTextBody_encode (text : String) : ofTextBody (Text.Utf8.encode text) = .str text := by
  rw [ofTextBody, Text.Utf8.decode_encode]

theorem ofTextBody_of_noText {body : Bytes} (noText : ∀ text, body ≠ Text.Utf8.encode text) :
    ofTextBody body = .bin body := by
  unfold ofTextBody
  split
  · next text decoded => exact absurd (Text.Utf8.decode_eq_ok_iff.1 decoded) (noText text)
  · rfl

/-- A body behind any of its headers is read as text, if it is one. -/
theorem read_textHeader {body header : Bytes} (heads : TextHeader body.length header)
    (rest : Bytes) : read (header ++ body ++ rest) = (.ok (ofTextBody body), rest) := by
  rw [List.append_assoc]
  cases heads with
  | short fits =>
    rw [List.cons_append, List.nil_append, read, Format.ofByte_toByte]
    exact withBody_append ofTextBody body rest
  | field width fits =>
    rw [List.cons_append, read, Format.ofByte_toByte]
    exact (withNumber_bigEndian fits _ _).trans (withBody_append ofTextBody body rest)

/-- A number of a field in two's complement reads back if the field is wide enough. -/
theorem ofTwosComplement_field {width : Nat} {number : Int}
    (above : -(Bytes.span width / 2 : Int) ≤ number)
    (below : number < (Bytes.span width / 2 : Int)) :
    ofTwosComplement width (number % (Bytes.span width : Int)).toNat = number := by
  have positive : (0 : Int) < Bytes.span width := by exact_mod_cast Bytes.span_pos width
  have natural : 0 ≤ number % (Bytes.span width : Int) :=
    Int.emod_nonneg number (Int.ne_of_gt positive)
  rw [ofTwosComplement, Int.toNat_of_nonneg natural, Int.emod_bmod]
  exact Int.bmod_eq_of_le above (by omega)

theorem toNat_emod_lt (width : Nat) (number : Int) :
    (number % (Bytes.span width : Int)).toNat < Bytes.span width := by
  have positive : (0 : Int) < Bytes.span width := by exact_mod_cast Bytes.span_pos width
  have below := Int.emod_lt_of_pos number positive
  have natural := Int.emod_nonneg number (Int.ne_of_gt positive)
  omega

/-- **Every spelling reads as its value**, in front of anything. -/
theorem read_of_spells {value : Value} {bytes : Bytes} (spells : Spells value bytes)
    (rest : Bytes) : read (bytes ++ rest) = (.ok value, rest) := by
  cases spells with
  | nil | bool | positive | negative =>
    rw [List.cons_append, List.nil_append, read, Format.ofByte_toByte]
    rfl
  | unsigned width fits small =>
    rw [List.cons_append, read, Format.ofByte_toByte, readBehind, withNumber_bigEndian fits,
      ofNatural, if_pos small]
  | signed width above below =>
    rw [List.cons_append, read, Format.ofByte_toByte, readBehind, twosComplement,
      withNumber_bigEndian (toNat_emod_lt _ _), ofTwosComplement_field above below]
  | float32 number =>
    have fits : number.bits.toNat < Bytes.span 4 := number.bits.toNat_lt
    rw [List.cons_append, read, Format.ofByte_toByte, readBehind, withNumber_bigEndian fits,
      UInt32.ofNat_toNat]
  | float64 bits =>
    have fits : bits.toNat < Bytes.span 8 := bits.toNat_lt
    rw [List.cons_append, read, Format.ofByte_toByte, readBehind, withNumber_bigEndian fits,
      UInt64.ofNat_toNat]
  | text heads => rw [read_textHeader heads, ofTextBody_encode]
  | noText heads noText => rw [read_textHeader heads, ofTextBody_of_noText noText]
  | blob width fits =>
    rw [List.append_assoc, List.cons_append, read, Format.ofByte_toByte]
    exact (withNumber_bigEndian fits _ _).trans (withBody_append .bin _ rest)

theorem Spells.ne_nil {value : Value} {bytes : Bytes} (spells : Spells value bytes) :
    bytes ≠ [] := by
  rintro rfl
  have given := read_of_spells spells []
  cases given

/-- **No object is the beginning of another**: where two objects begin with the same bytes, they are
the same object of the same value, and the same bytes follow them. -/
theorem Spells.append_inj {first second : Value} {front back : Bytes} {rest later : Bytes}
    (firstSpelled : Spells first front) (secondSpelled : Spells second back)
    (same : front ++ rest = back ++ later) : first = second ∧ front = back ∧ rest = later := by
  have read := read_of_spells firstSpelled rest
  rw [same, read_of_spells secondSpelled] at read
  obtain ⟨⟨⟩, rfl⟩ := Prod.mk.injEq .. ▸ read
  exact ⟨rfl, List.append_cancel_right same, rfl⟩

/-! ### Whatever is read is a spelling -/

theorem withNumber_eq_ok {width : Nat} {bytes rest : Bytes} {next : Nat → Bytes → Reading}
    {value : Value} (read : withNumber width bytes next = (.ok value, rest)) :
    ∃ number left, number < Bytes.span width ∧ bytes = Bytes.bigEndian width number ++ left ∧
      next number left = (.ok value, rest) := by
  unfold withNumber at read
  split at read
  · next field left found =>
    obtain ⟨rfl, length⟩ := Bytes.splitExact?_eq_some_iff.1 found
    refine ⟨Bytes.ofBigEndian field, left, ?_, ?_, read⟩
    · exact length ▸ Bytes.ofBigEndian_lt field
    · rw [← length, Bytes.bigEndian_ofBigEndian]
  · cases read

theorem withBody_eq_ok {ofBody : Bytes → Value} {length : Nat} {bytes rest : Bytes} {value : Value}
    (read : withBody ofBody length bytes = (.ok value, rest)) :
    ∃ body, body.length = length ∧ bytes = body ++ rest ∧ value = ofBody body := by
  unfold withBody at read
  split at read
  · next body left found =>
    obtain ⟨rfl, width⟩ := Bytes.splitExact?_eq_some_iff.1 found
    cases read
    exact ⟨body, width, rfl, rfl⟩
  · cases read

/-- A body behind a header of a text spells what it is read as. -/
theorem spells_ofTextBody {header body : Bytes} (heads : TextHeader body.length header) :
    Spells (ofTextBody body) (header ++ body) := by
  cases decoded : Text.Utf8.decode body with
  | ok text =>
    obtain rfl := Text.Utf8.decode_eq_ok_iff.1 decoded
    rw [ofTextBody_encode]
    exact .text heads
  | error fault =>
    have noText : ∀ text, body ≠ Text.Utf8.encode text := by
      rintro text rfl
      rw [Text.Utf8.decode_encode] at decoded
      cases decoded
    rw [ofTextBody_of_noText noText]
    exact .noText heads noText

/-- Every field of a width is the two's complement of what it is read as. -/
theorem twosComplement_ofTwosComplement {width field : Nat} (fits : field < Bytes.span width) :
    twosComplement width (ofTwosComplement width field) = Bytes.bigEndian width field := by
  rw [twosComplement, ofTwosComplement, Int.bmod_emod, Int.emod_eq_of_lt (by omega) (by omega),
    Int.toNat_natCast]

theorem span_even (width : Fin 4) : Bytes.span (fieldSize width) % 2 = 0 := by
  revert width
  decide

theorem spells_ofTwosComplement (width : Fin 4) {field : Nat}
    (fits : field < Bytes.span (fieldSize width)) :
    Spells (.int (Int64.ofInt (ofTwosComplement (fieldSize width) field)))
      ((Format.int width).toByte :: Bytes.bigEndian (fieldSize width) field) := by
  have positive := Bytes.span_pos (fieldSize width)
  have even := span_even width
  have above := Int.le_bmod (x := field) positive
  have below := Int.bmod_lt (x := field) positive
  rw [← twosComplement_ofTwosComplement fits]
  refine .signed width ?_ ?_
  · unfold ofTwosComplement
    omega
  · unfold ofTwosComplement
    omega

/-- What a first byte announces is spelled with it. -/
theorem spells_of_readBehind {behind rest : Bytes} {format : Format} {value : Value}
    (given : readBehind behind format = (.ok value, rest)) :
    ∃ field, Spells value (format.toByte :: field) ∧ behind = field ++ rest := by
  cases format with
  | reserved | fixarray | fixmap | fixext => cases given
  | array width | map width | ext width =>
    rw [readBehind] at given
    obtain ⟨number, left, -, -, judged⟩ := withNumber_eq_ok given
    cases judged
  | nil =>
    cases given
    exact ⟨[], .nil, rfl⟩
  | bool truth =>
    cases given
    exact ⟨[], .bool truth, rfl⟩
  | positiveFixint number =>
    cases given
    exact ⟨[], .positive number, rfl⟩
  | negativeFixint number =>
    cases given
    exact ⟨[], .negative number, rfl⟩
  | uint width =>
    rw [readBehind] at given
    obtain ⟨number, left, fits, rfl, judged⟩ := withNumber_eq_ok given
    unfold ofNatural at judged
    split at judged
    · next small =>
      cases judged
      exact ⟨_, .unsigned width fits small, rfl⟩
    · cases judged
  | int width =>
    rw [readBehind] at given
    obtain ⟨field, left, fits, rfl, judged⟩ := withNumber_eq_ok given
    cases judged
    exact ⟨_, spells_ofTwosComplement width fits, rfl⟩
  | float32 =>
    rw [readBehind] at given
    obtain ⟨bits, left, fits, rfl, judged⟩ := withNumber_eq_ok given
    cases judged
    have spells := Spells.float32 ⟨UInt32.ofNat bits⟩
    rw [UInt32.toNat_ofNat_of_lt' fits] at spells
    exact ⟨_, spells, rfl⟩
  | float64 =>
    rw [readBehind] at given
    obtain ⟨bits, left, fits, rfl, judged⟩ := withNumber_eq_ok given
    cases judged
    have spells := Spells.float64 (UInt64.ofNat bits)
    rw [UInt64.toNat_ofNat_of_lt' fits] at spells
    exact ⟨_, spells, rfl⟩
  | fixstr length =>
    obtain ⟨body, same, rfl, rfl⟩ := withBody_eq_ok given
    obtain ⟨length, short⟩ := length
    cases same
    exact ⟨body, spells_ofTextBody (.short short), rfl⟩
  | str width =>
    rw [readBehind] at given
    obtain ⟨length, left, fits, rfl, judged⟩ := withNumber_eq_ok given
    obtain ⟨body, rfl, rfl, rfl⟩ := withBody_eq_ok judged
    exact ⟨_, spells_ofTextBody (.field width fits), (List.append_assoc ..).symm⟩
  | bin width =>
    rw [readBehind] at given
    obtain ⟨length, left, fits, rfl, judged⟩ := withNumber_eq_ok given
    obtain ⟨body, rfl, rfl, rfl⟩ := withBody_eq_ok judged
    exact ⟨_, .blob width fits, (List.append_assoc ..).symm⟩

/-- **Whatever is read stood in front in one of its spellings.** -/
theorem spells_of_read {bytes rest : Bytes} {value : Value}
    (given : read bytes = (.ok value, rest)) :
    ∃ object, Spells value object ∧ bytes = object ++ rest := by
  cases bytes with
  | nil => cases given
  | cons first behind =>
    obtain ⟨field, spells, rfl⟩ := spells_of_readBehind given
    rw [Format.toByte_ofByte] at spells
    exact ⟨first :: field, spells, rfl⟩

/-! ### What is written is a spelling -/

theorem lt_span_lengthWidth {length : Nat} (fits : length < 0x100000000) :
    length < Bytes.span (fieldSize (lengthWidth length)) := by
  unfold lengthWidth
  split
  · assumption
  · split
    · assumption
    · exact fits

theorem lt_span_unsignedWidth {number : Nat} (fits : number < 0x10000000000000000) :
    number < Bytes.span (fieldSize (unsignedWidth number)) := by
  unfold unsignedWidth
  split
  · assumption
  · split
    · assumption
    · split
      · assumption
      · exact fits

theorem neg_span_signedWidth_le {number : Int} (above : -0x8000000000000000 ≤ number) :
    -(Bytes.span (fieldSize (signedWidth number)) / 2 : Int) ≤ number := by
  unfold signedWidth
  split
  · assumption
  · split
    · assumption
    · split
      · assumption
      · exact above

theorem textHeader_of_lt {body : Bytes} (fits : body.length < 0x100000000) :
    ∃ header, TextHeader body.length header ∧ ofText body = header ++ body := by
  unfold ofText
  by_cases short : body.length < 32
  · rw [dif_pos short]
    exact ⟨_, .short short, rfl⟩
  · rw [dif_neg short]
    exact ⟨_, .field (lengthWidth body.length) (lt_span_lengthWidth fits), rfl⟩

theorem spells_ofInt (number : Int64) : Spells (.int number) (ofInt number.toInt) := by
  have above := number.le_toInt
  have below := number.toInt_lt
  unfold ofInt
  by_cases natural : 0 ≤ number.toInt
  · -- a natural number is written unsigned
    have same : Int64.ofNat number.toInt.toNat = number := by
      rw [← Int64.ofInt_eq_ofNat, Int.toNat_of_nonneg natural, Int64.ofInt_toInt]
    rw [dif_pos natural]
    by_cases small : number.toInt.toNat < 128
    · rw [dif_pos small]
      have spells := Spells.positive ⟨number.toInt.toNat, small⟩
      rwa [same] at spells
    · rw [dif_neg small]
      have fits : number.toInt.toNat <
          Bytes.span (fieldSize (unsignedWidth number.toInt.toNat)) :=
        lt_span_unsignedWidth (by omega)
      have spells := Spells.unsigned (unsignedWidth number.toInt.toNat) fits (by omega)
      rwa [same] at spells
  · -- a negative one is written signed
    rw [dif_neg natural]
    by_cases small : -32 ≤ number.toInt
    · rw [dif_pos small]
      have spells := Spells.negative ⟨(number.toInt + 32).toNat, by omega⟩
      have same : (((⟨(number.toInt + 32).toNat, by omega⟩ : Fin 32) : Nat) : Int) - 32 =
          number.toInt := by
        show (((number.toInt + 32).toNat : Nat) : Int) - 32 = number.toInt
        omega
      rwa [same, Int64.ofInt_toInt] at spells
    · rw [dif_neg small]
      have positive : (0 : Int) < Bytes.span (fieldSize (signedWidth number.toInt)) / 2 := by
        generalize signedWidth number.toInt = width
        revert width
        decide
      have spells := Spells.signed (signedWidth number.toInt) (neg_span_signedWidth_le above)
        (by omega)
      rwa [Int64.ofInt_toInt] at spells

theorem spells_write {value : Value} (encodable : value.Encodable) :
    Spells value (write value) := by
  cases value with
  | nil => exact .nil
  | bool truth => exact .bool truth
  | int number => exact spells_ofInt number
  | float32 number => exact .float32 number
  | float64 bits => exact .float64 bits
  | str text =>
    obtain ⟨header, heads, same⟩ := textHeader_of_lt encodable
    rw [write, same]
    exact .text heads
  | bin blob => exact .blob (lengthWidth blob.length) (lt_span_lengthWidth encodable)

/-- **What is written reads back**, in front of anything. -/
theorem read_write {value : Value} (encodable : value.Encodable) (rest : Bytes) :
    read (write value ++ rest) = (.ok value, rest) :=
  read_of_spells (spells_write encodable) rest

end MessagePack

end SharedWeights
