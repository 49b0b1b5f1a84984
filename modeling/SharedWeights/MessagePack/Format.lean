/-
**The first byte of a MessagePack object.**

The first byte says what an object is, how many bytes of a number or of a length follow it, and in
the short forms also the value itself. The 256 bytes and the formats correspond one to one.

* `ofByte_toByte`: every format is read off its byte;
* `toByte_ofByte`: every byte is that of its format.
-/

namespace SharedWeights.MessagePack

/-- How many bytes a field of the given width has: one, doubled `width` times. -/
def fieldSize : Nat → Nat
  | 0 => 1
  | width + 1 => 2 * fieldSize width

/-- What a first byte announces. The number or the length behind it has the `fieldSize` of the
`width`, and that of the next greater width in a long array or map. -/
inductive Format where
  | positiveFixint (number : Fin 128)
  | fixmap (size : Fin 16)
  | fixarray (size : Fin 16)
  | fixstr (length : Fin 32)
  | nil
  | reserved
  | bool (truth : Bool)
  | bin (width : Fin 3)
  | ext (width : Fin 3)
  | float32
  | float64
  | uint (width : Fin 4)
  | int (width : Fin 4)
  | fixext (size : Fin 5)
  | str (width : Fin 3)
  | array (width : Fin 2)
  | map (width : Fin 2)
  | negativeFixint (number : Fin 32)
deriving DecidableEq, Repr

namespace Format

/-- The value of a format's byte. -/
def code : Format → Nat
  | positiveFixint number => number
  | fixmap size => 0x80 + size
  | fixarray size => 0x90 + size
  | fixstr length => 0xa0 + length
  | nil => 0xc0
  | reserved => 0xc1
  | bool truth => if truth then 0xc3 else 0xc2
  | bin width => 0xc4 + width
  | ext width => 0xc7 + width
  | float32 => 0xca
  | float64 => 0xcb
  | uint width => 0xcc + width
  | int width => 0xd0 + width
  | fixext size => 0xd4 + size
  | str width => 0xd9 + width
  | array width => 0xdc + width
  | map width => 0xde + width
  | negativeFixint number => 0xe0 + number

theorem code_lt (format : Format) : format.code < 256 := by
  cases format <;> simp only [code] <;> (try split) <;> omega

/-- The format of a byte's value. -/
def ofCode (code : Nat) : Format :=
  if h : code < 0x80 then positiveFixint ⟨code, h⟩
  else if h : code < 0x90 then fixmap ⟨code - 0x80, by omega⟩
  else if h : code < 0xa0 then fixarray ⟨code - 0x90, by omega⟩
  else if h : code < 0xc0 then fixstr ⟨code - 0xa0, by omega⟩
  else if code = 0xc0 then nil
  else if code = 0xc1 then reserved
  else if code < 0xc4 then bool (code = 0xc3)
  else if h : code < 0xc7 then bin ⟨code - 0xc4, by omega⟩
  else if h : code < 0xca then ext ⟨code - 0xc7, by omega⟩
  else if code = 0xca then float32
  else if code = 0xcb then float64
  else if h : code < 0xd0 then uint ⟨code - 0xcc, by omega⟩
  else if h : code < 0xd4 then int ⟨code - 0xd0, by omega⟩
  else if h : code < 0xd9 then fixext ⟨code - 0xd4, by omega⟩
  else if h : code < 0xdc then str ⟨code - 0xd9, by omega⟩
  else if h : code < 0xde then array ⟨code - 0xdc, by omega⟩
  else if h : code < 0xe0 then map ⟨code - 0xde, by omega⟩
  else negativeFixint (Fin.ofNat 32 code)

theorem ofCode_code (format : Format) : ofCode format.code = format := by
  revert format
  rintro (number | size | size | length | _ | _ | truth | width | width | _ | _ | width | width |
    size | width | width | width | number)
  · revert number; decide +kernel
  · revert size; decide
  · revert size; decide
  · revert length; decide
  · rfl
  · rfl
  · cases truth <;> rfl
  · revert width; decide
  · revert width; decide
  · rfl
  · rfl
  · revert width; decide
  · revert width; decide
  · revert size; decide
  · revert width; decide
  · revert width; decide
  · revert width; decide
  · revert number; decide

theorem code_ofCode {number : Nat} (small : number < 256) : (ofCode number).code = number := by
  have every : ∀ index : Fin 256, (ofCode index).code = index := by decide +kernel
  exact every ⟨number, small⟩

/-- The byte of a format. -/
def toByte (format : Format) : UInt8 :=
  UInt8.ofNat format.code

/-- The format of a byte. -/
def ofByte (byte : UInt8) : Format :=
  ofCode byte.toNat

@[simp] theorem ofByte_toByte (format : Format) : ofByte format.toByte = format := by
  have small : format.code < 2 ^ 8 := format.code_lt
  rw [ofByte, toByte, UInt8.toNat_ofNat', Nat.mod_eq_of_lt small, ofCode_code]

@[simp] theorem toByte_ofByte (byte : UInt8) : (ofByte byte).toByte = byte := by
  rw [toByte, ofByte, code_ofCode byte.toNat_lt, UInt8.ofNat_toNat]

end Format

end SharedWeights.MessagePack
