/-
**Writing values as MessagePack objects.**

Each value is written as one object in the shortest form that holds it. A natural number is written
unsigned, a negative one signed; only texts of fewer than 32 bytes carry their length in the first
byte, while every blob has a length field.
-/

import SharedWeights.MessagePack.Format
import SharedWeights.Value
import SharedWeights.Text.Utf8

namespace SharedWeights.MessagePack

/-- The width of the shortest unsigned field for a number below `2 ^ 64`. -/
def unsignedWidth (number : Nat) : Fin 4 :=
  if number < 0x100 then 0
  else if number < 0x10000 then 1
  else if number < 0x100000000 then 2
  else 3

/-- The width of the shortest signed field for a negative number from `-2 ^ 63` on. -/
def signedWidth (number : Int) : Fin 4 :=
  if -0x80 ≤ number then 0
  else if -0x8000 ≤ number then 1
  else if -0x80000000 ≤ number then 2
  else 3

/-- The width of the shortest length field for a length below `2 ^ 32`. -/
def lengthWidth (length : Nat) : Fin 3 :=
  if length < 0x100 then 0 else if length < 0x10000 then 1 else 2

/-- A number of the given width in two's complement, the most significant byte first. -/
def twosComplement (width : Nat) (number : Int) : Bytes :=
  Bytes.bigEndian width (number % (Bytes.span width : Int)).toNat

/-- The object of an integer. -/
def ofInt (number : Int) : Bytes :=
  if natural : 0 ≤ number then
    if h : number.toNat < 128 then [(Format.positiveFixint ⟨number.toNat, h⟩).toByte]
    else
      let width := unsignedWidth number.toNat
      (Format.uint width).toByte :: Bytes.bigEndian (fieldSize width) number.toNat
  else if h : -32 ≤ number then
    [(Format.negativeFixint ⟨(number + 32).toNat, by omega⟩).toByte]
  else
    let width := signedWidth number
    (Format.int width).toByte :: twosComplement (fieldSize width) number

/-- The object of a text, given as its bytes. -/
def ofText (body : Bytes) : Bytes :=
  if h : body.length < 32 then (Format.fixstr ⟨body.length, h⟩).toByte :: body
  else
    let width := lengthWidth body.length
    (Format.str width).toByte :: Bytes.bigEndian (fieldSize width) body.length ++ body

/-- The object of a blob. -/
def ofBlob (body : Bytes) : Bytes :=
  let width := lengthWidth body.length
  (Format.bin width).toByte :: Bytes.bigEndian (fieldSize width) body.length ++ body

/-- The object of a value. -/
def write : Value → Bytes
  | .nil => [Format.nil.toByte]
  | .bool truth => [(Format.bool truth).toByte]
  | .int number => ofInt number.toInt
  | .float32 number => Format.float32.toByte :: Bytes.bigEndian 4 number.bits.toNat
  | .float64 bits => Format.float64.toByte :: Bytes.bigEndian 8 bits.toNat
  | .str text => ofText (Text.Utf8.encode text)
  | .bin blob => ofBlob blob

end SharedWeights.MessagePack
