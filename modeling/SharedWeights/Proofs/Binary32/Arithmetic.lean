/-
**The arithmetic behind the bits.**

A binary32 number is kept as its bits, and its sums are those of the numbers that the bits stand
for, among which there is only one NaN. So a number may be taken out of its bits, added to others
and put back at the end, as if it had been put back after each addition:

* `pack_unpack`: the bits of a number are those of its sign, its exponent and its digits;
* `toFloat32_ofFloat32`: a number that is put into bits comes back as it was;
* `foldl_add_ofFloat32`: a running sum may be kept as a number and put into bits at its end.
-/

import SharedWeights.Binary32.Basic

namespace SharedWeights.Binary32

open Float.Model (Format UnpackedFloat)
open Float.Model.UnpackedFloat (Sign unpackSign unpackExponent unpackMantissa packComponents)

theorem toBitVec_ofBitVec (bit : BitVec 1) : (Sign.ofBitVec bit).toBitVec = bit := by
  revert bit
  decide

/-- The three fields make up the number. -/
theorem packComponents_unpack (bits : BitVec 32) :
    packComponents .binary32 (.ofBitVec (@unpackSign .binary32 bits))
      (@unpackExponent .binary32 bits) (@unpackMantissa .binary32 bits) = bits := by
  have upper : BitVec.extractLsb' 31 1 bits ++ BitVec.extractLsb' 23 8 bits =
      BitVec.extractLsb' 23 9 bits := BitVec.extractLsb'_append_extractLsb'_eq_extractLsb' rfl
  have whole : BitVec.extractLsb' 23 9 bits ++ BitVec.extractLsb' 0 23 bits =
      BitVec.extractLsb' 0 32 bits := BitVec.extractLsb'_append_extractLsb'_eq_extractLsb' rfl
  rw [packComponents, toBitVec_ofBitVec]
  show BitVec.extractLsb' 31 1 bits ++ BitVec.extractLsb' 23 8 bits ++
    BitVec.extractLsb' 0 23 bits = bits
  rw [upper, whole]
  exact BitVec.extractLsb'_eq_self

/-- A number below the normal ones is packed as its digits, with the exponent field zero. -/
theorem pack_subnormal (sign : Sign) {digits : BitVec 23} (positive : 0 < digits.toNat) :
    UnpackedFloat.pack .binary32 (.finite sign digits.toNat (-149) positive) =
      packComponents .binary32 sign 0#8 digits := by
  have size := (Nat.log2_lt (Nat.ne_of_gt positive)).2 digits.isLt
  have short : digits.toNat.log2 + 1 ≠ Format.binary32.mantissaBits := show _ ≠ 24 by omega
  unfold UnpackedFloat.pack
  dsimp only
  rw [if_neg (by decide), if_neg short, BitVec.ofNat_toNat, BitVec.setWidth_eq]

/-- A normal number is packed without its leading digit. -/
theorem pack_normal (sign : Sign) {digits : BitVec 23} {exponent : BitVec 8}
    (finite : exponent ≠ -1#8) (positive : 0 < (1#1 ++ digits).toNat) :
    UnpackedFloat.pack .binary32
        (.finite sign (1#1 ++ digits).toNat (exponent.toNat - 150) positive) =
      packComponents .binary32 sign exponent digits := by
  have small := digits.isLt
  have leading : (1#1 ++ digits).toNat = 2 ^ 23 + digits.toNat := by
    rw [BitVec.toNat_append]
    exact (Nat.shiftLeft_add_eq_or_of_lt small 1).symm
  have least : 23 ≤ (1#1 ++ digits).toNat.log2 :=
    (Nat.le_log2 (Nat.ne_of_gt positive)).2 (by omega)
  have most : (1#1 ++ digits).toNat.log2 < 24 :=
    (Nat.log2_lt (Nat.ne_of_gt positive)).2 (by omega)
  have long : (1#1 ++ digits).toNat.log2 + 1 = Format.binary32.mantissaBits :=
    show _ = 24 by omega
  have low : exponent.toNat + 1 < 256 := by
    have bounded := exponent.isLt
    have differs : exponent.toNat ≠ 255 := fun same => finite (BitVec.eq_of_toNat_eq same)
    omega
  have bias : Format.binary32.exponentBias = 127 := rfl
  have biased : ((exponent.toNat : Int) - 150 + (127 : Nat) + (23 : Nat)).toNat =
      exponent.toNat := by omega
  have digit : BitVec.ofNat 23 (1#1 ++ digits).toNat = digits := by
    apply BitVec.eq_of_toNat_eq
    rw [BitVec.toNat_ofNat, leading]
    omega
  unfold UnpackedFloat.pack
  dsimp only
  rw [bias, biased, if_neg (Nat.not_le.2 low), if_pos long, digit, BitVec.ofNat_toNat,
    BitVec.setWidth_eq]

/-- What is no NaN, or the one NaN there is, is packed again as it was. -/
theorem pack_unpack {bits : BitVec 32} (valid : Format.binary32.Valid bits) :
    UnpackedFloat.pack .binary32 (UnpackedFloat.unpack .binary32 bits) = bits := by
  have whole := packComponents_unpack bits
  unfold UnpackedFloat.unpack
  dsimp only
  -- infinities and the NaN, then zeros and the numbers below the normal ones, then the others
  by_cases full : @unpackExponent .binary32 bits = -BitVec.ofNat Format.binary32.exponentBits 1
  · by_cases none : @unpackMantissa .binary32 bits =
        BitVec.ofNat Format.binary32.mantissaBitsWithoutImplicit 0
    · rw [if_pos full, if_pos none]
      rw [full, none] at whole
      exact whole
    · rw [if_pos full, if_neg none]
      exact (valid.eq_packedNaN full none).symm
  · rw [if_neg full]
    by_cases low : @unpackExponent .binary32 bits = BitVec.ofNat Format.binary32.exponentBits 0
    · rw [if_pos low]
      rw [low] at whole ⊢
      by_cases none : @unpackMantissa .binary32 bits =
          BitVec.ofNat Format.binary32.mantissaBitsWithoutImplicit 0
      · rw [dif_pos none]
        rw [none] at whole
        exact whole
      · rw [dif_neg none]
        exact (pack_subnormal _ _).trans whole
    · rw [if_neg low]
      exact (pack_normal _ full _).trans whole

theorem model_injective {first second : Float32.Model} (same : first.toBits = second.toBits) :
    first = second := by
  cases first
  cases second
  cases same
  rfl

theorem ofBits_toBits (number : Float32) : Float32.ofBits number.toBits = number :=
  congrArg Float32.ofModel
    (model_injective (congrArg UInt32.ofBitVec (pack_unpack number.toModel.valid)))

/-! ### Numbers and their bits -/

/-- The number that the bits stand for. -/
def toFloat32 (number : Binary32) : Float32 := Float32.ofBits number.bits

/-- The bits of a number; those of NaN are `7fc00000`. -/
def ofFloat32 (number : Float32) : Binary32 := ⟨number.toBits⟩

theorem toFloat32_ofFloat32 (number : Float32) : (ofFloat32 number).toFloat32 = number :=
  ofBits_toBits number

theorem ofFloat32_zero : ofFloat32 0 = zero := by
  decide

theorem add_eq (first second : Binary32) :
    first + second = ofFloat32 (first.toFloat32 + second.toFloat32) := rfl

/-- **A running sum** may be kept as a number, and put into bits only at its end. -/
theorem foldl_add_ofFloat32 {Entry : Type} (summand : Entry → Float32) (entries : List Entry)
    (start : Float32) :
    entries.foldl (fun sum entry => sum + ofFloat32 (summand entry)) (ofFloat32 start) =
      ofFloat32 (entries.foldl (fun sum entry => sum + summand entry) start) := by
  refine List.foldl_hom ofFloat32 fun sum entry => ?_
  rw [add_eq, toFloat32_ofFloat32, toFloat32_ofFloat32]

end SharedWeights.Binary32
