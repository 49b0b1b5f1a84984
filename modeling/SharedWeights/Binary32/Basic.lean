/-
**Binary32 numbers, bit for bit.**

Weights and gradients are IEEE 754 binary32 numbers. A number is kept as its 32 bits, so that what
is only passed on is passed on unchanged: a NaN keeps its payload and the two zeros differ.
Addition is that of the standard, rounded to the nearest number with ties to the even one; where the
sum is no number it is the one quiet NaN `7fc00000`.

* `bits_injective`: a number is its bits;
* `significand_lt`: a significand has at most 24 binary digits.
-/

namespace SharedWeights

/-- A binary32 number, as its bits. -/
structure Binary32 where
  bits : UInt32
deriving DecidableEq, Repr

namespace Binary32

/-- Positive zero. -/
def zero : Binary32 := ⟨0⟩

/-- The sum, rounded to the nearest number. -/
protected def add (first second : Binary32) : Binary32 :=
  ⟨(Float32.ofBits first.bits + Float32.ofBits second.bits).toBits⟩

instance : Add Binary32 := ⟨Binary32.add⟩

theorem bits_injective {first second : Binary32} (same : first.bits = second.bits) :
    first = second := by
  cases first; cases second; simp_all

/-! ### The three fields -/

/-- Whether the sign bit is set. -/
def isNegative (number : Binary32) : Bool :=
  decide (0x80000000 ≤ number.bits.toNat)

/-- The eight bits that scale the number. -/
def scale (number : Binary32) : Nat :=
  number.bits.toNat / 0x800000 % 0x100

/-- The 23 bits behind the leading digit. -/
def fraction (number : Binary32) : Nat :=
  number.bits.toNat % 0x800000

/-- Whether the number is neither an infinity nor a NaN. -/
def isFinite (number : Binary32) : Bool :=
  decide (number.scale ≠ 255)

/-- Whether the bits stand for no number. -/
def isNaN (number : Binary32) : Bool :=
  decide (number.scale = 255) && decide (number.fraction ≠ 0)

/-- The digits of a finite number's magnitude, which is `significand * 2 ^ lastPlace`. -/
def significand (number : Binary32) : Nat :=
  if number.scale = 0 then number.fraction else 0x800000 + number.fraction

/-- The exponent of the last of these digits. -/
def lastPlace (number : Binary32) : Int :=
  (max number.scale 1 : Nat) - 150

theorem significand_lt (number : Binary32) : number.significand < 0x1000000 := by
  have small : number.fraction < 0x800000 := Nat.mod_lt _ (by decide)
  unfold significand
  split <;> omega

/-- The number of the given sign whose other bits are `magnitude`. -/
def ofMagnitude (negative : Bool) (magnitude : Nat) : Binary32 :=
  ⟨UInt32.ofNat (if negative then 0x80000000 + magnitude else magnitude)⟩

/-- The magnitude bits of infinity. -/
def infinity : Nat := 0x7f800000

/-- The magnitude bits of the quiet NaN. -/
def quietNaN : Nat := 0x7fc00000

end Binary32

end SharedWeights
