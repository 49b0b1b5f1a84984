/-
**What is rounded to a number.**

Around every finite number lies an interval of the fractions that are nearer to it than to any other
number, up to the points half way to its neighbours. The ends belong to it if the last digit of the
number is even. Rounding goes by places and remainders and knows nothing of that interval, but comes
to the same:

* `roundedQuotient_eq_iff`: a quotient is rounded to the whole number that is not more than a half
  away from it, to the even one of two;
* `roundingPlace_spec`: at the place to which a fraction is rounded it has 24 digits, or fewer if
  that is the last place there is;
* `ofRatio_eq_iff`, `ofDecimal_eq_iff`: **exactly what lies in the interval of a number is rounded
  to it**.
-/

import SharedWeights.Binary32.Shortest
import Mathlib.Algebra.Order.Field.Power
import Mathlib.Data.Rat.Cast.Order
import Mathlib.Tactic.FieldSimp
import Mathlib.Tactic.Linarith
import Mathlib.Tactic.NormNum
import Mathlib.Tactic.Positivity
import Mathlib.Tactic.Ring

namespace SharedWeights.Binary32

/-! ### Intervals -/

/-- A value lies between two ends, which count if the interval is closed. -/
structure Within (closed : Prop) (low high value : ℚ) : Prop where
  above : low ≤ value
  below : value ≤ high
  inside : ¬ closed → low < value ∧ value < high

theorem Within.of_lt {closed : Prop} {low high value : ℚ} (above : low < value)
    (below : value < high) : Within closed low high value :=
  ⟨above.le, below.le, fun _ => ⟨above, below⟩⟩

theorem Within.convex {closed : Prop} {low high first second value : ℚ}
    (one : Within closed low high first) (other : Within closed low high second)
    (from_first : first ≤ value) (to_second : value ≤ second) : Within closed low high value :=
  ⟨one.above.trans from_first, to_second.trans other.below, fun opened =>
    ⟨(one.inside opened).1.trans_le from_first, to_second.trans_lt (other.inside opened).2⟩⟩

/-- An end that is not reached may be put elsewhere. -/
theorem within_iff_of_lt {closed : Prop} {low other high value : ℚ} (one : low < value)
    (further : other < value) : Within closed low high value ↔ Within closed other high value := by
  constructor
  · rintro ⟨-, below, inside⟩
    exact ⟨further.le, below, fun opened => ⟨further, (inside opened).2⟩⟩
  · rintro ⟨-, below, inside⟩
    exact ⟨one.le, below, fun opened => ⟨one, (inside opened).2⟩⟩

theorem within_mul_iff {closed : Prop} {low high value unit : ℚ} (positive : 0 < unit) :
    Within closed (low * unit) (high * unit) (value * unit) ↔ Within closed low high value := by
  constructor
  · rintro ⟨above, below, inside⟩
    refine ⟨le_of_mul_le_mul_right above positive, le_of_mul_le_mul_right below positive,
      fun opened => ?_⟩
    obtain ⟨left, right⟩ := inside opened
    exact ⟨lt_of_mul_lt_mul_right left positive.le, lt_of_mul_lt_mul_right right positive.le⟩
  · rintro ⟨above, below, inside⟩
    refine ⟨mul_le_mul_of_nonneg_right above positive.le,
      mul_le_mul_of_nonneg_right below positive.le, fun opened => ?_⟩
    obtain ⟨left, right⟩ := inside opened
    exact ⟨mul_lt_mul_of_pos_right left positive, mul_lt_mul_of_pos_right right positive⟩

/-- A whole number is nearest to a value, and even if another one is as near. -/
def Nearest (whole : ℕ) (value : ℚ) : Prop :=
  Within (whole % 2 = 0) (whole - 1 / 2) (whole + 1 / 2) value

/-- No two whole numbers are nearest. -/
theorem Nearest.unique {first second : ℕ} {value : ℚ} (one : Nearest first value)
    (other : Nearest second value) : first = second := by
  have apart {lower : ℕ} (low : Nearest lower value) (high : Nearest (lower + 1) value) : False := by
    have middle : value = lower + 1 / 2 := by
      have above := high.above
      push_cast at above
      linarith [low.below]
    by_cases even : lower % 2 = 0
    · have odd : ¬ (lower + 1) % 2 = 0 := by omega
      have strict := (high.inside odd).1
      push_cast at strict
      linarith
    · exact absurd (low.inside even).2 (by linarith)
  have upper : (first : ℚ) ≤ second + 1 := by linarith [one.above, other.below]
  have lower : (second : ℚ) ≤ first + 1 := by linarith [other.above, one.below]
  have upper : first ≤ second + 1 := by exact_mod_cast upper
  have lower : second ≤ first + 1 := by exact_mod_cast lower
  rcases Nat.lt_trichotomy first second with less | same | more
  · obtain rfl : second = first + 1 := by omega
    exact (apart one other).elim
  · exact same
  · obtain rfl : first = second + 1 := by omega
    exact (apart other one).elim

/-! ### Quotients -/

/-- A quotient half way between two whole numbers leaves half the denominator. -/
theorem tie_of_middle {numerator denominator whole : ℕ} (positive : 0 < denominator)
    (middle : (numerator / denominator : ℚ) = whole + 1 / 2) :
    2 * (numerator % denominator) = denominator := by
  have size : (0 : ℚ) < denominator := by exact_mod_cast positive
  rw [div_eq_iff size.ne'] at middle
  have twice : (2 * numerator : ℚ) = 2 * (denominator * whole) + denominator := by linarith
  have twice : 2 * numerator = 2 * (denominator * whole) + denominator := by exact_mod_cast twice
  have next : denominator * (whole + 1) = denominator * whole + denominator := Nat.mul_succ _ _
  have quotient : numerator / denominator = whole :=
    Nat.div_eq_of_lt_le (by rw [Nat.mul_comm]; omega) (by rw [Nat.mul_comm]; omega)
  have split := Nat.div_add_mod numerator denominator
  rw [quotient] at split
  omega

theorem nearest_roundedQuotient (numerator : ℕ) {denominator : ℕ} (positive : 0 < denominator) :
    Nearest (roundedQuotient numerator denominator) (numerator / denominator) := by
  obtain ⟨upper, lower⟩ := roundedQuotient_within_half numerator positive
  have even := @roundedQuotient_even_of_tie numerator denominator
  generalize roundedQuotient numerator denominator = whole at upper lower even
  have size : (0 : ℚ) < denominator := by exact_mod_cast positive
  have upper : (2 * numerator : ℚ) ≤ 2 * (denominator * whole) + denominator := by
    exact_mod_cast upper
  have lower : (2 * (denominator * whole) : ℚ) ≤ 2 * numerator + denominator := by
    exact_mod_cast lower
  have above : (whole - 1 / 2 : ℚ) ≤ numerator / denominator := by
    rw [le_div_iff₀ size]
    linarith
  have below : (numerator / denominator : ℚ) ≤ whole + 1 / 2 := by
    rw [div_le_iff₀ size]
    linarith
  refine ⟨above, below, fun odd => ⟨lt_of_le_of_ne above fun same => ?_,
    lt_of_le_of_ne below fun same => ?_⟩⟩
  · obtain ⟨before, rfl⟩ : ∃ before, whole = before + 1 := ⟨whole - 1, by omega⟩
    refine odd (even (@tie_of_middle _ _ before positive ?_))
    push_cast at same
    linarith
  · exact odd (even (tie_of_middle positive same))

/-- **A quotient is rounded to the whole number nearest to it.** -/
theorem roundedQuotient_eq_iff {numerator denominator whole : ℕ} (positive : 0 < denominator) :
    roundedQuotient numerator denominator = whole ↔ Nearest whole (numerator / denominator) := by
  have nearest := nearest_roundedQuotient numerator positive
  constructor
  · rintro rfl
    exact nearest
  · exact nearest.unique

/-! ### Places -/

theorem two_zpow_pos (place : ℤ) : (0 : ℚ) < 2 ^ place := zpow_pos (by norm_num) place

theorem two_zpow_add (place further : ℤ) : (2 : ℚ) ^ (place + further) = 2 ^ place * 2 ^ further :=
  zpow_add₀ (by norm_num) place further

theorem two_zpow_le_iff {place other : ℤ} : (2 : ℚ) ^ place ≤ 2 ^ other ↔ place ≤ other :=
  zpow_le_zpow_iff_right₀ (by norm_num)

theorem two_zpow_lt_iff {place other : ℤ} : (2 : ℚ) ^ place < 2 ^ other ↔ place < other :=
  zpow_lt_zpow_iff_right₀ (by norm_num)

/-- A value in places lies below a power of two if its first digit does. -/
theorem div_two_zpow_lt_iff {value : ℚ} {place digits : ℤ} :
    value / 2 ^ place < 2 ^ digits ↔ value < 2 ^ (place + digits) := by
  rw [div_lt_iff₀ (two_zpow_pos place), two_zpow_add, mul_comm]

theorem le_div_two_zpow_iff {value : ℚ} {place digits : ℤ} :
    2 ^ digits ≤ value / 2 ^ place ↔ 2 ^ (place + digits) ≤ value := by
  rw [le_div_iff₀ (two_zpow_pos place), two_zpow_add, mul_comm]

/-- A power is a quotient of powers that no sign is needed for. -/
theorem zpow_eq_div {base : ℚ} (exponent : ℤ) :
    base ^ exponent = base ^ exponent.toNat / base ^ (-exponent).toNat := by
  obtain ⟨size, rfl | rfl⟩ := exponent.eq_nat_or_neg
  · simp
  · simp

section Fraction

variable {numerator denominator : ℕ}

theorem scaled_pos (numerator : ℕ) (positive : 0 < denominator) (place : ℤ) :
    0 < (scaled numerator denominator place).2 :=
  Nat.mul_pos positive (Nat.pow_pos (by decide))

theorem scaled_div (numerator denominator : ℕ) (place : ℤ) :
    ((scaled numerator denominator place).1 : ℚ) / (scaled numerator denominator place).2 =
      numerator / denominator / 2 ^ place := by
  rw [zpow_eq_div, scaled, Nat.pow_eq, Nat.pow_eq]
  push_cast
  rw [div_div_eq_mul_div, div_mul_eq_mul_div, div_div]

theorem log2_bounds {number : ℕ} (positive : 0 < number) :
    (2 : ℚ) ^ (number.log2 : ℤ) ≤ number ∧ (number : ℚ) < 2 ^ ((number.log2 : ℤ) + 1) := by
  rw [← Nat.cast_succ, zpow_natCast, zpow_natCast]
  exact ⟨by exact_mod_cast Nat.log2_self_le positive.ne', by exact_mod_cast Nat.lt_log2_self⟩

/-- The place of the first digit of a fraction is that of its numerator less that of its
denominator, or the one below. -/
theorem ratio_bounds (first : 0 < numerator) (second : 0 < denominator) :
    (2 : ℚ) ^ ((numerator.log2 : ℤ) - denominator.log2 - 1) < numerator / denominator ∧
      (numerator / denominator : ℚ) < 2 ^ ((numerator.log2 : ℤ) - denominator.log2 + 1) := by
  obtain ⟨least, most⟩ := log2_bounds first
  obtain ⟨small, large⟩ := log2_bounds second
  have size : (0 : ℚ) < denominator := by exact_mod_cast second
  constructor
  · rw [lt_div_iff₀ size]
    calc (2 : ℚ) ^ ((numerator.log2 : ℤ) - denominator.log2 - 1) * denominator
        < 2 ^ ((numerator.log2 : ℤ) - denominator.log2 - 1) * 2 ^ ((denominator.log2 : ℤ) + 1) :=
          mul_lt_mul_of_pos_left large (two_zpow_pos _)
      _ = 2 ^ (numerator.log2 : ℤ) := by rw [← two_zpow_add]; congr 1; ring
      _ ≤ numerator := least
  · rw [div_lt_iff₀ size]
    calc (numerator : ℚ) < 2 ^ ((numerator.log2 : ℤ) + 1) := most
      _ = 2 ^ ((numerator.log2 : ℤ) - denominator.log2 + 1) * 2 ^ (denominator.log2 : ℤ) := by
          rw [← two_zpow_add]; congr 1; ring
      _ ≤ 2 ^ ((numerator.log2 : ℤ) - denominator.log2 + 1) * denominator :=
          mul_le_mul_of_nonneg_left small (two_zpow_pos _).le

/-- **The place to which a fraction is rounded** leaves it at most 24 digits, and no fewer unless it
is the last place there is. -/
theorem roundingPlace_spec (first : 0 < numerator) (second : 0 < denominator) :
    -149 ≤ roundingPlace numerator denominator ∧
      (numerator / denominator : ℚ) < 2 ^ (roundingPlace numerator denominator + 24) ∧
      (roundingPlace numerator denominator = -149 ∨
        (2 : ℚ) ^ (roundingPlace numerator denominator + 23) ≤ numerator / denominator) := by
  obtain ⟨least, most⟩ := ratio_bounds first second
  let guess : ℤ := (numerator.log2 : ℤ) - denominator.log2 - 23
  let unit := scaled numerator denominator (guess + 23)
  have lies : unit.1 < unit.2 ↔ (numerator / denominator : ℚ) < 2 ^ (guess + 23) := by
    have size : (0 : ℚ) < unit.2 := by exact_mod_cast scaled_pos numerator second (guess + 23)
    rw [← div_lt_one (two_zpow_pos _), ← scaled_div, div_lt_one size]
    exact Nat.cast_lt.symm
  have chosen : roundingPlace numerator denominator =
      max (-149) (if unit.1 < unit.2 then guess - 1 else guess) := rfl
  generalize roundingPlace numerator denominator = place at chosen
  -- the place that leaves just 24 digits, were there no last place
  obtain ⟨free, clipped, low, high⟩ : ∃ free : ℤ, place = max (-149) free ∧
      (2 : ℚ) ^ (free + 23) ≤ numerator / denominator ∧
      (numerator / denominator : ℚ) < 2 ^ (free + 24) := by
    split at chosen
    · next small =>
      refine ⟨guess - 1, chosen, ?_, ?_⟩
      · refine le_of_eq_of_le (congrArg _ ?_) least.le
        ring
      · refine lt_of_lt_of_eq (lies.1 small) (congrArg _ ?_)
        ring
    · next large =>
      refine ⟨guess, chosen, not_lt.1 (mt lies.2 large), ?_⟩
      refine lt_of_lt_of_eq most (congrArg _ ?_)
      ring
  refine ⟨by omega, high.trans_le (two_zpow_le_iff.2 (by omega)), ?_⟩
  rcases le_or_gt free (-149) with early | late
  · exact .inl (by omega)
  · refine .inr (le_of_eq_of_le (congrArg _ ?_) low)
    omega

end Fraction

/-! ### The digits of a number -/

theorem lastPlace_ge (number : Binary32) : -149 ≤ number.lastPlace := by
  unfold lastPlace
  omega

/-- A number has 24 digits, unless its last place is the last there is. -/
theorem significand_ge (number : Binary32) :
    number.lastPlace = -149 ∨ 0x800000 ≤ number.significand := by
  unfold lastPlace significand
  split <;> omega

theorem lastPlace_le {number : Binary32} (finite : number.isFinite = true) :
    number.lastPlace ≤ 104 := by
  have scaled : number.scale ≠ 255 := of_decide_eq_true finite
  have small : number.scale < 0x100 := Nat.mod_lt _ (by decide)
  unfold lastPlace
  omega

/-- Below a power of two the numbers lie closer, unless the last place is the last there is. -/
theorem reachBelow_eq (number : Binary32) :
    number.reachBelow =
      if number.significand = 0x800000 ∧ -149 < number.lastPlace then 1 else 2 := by
  have small : number.fraction < 0x800000 := Nat.mod_lt _ (by decide)
  have same : number.fraction = 0 ∧ 1 < number.scale ↔
      number.significand = 0x800000 ∧ -149 < number.lastPlace := by
    unfold lastPlace significand
    split <;> omega
  rw [reachBelow, if_congr same rfl rfl]

theorem highest_le (number : Binary32) : number.quarters + number.reachAbove ≤ 0x3fffffe := by
  have small := number.significand_lt
  unfold quarters reachAbove
  omega

theorem lowest_pos {number : Binary32} (something : number.significand ≠ 0) :
    1 ≤ number.quarters - number.reachBelow := by
  unfold quarters reachBelow
  split <;> omega

/-- The bits without the sign, which count the numbers below. -/
def magnitudeBits (number : Binary32) : ℕ :=
  (number.lastPlace + 149).toNat * 0x800000 + number.significand

theorem magnitudeBits_eq (number : Binary32) :
    number.magnitudeBits = number.bits.toNat % 0x80000000 := by
  unfold magnitudeBits lastPlace significand scale fraction
  split <;> omega

theorem ofMagnitude_magnitudeBits (number : Binary32) :
    ofMagnitude number.isNegative number.magnitudeBits = number := by
  have small : number.bits.toNat < 0x100000000 := number.bits.toNat_lt
  apply bits_injective
  apply UInt32.toNat_inj.1
  rw [magnitudeBits_eq, ofMagnitude, UInt32.toNat_ofNat']
  by_cases negative : 0x80000000 ≤ number.bits.toNat
  · rw [isNegative, decide_eq_true negative, if_pos rfl]
    omega
  · rw [isNegative, decide_eq_false negative, if_neg Bool.false_ne_true]
    omega

theorem ofMagnitude_inj {negative : Bool} {first second : ℕ} (one : first < 0x80000000)
    (other : second < 0x80000000) (same : ofMagnitude negative first = ofMagnitude negative second) :
    first = second := by
  have bits := congrArg (fun number => number.bits.toNat) same
  simp only [ofMagnitude, UInt32.toNat_ofNat'] at bits
  cases negative with
  | true | false =>
    simp only [if_true, Bool.false_eq_true, if_false] at bits
    omega

theorem magnitudeBits_lt {number : Binary32} (finite : number.isFinite = true) :
    number.magnitudeBits < infinity := by
  have small := number.significand_lt
  have low := lastPlace_le finite
  unfold magnitudeBits infinity
  omega

/-! ### What is rounded to a number -/

/-- A value lies in the interval around a number, whose ends count if its last digit is even. -/
def Attracts (number : Binary32) (value : ℚ) : Prop :=
  Within (number.significand % 2 = 0) (number.quarters - number.reachBelow : ℕ)
    (number.quarters + number.reachAbove : ℕ) (value / 2 ^ (number.lastPlace - 2))

section Attracted

variable {number : Binary32} {value : ℚ} {place : ℤ}

theorem mul_quarter (number : Binary32) (value : ℚ) :
    value / 2 ^ number.lastPlace * 4 = value / 2 ^ (number.lastPlace - 2) := by
  have split : (2 : ℚ) ^ number.lastPlace = 2 ^ (number.lastPlace - 2) * 4 := by
    rw [show number.lastPlace = number.lastPlace - 2 + 2 by ring, two_zpow_add]
    norm_num
  rw [split]
  have positive := two_zpow_pos (number.lastPlace - 2)
  field_simp

/-- A value with as many digits as the number is rounded to the number's last place. -/
theorem attracts_iff_nearest (positive : 0 < value)
    (low : number.lastPlace = -149 ∨ (2 : ℚ) ^ (number.lastPlace + 23) ≤ value) :
    number.Attracts value ↔ Nearest number.significand (value / 2 ^ number.lastPlace) := by
  have size : 0 < value / 2 ^ number.lastPlace := div_pos positive (two_zpow_pos _)
  have high : ((number.quarters + number.reachAbove : ℕ) : ℚ) =
      (number.significand + 1 / 2) * 4 := by
    unfold quarters reachAbove
    push_cast
    ring
  have scaled := @within_mul_iff (number.significand % 2 = 0) (number.significand - 1 / 2)
    (number.significand + 1 / 2) (value / 2 ^ number.lastPlace) 4 (by norm_num)
  rw [Attracts, Nearest, ← scaled, ← mul_quarter, high]
  have below := reachBelow_eq number
  split at below
  · next power =>
    -- neither end is met from the side of the power of two
    obtain ⟨digits, further⟩ := power
    have least := le_div_two_zpow_iff.2 (low.resolve_left (by omega))
    norm_num at least
    rw [quarters, below, digits]
    refine within_iff_of_lt ?_ ?_ <;> (norm_num; linarith)
  · rcases Nat.eq_zero_or_pos number.significand with zero | digits
    · rw [quarters, below, zero]
      refine within_iff_of_lt ?_ ?_ <;> (norm_num; linarith)
    · have start : ((4 * number.significand - 2 : ℕ) : ℚ) = (number.significand - 1 / 2) * 4 := by
        rw [Nat.cast_sub (by omega)]
        push_cast
        ring
      rw [quarters, below, start]

/-- A value with fewer digits than the number is rounded to it only just below a power of two, where
the digits are carried. -/
theorem attracts_iff_carried (least : -149 ≤ place) (high : value < 2 ^ (place + 24))
    (earlier : place < number.lastPlace) :
    number.Attracts value ↔ place + 1 = number.lastPlace ∧ number.significand = 0x800000 ∧
      Nearest 0x1000000 (value / 2 ^ place) := by
  have digits := (significand_ge number).resolve_left (by omega)
  have below := reachBelow_eq number
  -- less than the power of two, in quarters of the last place
  have small : value / 2 ^ (number.lastPlace - 2) < 2 ^ (25 : ℤ) :=
    div_two_zpow_lt_iff.2 (high.trans_le (two_zpow_le_iff.2 (by omega)))
  norm_num at small
  -- the value in its own last places, twice as long
  have halved (next : place + 1 = number.lastPlace) :
      value / 2 ^ place * 2 = value / 2 ^ (number.lastPlace - 2) := by
    rw [← next, show place + 1 - 2 = place - 1 by ring, zpow_sub_one₀ (by norm_num)]
    field_simp
  have even : (0x1000000 : ℕ) % 2 = 0 := by decide
  constructor
  · rintro ⟨above, -, -⟩
    have power : number.significand = 0x800000 := by
      have whole : number.quarters - number.reachBelow < 0x2000000 := by
        exact_mod_cast above.trans_lt small
      unfold quarters at whole
      split at below <;> omega
    rw [if_pos ⟨power, by omega⟩] at below
    rw [quarters, below, power] at above
    norm_num at above
    have next : place + 1 = number.lastPlace := by
      have front : 2 ^ (24 : ℤ) ≤ value / 2 ^ (number.lastPlace - 2) := by
        norm_num
        linarith
      have order := two_zpow_lt_iff.1 ((le_div_two_zpow_iff.1 front).trans_lt high)
      omega
    have half := halved next
    refine ⟨next, power, ?_, ?_, fun opened => absurd even opened⟩
    · norm_num
      linarith
    · norm_num
      linarith
  · rintro ⟨next, power, above, -, -⟩
    have half := halved next
    rw [if_pos ⟨power, by omega⟩] at below
    rw [Attracts, quarters, below, power]
    norm_num at above
    refine ⟨?_, ?_, fun opened => absurd (by decide) opened⟩
    · norm_num
      linarith
    · norm_num [reachAbove]
      linarith

/-- No value with more digits than the number is rounded to it. -/
theorem not_attracts (low : place = -149 ∨ (2 : ℚ) ^ (place + 23) ≤ value)
    (later : number.lastPlace < place) : ¬ number.Attracts value := by
  rintro ⟨-, below, -⟩
  have digits := highest_le number
  have last := lastPlace_ge number
  have front : (2 : ℚ) ^ (number.lastPlace - 2 + 26) ≤ 2 ^ (place + 23) :=
    two_zpow_le_iff.2 (by omega)
  have large := le_div_two_zpow_iff.2 (front.trans (low.resolve_left (by omega)))
  norm_num at large
  have whole : 0x4000000 ≤ number.quarters + number.reachAbove := by
    exact_mod_cast large.trans below
  omega

end Attracted

/-! ### Rounding -/

/-- A value is rounded at a place, to digits of which there are 24, or fewer if the place is the last
there is, or to the next power of two. -/
structure Rounds (value : ℚ) (place : ℤ) (digits : ℕ) : Prop where
  positive : 0 < value
  least : -149 ≤ place
  high : value < 2 ^ (place + 24)
  low : place = -149 ∨ (2 : ℚ) ^ (place + 23) ≤ value
  nearest : Nearest digits (value / 2 ^ place)

section Rounded

variable {number : Binary32} {value : ℚ} {place : ℤ} {digits : ℕ}

theorem Rounds.digits_le (rounds : Rounds value place digits) : digits ≤ 0x1000000 := by
  have small := div_two_zpow_lt_iff.2 rounds.high
  have above := rounds.nearest.above
  norm_num at small
  have bound : (digits : ℚ) < 0x1000000 + 1 := by linarith
  exact Nat.le_of_lt_succ (by exact_mod_cast bound)

theorem Rounds.le_digits (rounds : Rounds value place digits) :
    place = -149 ∨ 0x800000 ≤ digits := by
  refine rounds.low.imp_right fun low => ?_
  have large := le_div_two_zpow_iff.2 low
  have below := rounds.nearest.below
  norm_num at large
  have bound : (0x800000 : ℚ) < digits + 1 := by linarith
  exact Nat.le_of_lt_succ (by exact_mod_cast bound)

/-- A value lies in the interval of the number that it is rounded to. -/
theorem Rounds.attracts_iff (rounds : Rounds value place digits) :
    number.Attracts value ↔
      (place + 149).toNat * 0x800000 + digits = number.magnitudeBits := by
  have few := rounds.digits_le
  have many := rounds.le_digits
  obtain ⟨positive, least, high, low, nearest⟩ := rounds
  have short := number.significand_lt
  have last := lastPlace_ge number
  have long := significand_ge number
  unfold magnitudeBits
  rcases lt_trichotomy place number.lastPlace with earlier | rfl | later
  · rw [attracts_iff_carried least high earlier]
    constructor
    · rintro ⟨next, power, carried⟩
      have digits := nearest.unique carried
      omega
    · intro same
      refine ⟨by omega, by omega, ?_⟩
      obtain rfl : digits = 0x1000000 := by omega
      exact nearest
  · rw [attracts_iff_nearest positive low]
    constructor
    · intro own
      rw [nearest.unique own]
    · intro same
      obtain rfl : digits = number.significand := by omega
      exact nearest
  · refine iff_of_false (not_attracts low later) ?_
    omega

/-- A fraction is rounded to the number of its place and its digits, or to infinity. -/
theorem exists_rounds {numerator denominator : ℕ} (first : 0 < numerator)
    (second : 0 < denominator) :
    ∃ (place : ℤ) (digits : ℕ), Rounds (numerator / denominator) place digits ∧
      ∀ negative, ofRatio negative numerator denominator =
        ofMagnitude negative (min ((place + 149).toNat * 0x800000 + digits) infinity) := by
  obtain ⟨least, high, low⟩ := roundingPlace_spec first second
  have positive : (0 : ℚ) < numerator / denominator :=
    div_pos (by exact_mod_cast first) (by exact_mod_cast second)
  let place := roundingPlace numerator denominator
  let parts := scaled numerator denominator place
  have nearest := nearest_roundedQuotient parts.1 (scaled_pos numerator second place)
  rw [scaled_div] at nearest
  exact ⟨place, roundedQuotient parts.1 parts.2, ⟨positive, least, high, low, nearest⟩,
    fun negative => rfl⟩

/-- **Exactly the fractions in the interval around a number are rounded to it.** -/
theorem ofRatio_eq_iff {numerator denominator : ℕ} (finite : number.isFinite = true)
    (first : 0 < numerator) (second : 0 < denominator) :
    ofRatio number.isNegative numerator denominator = number ↔
      number.Attracts (numerator / denominator) := by
  obtain ⟨place, digits, rounds, given⟩ := exists_rounds first second
  have small := magnitudeBits_lt finite
  have limit : infinity < 0x80000000 := by decide
  rw [given, rounds.attracts_iff]
  constructor
  · intro same
    have bits := ofMagnitude_inj (by omega) (by omega)
      (same.trans (ofMagnitude_magnitudeBits number).symm)
    omega
  · intro same
    rw [same, Nat.min_eq_left small.le, ofMagnitude_magnitudeBits]

end Rounded

/-! ### Decimals -/

/-- The value of a decimal. -/
def Decimal.value (decimal : Decimal) : ℚ :=
  decimal.digits * 10 ^ decimal.exponent

/-- **Exactly the decimals in the interval around a number are rounded to it.** -/
theorem ofDecimal_eq_iff {number : Binary32} {decimal : Decimal} (finite : number.isFinite = true)
    (something : decimal.digits ≠ 0) :
    ofDecimal number.isNegative decimal = number ↔ number.Attracts decimal.value := by
  have ten (exponent : ℤ) : 0 < Nat.pow 10 exponent.toNat := Nat.pow_pos (by decide)
  have value : ((decimal.digits * Nat.pow 10 decimal.exponent.toNat : ℕ) : ℚ) /
      (Nat.pow 10 (-decimal.exponent).toNat : ℕ) = decimal.value := by
    rw [Decimal.value, zpow_eq_div, Nat.pow_eq, Nat.pow_eq]
    push_cast
    rw [mul_div_assoc]
  rw [ofDecimal, if_neg something, ofRatio_eq_iff finite
    (Nat.mul_pos (Nat.pos_of_ne_zero something) (ten _)) (ten _), value]

/-- A decimal without digits is rounded to zero only. -/
theorem digits_ne_zero_of_rounded {number : Binary32} {decimal : Decimal}
    (something : number.significand ≠ 0)
    (rounded : ofDecimal number.isNegative decimal = number) : decimal.digits ≠ 0 := by
  intro nothing
  rw [ofDecimal, if_pos nothing] at rounded
  have bits := ofMagnitude_inj (by decide) ?_
    (rounded.trans (ofMagnitude_magnitudeBits number).symm)
  · unfold magnitudeBits at bits
    omega
  · rw [magnitudeBits_eq]
    exact Nat.mod_lt _ (by decide)

end SharedWeights.Binary32
