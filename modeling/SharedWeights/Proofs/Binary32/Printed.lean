/-
**What is printed reads back.**

A printed number is a literal: with a sign if it is negative, then a word or a decimal laid out with
a point or with an exponent. The layout moves the point and adds zeros, which changes the decimal
but not its value, and the value is all that rounding goes by:

* `Decimal.value_bounds`: the first digit of a decimal tells its size;
* `notation_positional`, `notation_write`: what is laid out states the value of its decimal;
* `ofLiteral_printed`: **every number reads back as it was**, and any NaN as the quiet one;
* `printed_injective`: so different numbers are printed differently.
-/

import SharedWeights.Binary32.Printed
import SharedWeights.Proofs.Binary32.Literal
import SharedWeights.Proofs.Binary32.Shortest

namespace SharedWeights.Binary32

open Text.Numeral (Digits)

/-! ### The size of a decimal -/

/-- **A decimal lies below the power of ten in front of its first digit**, and not below the one
before. -/
theorem Decimal.value_bounds {decimal : Decimal} (something : decimal.digits ≠ 0) :
    (10 : ℚ) ^ (decimal.magnitude - 1) ≤ decimal.value ∧ decimal.value < 10 ^ decimal.magnitude := by
  obtain ⟨count, long⟩ : ∃ count, (Nat.toDigits 10 decimal.digits).length = count + 1 :=
    Nat.exists_eq_succ_of_ne_zero Nat.length_toDigits_pos.ne'
  have few : decimal.digits < 10 ^ (count + 1) :=
    (Nat.length_toDigits_le_iff (by decide) (Nat.succ_pos count)).1 long.le
  have many : 10 ^ count ≤ decimal.digits := by
    rcases Nat.eq_zero_or_pos count with rfl | positive
    · exact Nat.pos_of_ne_zero something
    · refine Nat.le_of_not_lt fun less => ?_
      have short := (Nat.length_toDigits_le_iff (by decide) positive).2 less
      omega
  have unit : (0 : ℚ) < 10 ^ decimal.exponent := zpow_pos (by norm_num) _
  rw [magnitude, long, value]
  constructor
  · calc (10 : ℚ) ^ ((count + 1 : ℕ) + decimal.exponent - 1)
        = (10 ^ count : ℕ) * 10 ^ decimal.exponent := by
          rw [ten_pow_mul]
          congr 1
          push_cast
          ring
      _ ≤ decimal.digits * 10 ^ decimal.exponent :=
          mul_le_mul_of_nonneg_right (Nat.cast_le.2 many) unit.le
  · calc (decimal.digits : ℚ) * 10 ^ decimal.exponent
        < (10 ^ (count + 1) : ℕ) * 10 ^ decimal.exponent :=
          mul_lt_mul_of_pos_right (Nat.cast_lt.2 few) unit
      _ = 10 ^ ((count + 1 : ℕ) + decimal.exponent) := ten_pow_mul _ _

/-- What is rounded to a number lies between these powers of ten. -/
theorem Attracts.bounds {number : Binary32} {value : ℚ} (finite : number.isFinite = true)
    (something : number.significand ≠ 0) (attracted : number.Attracts value) :
    (10 : ℚ) ^ (-46 : ℤ) ≤ value ∧ value < 10 ^ (39 : ℤ) := by
  have unit := two_zpow_pos (number.lastPlace - 2)
  have last := lastPlace_ge number
  have first := lastPlace_le finite
  have above := (Nat.cast_le.2 (lowest_pos something)).trans attracted.above
  have below := attracted.below.trans (Nat.cast_le.2 (highest_le number))
  rw [Nat.cast_one, one_le_div unit] at above
  rw [div_le_iff₀ unit] at below
  constructor
  · have place : (2 : ℚ) ^ (-151 : ℤ) ≤ 2 ^ (number.lastPlace - 2) :=
      two_zpow_le_iff.2 (by omega)
    refine le_trans ?_ (place.trans above)
    norm_num
  · have place : (2 : ℚ) ^ (number.lastPlace - 2) ≤ 2 ^ (102 : ℤ) :=
      two_zpow_le_iff.2 (by omega)
    refine (below.trans (mul_le_mul_of_nonneg_left place (by norm_num))).trans_lt ?_
    norm_num

/-! ### Layouts -/

theorem digits_toDigits (number : ℕ) : Digits (Nat.toDigits 10 number) :=
  ⟨Nat.toDigits_ne_nil, fun _ => Nat.isDigit_of_mem_toDigits (by decide) (by decide)⟩

/-- A mantissa by itself states a decimal. -/
theorem Mantissa.notation {mantissa whole fraction : List Char}
    (isMantissa : Mantissa mantissa whole fraction) :
    Notation mantissa ⟨Nat.ofDigitChars 10 (whole ++ fraction) 0, -fraction.length⟩ := by
  have noted := Notation.of isMantissa .absent
  rwa [List.append_nil, Int.zero_sub] at noted

theorem digits_append {front back : List Char} (one : Digits front)
    (decimal : ∀ digit ∈ back, digit.isDigit = true) : Digits (front ++ back) :=
  ⟨fun nothing => one.nonempty (List.append_eq_nil_iff.1 nothing).1,
    List.forall_mem_append.2 ⟨one.decimal, decimal⟩⟩

theorem isDigit_of_mem_zeros {count : ℕ} : ∀ digit ∈ List.replicate count '0',
    digit.isDigit = true := by
  intro digit zero
  rw [List.eq_of_mem_replicate zero]
  decide

/-- **Digits with a point state what they did without**, divided by a power of ten. -/
theorem notation_positional {digits : List Char} (digital : Digits digits) (places : ℤ) :
    ∃ read, Notation (positional digits places) read ∧
      read.value = (⟨Nat.ofDigitChars 10 digits 0, -places⟩ : Decimal).value := by
  unfold positional
  split
  · next behind =>
    -- zeros stand in front of the point, and one behind it
    obtain ⟨zeros, rfl⟩ : ∃ zeros : ℕ, places = -(zeros : ℤ) := ⟨(-places).toNat, by omega⟩
    rw [Int.neg_neg, Int.toNat_natCast]
    have whole : Mantissa (digits ++ List.replicate zeros '0' ++ ['.', '0'])
        (digits ++ List.replicate zeros '0') ['0'] :=
      .pointed (digits_append (digits_append digital isDigit_of_mem_zeros)
        (List.forall_mem_singleton.2 rfl))
    refine ⟨_, whole.notation, ?_⟩
    have last : Nat.ofDigitChars 10 ['0'] (10 ^ zeros * Nat.ofDigitChars 10 digits 0) =
        10 * (10 ^ zeros * Nat.ofDigitChars 10 digits 0) := rfl
    rw [Nat.ofDigitChars_append, Nat.ofDigitChars_append, Nat.ofDigitChars_replicate_zero, last]
    dsimp only [Decimal.value, List.length_singleton]
    push_cast
    rw [zpow_neg_one, zpow_natCast]
    ring
  · next inside =>
    -- zeros stand in front of the digits
    let padded := List.replicate (places.toNat + 1 - digits.length) '0' ++ digits
    have long : places.toNat ≤ padded.length := by
      dsimp only [padded]
      rw [List.length_append, List.length_replicate]
      omega
    have digital : Digits padded :=
      ⟨fun nothing => digital.nonempty (List.append_eq_nil_iff.1 nothing).2,
        List.forall_mem_append.2 ⟨isDigit_of_mem_zeros, digital.decimal⟩⟩
    have parted := List.take_append_drop (padded.length - places.toNat) padded
    have split := Mantissa.pointed (parted.symm ▸ digital)
    refine ⟨_, split.notation, ?_⟩
    rw [parted, Nat.ofDigitChars_append, Nat.ofDigitChars_replicate_zero, Nat.mul_zero,
      List.length_drop, Nat.sub_sub_self long, Int.toNat_of_nonneg (by omega)]

/-- **An exponent is stated by its digits and their sign.** -/
theorem exponent_toString {exponent : ℤ} (small : exponent.natAbs < exponentBound) :
    Exponent ('e' :: (toString exponent).toList) exponent := by
  have stated {size : ℕ} (small : size < exponentBound) :
      exponentSize 0 (Nat.toDigits 10 size) = size := by
    have value : Text.Numeral.value 0 (Nat.toDigits 10 size) = size := Nat.ofDigitChars_ten_toDigits
    rw [exponentSize_of_small (by rwa [value]), value]
  cases exponent with
  | ofNat size =>
    have noted := Exponent.stated (.inl rfl) .absent (digits_toDigits size)
    have text : (toString (Int.ofNat size)).toList = Nat.toDigits 10 size := Nat.toList_repr
    rw [@stated size small] at noted
    rw [text]
    exact noted
  | negSucc size =>
    have noted := Exponent.stated (.inl rfl) .minus (digits_toDigits (size + 1))
    have text : (toString (Int.negSucc size)).toList = '-' :: Nat.toDigits 10 (size + 1) := by
      show ("-" ++ Nat.repr (size + 1)).toList = _
      rw [String.toList_append, Nat.toList_repr]
      rfl
    rw [@stated (size + 1) small] at noted
    rw [text]
    exact noted

/-- A point behind the first digit leaves the digits as they are. -/
theorem mantissa_pointed {digits : List Char} (digital : Digits digits) :
    ∃ whole fraction, Mantissa (pointed digits) whole fraction ∧ whole ++ fraction = digits ∧
      fraction.length + 1 = digits.length := by
  rcases digits with _ | ⟨first, _ | ⟨second, rest⟩⟩
  · exact absurd rfl digital.nonempty
  · exact ⟨[first], [], .whole digital, rfl, rfl⟩
  · exact ⟨[first], second :: rest, @Mantissa.pointed [first] (second :: rest) digital, rfl, rfl⟩

/-- **What is laid out states the value of its decimal.** -/
theorem notation_write {layout : Layout} (marked : layout.exponentMark = "e") {decimal : Decimal}
    (small : (decimal.magnitude - 1).natAbs < exponentBound) :
    ∃ read, Notation (layout.write decimal).toList read ∧ read.value = decimal.value := by
  have digital := digits_toDigits decimal.digits
  unfold Layout.write
  dsimp only
  split
  · obtain ⟨read, noted, same⟩ := notation_positional digital (-decimal.exponent)
    rw [Nat.ofDigitChars_ten_toDigits, Int.neg_neg] at same
    rw [String.toList_ofList]
    exact ⟨read, noted, same⟩
  · have isExponent := exponent_toString small
    obtain ⟨whole, fraction, isMantissa, joined, long⟩ := mantissa_pointed digital
    have noted := Notation.of isMantissa isExponent
    have exponent : decimal.magnitude - 1 - fraction.length = decimal.exponent := by
      unfold Decimal.magnitude
      omega
    rw [joined, Nat.ofDigitChars_ten_toDigits, exponent] at noted
    refine ⟨decimal, ?_, rfl⟩
    rw [String.toList_append, String.toList_append, String.toList_ofList, marked,
      List.append_assoc]
    exact noted

/-! ### Numbers -/

/-- An exponent that is printed is nowhere near the bound. -/
theorem shortest_magnitude_small {number : Binary32} (finite : number.isFinite = true)
    (something : number.significand ≠ 0) :
    (number.shortest.magnitude - 1).natAbs < exponentBound := by
  obtain ⟨further, index, ends⟩ := exists_ends finite something
  obtain ⟨low, high⟩ := ends.attracted.bounds finite something
  obtain ⟨front, beyond⟩ := Decimal.value_bounds ends.something
  have small : number.shortest.magnitude - 1 < 39 :=
    (zpow_lt_zpow_iff_right₀ (by norm_num)).1 (front.trans_lt high)
  have large : -46 < number.shortest.magnitude :=
    (zpow_lt_zpow_iff_right₀ (by norm_num)).1 (low.trans_lt beyond)
  unfold exponentBound
  omega

/-- The sign that is printed. -/
theorem sign_printed (negative : Bool) : Sign (if negative then "-" else "").toList negative := by
  cases negative with
  | true => exact .minus
  | false => exact .absent

theorem magnitudeBits_infinity {number : Binary32} (infinite : number.isFinite = false)
    (isNumber : number.isNaN = false) : number.magnitudeBits = infinity := by
  have scaled : number.scale = 255 := of_not_not (of_decide_eq_false infinite)
  have empty : number.fraction = 0 := by
    unfold isNaN at isNumber
    rw [decide_eq_true scaled, Bool.true_and] at isNumber
    exact of_not_not (of_decide_eq_false isNumber)
  rw [magnitudeBits, lastPlace, significand, scaled, empty]
  decide

theorem magnitudeBits_zero {number : Binary32} (zero : number.significand = 0) :
    number.magnitudeBits = 0 := by
  have long := significand_ge number
  unfold magnitudeBits
  omega

/-- **A number is printed as a literal for itself.** -/
theorem literal_printed {number : Binary32} (isNumber : number.isNaN = false) :
    Literal number.printed.toList number := by
  have signed := sign_printed number.isNegative
  have same := ofMagnitude_magnitudeBits number
  rw [printed, if_neg (Bool.eq_false_iff.1 isNumber)]
  dsimp only
  rw [String.toList_append]
  by_cases infinite : number.isFinite = false
  · rw [magnitudeBits_infinity infinite isNumber] at same
    rw [if_pos infinite]
    have literal := Literal.word signed (@Word.infinity "inf".toList (.inl rfl))
    rwa [same] at literal
  have finite := eq_true_of_ne_false infinite
  rw [if_neg infinite]
  by_cases zero : number.significand = 0
  · rw [magnitudeBits_zero zero] at same
    rw [if_pos zero]
    have pointed : Mantissa "0.0".toList ['0'] ['0'] := @Mantissa.pointed ['0'] ['0'] (by decide)
    have noted : Notation "0.0".toList ⟨0, -1⟩ := pointed.notation
    have literal := Literal.decimal signed noted
    rwa [show ofDecimal number.isNegative ⟨0, -1⟩ = number from same] at literal
  · obtain ⟨further, index, ends⟩ := exists_ends finite zero
    have attracted := ends.attracted
    obtain ⟨read, noted, value⟩ :=
      @notation_write journalLayout rfl _ (shortest_magnitude_small finite zero)
    rw [← value] at attracted
    have digits : read.digits ≠ 0 := by
      intro nothing
      have positive := attracted.pos zero
      rw [Decimal.value, nothing, Nat.cast_zero, zero_mul] at positive
      exact lt_irrefl _ positive
    rw [if_neg zero]
    have literal := Literal.decimal signed noted
    rwa [(ofDecimal_eq_iff finite digits).2 attracted] at literal

/-- **Every number reads back as it was**, and any NaN as the quiet one. -/
theorem ofLiteral_printed (number : Binary32) :
    ofLiteral number.printed.toList =
      .ok (if number.isNaN then ofMagnitude false quietNaN else number) := by
  split
  · next notANumber =>
    rw [printed, if_pos notANumber]
    rfl
  · next isNumber => exact ofLiteral_eq_ok_iff.2 (literal_printed (Bool.eq_false_iff.2 isNumber))

/-- **Different numbers are printed differently.** -/
theorem printed_injective {first second : Binary32} (one : first.isNaN = false)
    (other : second.isNaN = false) (same : first.printed = second.printed) : first = second := by
  have read := ofLiteral_printed first
  rw [same, ofLiteral_printed second, one, other] at read
  exact (Except.ok.inj read).symm

/-- The two zeros are told apart. -/
example : printed zero = "0.0" ∧ printed (ofMagnitude true 0) = "-0.0" := by
  decide

end SharedWeights.Binary32
