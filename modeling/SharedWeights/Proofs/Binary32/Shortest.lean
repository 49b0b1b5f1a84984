/-
**The shortest decimal is one that reads back, and no other has fewer digits.**

The search overlays a number with the multiples of smaller and smaller powers of ten, and looks on
each grid only at the two points next to the number:

* `hits_iff`: a point is a hit if it lies in the interval around the number;
* `Grid.nearest?_eq_none_iff`, `Grid.distance_le_of_nearest?`: if neither neighbour is a hit, no
  point of the grid is, and no hit is nearer than the neighbour that is taken;
* `leadingExponent_spec`: the search begins with the greatest power of ten in the number;
* `nearest?_ninth_ne_none`: it ends, since the ninth grid is finer than half a last place;
* `ofDecimal_shortest`: **what it ends with is rounded to the number**;
* `length_shortest_le`, `abs_shortest_le`: **of the decimals that are rounded to the number none has
  fewer digits**, and of those with no more digits none is nearer to it.
-/

import SharedWeights.Proofs.Binary32.Nearest

namespace SharedWeights.Binary32

/-! ### Searching upwards -/

theorem findSome?_range_eq_some_iff {Found : Type} {count : ℕ} {search : ℕ → Option Found}
    {found : Found} :
    (List.range count).findSome? search = some found ↔
      ∃ place < count, search place = some found ∧ ∀ earlier < place, search earlier = none := by
  induction count with
  | zero =>
    refine iff_of_false (by simp) ?_
    rintro ⟨place, outside, -⟩
    exact absurd outside (Nat.not_lt_zero place)
  | succ count ih =>
    rw [List.range_succ, List.findSome?_append, Option.or_eq_some_iff, ih,
      List.findSome?_eq_none_iff, List.findSome?_singleton]
    constructor
    · rintro (⟨place, within, first⟩ | ⟨missed, last⟩)
      · exact ⟨place, Nat.lt_succ_of_lt within, first⟩
      · exact ⟨count, Nat.lt_succ_self count, last, fun earlier before =>
          missed earlier (List.mem_range.2 before)⟩
    · rintro ⟨place, within, reached, missed⟩
      rcases Nat.lt_succ_iff_lt_or_eq.1 within with before | rfl
      · exact .inl ⟨place, before, reached, missed⟩
      · exact .inr ⟨fun earlier before => missed earlier (List.mem_range.1 before), reached⟩

/-- A search that can end does. -/
theorem exists_found {Found : Type} {count place : ℕ} {search : ℕ → Option Found}
    (within : place < count) (reached : search place ≠ none) :
    ∃ found, (List.range count).findSome? search = some found := by
  refine Option.ne_none_iff_exists'.1 fun missed => reached ?_
  exact List.findSome?_eq_none_iff.1 missed place (List.mem_range.2 within)

/-! ### Powers of ten -/

theorem ten_pow_mul (zeros : ℕ) (exponent : ℤ) :
    ((10 ^ zeros : ℕ) : ℚ) * 10 ^ exponent = 10 ^ (zeros + exponent) := by
  rw [zpow_add₀ (by norm_num), zpow_natCast, Nat.cast_pow, Nat.cast_ofNat]

/-! ### Points of a grid -/

namespace Grid

theorem hits_eq_true_iff {grid : Grid} {index : ℕ} :
    grid.hits index = true ↔
      Within (grid.closed = true) grid.lowest grid.highest (index * grid.step : ℕ) := by
  unfold hits
  dsimp only
  split
  · next closed =>
    rw [Bool.and_eq_true_iff, decide_eq_true_iff, decide_eq_true_iff]
    constructor
    · rintro ⟨above, below⟩
      exact ⟨Nat.cast_le.2 above, Nat.cast_le.2 below, fun opened => absurd closed opened⟩
    · rintro ⟨above, below, -⟩
      exact ⟨Nat.cast_le.1 above, Nat.cast_le.1 below⟩
  · next opened =>
    rw [Bool.and_eq_true_iff, decide_eq_true_iff, decide_eq_true_iff]
    constructor
    · rintro ⟨above, below⟩
      exact .of_lt (Nat.cast_lt.2 above) (Nat.cast_lt.2 below)
    · rintro ⟨-, -, inside⟩
      exact ⟨Nat.cast_lt.1 (inside opened).1, Nat.cast_lt.1 (inside opened).2⟩

/-- The number lies strictly between the ends of its interval. -/
structure Inside (grid : Grid) : Prop where
  positive : 0 < grid.step
  above : grid.lowest < grid.target
  below : grid.target < grid.highest

/-- What lies between a hit and the number is a hit. -/
theorem hits_of_between {grid : Grid} {index other : ℕ} (inside : grid.Inside)
    (hit : grid.hits index = true)
    (between : index * grid.step ≤ other * grid.step ∧ other * grid.step ≤ grid.target ∨
      grid.target ≤ other * grid.step ∧ other * grid.step ≤ index * grid.step) :
    grid.hits other = true := by
  have middle : Within (grid.closed = true) grid.lowest grid.highest grid.target :=
    .of_lt (Nat.cast_lt.2 inside.above) (Nat.cast_lt.2 inside.below)
  rw [hits_eq_true_iff] at hit ⊢
  rcases between with ⟨left, right⟩ | ⟨left, right⟩
  · exact hit.convex middle (Nat.cast_le.2 left) (Nat.cast_le.2 right)
  · exact middle.convex hit (Nat.cast_le.2 left) (Nat.cast_le.2 right)

theorem hits_of_nearest? {grid : Grid} {index : ℕ} (found : grid.nearest? = some index) :
    grid.hits index = true ∧
      (index = grid.target / grid.step ∨ index = grid.target / grid.step + 1) := by
  unfold nearest? at found
  dsimp only at found
  split at found
  · next below above =>
    cases found
    split
    · exact ⟨above, .inr rfl⟩
    · exact ⟨below, .inl rfl⟩
  · next below _ =>
    cases found
    exact ⟨below, .inl rfl⟩
  · next _ above =>
    cases found
    exact ⟨above, .inr rfl⟩
  · cases found

/-- **If neither neighbour of the number is a hit, no point is.** -/
theorem nearest?_eq_none_iff {grid : Grid} (inside : grid.Inside) :
    grid.nearest? = none ↔ ∀ index, grid.hits index = false := by
  constructor
  · intro missed index
    unfold nearest? at missed
    dsimp only at missed
    split at missed
    · cases missed
    · cases missed
    · cases missed
    · next below above =>
      have lower := Nat.div_mul_le_self grid.target grid.step
      have upper : grid.target ≤ (grid.target / grid.step + 1) * grid.step :=
        (Nat.lt_mul_of_div_lt (Nat.lt_succ_self _) inside.positive).le
      refine Bool.eq_false_iff.2 fun hit => ?_
      rcases Nat.lt_or_ge index (grid.target / grid.step + 1) with front | back
      · have nearer := Nat.mul_le_mul_right grid.step (Nat.le_of_lt_succ front)
        rw [hits_of_between inside hit (.inl ⟨nearer, lower⟩)] at below
        cases below
      · have nearer := Nat.mul_le_mul_right grid.step back
        rw [hits_of_between inside hit (.inr ⟨upper, nearer⟩)] at above
        cases above
  · intro missed
    cases found : grid.nearest? with
    | none => rfl
    | some index =>
      have hit := (hits_of_nearest? found).1
      rw [missed index] at hit
      cases hit

/-- How far a point lies from the number. -/
def distance (grid : Grid) (index : ℕ) : ℕ :=
  ((index * grid.step : ℕ) - grid.target : ℤ).natAbs

/-- **No hit is nearer to the number than the one that is taken.** -/
theorem distance_le_of_nearest? {grid : Grid} {index other : ℕ} (inside : grid.Inside)
    (found : grid.nearest? = some index) (hit : grid.hits other = true) :
    grid.distance index ≤ grid.distance other := by
  have lower := Nat.div_mul_le_self grid.target grid.step
  have upper : grid.target ≤ (grid.target / grid.step + 1) * grid.step :=
    (Nat.lt_mul_of_div_lt (Nat.lt_succ_self _) inside.positive).le
  -- the other hit lies beyond one of the neighbours, which is then a hit
  obtain ⟨neighbour, isNeighbour, hits, nearer⟩ : ∃ neighbour : ℕ,
      (neighbour = grid.target / grid.step ∨ neighbour = grid.target / grid.step + 1) ∧
      grid.hits neighbour = true ∧ grid.distance neighbour ≤ grid.distance other := by
    rcases Nat.lt_or_ge other (grid.target / grid.step + 1) with front | back
    · have order := Nat.mul_le_mul_right grid.step (Nat.le_of_lt_succ front)
      refine ⟨_, .inl rfl, hits_of_between inside hit (.inl ⟨order, lower⟩), ?_⟩
      unfold distance
      omega
    · have order := Nat.mul_le_mul_right grid.step back
      refine ⟨_, .inr rfl, hits_of_between inside hit (.inr ⟨upper, order⟩), ?_⟩
      unfold distance
      omega
  refine le_trans ?_ nearer
  unfold nearest? at found
  dsimp only at found
  split at found
  · cases found
    split
    · next closer =>
      have order := of_decide_eq_true closer
      rcases isNeighbour with rfl | rfl
      · unfold distance
        omega
      · exact le_refl _
    · next further =>
      have order := mt decide_eq_true further
      rcases isNeighbour with rfl | rfl
      · exact le_refl _
      · unfold distance
        omega
  · next missed =>
    cases found
    rcases isNeighbour with rfl | rfl
    · exact le_refl _
    · rw [missed] at hits
      cases hits
  · next missed _ =>
    cases found
    rcases isNeighbour with rfl | rfl
    · rw [missed] at hits
      cases hits
    · exact le_refl _
  · cases found

/-- A grid that is finer than the part of the interval above the number has a hit there. -/
theorem nearest?_ne_none {grid : Grid} (inside : grid.Inside)
    (fine : grid.target + grid.step < grid.highest) : grid.nearest? ≠ none := by
  intro missed
  have next := (nearest?_eq_none_iff inside).1 missed (grid.target / grid.step + 1)
  have lower := Nat.div_mul_le_self grid.target grid.step
  have upper : grid.target < (grid.target / grid.step + 1) * grid.step :=
    Nat.lt_mul_of_div_lt (Nat.lt_succ_self _) inside.positive
  have hit : grid.hits (grid.target / grid.step + 1) = true := by
    refine hits_eq_true_iff.2 (.of_lt (Nat.cast_lt.2 (inside.above.trans upper)) (Nat.cast_lt.2 ?_))
    rw [Nat.succ_mul]
    omega
  rw [next] at hit
  cases hit

end Grid

/-! ### Points near a number -/

section Number

variable {number : Binary32} {exponent : ℤ} {index : ℕ}

/-- The common unit of a grid's lengths: so many of them are a quarter of the last place. -/
def gridUnit (number : Binary32) (exponent : ℤ) : ℕ :=
  Nat.pow 2 (number.lastPlace - 2).toNat * Nat.pow 10 (-exponent).toNat

theorem gridUnit_pos (number : Binary32) (exponent : ℤ) : 0 < number.gridUnit exponent :=
  Nat.mul_pos (Nat.pow_pos (by decide)) (Nat.pow_pos (by decide))

theorem cast_gridUnit_pos (number : Binary32) (exponent : ℤ) :
    (0 : ℚ) < number.gridUnit exponent :=
  Nat.cast_pos.2 (number.gridUnit_pos exponent)

theorem step_eq (number : Binary32) (exponent : ℤ) :
    ((number.grid exponent).step : ℚ) =
      10 ^ exponent / 2 ^ (number.lastPlace - 2) * number.gridUnit exponent := by
  rw [zpow_eq_div exponent, zpow_eq_div (number.lastPlace - 2), gridUnit, grid]
  simp only [Nat.pow_eq]
  push_cast
  field_simp

theorem grid_inside (something : number.significand ≠ 0) (exponent : ℤ) :
    (number.grid exponent).Inside := by
  have unit := number.gridUnit_pos exponent
  have below := number.reach_below_pos
  have above := number.reach_above_pos
  have positive : 0 < number.quarters := by
    unfold quarters
    omega
  exact ⟨Nat.mul_pos (Nat.pow_pos (by decide)) (Nat.pow_pos (by decide)),
    Nat.mul_lt_mul_of_pos_right (by omega) unit, Nat.mul_lt_mul_of_pos_right (by omega) unit⟩

/-- **A point is a hit if it lies in the interval around the number.** -/
theorem hits_iff :
    (number.grid exponent).hits index = true ↔ number.Attracts (index * 10 ^ exponent) := by
  have closed : ((number.grid exponent).closed = true) = (number.significand % 2 = 0) :=
    decide_eq_true_eq
  have lowest : (number.grid exponent).lowest =
      (number.quarters - number.reachBelow) * number.gridUnit exponent := rfl
  have highest : (number.grid exponent).highest =
      (number.quarters + number.reachAbove) * number.gridUnit exponent := rfl
  rw [Grid.hits_eq_true_iff, closed, lowest, highest, Attracts, Nat.cast_mul, Nat.cast_mul,
    Nat.cast_mul, step_eq, mul_div_assoc, ← mul_assoc (index : ℚ)]
  exact within_mul_iff (number.cast_gridUnit_pos exponent)

/-! ### Where the search begins -/

/-- The number without its sign. -/
def absolute (number : Binary32) : ℚ :=
  number.significand * 2 ^ number.lastPlace

theorem absolute_div (number : Binary32) :
    number.absolute / 2 ^ (number.lastPlace - 2) = number.quarters := by
  rw [absolute, mul_div_assoc, ← mul_quarter, div_self (two_zpow_pos _).ne', quarters]
  push_cast
  ring

theorem target_eq (number : Binary32) (exponent : ℤ) :
    ((number.grid exponent).target : ℚ) =
      number.absolute / 2 ^ (number.lastPlace - 2) * number.gridUnit exponent := by
  rw [absolute_div]
  exact Nat.cast_mul _ _

/-- A point is not above the number if its value is not. -/
theorem point_le_target_iff :
    index * (number.grid exponent).step ≤ (number.grid exponent).target ↔
      index * 10 ^ exponent ≤ number.absolute := by
  rw [← @Nat.cast_le ℚ, Nat.cast_mul, step_eq, target_eq, ← mul_assoc, ← mul_div_assoc,
    mul_le_mul_iff_left₀ (number.cast_gridUnit_pos exponent),
    div_le_div_iff_of_pos_right (two_zpow_pos _)]

theorem step_le_target_iff :
    (number.grid exponent).step ≤ (number.grid exponent).target ↔
      10 ^ exponent ≤ number.absolute := by
  have first := @point_le_target_iff number exponent 1
  rwa [one_mul, Nat.cast_one, one_mul] at first

/-- How far a point lies from the number. -/
theorem distance_eq (number : Binary32) (exponent : ℤ) (index : ℕ) :
    ((number.grid exponent).distance index : ℚ) =
      |index * 10 ^ exponent - number.absolute| / 2 ^ (number.lastPlace - 2) *
        number.gridUnit exponent := by
  have scaled : (index * (number.grid exponent).step - (number.grid exponent).target : ℚ) =
      (index * 10 ^ exponent - number.absolute) / 2 ^ (number.lastPlace - 2) *
        number.gridUnit exponent := by
    rw [step_eq, target_eq]
    ring
  rw [Grid.distance, Nat.cast_natAbs, Int.cast_abs]
  push_cast
  rw [scaled, abs_mul, abs_div, abs_of_pos (number.cast_gridUnit_pos exponent),
    abs_of_pos (two_zpow_pos _)]

theorem distance_le_iff {other : ℕ} :
    (number.grid exponent).distance index ≤ (number.grid exponent).distance other ↔
      |index * 10 ^ exponent - number.absolute| ≤ |other * 10 ^ exponent - number.absolute| := by
  rw [← @Nat.cast_le ℚ, distance_eq, distance_eq,
    mul_le_mul_iff_left₀ (number.cast_gridUnit_pos exponent),
    div_le_div_iff_of_pos_right (two_zpow_pos _)]

/-- The numbers lie between these powers of ten. -/
theorem absolute_bounds (finite : number.isFinite = true) (something : number.significand ≠ 0) :
    (10 : ℚ) ^ (-45 : ℤ) ≤ number.absolute ∧ number.absolute < 10 ^ (39 : ℤ) := by
  have last := lastPlace_ge number
  have place := lastPlace_le finite
  have few : (number.significand : ℚ) < 0x1000000 := by exact_mod_cast number.significand_lt
  have one : (1 : ℚ) ≤ number.significand := by exact_mod_cast Nat.pos_of_ne_zero something
  have least : (2 : ℚ) ^ (-149 : ℤ) ≤ 2 ^ number.lastPlace := two_zpow_le_iff.2 last
  have most : (2 : ℚ) ^ number.lastPlace ≤ 2 ^ (104 : ℤ) := two_zpow_le_iff.2 place
  have unit := two_zpow_pos number.lastPlace
  constructor
  · calc (10 : ℚ) ^ (-45 : ℤ) ≤ 1 * 2 ^ (-149 : ℤ) := by norm_num
      _ ≤ number.significand * 2 ^ number.lastPlace :=
        mul_le_mul one least (by positivity) (by positivity)
  · calc number.significand * (2 : ℚ) ^ number.lastPlace
        < 0x1000000 * 2 ^ number.lastPlace := mul_lt_mul_of_pos_right few unit
      _ ≤ 0x1000000 * 2 ^ (104 : ℤ) := mul_le_mul_of_nonneg_left most (by norm_num)
      _ < 10 ^ (39 : ℤ) := by norm_num

/-- **The search begins with the greatest power of ten in the number.** -/
theorem leadingExponent_spec (finite : number.isFinite = true)
    (something : number.significand ≠ 0) :
    (10 : ℚ) ^ number.leadingExponent ≤ number.absolute ∧
      number.absolute < 10 ^ (number.leadingExponent + 1) := by
  obtain ⟨least, most⟩ := absolute_bounds finite something
  let search (index : ℕ) : Option ℤ :=
    if (number.grid (39 - index)).step ≤ (number.grid (39 - index)).target then some (39 - index)
    else none
  have chosen : number.leadingExponent = ((List.range 85).findSome? search).getD (-46) := rfl
  have reaches {index : ℕ} {exponent : ℤ} :
      search index = some exponent ↔ exponent = 39 - index ∧ 10 ^ exponent ≤ number.absolute := by
    dsimp only [search]
    split
    · next low =>
      rw [step_le_target_iff] at low
      constructor
      · rintro ⟨⟩
        exact ⟨rfl, low⟩
      · rintro ⟨rfl, -⟩
        rfl
    · next high =>
      rw [step_le_target_iff] at high
      constructor
      · rintro ⟨⟩
      · rintro ⟨rfl, low⟩
        exact absurd low high
  have last : search 84 = some (-45) := reaches.2 ⟨rfl, least⟩
  obtain ⟨exponent, found⟩ :=
    exists_found (show 84 < 85 by decide) (Option.ne_none_iff_exists'.2 ⟨_, last⟩)
  rw [chosen, found, Option.getD_some]
  obtain ⟨place, -, reached, missed⟩ := findSome?_range_eq_some_iff.1 found
  obtain ⟨rfl, low⟩ := reaches.1 reached
  refine ⟨low, not_le.1 fun high => ?_⟩
  cases place with
  | zero =>
    have beyond : (10 : ℚ) ^ (39 : ℤ) ≤ 10 ^ (39 - (0 : ℕ) + 1 : ℤ) :=
      zpow_le_zpow_right₀ (by norm_num) (by norm_num)
    exact absurd (beyond.trans high) (not_le.2 most)
  | succ before =>
    have earlier := missed before (Nat.lt_succ_self before)
    rw [Nat.cast_succ, show (39 - ((before : ℤ) + 1) + 1) = 39 - before by ring] at high
    rw [reaches.2 ⟨rfl, high⟩] at earlier
    cases earlier

/-- **Nine digits suffice.** -/
theorem nearest?_ninth_ne_none (finite : number.isFinite = true)
    (something : number.significand ≠ 0) :
    (number.grid (number.leadingExponent - 8)).nearest? ≠ none := by
  have low := (leadingExponent_spec finite something).1
  generalize number.leadingExponent = leading at low
  have front : (10 : ℚ) ^ leading / 2 ^ (number.lastPlace - 2) ≤ number.quarters := by
    rw [← absolute_div]
    exact div_le_div_of_nonneg_right low (two_zpow_pos _).le
  have few : (number.quarters : ℚ) < 0x4000000 := by
    have small := highest_le number
    exact_mod_cast (by omega : number.quarters < 0x4000000)
  have narrow : (10 : ℚ) ^ (leading - 8) / 2 ^ (number.lastPlace - 2) < 2 := by
    rw [zpow_sub₀ (by norm_num), div_right_comm]
    norm_num
    linarith
  have fine : (number.grid (leading - 8)).step < 2 * number.gridUnit (leading - 8) := by
    have bound := mul_lt_mul_of_pos_right narrow (number.cast_gridUnit_pos (leading - 8))
    rw [← step_eq] at bound
    exact_mod_cast bound
  refine Grid.nearest?_ne_none (grid_inside something _) ?_
  have target : (number.grid (leading - 8)).target =
      number.quarters * number.gridUnit (leading - 8) := rfl
  have highest : (number.grid (leading - 8)).highest =
      (number.quarters + 2) * number.gridUnit (leading - 8) := rfl
  rw [target, highest, Nat.add_mul]
  omega

theorem Attracts.convex {first second value : ℚ} (one : number.Attracts first)
    (other : number.Attracts second) (from_first : first ≤ value) (to_second : value ≤ second) :
    number.Attracts value := by
  have unit := (two_zpow_pos (number.lastPlace - 2)).le
  exact Within.convex one other (div_le_div_of_nonneg_right from_first unit)
    (div_le_div_of_nonneg_right to_second unit)

theorem Attracts.pos {value : ℚ} (something : number.significand ≠ 0)
    (attracted : number.Attracts value) : 0 < value := by
  have positive : 0 < value / 2 ^ (number.lastPlace - 2) :=
    (Nat.cast_pos.2 (lowest_pos something)).trans_le attracted.above
  exact (div_pos_iff_of_pos_right (two_zpow_pos _)).1 positive

/-- The number lies in its own interval. -/
theorem attracts_absolute (something : number.significand ≠ 0) :
    number.Attracts number.absolute := by
  have below := number.reach_below_pos
  have above := number.reach_above_pos
  have positive : 0 < number.quarters := by
    unfold quarters
    omega
  rw [Attracts, absolute_div]
  exact .of_lt (Nat.cast_lt.2 (by omega)) (Nat.cast_lt.2 (by omega))

/-! ### Zeros at the end -/

theorem Decimal.withoutZeros_spec {decimal : Decimal} (something : decimal.digits ≠ 0) :
    decimal.withoutZeros.digits % 10 ≠ 0 ∧ decimal.withoutZeros.value = decimal.value ∧
      decimal.withoutZeros.digits ≤ decimal.digits ∧
      (decimal.digits % 10 = 0 → decimal.withoutZeros.digits < decimal.digits) := by
  fun_induction Decimal.withoutZeros decimal with
  | case1 decimal nothing => exact absurd nothing something
  | case2 decimal _ zero ih =>
    obtain ⟨last, value, less, -⟩ := ih (by dsimp only; omega)
    dsimp only at less
    refine ⟨last, value.trans ?_, by omega, fun _ => by omega⟩
    have tens : (decimal.digits : ℚ) = 10 * (decimal.digits / 10 : ℕ) := by
      exact_mod_cast (Nat.mul_div_cancel' (Nat.dvd_of_mod_eq_zero zero)).symm
    dsimp only [Decimal.value]
    rw [tens, zpow_add_one₀ (by norm_num)]
    ring
  | case3 decimal _ last => exact ⟨last, rfl, Nat.le_refl _, fun zero => absurd zero last⟩

/-! ### Where the search ends -/

/-- The search ends at the first grid that has a hit. -/
theorem exists_first (finite : number.isFinite = true) (something : number.significand ≠ 0) :
    ∃ (further index : ℕ),
      number.shortest = (⟨index, number.leadingExponent - further⟩ : Decimal).withoutZeros ∧
      (number.grid (number.leadingExponent - further)).nearest? = some index ∧
      ∀ earlier < further, (number.grid (number.leadingExponent - earlier)).nearest? = none := by
  let search (further : ℕ) : Option Decimal :=
    (number.grid (number.leadingExponent - further)).nearest?.map fun index =>
      ⟨index, number.leadingExponent - further⟩
  have chosen : number.shortest =
      (((List.range 9).findSome? search).getD ⟨0, 0⟩).withoutZeros := rfl
  have last : search 8 ≠ none :=
    mt Option.map_eq_none_iff.1 (nearest?_ninth_ne_none finite something)
  obtain ⟨decimal, found⟩ := exists_found (show 8 < 9 by decide) last
  obtain ⟨further, -, reached, missed⟩ := findSome?_range_eq_some_iff.1 found
  obtain ⟨index, nearest, rfl⟩ := Option.map_eq_some_iff.1 reached
  refine ⟨further, index, ?_, nearest, fun earlier before => ?_⟩
  · rw [chosen, found, Option.getD_some]
  · exact Option.map_eq_none_iff.1 (missed earlier before)

/-- What is taken has at most one digit for each grid that was looked at, or is a power of ten. -/
theorem index_le {further : ℕ} (finite : number.isFinite = true)
    (something : number.significand ≠ 0)
    (nearest : (number.grid (number.leadingExponent - further)).nearest? = some index) :
    index ≤ 10 ^ (further + 1) := by
  have below : number.absolute <
      (10 ^ (further + 1) : ℕ) * 10 ^ (number.leadingExponent - further) := by
    refine (leadingExponent_spec finite something).2.trans_eq ?_
    rw [ten_pow_mul, Nat.cast_succ]
    congr 1
    ring
  have few := Nat.div_lt_of_lt_mul ((Nat.mul_comm _ _).trans_gt
    (not_le.1 (mt point_le_target_iff.1 (not_le.2 below))))
  have neighbour := (Grid.hits_of_nearest? nearest).2
  omega

/-- The decimal that the search ends with, found on the grid `further` steps behind the first. -/
structure Ends (number : Binary32) (further index : ℕ) : Prop where
  nearest : (number.grid (number.leadingExponent - further)).nearest? = some index
  missed : ∀ earlier < further, (number.grid (number.leadingExponent - earlier)).nearest? = none
  something : number.shortest.digits ≠ 0
  value : number.shortest.value = index * 10 ^ (number.leadingExponent - further)
  few : number.shortest.digits < 10 ^ (further + 1)

theorem Ends.attracted {further : ℕ} (ends : number.Ends further index) :
    number.Attracts number.shortest.value := by
  rw [ends.value]
  exact hits_iff.1 (Grid.hits_of_nearest? ends.nearest).1

theorem exists_ends (finite : number.isFinite = true) (something : number.significand ≠ 0) :
    ∃ further index, number.Ends further index := by
  obtain ⟨further, index, found, nearest, missed⟩ := exists_first finite something
  have attracted := hits_iff.1 (Grid.hits_of_nearest? nearest).1
  have digits : index ≠ 0 := by
    rintro rfl
    exact absurd (attracted.pos something) (by simp)
  obtain ⟨last, value, stripped, shorter⟩ :=
    @Decimal.withoutZeros_spec ⟨index, number.leadingExponent - further⟩ digits
  rw [← found] at last value stripped shorter
  dsimp only at stripped shorter
  refine ⟨further, index, nearest, missed, fun zero => last (by rw [zero]), value, ?_⟩
  rcases Nat.lt_or_eq_of_le (index_le finite something nearest) with less | power
  · exact stripped.trans_lt less
  · -- a power of ten loses its zeros
    refine power ▸ shorter ?_
    rw [power, Nat.pow_succ, Nat.mul_mod_left]

/-- **The search ends with a decimal that is rounded to the number.** -/
theorem ofDecimal_shortest (finite : number.isFinite = true) (something : number.significand ≠ 0) :
    ofDecimal number.isNegative number.shortest = number := by
  obtain ⟨further, index, ends⟩ := exists_ends finite something
  exact (ofDecimal_eq_iff finite ends.something).2 ends.attracted

/-- If a decimal is rounded to the number, the grid with as many digits has a hit that is not further
away. -/
theorem exists_hit {decimal : Decimal} {count : ℕ} (finite : number.isFinite = true)
    (something : number.significand ≠ 0) (few : decimal.digits < 10 ^ (count + 1))
    (attracted : number.Attracts decimal.value) :
    ∃ other : ℕ, number.Attracts (other * 10 ^ (number.leadingExponent - count)) ∧
      |other * 10 ^ (number.leadingExponent - count) - number.absolute| ≤
        |decimal.value - number.absolute| := by
  rcases le_or_gt (number.leadingExponent - count) decimal.exponent with coarse | fine
  · obtain ⟨zeros, same⟩ := Int.le.dest coarse
    refine ⟨decimal.digits * 10 ^ zeros, ?_⟩
    rw [Nat.cast_mul, mul_assoc, ten_pow_mul, Int.add_comm, same]
    exact ⟨attracted, le_refl _⟩
  · -- the decimal is not above the power of ten at the front of the number
    have front : ((10 ^ count : ℕ) : ℚ) * 10 ^ (number.leadingExponent - count) =
        10 ^ number.leadingExponent := by
      rw [ten_pow_mul, add_sub_cancel]
    have low := (leadingExponent_spec finite something).1
    have size : (decimal.digits : ℚ) ≤ (10 ^ (count + 1) : ℕ) := Nat.cast_le.2 few.le
    have before : decimal.value ≤ 10 ^ number.leadingExponent :=
      calc decimal.value ≤ (10 ^ (count + 1) : ℕ) * 10 ^ decimal.exponent :=
            mul_le_mul_of_nonneg_right size (zpow_nonneg (by norm_num) _)
        _ = 10 ^ ((count + 1 : ℕ) + decimal.exponent) := ten_pow_mul _ _
        _ ≤ 10 ^ number.leadingExponent := zpow_le_zpow_right₀ (by norm_num) (by omega)
    refine ⟨10 ^ count, ?_⟩
    rw [front, abs_of_nonpos (sub_nonpos.2 low), abs_of_nonpos (sub_nonpos.2 (before.trans low))]
    exact ⟨attracted.convex (attracts_absolute something) before low, by linarith⟩

/-- **No decimal that is rounded to the number has fewer digits.** -/
theorem length_shortest_le {decimal : Decimal} (finite : number.isFinite = true)
    (something : number.significand ≠ 0)
    (rounded : ofDecimal number.isNegative decimal = number) :
    (Nat.toDigits 10 number.shortest.digits).length ≤ (Nat.toDigits 10 decimal.digits).length := by
  have attracted :=
    (ofDecimal_eq_iff finite (digits_ne_zero_of_rounded something rounded)).1 rounded
  obtain ⟨further, index, ends⟩ := exists_ends finite something
  obtain ⟨count, long⟩ : ∃ count, (Nat.toDigits 10 decimal.digits).length = count + 1 :=
    Nat.exists_eq_succ_of_ne_zero Nat.length_toDigits_pos.ne'
  have few : decimal.digits < 10 ^ (count + 1) :=
    (Nat.length_toDigits_le_iff (by decide) (Nat.succ_pos count)).1 long.le
  have last : further ≤ count := by
    refine Nat.le_of_not_lt fun beyond => ?_
    obtain ⟨other, attracts, -⟩ := exists_hit finite something few attracted
    have hit := hits_iff.2 attracts
    have missed := (Grid.nearest?_eq_none_iff (grid_inside something _)).1 (ends.missed count beyond)
    rw [missed other] at hit
    cases hit
  rw [long]
  refine (Nat.length_toDigits_le_iff (by decide) (Nat.succ_pos count)).2 ?_
  exact ends.few.trans_le (Nat.pow_le_pow_right (by decide) (Nat.succ_le_succ last))

/-- **And of those with no more digits none is nearer to it.** -/
theorem abs_shortest_le {decimal : Decimal} (finite : number.isFinite = true)
    (something : number.significand ≠ 0)
    (rounded : ofDecimal number.isNegative decimal = number)
    (short : (Nat.toDigits 10 decimal.digits).length ≤
      (Nat.toDigits 10 number.shortest.digits).length) :
    |number.shortest.value - number.absolute| ≤ |decimal.value - number.absolute| := by
  have attracted :=
    (ofDecimal_eq_iff finite (digits_ne_zero_of_rounded something rounded)).1 rounded
  obtain ⟨further, index, ends⟩ := exists_ends finite something
  have few : decimal.digits < 10 ^ (further + 1) := by
    refine (Nat.length_toDigits_le_iff (by decide) (Nat.succ_pos further)).1 (short.trans ?_)
    exact (Nat.length_toDigits_le_iff (by decide) (Nat.succ_pos further)).2 ends.few
  obtain ⟨other, attracts, closer⟩ := exists_hit finite something few attracted
  have nearest :=
    Grid.distance_le_of_nearest? (grid_inside something _) ends.nearest (hits_iff.2 attracts)
  rw [ends.value]
  exact (distance_le_iff.1 nearest).trans closer

end Number

end SharedWeights.Binary32
