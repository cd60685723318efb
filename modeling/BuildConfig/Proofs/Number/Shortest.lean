import BuildConfig.Proofs.Number.Rounding

namespace BuildConfig

theorem decimalLength_pos (n : Nat) : 0 < decimalLength n :=
  List.length_pos_iff.mpr Nat.toDigits_ne_nil

theorem lt_pow_decimalLength (n : Nat) : n < 10 ^ decimalLength n :=
  (Nat.length_toDigits_le_iff (by decide) (decimalLength_pos n)).mp (Nat.le_refl _)

theorem pow_decimalLength_le {n : Nat} (positive : 0 < n) : 10 ^ (decimalLength n - 1) ≤ n := by
  by_cases single : decimalLength n = 1
  · rw [single]
    exact positive
  · have several := decimalLength_pos n
    refine Nat.le_of_not_lt fun less => ?_
    have fewer := (Nat.length_toDigits_le_iff (by decide) (by omega)).mpr less
    rw [← decimalLength] at fewer
    omega

theorem decimalLength_le {n more : Nat} (le : n ≤ more) : decimalLength n ≤ decimalLength more :=
  (Nat.length_toDigits_le_iff (by decide) (decimalLength_pos more)).mpr (le.trans_lt (lt_pow_decimalLength more))

/-- The rounded quotient is one of the neighbours of the exact one. -/
theorem roundHalfEven_cases (numerator denominator : Nat) :
    roundHalfEven numerator denominator = numerator / denominator ∨
      roundHalfEven numerator denominator = numerator / denominator + 1 := by
  unfold roundHalfEven
  dsimp only
  split
  · exact Or.inl rfl
  · split
    · exact Or.inr rfl
    · omega

/-- The rounded quotient is at most a half away. -/
theorem roundHalfEven_near (numerator : Nat) {denominator : Nat} (positive : 0 < denominator) :
    2 * numerator ≤ 2 * (roundHalfEven numerator denominator * denominator) + denominator ∧
      2 * (roundHalfEven numerator denominator * denominator) ≤ 2 * numerator + denominator := by
  have whole := Nat.div_add_mod numerator denominator
  have rest := Nat.mod_lt numerator positive
  have below : numerator / denominator * denominator = denominator * (numerator / denominator) := Nat.mul_comm _ _
  have above : (numerator / denominator + 1) * denominator =
      denominator * (numerator / denominator) + denominator := by ring
  unfold roundHalfEven
  dsimp only
  split
  · rw [below]
    omega
  · split
    · rw [above]
      omega
    · rcases Nat.mod_two_eq_zero_or_one (numerator / denominator) with even | odd
      · rw [even, Nat.add_zero, below]
        omega
      · rw [odd, above]
        omega

/-- A search below a bound finds at the least index where there is something to find. -/
theorem exists_of_findSome?_range {α : Type} {find : Nat → Option α} {bound : Nat} {found : α}
    (first : (List.range bound).findSome? find = some found) :
    ∃ index, find index = some found ∧ ∀ less < index, find less = none := by
  obtain ⟨before, index, after, split, here, nothing⟩ := List.findSome?_eq_some_iff.mp first
  refine ⟨index, here, fun less below => nothing less ?_⟩
  have sorted := List.pairwise_lt_range (n := bound)
  have inside : less ∈ List.range bound := by
    have last : index ∈ List.range bound := split ▸ List.mem_append_right _ (List.mem_cons_self ..)
    exact List.mem_range.mpr (below.trans (List.mem_range.mp last))
  rw [split] at sorted inside
  rcases List.mem_append.mp inside with early | late
  · exact early
  · have order := (List.pairwise_append.mp sorted).2.1
    rcases List.mem_cons.mp late with same | later
    · omega
    · have above := (List.pairwise_cons.mp order).1 less later
      omega

namespace Binary64

variable {x : Binary64} {d : Decimal} {length : Nat}

/-- A double is the quotient of two integers. -/
theorem magnitude_mul (x : Binary64) :
    x.magnitude * (2 ^ (-x.exponent).toNat : Nat) = (x.significand * 2 ^ x.exponent.toNat : Nat) := by
  have twos := pow_toNat (by norm_num : (0 : ℚ) < 2) x.exponent
  push_cast
  rw [twos, ← x.four_mul_quarter, magnitude]
  ring

/-- The point of a quotient comes after as many digits as its whole part has. -/
theorem pow_bounds_of_le {numerator denominator : Nat} (positive : 0 < denominator)
    (atLeast : denominator ≤ numerator) :
    10 ^ (decimalLength (numerator / denominator) - 1) * denominator ≤ numerator ∧
      numerator < 10 ^ decimalLength (numerator / denominator) * denominator := by
  have wholePos : 0 < numerator / denominator := Nat.div_pos atLeast positive
  constructor
  · exact (Nat.mul_le_mul_right _ (pow_decimalLength_le wholePos)).trans (Nat.div_mul_le_self _ _)
  · exact Nat.lt_mul_of_div_lt (lt_pow_decimalLength _) positive

/-- The point of a quotient below one comes before as many digits as the denominator has more than the numerator, or
one later. -/
theorem pow_bounds_of_lt {numerator denominator : Nat} (positive : 0 < numerator) (less : numerator < denominator) :
    numerator * 10 ^ (decimalLength denominator - decimalLength numerator) < 10 * denominator ∧
      denominator < numerator * 10 ^ (decimalLength denominator - decimalLength numerator + 1) := by
  have fewer := decimalLength_le less.le
  have some := decimalLength_pos numerator
  have top := lt_pow_decimalLength numerator
  have bottom := pow_decimalLength_le positive
  have topBelow := lt_pow_decimalLength denominator
  have bottomBelow := pow_decimalLength_le (positive.trans less)
  constructor
  · calc numerator * 10 ^ (decimalLength denominator - decimalLength numerator)
        < 10 ^ decimalLength numerator * 10 ^ (decimalLength denominator - decimalLength numerator) :=
          Nat.mul_lt_mul_of_pos_right top (by positivity)
      _ = 10 * 10 ^ (decimalLength denominator - 1) := by
          rw [← Nat.pow_add, ← Nat.pow_succ']
          congr 1
          omega
      _ ≤ 10 * denominator := Nat.mul_le_mul_left 10 bottomBelow
  · calc denominator < 10 ^ decimalLength denominator := topBelow
      _ = 10 ^ (decimalLength numerator - 1) * 10 ^ (decimalLength denominator - decimalLength numerator + 1) := by
          rw [← Nat.pow_add]
          congr 1
          omega
      _ ≤ numerator * 10 ^ (decimalLength denominator - decimalLength numerator + 1) :=
          Nat.mul_le_mul_right _ bottom

/-- The point comes where it is said to: the first digit of a positive double stands just before it. -/
theorem decimalPlace_bounds (positive : 0 < x.significand) :
    10 ^ (x.decimalPlace - 1) ≤ x.magnitude ∧ x.magnitude < 10 ^ x.decimalPlace := by
  have quotient := x.magnitude_mul
  have numeratorPos : 0 < x.significand * 2 ^ x.exponent.toNat := by positivity
  have denominatorPos : 0 < 2 ^ (-x.exponent).toNat := by positivity
  unfold decimalPlace
  simp only [Nat.pow_eq]
  generalize x.significand * 2 ^ x.exponent.toNat = numerator at quotient numeratorPos
  generalize 2 ^ (-x.exponent).toNat = denominator at quotient denominatorPos
  have scale : (0 : ℚ) < denominator := Nat.cast_pos.mpr denominatorPos
  rw [← mul_le_mul_iff_left₀ scale, ← mul_lt_mul_iff_left₀ scale, quotient]
  split
  · rename_i atLeast
    obtain ⟨low, high⟩ := pow_bounds_of_le denominatorPos atLeast
    have several := decimalLength_pos (numerator / denominator)
    have place : (decimalLength (numerator / denominator) : ℤ) - 1 =
        (decimalLength (numerator / denominator) - 1 : Nat) := by omega
    rw [place, zpow_natCast, zpow_natCast]
    exact ⟨by exact_mod_cast low, by exact_mod_cast high⟩
  · rename_i less
    obtain ⟨above, below⟩ := pow_bounds_of_lt numeratorPos (Nat.lt_of_not_le less)
    generalize decimalLength denominator - decimalLength numerator = guess at above below
    have above : (numerator * 10 ^ guess : ℚ) < 10 * denominator := by exact_mod_cast above
    have below : (denominator : ℚ) < numerator * 10 ^ guess * 10 := by
      rw [pow_succ, ← mul_assoc] at below
      exact_mod_cast below
    -- both sides are compared after multiplication by the power of ten
    have power : (0 : ℚ) < 10 ^ guess := by positivity
    rw [← mul_le_mul_iff_left₀ power, ← mul_lt_mul_iff_left₀ power]
    have shift (exponent : ℤ) :
        (10 : ℚ) ^ exponent * denominator * 10 ^ guess = 10 ^ (exponent + guess) * denominator := by
      rw [zpow_add₀ (by norm_num), zpow_natCast]
      ring
    rw [shift, shift]
    split
    · rename_i fits
      have fits : (denominator : ℚ) ≤ numerator * 10 ^ guess := by exact_mod_cast fits
      rw [show (1 - (guess : ℤ) - 1 + guess) = 0 by ring, show (1 - (guess : ℤ) + guess) = 1 by ring, zpow_zero,
        zpow_one, one_mul]
      exact ⟨fits, above⟩
    · rename_i exceeds
      have exceeds : (numerator * 10 ^ guess : ℚ) < denominator := by exact_mod_cast Nat.lt_of_not_le exceeds
      rw [show (-(guess : ℤ) - 1 + guess) = -1 by ring, show (-(guess : ℤ) + guess) = 0 by ring, zpow_zero, one_mul,
        zpow_neg_one]
      constructor
      · linarith
      · exact exceeds

/-- The grid of the decimals with so many digits, as integers: its step, and the double. -/
def gridScale (x : Binary64) (length : Nat) : Nat × Nat :=
  x.commonScale ⟨1, x.decimalPlace - length⟩ (4 * x.significand)

/-- The step of the grid. -/
def gridStep (x : Binary64) (length : Nat) : ℚ :=
  10 ^ (x.decimalPlace - length)

theorem gridStep_pos (x : Binary64) (length : Nat) : 0 < x.gridStep length :=
  zpow_pos (by norm_num) _

theorem gridScale_pos (x : Binary64) (length : Nat) : 0 < (x.gridScale length).1 := by
  have step := mul_pos (x.gridStep_pos length) (x.commonFactor_pos ⟨1, x.decimalPlace - length⟩)
  rw [← Nat.cast_pos (α := ℚ), gridScale, commonScale_fst, Decimal.value, Nat.cast_one, one_mul]
  exact step

theorem gridScale_mul (x : Binary64) (length : Nat) :
    x.magnitude * (x.gridScale length).1 = x.gridStep length * (x.gridScale length).2 := by
  rw [gridScale, commonScale_fst, commonScale_snd, Decimal.value, gridStep, magnitude]
  push_cast
  ring

/-- The decimals on either side of a double. -/
theorem grid_bounds (x : Binary64) (length : Nat) :
    ((x.gridScale length).2 / (x.gridScale length).1 : Nat) * x.gridStep length ≤ x.magnitude ∧
      x.magnitude < ((x.gridScale length).2 / (x.gridScale length).1 + 1 : Nat) * x.gridStep length := by
  have one := x.gridScale_pos length
  have same := x.gridScale_mul length
  have step := x.gridStep_pos length
  generalize x.gridScale length = scale at one same
  have unit : (0 : ℚ) < scale.1 := Nat.cast_pos.mpr one
  have low : ((scale.2 / scale.1 : Nat) : ℚ) * scale.1 ≤ scale.2 := by
    exact_mod_cast Nat.div_mul_le_self scale.2 scale.1
  have high : (scale.2 : ℚ) < (scale.2 / scale.1 + 1 : Nat) * scale.1 := by
    have bound := Nat.lt_mul_of_div_lt (Nat.lt_succ_self (scale.2 / scale.1)) one
    exact_mod_cast bound
  rw [← mul_le_mul_iff_left₀ unit, ← mul_lt_mul_iff_left₀ unit, same]
  constructor
  · calc ((scale.2 / scale.1 : Nat) : ℚ) * x.gridStep length * scale.1
        = x.gridStep length * ((scale.2 / scale.1 : Nat) * scale.1) := by ring
      _ ≤ x.gridStep length * scale.2 := mul_le_mul_of_nonneg_left low step.le
  · calc x.gridStep length * scale.2
        < x.gridStep length * ((scale.2 / scale.1 + 1 : Nat) * scale.1) := mul_lt_mul_of_pos_left high step
      _ = ((scale.2 / scale.1 + 1 : Nat) : ℚ) * x.gridStep length * scale.1 := by ring

theorem nearestOfLength?_eq (x : Binary64) (length : Nat) : x.nearestOfLength? length =
    let scale := x.gridScale length
    let grid (coefficient : Nat) : Decimal := ⟨coefficient, x.decimalPlace - length⟩
    if x.readsBack (grid (roundHalfEven scale.2 scale.1)) then some (grid (roundHalfEven scale.2 scale.1))
    else if x.readsBack (grid (scale.2 / scale.1)) then some (grid (scale.2 / scale.1))
    else if x.readsBack (grid (scale.2 / scale.1 + 1)) then some (grid (scale.2 / scale.1 + 1))
    else none := rfl

/-- What is found on a grid is one of the neighbours, and it reads back. -/
theorem nearestOfLength?_cases (found : x.nearestOfLength? length = some d) :
    x.Covers d.value ∧ d.exponent = x.decimalPlace - length ∧
      (d.coefficient = (x.gridScale length).2 / (x.gridScale length).1 ∨
        d.coefficient = (x.gridScale length).2 / (x.gridScale length).1 + 1) := by
  rw [nearestOfLength?_eq] at found
  dsimp only at found
  split at found
  · rename_i reads
    cases found
    exact ⟨(x.readsBack_iff _).mp reads, rfl, roundHalfEven_cases _ _⟩
  · split at found
    · rename_i reads
      cases found
      exact ⟨(x.readsBack_iff _).mp reads, rfl, Or.inl rfl⟩
    · split at found
      · rename_i reads
        cases found
        exact ⟨(x.readsBack_iff _).mp reads, rfl, Or.inr rfl⟩
      · cases found

/-- Where nothing is found on a grid, none of its decimals reads back: one that did so would have the neighbour of the
double on its side do so too. -/
theorem not_covers_of_nearestOfLength? (positive : 0 < x.significand) (nothing : x.nearestOfLength? length = none)
    (coefficient : Nat) : ¬x.Covers (coefficient * x.gridStep length) := by
  intro covers
  have exact := covers_magnitude positive
  have step := x.gridStep_pos length
  obtain ⟨below, above⟩ := x.grid_bounds length
  rw [nearestOfLength?_eq] at nothing
  generalize x.gridScale length = scale at below above nothing
  dsimp only at nothing
  split at nothing
  · cases nothing
  · split at nothing
    · cases nothing
    · split at nothing
      · cases nothing
      · rename_i _ noBelow noAbove
        rw [readsBack_iff] at noBelow noAbove
        by_cases under : coefficient * x.gridStep length ≤ x.magnitude
        · have less : coefficient < scale.2 / scale.1 + 1 := by
            have bound := under.trans_lt above
            rwa [mul_lt_mul_iff_left₀ step, Nat.cast_lt] at bound
          have order : (coefficient * x.gridStep length : ℚ) ≤ (scale.2 / scale.1 : Nat) * x.gridStep length :=
            mul_le_mul_of_nonneg_right (Nat.cast_le.mpr (Nat.le_of_lt_succ less)) step.le
          exact noBelow (covers.between exact order below)
        · have more : scale.2 / scale.1 < coefficient := by
            have bound := below.trans_lt (lt_of_not_ge under)
            rwa [mul_lt_mul_iff_left₀ step, Nat.cast_lt] at bound
          have order : ((scale.2 / scale.1 + 1 : Nat) * x.gridStep length : ℚ) ≤ coefficient * x.gridStep length :=
            mul_le_mul_of_nonneg_right (Nat.cast_le.mpr more) step.le
          exact noAbove (exact.between covers above.le order)

/-- The nearest decimal of a grid is at most half a step away. -/
theorem roundHalfEven_grid_near (x : Binary64) (length : Nat) :
    let rounded := roundHalfEven (x.gridScale length).2 (x.gridScale length).1
    2 * x.magnitude ≤ (2 * rounded + 1) * x.gridStep length ∧
      (2 * rounded - 1) * x.gridStep length ≤ 2 * x.magnitude := by
  have one := x.gridScale_pos length
  have same := x.gridScale_mul length
  have step := x.gridStep_pos length
  obtain ⟨above, below⟩ := roundHalfEven_near (x.gridScale length).2 one
  dsimp only
  generalize x.gridScale length = scale at one same above below
  generalize roundHalfEven scale.2 scale.1 = rounded at above below
  have scalePos : (0 : ℚ) < scale.1 := Nat.cast_pos.mpr one
  have above : (2 * scale.2 : ℚ) ≤ 2 * (rounded * scale.1) + scale.1 := by exact_mod_cast above
  have below : (2 * (rounded * scale.1) : ℚ) ≤ 2 * scale.2 + scale.1 := by exact_mod_cast below
  constructor <;> rw [← mul_le_mul_iff_left₀ scalePos]
  · calc 2 * x.magnitude * scale.1 = x.gridStep length * (2 * scale.2) := by
          rw [mul_assoc, same]
          ring
      _ ≤ x.gridStep length * (2 * (rounded * scale.1) + scale.1) := mul_le_mul_of_nonneg_left above step.le
      _ = (2 * rounded + 1) * x.gridStep length * scale.1 := by ring
  · calc (2 * rounded - 1) * x.gridStep length * scale.1
        = x.gridStep length * (2 * (rounded * scale.1)) - x.gridStep length * scale.1 := by ring
      _ ≤ x.gridStep length * (2 * scale.2 + scale.1) - x.gridStep length * scale.1 :=
          sub_le_sub_right (mul_le_mul_of_nonneg_left below step.le) _
      _ = 2 * x.magnitude * scale.1 := by
          rw [mul_assoc 2, same]
          ring

theorem gridStep_seventeen_le (positive : 0 < x.significand) : x.gridStep 17 * 10 ^ 16 ≤ x.magnitude := by
  have shift : x.gridStep 17 * 10 ^ 16 = 10 ^ (x.decimalPlace - 1) := by
    rw [gridStep, ← zpow_natCast (10 : ℚ) 16, ← zpow_add₀ (by norm_num)]
    congr 1
    push_cast
    ring
  rw [shift]
  exact (decimalPlace_bounds positive).1

/-- The nearest decimal with seventeen digits reads back: their grid is finer than the doubles. -/
theorem covers_seventeen (positive : 0 < x.significand) :
    x.Covers (roundHalfEven (x.gridScale 17).2 (x.gridScale 17).1 * x.gridStep 17) := by
  obtain ⟨above, below⟩ := x.roundHalfEven_grid_near 17
  have fine := gridStep_seventeen_le positive
  have unit := x.quarter_pos
  generalize roundHalfEven (x.gridScale 17).2 (x.gridScale 17).1 = rounded at above below
  rw [magnitude] at above below fine
  rcases x.roundingBounds_cases with ⟨bounds, power⟩ | ⟨bounds, _⟩
  · have exact : (x.significand : ℚ) = 2 ^ 52 := by exact_mod_cast power
    have low : ((4 * x.significand - 1 : Nat) : ℚ) = 4 * x.significand - 1 := by
      rw [Nat.cast_sub (by omega)]
      push_cast
      ring
    refine covers_of_bounds ?_ ?_ <;> rw [bounds] <;> dsimp only
    · rw [low]
      rw [exact] at above fine ⊢
      linarith
    · push_cast
      rw [exact] at below fine ⊢
      linarith
  · have small : (x.significand : ℚ) < 10 ^ 16 := by
      have bound : x.significand < 10 ^ 16 := x.canonical.1.trans (by decide)
      exact_mod_cast bound
    have fewer : x.significand * x.quarter < 10 ^ 16 * x.quarter := mul_lt_mul_of_pos_right small unit
    have low : ((4 * x.significand - 2 : Nat) : ℚ) = 4 * x.significand - 2 := by
      rw [Nat.cast_sub (by omega)]
      push_cast
      ring
    refine covers_of_bounds ?_ ?_ <;> rw [bounds] <;> dsimp only
    · rw [low]
      linarith
    · push_cast
      linarith

/-- On the grid of single digits a multiple of ten is ten itself. -/
theorem eq_ten_of_single (positive : 0 < x.significand) (found : x.nearestOfLength? 1 = some d)
    (tens : d.coefficient % 10 = 0) : d.coefficient = 10 := by
  obtain ⟨_, _, neighbour⟩ := nearestOfLength?_cases found
  obtain ⟨below, above⟩ := x.grid_bounds 1
  obtain ⟨low, high⟩ := decimalPlace_bounds positive
  have step := x.gridStep_pos 1
  have lowest : x.gridStep 1 = 10 ^ (x.decimalPlace - 1) := by
    rw [gridStep, Nat.cast_one]
  have highest : (10 : ℚ) ^ x.decimalPlace = 10 * x.gridStep 1 := by
    rw [lowest, zpow_sub_one₀ (by norm_num)]
    ring
  have some : 0 < (x.gridScale 1).2 / (x.gridScale 1).1 := by
    have bound := (lowest ▸ low).trans_lt above
    rw [← one_mul (x.gridStep 1), ← mul_assoc, mul_one, mul_lt_mul_iff_left₀ step] at bound
    have bound : 1 < (x.gridScale 1).2 / (x.gridScale 1).1 + 1 := by exact_mod_cast bound
    omega
  have few : (x.gridScale 1).2 / (x.gridScale 1).1 < 10 := by
    have bound := below.trans_lt (highest ▸ high)
    rw [mul_lt_mul_iff_left₀ step] at bound
    exact_mod_cast bound
  omega

/-- What is found on a grid first ends in a zero only if it is ten. -/
theorem eq_ten_of_tens (positive : 0 < x.significand) (found : x.nearestOfLength? (length + 1) = some d)
    (shorter : ∀ fewer < length, x.nearestOfLength? (fewer + 1) = none) (tens : d.coefficient % 10 = 0) :
    d.coefficient = 10 := by
  cases length with
  | zero => exact eq_ten_of_single positive found tens
  | succ length =>
    obtain ⟨covers, exponent, _⟩ := nearestOfLength?_cases found
    have coarser : d.value = (d.coefficient / 10 : Nat) * x.gridStep (length + 1) := by
      have whole : d.coefficient = d.coefficient / 10 * 10 := by omega
      have place : x.decimalPlace - ((length + 1 : Nat) : ℤ) = x.decimalPlace - ((length + 1 + 1 : Nat) : ℤ) + 1 := by
        push_cast
        ring
      rw [Decimal.value, exponent, gridStep, place, zpow_add_one₀ (by norm_num)]
      nth_rewrite 1 [whole]
      push_cast
      ring
    rw [coarser] at covers
    exact absurd covers (not_covers_of_nearestOfLength? positive (shorter length (Nat.lt_succ_self length)) _)

/-- The decimal that is printed for a positive double reads back as it. -/
theorem covers_shortest (positive : 0 < x.significand) : x.Covers x.shortest.value := by
  have finds : ((List.range 17).findSome? fun fewer => x.nearestOfLength? (fewer + 1)).isSome = true := by
    rw [List.findSome?_isSome_iff]
    refine ⟨16, by simp, ?_⟩
    rw [Option.isSome_iff_ne_none]
    exact fun nothing => not_covers_of_nearestOfLength? positive nothing _ (covers_seventeen positive)
  obtain ⟨d, first⟩ := Option.isSome_iff_exists.mp finds
  have shortest : x.shortest =
      if d.coefficient % 10 = 0 then ⟨1, d.exponent + (decimalLength d.coefficient - 1 : Nat)⟩ else d := by
    rw [Binary64.shortest, first, Option.getD_some]
  obtain ⟨length, found, shorter⟩ := exists_of_findSome?_range first
  obtain ⟨covers, _, _⟩ := nearestOfLength?_cases found
  rw [shortest]
  split
  · rename_i tens
    have ten := eq_ten_of_tens positive found shorter tens
    have same : Decimal.value ⟨1, d.exponent + (decimalLength d.coefficient - 1 : Nat)⟩ = d.value := by
      rw [ten, show decimalLength 10 - 1 = 1 from rfl, Decimal.value, Decimal.value, ten, zpow_add₀ (by norm_num)]
      norm_num
      ring
    rwa [same]
  · exact covers

end Binary64

end BuildConfig
