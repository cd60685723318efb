import BuildConfig.Proofs.Number.Shortest

namespace BuildConfig

/-- A quotient that lies half-way is never rounded to an odd number. -/
theorem roundHalfEven_near_of_odd (numerator : Nat) {denominator : Nat} (positive : 0 < denominator)
    (odd : roundHalfEven numerator denominator % 2 = 1) :
    2 * numerator < 2 * (roundHalfEven numerator denominator * denominator) + denominator ∧
      2 * (roundHalfEven numerator denominator * denominator) < 2 * numerator + denominator := by
  have whole := Nat.div_add_mod numerator denominator
  have rest := Nat.mod_lt numerator positive
  have below : numerator / denominator * denominator = denominator * (numerator / denominator) := Nat.mul_comm _ _
  have above : (numerator / denominator + 1) * denominator =
      denominator * (numerator / denominator) + denominator := by ring
  unfold roundHalfEven at odd ⊢
  dsimp only at odd ⊢
  split
  · rw [below]
    omega
  · rename_i notBelow
    rw [if_neg notBelow] at odd
    split
    · rw [above]
      omega
    · rename_i notAbove
      rw [if_neg notAbove] at odd
      omega

/-- The rounded quotient is at most a half away from the exact one, and less than that if it is odd. -/
theorem roundHalfEven_bounds (numerator : Nat) {denominator : Nat} (positive : 0 < denominator) :
    ((roundHalfEven numerator denominator : ℚ) - 1 / 2 ≤ numerator / denominator ∧
      (numerator / denominator : ℚ) ≤ roundHalfEven numerator denominator + 1 / 2) ∧
    (roundHalfEven numerator denominator % 2 = 1 →
      (roundHalfEven numerator denominator : ℚ) - 1 / 2 < numerator / denominator ∧
        (numerator / denominator : ℚ) < roundHalfEven numerator denominator + 1 / 2) := by
  have unit : (0 : ℚ) < denominator := Nat.cast_pos.mpr positive
  constructor
  · obtain ⟨above, below⟩ := roundHalfEven_near numerator positive
    have above : (2 * numerator : ℚ) ≤ 2 * (roundHalfEven numerator denominator * denominator) + denominator := by
      exact_mod_cast above
    have below : (2 * (roundHalfEven numerator denominator * denominator) : ℚ) ≤ 2 * numerator + denominator := by
      exact_mod_cast below
    rw [le_div_iff₀ unit, div_le_iff₀ unit]
    constructor <;> linarith
  · intro odd
    obtain ⟨above, below⟩ := roundHalfEven_near_of_odd numerator positive odd
    have above : (2 * numerator : ℚ) < 2 * (roundHalfEven numerator denominator * denominator) + denominator := by
      exact_mod_cast above
    have below : (2 * (roundHalfEven numerator denominator * denominator) : ℚ) < 2 * numerator + denominator := by
      exact_mod_cast below
    rw [lt_div_iff₀ unit, div_lt_iff₀ unit]
    constructor <;> linarith

namespace Binary64

variable {x : Binary64} {v : ℚ}

/-- The bounds of what rounds to a double, in units of its last place. Only below a power of two the lower one is nearer
than a half. -/
theorem lower_bound_le {w : ℚ} (positive : 0 ≤ w) (near : (x.significand : ℚ) - 1 / 2 ≤ w)
    (normal : x.exponent ≠ -1074 → 2 ^ 52 - 1 / 4 ≤ w) : (x.roundingBounds.1 : ℚ) ≤ 4 * w := by
  unfold roundingBounds
  dsimp only
  split
  · rename_i edge
    have full : (x.significand : ℚ) = 2 ^ 52 := by exact_mod_cast edge.1
    have above := normal edge.2
    push_cast [show 1 ≤ 4 * x.significand by rw [edge.1]; decide]
    linarith
  · rcases Nat.eq_zero_or_pos x.significand with zero | some
    · rw [zero]
      simpa using positive
    · push_cast [show 2 ≤ 4 * x.significand by omega]
      linarith

theorem lower_bound_lt {w : ℚ} (near : (x.significand : ℚ) - 1 / 2 < w) (odd : x.significand % 2 = 1) :
    (x.roundingBounds.1 : ℚ) < 4 * w := by
  have inner : ¬(x.significand = Nat.pow 2 52 ∧ x.exponent ≠ -1074) := fun edge => by
    rw [edge.1] at odd
    exact absurd odd (by decide)
  rw [roundingBounds, if_neg inner]
  dsimp only
  push_cast [show 2 ≤ 4 * x.significand by omega]
  linarith

/-- A number rounds to a double that is at most half a last place away, with ties left to the even ones. -/
theorem covers_of_near {w : ℚ} (positive : 0 ≤ w)
    (near : (x.significand : ℚ) - 1 / 2 ≤ w ∧ w ≤ x.significand + 1 / 2)
    (inner : x.significand % 2 = 1 → (x.significand : ℚ) - 1 / 2 < w ∧ w < x.significand + 1 / 2)
    (normal : x.exponent ≠ -1074 → 2 ^ 52 - 1 / 4 ≤ w) : x.Covers (w * 2 ^ x.exponent) := by
  have unit : w * 2 ^ x.exponent = 4 * w * x.quarter := by
    rw [← x.four_mul_quarter]
    ring
  have high : (x.roundingBounds.2 : ℚ) = 4 * x.significand + 2 := by
    rw [roundingBounds_snd]
    push_cast
    rfl
  rw [unit, Covers, high]
  split
  · rw [mul_le_mul_iff_left₀ x.quarter_pos, mul_le_mul_iff_left₀ x.quarter_pos]
    exact ⟨lower_bound_le positive near.1 normal, by linarith⟩
  · have odd : x.significand % 2 = 1 := by omega
    obtain ⟨above, below⟩ := inner odd
    rw [mul_lt_mul_iff_left₀ x.quarter_pos, mul_lt_mul_iff_left₀ x.quarter_pos]
    exact ⟨lower_bound_lt above odd, by linarith⟩

/-- Half a last place above the largest double nothing rounds to a double. -/
theorem not_covers_of_large (large : (2 ^ 54 - 1) * 2 ^ 970 ≤ v) (x : Binary64) : ¬x.Covers v := by
  intro covers
  obtain ⟨small, _, low, _⟩ := x.canonical
  rw [Nat.pow_eq] at small
  have quarter : x.quarter ≤ 2 ^ 969 := by
    rw [quarter, ← zpow_natCast]
    exact zpow_le_zpow_right₀ (by norm_num) (by omega)
  have double : (2 : ℚ) ^ 970 = 2 ^ 969 * 2 := pow_succ 2 969
  have high := x.roundingBounds_snd
  have positive := x.quarter_pos
  rw [double] at large
  generalize (2 : ℚ) ^ 969 = most at quarter large
  rcases Nat.mod_two_eq_zero_or_one x.significand with even | odd
  · have reach : x.roundingBounds.2 ≤ 36028797018963962 := by omega
    have reach : (x.roundingBounds.2 : ℚ) ≤ 36028797018963962 := by exact_mod_cast reach
    have below := covers.bounds.2.trans (mul_le_mul reach quarter positive.le (by norm_num))
    linarith
  · have reach : x.roundingBounds.2 ≤ 36028797018963966 := by omega
    have reach : (x.roundingBounds.2 : ℚ) ≤ 36028797018963966 := by exact_mod_cast reach
    have below := (covers.open_of_odd odd).2.trans_le (mul_le_mul reach quarter positive.le (by norm_num))
    linarith

/-- A number is rounded to the double that it rounds to, or to none where there is no such double. -/
def Rounds (negative : Bool) (v : ℚ) (result : Option Binary64) : Prop :=
  (∃ x, result = some x ∧ x.negative = negative ∧ x.Covers v) ∨ (result = none ∧ ∀ x : Binary64, ¬x.Covers v)

theorem Rounds.eq_some_iff {negative : Bool} {result : Option Binary64} (rounds : Rounds negative v result) :
    result = some x ↔ x.negative = negative ∧ x.Covers v := by
  rcases rounds with ⟨y, rfl, sign, covers⟩ | ⟨rfl, nothing⟩
  · rw [Option.some.injEq]
    constructor
    · rintro rfl
      exact ⟨sign, covers⟩
    · rintro ⟨same, other⟩
      exact eq_of_covers (sign.trans same.symm) covers other
  · exact iff_of_false nofun fun found => nothing x found.2

theorem Rounds.eq {negative : Bool} {result other : Option Binary64} (rounds : Rounds negative v result)
    (otherRounds : Rounds negative v other) : result = other := by
  ext x
  rw [rounds.eq_some_iff, otherRounds.eq_some_iff]

/-- A significand at most half away, with ties to the even one, makes the double that a number rounds to, unless the
exponent is too large. -/
theorem rounds_ofFields? {w : ℚ} {significand : Nat} {exponent : Int} (negative : Bool) (least : -1074 ≤ exponent)
    (room : significand < 2 ^ 53) (positive : 0 ≤ w)
    (near : (significand : ℚ) - 1 / 2 ≤ w ∧ w ≤ significand + 1 / 2)
    (inner : significand % 2 = 1 → (significand : ℚ) - 1 / 2 < w ∧ w < significand + 1 / 2)
    (normal : exponent ≠ -1074 → 2 ^ 52 ≤ significand ∧ 2 ^ 52 - 1 / 4 ≤ w) :
    Rounds negative (w * 2 ^ exponent) (ofFields? negative significand exponent) := by
  unfold ofFields?
  split
  · rename_i canonical
    exact Or.inl ⟨_, rfl, rfl, covers_of_near positive near inner fun notLeast => (normal notLeast).2⟩
  · rename_i unfit
    refine Or.inr ⟨rfl, not_covers_of_large ?_⟩
    have large : 971 < exponent := by
      by_contra inRange
      refine unfit ⟨room, least, by omega, fun few => ?_⟩
      rw [Nat.pow_eq] at few
      by_contra notLeast
      have full := (normal notLeast).1
      omega
    have power : (2 : ℚ) ^ 972 ≤ 2 ^ exponent := by
      rw [← zpow_natCast]
      exact zpow_le_zpow_right₀ (by norm_num) (by omega)
    calc (2 ^ 54 - 1) * (2 : ℚ) ^ 970 = (2 ^ 52 - 1 / 4) * 2 ^ 972 := by
          rw [pow_succ (2 : ℚ) 971, pow_succ (2 : ℚ) 970]
          generalize (2 : ℚ) ^ 970 = unit
          ring
      _ ≤ w * 2 ^ exponent :=
          mul_le_mul (normal (by omega)).2 power (pow_nonneg (by norm_num) _) positive

section Quotient

variable {numerator denominator : Nat}

/-- Both sides of a comparison of a quotient with a power of two, brought to integers. -/
theorem pow_le_quotient_iff (numerator : Nat) (bottom : 0 < denominator) (place : Int) :
    denominator * Nat.pow 2 place.toNat ≤ numerator * Nat.pow 2 (-place).toNat ↔
      (2 : ℚ) ^ place ≤ numerator / denominator := by
  have unit : (0 : ℚ) < denominator := Nat.cast_pos.mpr bottom
  have twos := pow_toNat (by norm_num : (0 : ℚ) < 2) place
  have factor : (0 : ℚ) < 2 ^ (-place).toNat := by positivity
  rw [← Nat.cast_le (α := ℚ), le_div_iff₀ unit, Nat.pow_eq, Nat.pow_eq]
  push_cast
  rw [twos, ← mul_assoc, mul_le_mul_iff_left₀ factor, mul_comm]

section Place

variable (top : 0 < numerator) (bottom : 0 < denominator)
include top bottom

/-- The lengths of two integers in bits give the place of their quotient, but for one bit. -/
theorem pow_log2_bounds : (2 : ℚ) ^ ((numerator.log2 : Int) - denominator.log2 - 1) ≤ numerator / denominator ∧
    (numerator / denominator : ℚ) < 2 ^ ((numerator.log2 : Int) - denominator.log2 + 1) := by
  have unit : (0 : ℚ) < denominator := Nat.cast_pos.mpr bottom
  have atMost : (2 : ℚ) ^ numerator.log2 ≤ numerator := by exact_mod_cast Nat.log2_self_le top.ne'
  have below : (numerator : ℚ) < 2 ^ (numerator.log2 + 1) := by exact_mod_cast Nat.lt_log2_self
  have atMostUnit : (2 : ℚ) ^ denominator.log2 ≤ denominator := by exact_mod_cast Nat.log2_self_le bottom.ne'
  have belowUnit : (denominator : ℚ) < 2 ^ (denominator.log2 + 1) := by exact_mod_cast Nat.lt_log2_self
  rw [le_div_iff₀ unit, div_lt_iff₀ unit]
  constructor
  · calc (2 : ℚ) ^ ((numerator.log2 : Int) - denominator.log2 - 1) * denominator
        ≤ 2 ^ ((numerator.log2 : Int) - denominator.log2 - 1) * 2 ^ (denominator.log2 + 1) :=
          mul_le_mul_of_nonneg_left belowUnit.le (by positivity)
      _ = 2 ^ numerator.log2 := by
          rw [← zpow_natCast, ← zpow_natCast, ← zpow_add₀ (by norm_num)]
          congr 1
          push_cast
          ring
      _ ≤ numerator := atMost
  · calc (numerator : ℚ) < 2 ^ (numerator.log2 + 1) := below
      _ = 2 ^ ((numerator.log2 : Int) - denominator.log2 + 1) * 2 ^ denominator.log2 := by
          rw [← zpow_natCast, ← zpow_natCast, ← zpow_add₀ (by norm_num)]
          congr 1
          push_cast
          ring
      _ ≤ 2 ^ ((numerator.log2 : Int) - denominator.log2 + 1) * denominator :=
          mul_le_mul_of_nonneg_left atMostUnit (by positivity)

/-- The place of the first bit decides on the double, as far as its exponent goes. -/
theorem exists_place : ∃ place : Int, (2 : ℚ) ^ place ≤ numerator / denominator ∧
    (numerator / denominator : ℚ) < 2 ^ (place + 1) ∧
    ∀ negative, ofQuotient? negative numerator denominator =
      let exponent := max (place - 52) (-1074)
      let significand := roundHalfEven (numerator * Nat.pow 2 (-exponent).toNat)
        (denominator * Nat.pow 2 exponent.toNat)
      if significand = Nat.pow 2 53 then ofFields? negative (Nat.pow 2 52) (exponent + 1)
      else ofFields? negative significand exponent := by
  obtain ⟨low, high⟩ := pow_log2_bounds top bottom
  have atLeast := pow_le_quotient_iff numerator bottom ((numerator.log2 : Int) - denominator.log2)
  by_cases above : (2 : ℚ) ^ ((numerator.log2 : Int) - denominator.log2) ≤ numerator / denominator
  · refine ⟨_, above, high, fun negative => ?_⟩
    rw [ofQuotient?]
    dsimp only
    rw [if_pos (decide_eq_true (atLeast.mpr above))]
  · refine ⟨_, low, ?_, fun negative => ?_⟩
    · rw [sub_add_cancel]
      exact lt_of_not_ge above
    · have same : (numerator.log2 : Int) - denominator.log2 - 1 - 52 = numerator.log2 - denominator.log2 - 53 := by
        omega
      rw [ofQuotient?, same]
      dsimp only
      rw [if_neg fun holds => above (atLeast.mp (of_decide_eq_true holds))]

end Place

/-- Scaled by a power of two, a quotient is still one of integers. -/
theorem quotient_scaled (exponent : Int) : ((numerator * Nat.pow 2 (-exponent).toNat : Nat) : ℚ) /
    (denominator * Nat.pow 2 exponent.toNat : Nat) = numerator / denominator / 2 ^ exponent := by
  have twos := pow_toNat (by norm_num : (0 : ℚ) < 2) exponent
  have factor : (2 : ℚ) ^ (-exponent).toNat ≠ 0 := by positivity
  rw [Nat.pow_eq, Nat.pow_eq]
  push_cast
  rw [twos, ← mul_assoc, mul_div_mul_right _ _ factor, div_div]

/-- The quotient of two integers is rounded to the nearest double, ties to the even one. -/
theorem rounds_ofQuotient? (negative : Bool) (top : 0 < numerator) (bottom : 0 < denominator) :
    Rounds negative (numerator / denominator) (ofQuotient? negative numerator denominator) := by
  obtain ⟨place, low, high, made⟩ := exists_place top bottom
  rw [made]
  dsimp only
  generalize lastPlace : max (place - 52) (-1074) = exponent
  have unit : (0 : ℚ) < 2 ^ exponent := by positivity
  have scaledBottom : 0 < denominator * Nat.pow 2 exponent.toNat := Nat.mul_pos bottom (Nat.pow_pos (by decide))
  obtain ⟨near, inner⟩ := roundHalfEven_bounds (numerator * Nat.pow 2 (-exponent).toNat) scaledBottom
  rw [quotient_scaled] at near inner
  generalize roundHalfEven (numerator * Nat.pow 2 (-exponent).toNat) (denominator * Nat.pow 2 exponent.toNat) =
    significand at near inner
  -- from here on the quotient counts in units of the last place
  have scaled : (numerator / denominator : ℚ) = numerator / denominator / 2 ^ exponent * 2 ^ exponent :=
    (div_mul_cancel₀ _ unit.ne').symm
  have below : (numerator / denominator : ℚ) / 2 ^ exponent < 2 ^ 53 := by
    rw [div_lt_iff₀ unit, ← zpow_natCast, ← zpow_add₀ (by norm_num)]
    exact high.trans_le (zpow_le_zpow_right₀ (by norm_num) (by omega))
  have normal : exponent ≠ -1074 → (2 : ℚ) ^ 52 ≤ numerator / denominator / 2 ^ exponent := by
    intro notLeast
    rw [le_div_iff₀ unit, ← zpow_natCast, ← zpow_add₀ (by norm_num)]
    refine le_trans (le_of_eq ?_) low
    congr 1
    omega
  have positive : (0 : ℚ) ≤ numerator / denominator / 2 ^ exponent := by positivity
  rw [scaled]
  generalize (numerator / denominator / 2 ^ exponent : ℚ) = w at near inner below normal positive
  have room : significand ≤ 2 ^ 53 := by
    have room : (significand : ℚ) < 2 ^ 53 + 1 := by linarith
    have room : significand < 2 ^ 53 + 1 := by exact_mod_cast room
    omega
  split
  · rename_i carried
    rw [carried, Nat.pow_eq] at near
    push_cast at near
    have shifted : w * 2 ^ exponent = w / 2 * 2 ^ (exponent + 1) := by
      rw [zpow_add_one₀ (by norm_num)]
      ring
    rw [shifted]
    refine rounds_ofFields? negative (by omega) (by decide) (by linarith) ?_ (fun odd => absurd odd (by decide))
      fun _ => ⟨Nat.le_refl _, by linarith⟩
    rw [Nat.pow_eq]
    push_cast
    constructor <;> linarith
  · rename_i kept
    rw [Nat.pow_eq] at kept
    refine rounds_ofFields? negative (by omega) (by omega) positive near inner fun notLeast => ?_
    have atLeast := normal notLeast
    refine ⟨?_, by linarith⟩
    have full : (2 ^ 52 : ℚ) < significand + 1 := by linarith
    have full : 2 ^ 52 < significand + 1 := by exact_mod_cast full
    omega

theorem covers_zero (negative : Bool) (positive : 0 ≤ v) (small : v ≤ 2 ^ (-1075 : ℤ)) : (zero negative).Covers v := by
  have unit : ((zero negative).roundingBounds.2 : ℚ) * (zero negative).quarter = 2 ^ (-1075 : ℤ) := by
    rw [roundingBounds_snd, quarter, zero, show (-1075 : ℤ) = 1 + (-1074 - 2) by rfl, zpow_one_add₀ (by norm_num)]
    norm_num
  rw [Covers, if_pos (show (zero negative).significand % 2 = 0 from rfl), unit]
  refine ⟨le_trans (le_of_eq ?_) positive, small⟩
  rw [show (zero negative).roundingBounds.1 = 0 from rfl, Nat.cast_zero, zero_mul]

theorem rounds_zero (negative : Bool) : Rounds negative 0 (some (zero negative)) :=
  Or.inl ⟨_, rfl, rfl, covers_zero negative le_rfl (by positivity)⟩

theorem rounds_nearest? (negative : Bool) (numerator : Nat) (bottom : 0 < denominator) :
    Rounds negative (numerator / denominator) (nearest? negative numerator denominator) := by
  unfold nearest?
  split
  · rename_i nothing
    rw [nothing, Nat.cast_zero, zero_div]
    exact rounds_zero negative
  · rename_i some
    exact rounds_ofQuotient? negative (Nat.pos_of_ne_zero some) bottom

end Quotient

section Decimal

variable {coefficient : Nat}

/-- The length of a decimal in digits gives its place. -/
theorem decimal_bounds (positive : 0 < coefficient) (exponent : Int) :
    (10 : ℚ) ^ (decimalLength coefficient + exponent - 1) ≤ coefficient * 10 ^ exponent ∧
      (coefficient * 10 ^ exponent : ℚ) < 10 ^ (decimalLength coefficient + exponent) := by
  have unit : (0 : ℚ) < 10 ^ exponent := by positivity
  have some := decimalLength_pos coefficient
  have low : (10 : ℚ) ^ (decimalLength coefficient - 1) ≤ coefficient := by
    exact_mod_cast pow_decimalLength_le positive
  have high : (coefficient : ℚ) < 10 ^ decimalLength coefficient := by
    exact_mod_cast lt_pow_decimalLength coefficient
  have below : (decimalLength coefficient + exponent - 1 : Int) = (decimalLength coefficient - 1 : Nat) + exponent := by
    omega
  rw [below, zpow_add₀ (by norm_num), zpow_add₀ (by norm_num), zpow_natCast, zpow_natCast]
  exact ⟨mul_le_mul_of_nonneg_right low unit.le, mul_lt_mul_of_pos_right high unit⟩

/-- The decimal places from which on a decimal is too large for a double, or rounds to zero. -/
theorem two_pow_le_ten_pow : (2 : ℚ) ^ 1025 ≤ 10 ^ 310 ∧ (2 : ℚ) ^ 1075 ≤ 10 ^ 330 := by
  rw [pow_mul (2 : ℚ) 205 5, pow_mul (10 : ℚ) 62 5, pow_mul (2 : ℚ) 215 5, pow_mul (10 : ℚ) 66 5]
  exact ⟨pow_le_pow_left₀ (by norm_num) (by norm_num) 5, pow_le_pow_left₀ (by norm_num) (by norm_num) 5⟩

/-- A decimal is rounded to the nearest double, ties to the even one; the shortcuts for what is far out of range agree
with that. -/
theorem rounds_ofDecimal? (negative : Bool) (coefficient : Nat) (exponent : Int) :
    Rounds negative (coefficient * 10 ^ exponent) (ofDecimal? negative coefficient exponent) := by
  rcases Nat.eq_zero_or_pos coefficient with nothing | positive
  · rw [nothing, Nat.cast_zero, zero_mul]
    exact rounds_zero negative
  obtain ⟨low, high⟩ := decimal_bounds positive exponent
  rw [ofDecimal?, if_neg positive.ne']
  dsimp only
  split
  · rename_i far
    have large : (2 ^ 54 - 1) * (2 : ℚ) ^ 970 ≤ 2 ^ 1025 := by
      rw [pow_add (2 : ℚ) 55 970]
      exact mul_le_mul_of_nonneg_right (by norm_num) (by positivity)
    refine Or.inr ⟨rfl, not_covers_of_large ((large.trans two_pow_le_ten_pow.1).trans (le_trans ?_ low))⟩
    rw [← zpow_natCast]
    exact zpow_le_zpow_right₀ (by norm_num) (by omega)
  · split
    · rename_i far
      have small : (10 : ℚ) ^ (-330 : ℤ) ≤ 2 ^ (-1075 : ℤ) :=
        inv_anti₀ (by positivity) two_pow_le_ten_pow.2
      refine Or.inl ⟨_, rfl, rfl, covers_zero negative (by positivity) (high.le.trans (le_trans ?_ small))⟩
      exact zpow_le_zpow_right₀ (by norm_num) (by omega)
    · have tens := pow_toNat (by norm_num : (0 : ℚ) < 10) exponent
      have unit : ((Nat.pow 10 (-exponent).toNat : Nat) : ℚ) ≠ 0 := by
        rw [Nat.pow_eq]
        positivity
      have same : (coefficient * 10 ^ exponent : ℚ) =
          (coefficient * Nat.pow 10 exponent.toNat : Nat) / (Nat.pow 10 (-exponent).toNat : Nat) := by
        rw [eq_div_iff unit, Nat.pow_eq, Nat.pow_eq]
        push_cast
        rw [tens, mul_assoc]
      rw [same]
      exact rounds_ofQuotient? negative (Nat.mul_pos positive (Nat.pow_pos (by decide))) (Nat.pow_pos (by decide))

/-- The shortest decimal of a double is read back as that double. -/
theorem ofDecimal?_shortest (positive : 0 < x.significand) :
    ofDecimal? x.negative x.shortest.coefficient x.shortest.exponent = some x :=
  (rounds_ofDecimal? _ _ _).eq_some_iff.mpr ⟨rfl, covers_shortest positive⟩

end Decimal

section Arithmetic

theorem quotient_snd_pos (x : Binary64) : 0 < x.quotient.2 :=
  Nat.pow_pos (by decide)

theorem magnitude_eq_quotient (x : Binary64) : x.magnitude = x.quotient.1 / x.quotient.2 := by
  rw [eq_div_iff (Nat.cast_ne_zero.mpr x.quotient_snd_pos.ne')]
  exact x.magnitude_mul

theorem rounds_mul? (x y : Binary64) :
    Rounds (x.negative != y.negative) (x.magnitude * y.magnitude) (x.mul? y) := by
  have same : x.magnitude * y.magnitude =
      (x.quotient.1 * y.quotient.1 : Nat) / (x.quotient.2 * y.quotient.2 : Nat) := by
    rw [magnitude_eq_quotient, magnitude_eq_quotient, div_mul_div_comm]
    push_cast
    rfl
  rw [same]
  exact rounds_nearest? _ _ (Nat.mul_pos x.quotient_snd_pos y.quotient_snd_pos)

theorem rounds_div? (x : Binary64) {y : Binary64} (some : 0 < y.significand) :
    Rounds (x.negative != y.negative) (x.magnitude / y.magnitude) (x.div? y) := by
  have same : x.magnitude / y.magnitude =
      (x.quotient.1 * y.quotient.2 : Nat) / (x.quotient.2 * y.quotient.1 : Nat) := by
    rw [magnitude_eq_quotient, magnitude_eq_quotient, div_div_div_eq]
    push_cast
    rfl
  have top : 0 < y.quotient.1 := Nat.mul_pos some (Nat.pow_pos (by decide))
  rw [same]
  exact rounds_nearest? _ _ (Nat.mul_pos x.quotient_snd_pos top)

end Arithmetic

section Exact

theorem magnitude_eq (x : Binary64) : x.magnitude = x.significand * 2 ^ x.exponent := by
  rw [magnitude, ← x.four_mul_quarter]
  ring

/-- A double lies among the numbers that round to it. -/
theorem covers_self (x : Binary64) : x.Covers x.magnitude := by
  rcases Nat.eq_zero_or_pos x.significand with nothing | positive
  · have same : x = zero x.negative := eq_of_zero rfl nothing rfl
    have value : x.magnitude = 0 := by rw [magnitude, nothing, Nat.cast_zero, mul_zero, zero_mul]
    rw [value, same]
    exact covers_zero _ le_rfl (by positivity)
  · exact covers_magnitude positive

theorem Rounds.eq_of_magnitude {negative : Bool} {result : Option Binary64} (rounds : Rounds negative v result)
    (sign : x.negative = negative) (exact : x.magnitude = v) : result = some x :=
  rounds.eq_some_iff.mpr ⟨sign, exact ▸ x.covers_self⟩

/-- A multiple of a power of two is a double, as long as the exponent is in range and 53 bits have room for the rest. -/
theorem exists_magnitude_eq (negative : Bool) (significand : Nat) (exponent : Int) (room : significand < 2 ^ 53)
    (least : -1074 ≤ exponent) (most : exponent ≤ 971) :
    ∃ x : Binary64, x.negative = negative ∧ x.magnitude = significand * 2 ^ exponent := by
  rcases Nat.eq_zero_or_pos significand with nothing | positive
  · refine ⟨zero negative, rfl, ?_⟩
    rw [magnitude_eq, zero, nothing, Nat.cast_zero, zero_mul, zero_mul]
  have low := Nat.log2_self_le positive.ne'
  have high : significand < 2 ^ (significand.log2 + 1) := Nat.lt_log2_self
  have short : significand.log2 ≤ 52 := by
    have less := (Nat.pow_lt_pow_iff_right (by decide)).mp (low.trans_lt room)
    omega
  -- the bits move up until the first one is in its place, or the exponent is the least one
  obtain ⟨shift, full, lowest⟩ : ∃ shift : Nat, significand.log2 + shift ≤ 52 ∧ -1074 ≤ exponent - shift ∧
      (significand.log2 + shift = 52 ∨ exponent - shift = -1074) :=
    ⟨min (52 - significand.log2) (exponent + 1074).toNat, by omega, by omega, by omega⟩
  refine ⟨⟨negative, significand * 2 ^ shift, exponent - shift, ?_, by omega, by omega, fun few => ?_⟩, rfl, ?_⟩
  · calc significand * 2 ^ shift < 2 ^ (significand.log2 + 1) * 2 ^ shift :=
          Nat.mul_lt_mul_of_pos_right high (by positivity)
      _ = 2 ^ (significand.log2 + 1 + shift) := (pow_add _ _ _).symm
      _ ≤ 2 ^ 53 := Nat.pow_le_pow_right (by decide) (by omega)
  · refine lowest.2.resolve_left fun first => few.not_ge ?_
    calc 2 ^ 52 = 2 ^ significand.log2 * 2 ^ shift := by rw [← pow_add, first]
      _ ≤ significand * 2 ^ shift := Nat.mul_le_mul_right _ low
  · rw [magnitude_eq, zpow_sub₀ (by norm_num), zpow_natCast]
    push_cast
    rw [mul_assoc, mul_comm ((2 : ℚ) ^ shift), div_mul_cancel₀ _ (by positivity)]

end Exact

end Binary64

end BuildConfig
