import BuildConfig.Number.Shortest
import Mathlib.Algebra.Order.Field.Power
import Mathlib.Data.Rat.Cast.Order
import Mathlib.Tactic.Linarith
import Mathlib.Tactic.Positivity
import Mathlib.Tactic.Ring

namespace BuildConfig

/-- A power with an exponent of either sign, as a quotient of powers with natural exponents. -/
theorem pow_toNat {base : ℚ} (positive : 0 < base) (exponent : ℤ) :
    base ^ exponent.toNat = base ^ exponent * base ^ (-exponent).toNat := by
  rw [← zpow_natCast, ← zpow_natCast, ← zpow_add₀ positive.ne']
  congr 1
  omega

def Decimal.value (d : Decimal) : ℚ :=
  d.coefficient * 10 ^ d.exponent

namespace Binary64

variable {x y : Binary64} {v : ℚ}

/-- A quarter of the last place. -/
def quarter (x : Binary64) : ℚ :=
  2 ^ (x.exponent - 2)

/-- The number that a double stands for, but for its sign. -/
def magnitude (x : Binary64) : ℚ :=
  4 * x.significand * x.quarter

/-- The numbers that round to a positive double. The bounds themselves do so when the significand is even. -/
def Covers (x : Binary64) (v : ℚ) : Prop :=
  if x.significand % 2 = 0 then x.roundingBounds.1 * x.quarter ≤ v ∧ v ≤ x.roundingBounds.2 * x.quarter
  else x.roundingBounds.1 * x.quarter < v ∧ v < x.roundingBounds.2 * x.quarter

section Scale

/-- What both sides of a comparison are multiplied by to make them integers. -/
def commonFactor (x : Binary64) (d : Decimal) : ℚ :=
  10 ^ (-d.exponent).toNat * 2 ^ (-(x.exponent - 2)).toNat

variable (x : Binary64) (d : Decimal) (quarters other : Nat)

theorem commonFactor_pos : 0 < x.commonFactor d := by
  unfold commonFactor
  positivity

theorem commonScale_fst : ((x.commonScale d quarters).1 : ℚ) = d.value * x.commonFactor d := by
  have tens := pow_toNat (by norm_num : (0 : ℚ) < 10) d.exponent
  simp only [commonScale, Nat.pow_eq, Nat.cast_mul, Nat.cast_pow, Nat.cast_ofNat, tens, Decimal.value, commonFactor]
  ring

theorem commonScale_snd : ((x.commonScale d quarters).2 : ℚ) = quarters * x.quarter * x.commonFactor d := by
  have twos := pow_toNat (by norm_num : (0 : ℚ) < 2) (x.exponent - 2)
  simp only [commonScale, Nat.pow_eq, Nat.cast_mul, Nat.cast_pow, Nat.cast_ofNat, twos, quarter, commonFactor]
  ring

theorem commonScale_le_iff : (x.commonScale d quarters).1 ≤ (x.commonScale d quarters).2 ↔
    d.value ≤ quarters * x.quarter := by
  rw [← Nat.cast_le (α := ℚ), commonScale_fst, commonScale_snd, mul_le_mul_iff_left₀ (x.commonFactor_pos d)]

theorem commonScale_ge_iff : (x.commonScale d quarters).2 ≤ (x.commonScale d quarters).1 ↔
    quarters * x.quarter ≤ d.value := by
  rw [← Nat.cast_le (α := ℚ), commonScale_fst, commonScale_snd, mul_le_mul_iff_left₀ (x.commonFactor_pos d)]

theorem readsBack_eq : x.readsBack d =
    let lower := x.commonScale d x.roundingBounds.1
    let upper := x.commonScale d x.roundingBounds.2
    if x.significand % 2 = 0 then decide (lower.2 ≤ lower.1) && decide (upper.1 ≤ upper.2)
    else decide (lower.2 < lower.1) && decide (upper.1 < upper.2) := rfl

/-- Reading back, which compares integers, is decided by the value of the decimal. -/
theorem readsBack_iff : x.readsBack d = true ↔ x.Covers d.value := by
  rw [readsBack_eq, Covers]
  dsimp only
  split
  · simp only [Bool.and_eq_true, decide_eq_true_eq, commonScale_le_iff, commonScale_ge_iff]
  · simp only [Bool.and_eq_true, decide_eq_true_eq, ← not_le, commonScale_le_iff, commonScale_ge_iff]

end Scale

theorem quarter_pos (x : Binary64) : 0 < x.quarter :=
  zpow_pos (by norm_num) _

theorem four_mul_quarter (x : Binary64) : 4 * x.quarter = 2 ^ x.exponent := by
  rw [quarter, zpow_sub₀ (by norm_num)]
  ring

/-- The lower bound is nearer where the neighbour below has half the last place. -/
theorem roundingBounds_cases (x : Binary64) :
    (x.roundingBounds = (4 * x.significand - 1, 4 * x.significand + 2) ∧ x.significand = 2 ^ 52) ∨
      (x.roundingBounds = (4 * x.significand - 2, 4 * x.significand + 2) ∧
        (x.significand = 2 ^ 52 → x.exponent = -1074)) := by
  unfold roundingBounds
  split
  · rename_i edge
    exact Or.inl ⟨rfl, edge.1⟩
  · rename_i inner
    exact Or.inr ⟨rfl, fun power => Classical.byContradiction fun normal => inner ⟨power, normal⟩⟩

theorem roundingBounds_snd (x : Binary64) : x.roundingBounds.2 = 4 * x.significand + 2 := rfl

theorem Covers.bounds (covers : x.Covers v) :
    x.roundingBounds.1 * x.quarter ≤ v ∧ v ≤ x.roundingBounds.2 * x.quarter := by
  unfold Covers at covers
  split at covers
  · exact covers
  · exact ⟨covers.1.le, covers.2.le⟩

theorem Covers.open_of_odd (covers : x.Covers v) (odd : x.significand % 2 = 1) :
    x.roundingBounds.1 * x.quarter < v ∧ v < x.roundingBounds.2 * x.quarter := by
  rwa [Covers, if_neg (by omega)] at covers

theorem covers_of_bounds (above : x.roundingBounds.1 * x.quarter < v) (below : v < x.roundingBounds.2 * x.quarter) :
    x.Covers v := by
  unfold Covers
  split
  · exact ⟨above.le, below.le⟩
  · exact ⟨above, below⟩

/-- The numbers that round to a double have no gap. -/
theorem Covers.between {low high : ℚ} (coversLow : x.Covers low) (coversHigh : x.Covers high) (above : low ≤ v)
    (below : v ≤ high) : x.Covers v := by
  unfold Covers at *
  split at coversLow
  · rename_i even
    rw [if_pos even] at coversHigh ⊢
    exact ⟨coversLow.1.trans above, below.trans coversHigh.2⟩
  · rename_i odd
    rw [if_neg odd] at coversHigh ⊢
    exact ⟨coversLow.1.trans_le above, below.trans_lt coversHigh.2⟩

theorem covers_magnitude (positive : 0 < x.significand) : x.Covers x.magnitude := by
  have low : x.roundingBounds.1 < 4 * x.significand := by
    rcases x.roundingBounds_cases with ⟨bounds, _⟩ | ⟨bounds, _⟩ <;> rw [bounds] <;> dsimp only <;> omega
  have high : 4 * x.significand < x.roundingBounds.2 := by
    rw [roundingBounds_snd]
    omega
  have low : (x.roundingBounds.1 : ℚ) < 4 * x.significand := by exact_mod_cast low
  have high : (4 * x.significand : ℚ) < x.roundingBounds.2 := by exact_mod_cast high
  exact covers_of_bounds (mul_lt_mul_of_pos_right low x.quarter_pos) (mul_lt_mul_of_pos_right high x.quarter_pos)

theorem Covers.pos (covers : x.Covers v) (positive : 0 < x.significand) : 0 < v := by
  have low : 0 < x.roundingBounds.1 := by
    rcases x.roundingBounds_cases with ⟨bounds, _⟩ | ⟨bounds, _⟩ <;> rw [bounds] <;> dsimp only <;> omega
  exact (mul_pos (Nat.cast_pos.mpr low) x.quarter_pos).trans_le covers.bounds.1

/-- Of two doubles with one exponent the numbers that round to the smaller one are smaller, but perhaps for a bound that
both share. An odd significand leaves it to the other one. -/
theorem not_covers_of_significand_lt (same : x.exponent = y.exponent) (less : x.significand < y.significand)
    (covers : x.Covers v) : ¬y.Covers v := by
  intro other
  have unit : y.quarter = x.quarter := by rw [quarter, quarter, same]
  have high := x.roundingBounds_snd
  have low : 4 * y.significand - 2 ≤ y.roundingBounds.1 := by
    rcases y.roundingBounds_cases with ⟨bounds, _⟩ | ⟨bounds, _⟩ <;> rw [bounds]
    dsimp only
    omega
  have meet := other.bounds.1.trans covers.bounds.2
  rw [unit, mul_le_mul_iff_left₀ x.quarter_pos, Nat.cast_le] at meet
  have apart : y.roundingBounds.1 < x.roundingBounds.2 := by
    rw [← Nat.cast_lt (α := ℚ), ← mul_lt_mul_iff_left₀ x.quarter_pos, ← unit]
    rcases Nat.mod_two_eq_zero_or_one x.significand with even | odd
    · have odd : y.significand % 2 = 1 := by omega
      have above := covers.bounds.2
      rw [← unit] at above
      exact (other.open_of_odd odd).1.trans_le above
    · have above := (covers.open_of_odd odd).2
      rw [← unit] at above
      exact other.bounds.1.trans_lt above
  omega

/-- Of two doubles with different exponents the numbers that round to the one with the lower exponent are smaller. -/
theorem not_covers_of_exponent_lt (less : x.exponent < y.exponent) (covers : x.Covers v) : ¬y.Covers v := by
  intro other
  obtain ⟨small, subnormal, _, _⟩ := x.canonical
  obtain ⟨_, _, _, full⟩ := y.canonical
  have wide : 2 * x.quarter ≤ y.quarter := by
    rw [quarter, quarter, ← zpow_one_add₀ (by norm_num)]
    exact zpow_le_zpow_right₀ (by norm_num) (by omega)
  have high := x.roundingBounds_snd
  have low : 2 ^ 54 - 1 ≤ y.roundingBounds.1 := by
    have normal : ¬y.significand < 2 ^ 52 := fun few => by
      have lowest := full few
      omega
    rcases y.roundingBounds_cases with ⟨bounds, _⟩ | ⟨bounds, lowest⟩ <;> rw [bounds] <;> dsimp only
    · omega
    · have inner : y.significand ≠ 2 ^ 52 := fun power => by
        have bottom := lowest power
        omega
      omega
  -- the numbers of the lower double end where those of the upper one begin, in quarters of the smaller last place
  have meet : y.roundingBounds.1 * (2 * x.quarter) ≤ v :=
    (mul_le_mul_of_nonneg_left wide (Nat.cast_nonneg _)).trans other.bounds.1
  have reach : 2 * y.roundingBounds.1 ≤ x.roundingBounds.2 := by
    have bound := meet.trans covers.bounds.2
    rw [← mul_assoc, mul_le_mul_iff_left₀ x.quarter_pos] at bound
    have bound : ((y.roundingBounds.1 * 2 : Nat) : ℚ) ≤ x.roundingBounds.2 := by exact_mod_cast bound
    rw [Nat.cast_le] at bound
    omega
  have odd : x.significand % 2 = 1 := by
    rw [Nat.pow_eq] at small
    omega
  have apart := meet.trans_lt (covers.open_of_odd odd).2
  rw [← mul_assoc, mul_lt_mul_iff_left₀ x.quarter_pos] at apart
  have apart : ((y.roundingBounds.1 * 2 : Nat) : ℚ) < x.roundingBounds.2 := by exact_mod_cast apart
  rw [Nat.cast_lt] at apart
  rw [Nat.pow_eq] at small
  omega

/-- No number rounds to two doubles of one sign. -/
theorem eq_of_covers (sign : x.negative = y.negative) (covers : x.Covers v) (other : y.Covers v) : x = y := by
  have exponents : x.exponent = y.exponent := by
    rcases lt_trichotomy x.exponent y.exponent with less | same | more
    · exact absurd other (not_covers_of_exponent_lt less covers)
    · exact same
    · exact absurd covers (not_covers_of_exponent_lt more other)
  have significands : x.significand = y.significand := by
    rcases lt_trichotomy x.significand y.significand with less | same | more
    · exact absurd other (not_covers_of_significand_lt exponents less covers)
    · exact same
    · exact absurd covers (not_covers_of_significand_lt exponents.symm more other)
  cases x
  cases y
  simp_all

/-- There are two zeros, one of each sign. -/
theorem eq_of_zero (sign : x.negative = y.negative) (zero : x.significand = 0) (other : y.significand = 0) : x = y := by
  have exponent : x.exponent = -1074 := x.canonical.2.2.2 (by rw [zero]; decide)
  have otherExponent : y.exponent = -1074 := y.canonical.2.2.2 (by rw [other]; decide)
  cases x
  cases y
  simp_all

end Binary64

end BuildConfig
