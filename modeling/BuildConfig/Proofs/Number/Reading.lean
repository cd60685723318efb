import BuildConfig.Proofs.Number.Nearest
import BuildConfig.Proofs.Number.Text

namespace BuildConfig

section Room

variable {digits : List Char} {value : Nat}

theorem le_appended (value : Nat) (digits : List Char) :
    value ≤ digits.foldl (fun n c => 10 * n + Text.digitValue c) value := by
  induction digits generalizing value with
  | nil => exact Nat.le_refl _
  | cons digit rest ih =>
    have later := ih (10 * value + Text.digitValue digit)
    rw [List.foldl_cons]
    omega

/-- Where a word has room for all digits, none are left over. -/
theorem appendDigits_of_lt (room : digits.foldl (fun n c => 10 * n + Text.digitValue c) value < 2 ^ 64) :
    appendDigits value digits = (digits.foldl (fun n c => 10 * n + Text.digitValue c) value, []) := by
  induction digits generalizing value with
  | nil => rfl
  | cons digit rest ih =>
    rw [List.foldl_cons] at room
    have fits : 10 * value + Text.digitValue digit < Nat.pow 2 64 := (le_appended _ rest).trans_lt room
    rw [appendDigits, if_pos fits, ih room, List.foldl_cons]

end Room

namespace Binary64

/-- The powers of ten up to the 22nd are doubles, since 53 bits have room for the powers of five. -/
theorem exists_tenTo?_eq {power : Nat} (few : power ≤ 22) :
    ∃ ten, tenTo? power = some ten ∧ ten.negative = false ∧ ten.magnitude = 10 ^ power := by
  have room : 5 ^ power < 2 ^ 53 := (Nat.pow_le_pow_right (by decide) few).trans_lt (by decide)
  obtain ⟨ten, sign, value⟩ := exists_magnitude_eq false (5 ^ power) power room (by omega) (by omega)
  have value : ten.magnitude = 10 ^ power := by
    rw [value, zpow_natCast, Nat.cast_pow, ← mul_pow]
    norm_num
  have rounds := rounds_ofDecimal? false 1 power
  rw [Nat.cast_one, one_mul, zpow_natCast] at rounds
  exact ⟨ten, rounds.eq_of_magnitude sign value, sign, value⟩

/-- Scaling by such a power rounds only once. -/
theorem rounds_scaleTens? (x : Binary64) {exponent : Int} (few : exponent.natAbs ≤ 22) :
    Rounds x.negative (x.magnitude * 10 ^ exponent) (x.scaleTens? exponent) := by
  unfold scaleTens?
  split
  · rename_i nothing
    have nothing : x.significand = 0 := by simpa [isZero] using nothing
    have same : x = zero x.negative := eq_of_zero rfl nothing rfl
    rw [magnitude_eq, nothing, Nat.cast_zero, zero_mul, zero_mul]
    exact same ▸ rounds_zero x.negative
  · split
    · obtain ⟨ten, found, sign, value⟩ := exists_tenTo?_eq (show exponent.toNat ≤ 22 by omega)
      have rounds := x.rounds_mul? ten
      rw [sign, Bool.bne_false, value, ← zpow_natCast, Int.toNat_of_nonneg ‹_›] at rounds
      rw [found]
      exact rounds
    · obtain ⟨ten, found, sign, value⟩ := exists_tenTo?_eq few
      have some : 0 < ten.significand := by
        refine Nat.pos_of_ne_zero fun nothing => ?_
        rw [magnitude_eq, nothing, Nat.cast_zero, zero_mul] at value
        exact (by positivity : (10 : ℚ) ^ exponent.natAbs ≠ 0) value.symm
      have rounds := x.rounds_div? some
      have below : exponent = -(exponent.natAbs : Int) := by omega
      have last : (exponent.natAbs - 1) % 308 + 1 = exponent.natAbs := by omega
      have parts : (exponent.natAbs - 1) / 308 = 0 := by omega
      rw [sign, Bool.bne_false, value, div_eq_mul_inv, ← zpow_natCast, ← zpow_neg, ← below] at rounds
      rw [last, parts, divTens?, found]
      exact rounds

end Binary64

namespace Numeral

variable {n : Numeral} {x : Binary64}

/-- A numeral of few digits is read digit by digit: all of them, rounded once, and then scaled. -/
theorem double?_of_lt (room : n.coefficient < 2 ^ 64) :
    n.double? = (Binary64.nearest? n.negative n.coefficient 1).bind fun word => word.scaleTens? n.exponent := by
  rw [coefficient, Text.digitsValue, List.foldl_append] at room
  have whole := appendDigits_of_lt ((le_appended _ n.fraction).trans_lt room)
  rw [double?, whole]
  dsimp only
  rw [appendDigits_of_lt room, coefficient, Text.digitsValue, List.foldl_append, exponent]
  simp

/-- A numeral that 53 bits have room for and that has a small exponent is read as the nearest double, although its
digits and the power of ten are rounded one by one. -/
theorem double?_eq_ofDecimal? (room : n.coefficient < 2 ^ 53) (few : n.exponent.natAbs ≤ 22) :
    n.double? = Binary64.ofDecimal? n.negative n.coefficient n.exponent := by
  obtain ⟨word, sign, value⟩ := Binary64.exists_magnitude_eq n.negative n.coefficient 0 room (by decide) (by decide)
  rw [zpow_zero, mul_one] at value
  have digits := Binary64.rounds_nearest? n.negative n.coefficient Nat.one_pos
  rw [Nat.cast_one, div_one] at digits
  have scaled := word.rounds_scaleTens? few
  rw [sign, value] at scaled
  rw [double?_of_lt (room.trans (by decide)), digits.eq_of_magnitude sign value, Option.bind_some]
  exact scaled.eq (Binary64.rounds_ofDecimal? _ _ _)

/-- What denotes a double rounds to it, the zeros included. -/
theorem Denotes.covers (denotes : n.Denotes (.float x)) : x.Covers n.magnitude := by
  obtain ⟨_, _, covers⟩ := denotes
  split at covers
  · rename_i nothing
    have same : x = Binary64.zero x.negative := Binary64.eq_of_zero rfl nothing rfl
    rw [covers, same]
    exact Binary64.covers_zero _ le_rfl (by positivity)
  · exact covers

end Numeral

namespace Number

/-- The text of an integer is read as that integer as long as a 64-bit word, signed or not, has room for it. -/
theorem reads_int {value : Int} (low : -2 ^ 63 ≤ value) (high : value < 2 ^ 64) :
    ∃ numeral, JsonText.readNumeral (int value).text.toList = some (numeral, []) ∧
      ofNumeral? numeral = some (int value) := by
  obtain ⟨numeral, valid, chars, ⟨integral, denotes⟩, sign⟩ := exists_numeral_int value
  refine ⟨numeral, chars ▸ Numeral.readNumeral_chars valid, ?_⟩
  rw [ofNumeral?, integral, sign]
  rcases lt_or_ge value 0 with below | above
  · rw [sign, decide_eq_true below, if_pos rfl] at denotes
    have some : numeral.coefficient ≠ 0 := by omega
    have fits : numeral.coefficient ≤ Nat.pow 2 63 := by
      rw [Nat.pow_eq]
      omega
    simp [some, fits, denotes]
  · rw [sign, decide_eq_false (not_lt.mpr above), if_neg Bool.false_ne_true] at denotes
    have fits : numeral.coefficient < Nat.pow 2 64 := by
      rw [Nat.pow_eq]
      omega
    simp [fits, denotes]

/-- A numeral that denotes a double is read as that double, as long as 53 bits have room for its digits and its exponent
is small. -/
theorem reads_float {n : Numeral} {x : Binary64} (denotes : n.Denotes (float x)) (room : n.coefficient < 2 ^ 53)
    (few : n.exponent.natAbs ≤ 22) : ofNumeral? n = some (float x) := by
  have nearest := Binary64.rounds_ofDecimal? n.negative n.coefficient n.exponent
  rw [ofNumeral?, denotes.1, Numeral.double?_eq_ofDecimal? room few,
    nearest.eq_some_iff.mpr ⟨denotes.2.1.symm, denotes.covers⟩]
  rfl

end Number

end BuildConfig
