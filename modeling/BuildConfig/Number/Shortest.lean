import BuildConfig.Number.Binary64

namespace BuildConfig

/-- `coefficient * 10 ^ exponent`. -/
structure Decimal where
  coefficient : Nat
  exponent : Int
  deriving DecidableEq

namespace Binary64

/-- The bounds of the reals that round to a positive double, in units of a quarter of its last
place. Below a power of two the neighbour is half as far away. -/
def roundingBounds (x : Binary64) : Nat × Nat :=
  let below := if x.significand = Nat.pow 2 52 ∧ x.exponent ≠ -1074 then 1 else 2
  (4 * x.significand - below, 4 * x.significand + 2)

/-- Both sides of a comparison of `d` with `quarters` quarters of the double's last place, brought
to integers. -/
def commonScale (x : Binary64) (d : Decimal) (quarters : Nat) : Nat × Nat :=
  let unit := x.exponent - 2
  (d.coefficient * Nat.pow 10 d.exponent.toNat * Nat.pow 2 (-unit).toNat,
    quarters * Nat.pow 10 (-d.exponent).toNat * Nat.pow 2 unit.toNat)

/-- Whether a decimal reads back as the positive double. The bounds themselves do so exactly when
the significand is even. -/
def readsBack (x : Binary64) (d : Decimal) : Bool :=
  let (low, high) := x.roundingBounds
  let (atLow, lower) := x.commonScale d low
  let (atHigh, upper) := x.commonScale d high
  if x.significand % 2 = 0 then lower ≤ atLow && atHigh ≤ upper
  else lower < atLow && atHigh < upper

/-- The place of the decimal point: the positive double lies in `[10 ^ (place - 1), 10 ^ place)`. -/
def decimalPlace (x : Binary64) : Int :=
  let numerator := x.significand * Nat.pow 2 x.exponent.toNat
  let denominator := Nat.pow 2 (-x.exponent).toNat
  if denominator ≤ numerator then decimalLength (numerator / denominator)
  else
    let guess : Nat := decimalLength denominator - decimalLength numerator
    if denominator ≤ numerator * Nat.pow 10 guess then 1 - guess else -guess

/-- The neighbours of the double on the grid of decimals with `length` digits: the nearer one that
reads back, and of two equally near the even one. -/
def nearestOfLength? (x : Binary64) (length : Nat) : Option Decimal :=
  let exponent := x.decimalPlace - length
  let (one, value) := x.commonScale ⟨1, exponent⟩ (4 * x.significand)
  let below : Decimal := ⟨value / one, exponent⟩
  let above : Decimal := ⟨value / one + 1, exponent⟩
  let nearer : Decimal := ⟨roundHalfEven value one, exponent⟩
  if x.readsBack nearer then some nearer
  else if x.readsBack below then some below
  else if x.readsBack above then some above
  else none

/-- The decimal with the fewest digits that reads back as the positive double; seventeen digits
always do. -/
def shortest (x : Binary64) : Decimal :=
  let found := (List.range 17).findSome? fun fewer => x.nearestOfLength? (fewer + 1)
  let d := found.getD ⟨x.significand, x.exponent⟩
  if d.coefficient % 10 = 0 then ⟨1, d.exponent + (decimalLength d.coefficient - 1 : Nat)⟩ else d

end Binary64

end BuildConfig
