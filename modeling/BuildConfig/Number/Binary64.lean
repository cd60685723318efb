namespace BuildConfig

/-- A finite double, held exactly: `significand * 2 ^ exponent`, negated when `negative`. The bounds
leave each finite double one form, so equal fields and equal doubles are the same thing, the two
zeros included. -/
structure Binary64 where
  negative : Bool
  significand : Nat
  exponent : Int
  canonical : significand < Nat.pow 2 53 ∧ -1074 ≤ exponent ∧ exponent ≤ 971 ∧
    (significand < Nat.pow 2 52 → exponent = -1074)
  deriving DecidableEq

/-- The quotient rounded to the nearest integer, a half to the even neighbour. -/
def roundHalfEven (numerator denominator : Nat) : Nat :=
  let quotient := numerator / denominator
  let twice := 2 * (numerator % denominator)
  if twice < denominator then quotient
  else if denominator < twice then quotient + 1
  else quotient + quotient % 2

/-- The number of decimal digits; zero has one. -/
def decimalLength (n : Nat) : Nat :=
  (Nat.toDigits 10 n).length

namespace Binary64

/-- `none` when the fields are no finite double in canonical form. -/
def ofFields? (negative : Bool) (significand : Nat) (exponent : Int) : Option Binary64 :=
  if canonical : significand < Nat.pow 2 53 ∧ -1074 ≤ exponent ∧ exponent ≤ 971 ∧
      (significand < Nat.pow 2 52 → exponent = -1074) then
    some ⟨negative, significand, exponent, canonical⟩
  else none

def zero (negative : Bool) : Binary64 :=
  ⟨negative, 0, -1074, by decide⟩

def isZero (x : Binary64) : Bool :=
  x.significand == 0

/-- The double nearest to a positive quotient, ties to the even significand, or `none` when that is
out of range. -/
def ofQuotient? (negative : Bool) (numerator denominator : Nat) : Option Binary64 :=
  let magnitude : Int := (numerator.log2 : Int) - denominator.log2
  let atLeast : Bool :=
    denominator * Nat.pow 2 magnitude.toNat ≤ numerator * Nat.pow 2 (-magnitude).toNat
  let exponent : Int := max (if atLeast then magnitude - 52 else magnitude - 53) (-1074)
  let significand :=
    roundHalfEven (numerator * Nat.pow 2 (-exponent).toNat) (denominator * Nat.pow 2 exponent.toNat)
  if significand = Nat.pow 2 53 then ofFields? negative (Nat.pow 2 52) (exponent + 1)
  else ofFields? negative significand exponent

/-- The double nearest to `coefficient * 10 ^ exponent`. Magnitudes far out of range are settled by
their decimal length, before any power of ten is formed. -/
def ofDecimal? (negative : Bool) (coefficient : Nat) (exponent : Int) : Option Binary64 :=
  if coefficient = 0 then some (zero negative)
  else
    let magnitude : Int := decimalLength coefficient + exponent
    if 310 < magnitude then none
    else if magnitude < -330 then some (zero negative)
    else ofQuotient? negative (coefficient * Nat.pow 10 exponent.toNat) (Nat.pow 10 (-exponent).toNat)

/-- The double nearest to a quotient, or `none` when that is out of range. -/
def nearest? (negative : Bool) (numerator denominator : Nat) : Option Binary64 :=
  if numerator = 0 then some (zero negative) else ofQuotient? negative numerator denominator

/-- The magnitude of a double as a quotient of integers. -/
def quotient (x : Binary64) : Nat × Nat :=
  (x.significand * Nat.pow 2 x.exponent.toNat, Nat.pow 2 (-x.exponent).toNat)

/-- The rounded product, or `none` when that is out of range. -/
def mul? (x y : Binary64) : Option Binary64 :=
  let (a, b) := x.quotient
  let (c, d) := y.quotient
  nearest? (x.negative != y.negative) (a * c) (b * d)

/-- The rounded quotient by a double other than zero, or `none` when that is out of range. -/
def div? (x y : Binary64) : Option Binary64 :=
  let (a, b) := x.quotient
  let (c, d) := y.quotient
  nearest? (x.negative != y.negative) (a * d) (b * c)

/-- The double nearest to a power of ten; the last one in range is the 308th. -/
def tenTo? (power : Nat) : Option Binary64 :=
  ofDecimal? false 1 power

/-- Divides by `10 ^ 308` a number of times, and then by a last power of ten. -/
def divTens? (x : Binary64) (last : Nat) : Nat → Option Binary64
  | 0 => (tenTo? last).bind x.div?
  | parts + 1 =>
    if x.isZero then some x
    else ((tenTo? 308).bind x.div?).bind fun x => x.divTens? last parts

/-- Scales by a power of ten. Every power that is used is rounded, and so is every product, so the
result need not be the double that is nearest to the exact product. -/
def scaleTens? (x : Binary64) (exponent : Int) : Option Binary64 :=
  if x.isZero then some x
  else if 0 ≤ exponent then (tenTo? exponent.toNat).bind x.mul?
  else x.divTens? ((exponent.natAbs - 1) % 308 + 1) ((exponent.natAbs - 1) / 308)

/-- Doubles compare by value, so the two zeros are equal. -/
def sameValue (x y : Binary64) : Bool :=
  x == y || (x.isZero && y.isZero)

end Binary64

end BuildConfig
