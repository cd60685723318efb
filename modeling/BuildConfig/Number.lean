import BuildConfig.Number.Shortest
import BuildConfig.Text.Digits

namespace BuildConfig

/-- A number of a configuration: an exact integer or a double. The two never compare equal. -/
inductive Number where
  | int (value : Int)
  | float (value : Binary64)
  deriving DecidableEq

/-- A decimal numeral by the parts of its text: the digits before and after the point, and the power
of ten behind its letter. -/
structure Numeral where
  negative : Bool
  whole : List Char
  fraction : List Char
  power : Option Int

/-- Appends decimal digits to a number for as long as a 64-bit word holds it: the number, and the
digits there was no room for. -/
def appendDigits (value : Nat) : List Char → Nat × List Char
  | [] => (value, [])
  | digit :: rest =>
    let next := 10 * value + Text.digitValue digit
    if next < Nat.pow 2 64 then appendDigits next rest else (value, digit :: rest)

namespace Numeral

/-- All digits, as a number. -/
def coefficient (n : Numeral) : Nat :=
  Text.digitsValue 10 (n.whole ++ n.fraction)

/-- There is neither a point nor a power of ten. -/
def integral (n : Numeral) : Bool :=
  n.fraction.isEmpty && n.power.isNone

/-- The double that a numeral is read as. Digits count as far as a 64-bit word holds them, and the
rounded word is then scaled; the outcome can be a neighbour of the nearest double. -/
def double? (n : Numeral) : Option Binary64 :=
  let (start, dropped) := appendDigits 0 n.whole
  let (significand, ignored) := appendDigits start n.fraction
  let exponent : Int := n.power.getD 0 + dropped.length + ignored.length - n.fraction.length
  (Binary64.nearest? n.negative significand 1).bind fun word => word.scaleTens? exponent

end Numeral

namespace Number

def sameValue : Number → Number → Bool
  | .int a, .int b => a == b
  | .float a, .float b => a.sameValue b
  | _, _ => false

/-- Digits with the point after `place` of them. -/
def positional (digits : String) (place : Int) : String :=
  let written := digits.toList
  if place ≤ 0 then
    "0." ++ String.ofList (List.replicate (-place).toNat '0') ++ digits
  else if place.toNat < written.length then
    String.ofList (written.take place.toNat) ++ "." ++ String.ofList (written.drop place.toNat)
  else
    digits ++ String.ofList (List.replicate (place.toNat - written.length) '0') ++ ".0"

/-- Digits with the point after the first, and the power of ten with its sign. -/
def scientific (digits : String) (power : Int) : String :=
  let mantissa := match digits.toList with
    | first :: second :: rest => String.ofList (first :: '.' :: second :: rest)
    | short => String.ofList short
  mantissa ++ (if power < 0 then "e-" else "e+") ++ toString power.natAbs

/-- The fewest digits that read back, always with a point or an exponent: positional from `1e-5` up
to, but not including, `1e16`, and scientific elsewhere. -/
def floatText (x : Binary64) : String :=
  let sign := if x.negative then "-" else ""
  if x.isZero then sign ++ "0.0"
  else
    let d := x.shortest
    let digits := toString d.coefficient
    let place : Int := digits.length + d.exponent
    sign ++ (if -5 < place ∧ place ≤ 16 then positional digits place
      else scientific digits (place - 1))

def text : Number → String
  | .int value => toString value
  | .float value => floatText value

/-- An integral numeral that fits a 64-bit word, signed or not, is an integer; every other one is a
double, and `-0` the negative zero. `none` stands for a magnitude out of range. -/
def ofNumeral? (n : Numeral) : Option Number :=
  if n.integral && !n.negative && n.coefficient < Nat.pow 2 64 then some (.int n.coefficient)
  else if n.integral && n.negative && n.coefficient != 0 && n.coefficient ≤ Nat.pow 2 63 then
    some (.int (-n.coefficient))
  else n.double?.map .float

end Number

end BuildConfig
