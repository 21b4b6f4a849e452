import RestQuery.Number.Rounding

/-!
# Floating-point numbers

Numbers with fifty-three significant bits, as values: not a number, an
infinity, or a sign with a magnitude counted in units of `2 ^ -1074`. They are
read, written and compared, and multiplied or divided once while a JSON number
is read; each of these is exact arithmetic on naturals with one rounding.
-/

namespace RestQuery
namespace Number

/-- A floating-point number. A magnitude is a value of the format, so each
number has one form. -/
inductive Binary64
  | nan
  | infinite (negative : Bool)
  | finite
      (negative : Bool)
      (units : Nat)
      (representable : binary64.Representable units)
  deriving DecidableEq

namespace Binary64

/-- A unit is two to the power of minus this number. -/
def unitExponent : Nat := 1074

/-- The number one counts this many units. -/
def one : Nat := power 2 unitExponent

theorem one_pos : 0 < one := power_pos (by decide) unitExponent

/-- Zero with a sign. -/
def zero (negative : Bool) : Binary64 :=
  .finite negative 0 ⟨power_pos (by decide) _, Nat.dvd_zero _⟩

instance : Inhabited Binary64 := ⟨zero false⟩

/-- The number nearest to a quotient of units, with a sign; infinite beyond the
range. -/
def ofUnits
    (negative : Bool)
    (num den : Nat)
    (positive : 0 < den) :
    Binary64 :=
  if small : binary64.nearest num den < power 2 binary64.limit then
    .finite negative (binary64.nearest num den)
      (Format.representable_nearest (by decide) positive small)
  else .infinite negative

/-- The number nearest to a natural number. -/
def ofNat (negative : Bool) (n : Nat) : Binary64 :=
  ofUnits negative (n * one) 1 Nat.one_pos

/-- The quotient of units that `digits * 10 ^ exponent` is. -/
def decimalUnits (digits : Nat) (exponent : Int) : Nat × Nat :=
  (digits * power 10 exponent.toNat * one, power 10 (-exponent).toNat)

/-- Decimal numbers with more places before the point than this are beyond
every format. -/
def placeBound : Nat := 400

/-- The number nearest to `digits * 10 ^ exponent`. Numbers far beyond the
range, or far below its least positive value, are not computed. -/
def ofDecimal (negative : Bool) (digits : Nat) (exponent : Int) : Binary64 :=
  if digits = 0 then zero negative
  else if placeBound < exponent then .infinite negative
  else if exponent + digits.log2 < -placeBound then zero negative
  else
    ofUnits negative (decimalUnits digits exponent).1 (power 10 (-exponent).toNat)
      (power_pos (by decide) _)

/-- The number, of twenty-four significant bits, nearest to
`digits * 10 ^ exponent`. -/
def ofShortDecimal (negative : Bool) (digits : Nat) (exponent : Int) : Binary64 :=
  if digits = 0 then zero negative
  else if placeBound < exponent then .infinite negative
  else if exponent + digits.log2 < -placeBound then zero negative
  else
    let units :=
      binary32.nearest (decimalUnits digits exponent).1 (power 10 (-exponent).toNat)
    if units < power 2 binary32.limit then ofUnits negative units 1 Nat.one_pos
    else .infinite negative

/-- Numeric equality: not a number differs from itself, and the two zeros are
equal. -/
def sameValue : Binary64 → Binary64 → Bool
  | .infinite m, .infinite n => m == n
  | .finite m a _, .finite n b _ => a == b && (a == 0 || m == n)
  | _, _ => false

instance : BEq Binary64 := ⟨sameValue⟩

/-- The rounded product of two magnitudes, with a sign. -/
def product (negative : Bool) (a b : Nat) : Binary64 :=
  ofUnits negative (a * b) one one_pos

/-- The rounded quotient of two magnitudes, with a sign. -/
def quotient (negative : Bool) (a b : Nat) (positive : 0 < b) : Binary64 :=
  ofUnits negative (a * one) b positive

end Binary64

end Number
end RestQuery
