import RestQuery.Number.Binary64

/-!
# Shortest decimals

The decimal with the fewest digits among those that round to a given magnitude,
and the one nearest to it among those. The numbers that round to a magnitude
form an interval, whose ends belong to it exactly when the last binary digit is
even; the search goes from coarse to fine powers of ten and tests the two
multiples next to the magnitude in exact arithmetic.
-/

namespace RestQuery
namespace Number

/-- The decimal number `digits * 10 ^ exponent`. -/
structure Decimal where
  digits : Nat
  exponent : Int
  deriving DecidableEq

/-- Which of two equally near decimals is taken: the larger one, or the one
whose last digit is even. -/
inductive Tie
  | up
  | even
  deriving DecidableEq

/-- The numbers that round to one magnitude: an interval given by its ends in
quarters of a unit, with or without both of them. -/
structure Basin where
  lower : Nat
  upper : Nat
  closed : Bool

namespace Format

/-- The interval reaches half a last place up and down; below a power of two
the places are half as wide. -/
def basin (format : Format) (n : Nat) : Basin :=
  let gap := power 2 (format.lastPlace n)
  let narrow := format.least < format.lastPlace n && n == power 2 n.log2
  { lower := 4 * n - (if narrow then gap else 2 * gap)
    upper := 4 * n + 2 * gap
    closed := n / gap % 2 == 0 }

end Format

namespace Basin

/-- A quotient of units lies in the interval. -/
def contains (basin : Basin) (num den : Nat) : Bool :=
  if basin.closed then basin.lower * den ≤ 4 * num && 4 * num ≤ basin.upper * den
  else basin.lower * den < 4 * num && 4 * num < basin.upper * den

end Basin

namespace Decimal

/-- The decimal as a quotient of units. -/
def units (decimal : Decimal) : Nat × Nat :=
  Binary64.decimalUnits decimal.digits decimal.exponent

/-- The decimal rounds to `n` units. -/
def roundsTo (decimal : Decimal) (n : Nat) : Bool :=
  (binary64.basin n).contains decimal.units.1 decimal.units.2

/-- Of the two multiples of `10 ^ exponent` next to `n` units, the nearer one
that rounds to it. -/
def shortestAt?
    (tie : Tie)
    (n : Nat)
    (exponent : Int) :
    Option Decimal :=
  let num := n * power 10 (-exponent).toNat
  let den := power 10 exponent.toNat * Binary64.one
  let below : Decimal := ⟨num / den, exponent⟩
  let above : Decimal := ⟨num / den + 1, exponent⟩
  let belowFirst :=
    if 2 * (num % den) == den then tie == .even && num / den % 2 == 0
    else 2 * (num % den) < den
  let (first, second) := if belowFirst then (below, above) else (above, below)
  if first.roundsTo n then some first
  else if second.roundsTo n then some second
  else none

/-- A power of ten above `n` units has this exponent or a smaller one. -/
def topExponent (n : Nat) : Int :=
  Int.fdiv (((n.log2 : Int) - 1073) * 30103) 100000 + 1

/-- The decimal with the fewest digits that rounds to `n` units. Were none
found among the powers of ten that can be the coarsest, the exact value would
be taken. -/
def shortest (tie : Tie) (n : Nat) : Decimal :=
  ((List.range 24).findSome? fun i : Nat => shortestAt? tie n (topExponent n - i)).getD
    ⟨n * power 5 Binary64.unitExponent, -Binary64.unitExponent⟩

end Decimal

end Number
end RestQuery
