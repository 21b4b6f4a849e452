/-!
# Powers

Powers of natural numbers, by the primitive that computes them, so that what is
said of them does not depend on the algebra in scope.
-/

namespace RestQuery
namespace Number

/-- A natural number to the power of another. -/
def power (base exponent : Nat) : Nat := Nat.pow base exponent

theorem power_pos
    {base : Nat}
    (positive : 0 < base)
    (exponent : Nat) :
    0 < power base exponent :=
  Nat.pow_pos positive

/-- The power to a sum is the product of the powers. -/
theorem power_add (base m n : Nat) :
    power base (m + n) = power base m * power base n :=
  Nat.pow_add base m n

theorem power_le_power
    {base m n : Nat}
    (positive : 0 < base)
    (le : m ≤ n) :
    power base m ≤ power base n :=
  Nat.pow_le_pow_right positive le

theorem power_lt_power
    {base m n : Nat}
    (large : 1 < base)
    (lt : m < n) :
    power base m < power base n :=
  Nat.pow_lt_pow_right large lt

theorem power_dvd_power
    {m n : Nat}
    (base : Nat)
    (le : m ≤ n) :
    power base m ∣ power base n :=
  Nat.pow_dvd_pow base le

/-- A number is below the power of two behind its leading digit. -/
theorem lt_power_log2_succ (n : Nat) : n < power 2 (n.log2 + 1) := Nat.lt_log2_self

/-- The leading binary digit stands left of a place exactly when the number
reaches the power of two there. -/
theorem log2_lt_of_lt_power
    {n place : Nat}
    (nonzero : n ≠ 0)
    (small : n < power 2 place) :
    n.log2 < place :=
  (Nat.log2_lt nonzero).mpr small

end Number
end RestQuery
