import RestQuery.Proofs.Number.Nearest

/-!
# Shortest decimals round to what they are the shortest of

The search for the shortest decimal of a magnitude tests its candidates, and
falls back to the exact value, so what it finds rounds to the magnitude. A
decimal that rounds to a magnitude has it as its nearest floating-point number;
it is neither zero nor so small that it would not be computed.
-/

namespace RestQuery
namespace Number

namespace Decimal

variable {n : Nat}

/-- A value lies in the interval around itself. -/
theorem contains_self
    {den : Nat}
    (representable : binary64.Representable n)
    (nonzero : n ≠ 0)
    (positive : 0 < den) :
    (binary64.basin n).contains (n * den) den = true := by
  have reaches : power 2 (binary64.lastPlace n) ≤ n :=
    Nat.le_of_dvd (Nat.pos_of_ne_zero nonzero) representable.2
  have someStep : 0 < power 2 (binary64.lastPlace n) * den :=
    Nat.mul_pos (power_pos (by decide) _) positive
  have someReach : 0 < binary64.reach n * den := by
    refine Nat.mul_pos ?_ positive
    have : 0 < power 2 (binary64.lastPlace n) := power_pos (by decide) _
    rw [Format.reach]
    split <;> omega
  rw [Format.contains_basin_iff reaches]
  omega

/-- The exact value of a magnitude is a decimal that rounds to it. The number of
its places stays a variable, so that no power of them is computed. -/
theorem roundsTo_exact
    (representable : binary64.Representable n)
    (nonzero : n ≠ 0)
    {places : Nat}
    (one_eq : Binary64.one = power 2 places) :
    Decimal.roundsTo ⟨n * power 5 places, -places⟩ n = true := by
  have units : Decimal.units ⟨n * power 5 places, -places⟩ =
      (n * power 5 places * Binary64.one, power 10 places) := by
    have noPlaces : (-(places : Int)).toNat = 0 := by omega
    rw [Decimal.units, Binary64.decimalUnits, noPlaces, Int.neg_neg, Int.toNat_natCast]
    simp [power]
  have den : power 10 places = power 5 places * power 2 places := Nat.mul_pow 5 2 places
  rw [roundsTo, units, Nat.mul_assoc, one_eq, ← den]
  exact contains_self representable nonzero (power_pos (by decide) _)

/-- Of two candidates the one that is taken passes the test. -/
theorem passes_of_eq_some
    {passes : Decimal → Bool}
    {first second decimal : Decimal}
    (found :
      (if passes first then some first else if passes second then some second else none) =
        some decimal) :
    passes decimal = true := by
  split at found
  · cases found
    assumption
  · split at found
    · cases found
      assumption
    · cases found

theorem roundsTo_of_shortestAt?
    {tie : Tie}
    {exponent : Int}
    {decimal : Decimal}
    (found : shortestAt? tie n exponent = some decimal) :
    decimal.roundsTo n = true :=
  @passes_of_eq_some (roundsTo · n) _ _ _ found

/-- The shortest decimal of a magnitude rounds to it. -/
theorem roundsTo_shortest
    (tie : Tie)
    (representable : binary64.Representable n)
    (nonzero : n ≠ 0) :
    (shortest tie n).roundsTo n = true := by
  rw [shortest]
  cases search : (List.range 24).findSome? fun i : Nat =>
      shortestAt? tie n (topExponent n - i) with
  | none => exact roundsTo_exact representable nonzero rfl
  | some decimal =>
      obtain ⟨i, -, found⟩ := List.exists_of_findSome?_eq_some search
      exact roundsTo_of_shortestAt? found

/-- A decimal that rounds to a magnitude is at least half of it. -/
theorem le_of_roundsTo
    {decimal : Decimal}
    (representable : binary64.Representable n)
    (nonzero : n ≠ 0)
    (rounds : decimal.roundsTo n = true) :
    n * decimal.units.2 ≤ 2 * decimal.units.1 := by
  have reaches : power 2 (binary64.lastPlace n) ≤ n :=
    Nat.le_of_dvd (Nat.pos_of_ne_zero nonzero) representable.2
  obtain ⟨⟨lower, -⟩, -⟩ := (Format.contains_basin_iff reaches).mp rounds
  have reach := Nat.mul_le_mul_right decimal.units.2 (binary64.reach_le n)
  have step := Nat.mul_le_mul_right decimal.units.2 reaches
  rw [Nat.mul_assoc] at reach
  omega

theorem digits_ne_zero_of_roundsTo
    {decimal : Decimal}
    (representable : binary64.Representable n)
    (nonzero : n ≠ 0)
    (rounds : decimal.roundsTo n = true) :
    decimal.digits ≠ 0 := by
  intro zero
  have le := le_of_roundsTo representable nonzero rounds
  have noUnits : decimal.units.1 = 0 := by
    rw [units, Binary64.decimalUnits, zero, Nat.zero_mul, Nat.zero_mul]
  have positive : 0 < n * decimal.units.2 :=
    Nat.mul_pos (Nat.pos_of_ne_zero nonzero) (power_pos (by decide) _)
  omega

theorem power_two_le_power_ten (places : Nat) : power 2 (3 * places) ≤ power 10 places := by
  calc power 2 (3 * places) = power (power 2 3) places := Nat.pow_mul 2 3 places
    _ ≤ power 10 places := Nat.pow_le_pow_left (by decide) places

/-- The fewer units a decimal has in its last place, the more digits it needs to
reach a unit at all. -/
theorem places_le_log2_digits
    {digits places least : Nat}
    (reaches : power 10 places ≤ digits * power 2 least)
    (deep : least ≤ 3 * places) :
    3 * places - least ≤ digits.log2 := by
  have split : power 2 (3 * places) = power 2 (3 * places - least) * power 2 least := by
    rw [← power_add, Nat.sub_add_cancel deep]
  have cancelled : power 2 (3 * places - least) ≤ digits := by
    refine Nat.le_of_mul_le_mul_right ?_ (power_pos (by decide) least : 0 < power 2 least)
    rw [← split]
    exact Nat.le_trans (power_two_le_power_ten places) reaches
  have nonzero : digits ≠ 0 := by
    have : 0 < power 2 (3 * places - least) := power_pos (by decide) _
    omega
  exact (Nat.le_log2 nonzero).mpr cancelled

/-- A decimal that rounds to a magnitude is not so small that it would not be
computed. -/
theorem bound_le_of_roundsTo
    {decimal : Decimal}
    (representable : binary64.Representable n)
    (nonzero : n ≠ 0)
    (rounds : decimal.roundsTo n = true) :
    -(Binary64.placeBound : Int) ≤ decimal.exponent + decimal.digits.log2 := by
  by_cases shallow : -(Binary64.placeBound : Int) ≤ decimal.exponent
  · omega
  · generalize isPlaces : (-decimal.exponent).toNat = places
    have noZeros : decimal.exponent.toNat = 0 := by omega
    have le := le_of_roundsTo representable nonzero rounds
    rw [units, Binary64.decimalUnits, noZeros, isPlaces] at le
    have reaches : power 10 places ≤ decimal.digits * power 2 (Binary64.unitExponent + 1) := by
      rw [Format.power_succ]
      calc power 10 places = 1 * power 10 places := (Nat.one_mul _).symm
        _ ≤ n * power 10 places := Nat.mul_le_mul_right _ (Nat.pos_of_ne_zero nonzero)
        _ ≤ 2 * (decimal.digits * 1 * Binary64.one) := le
        _ = decimal.digits * (2 * power 2 Binary64.unitExponent) := by
          rw [Nat.mul_one, Nat.mul_left_comm, Binary64.one]
    have unitExponent : Binary64.unitExponent = 1074 := rfl
    have placeBound : Binary64.placeBound = 400 := rfl
    have log2 := places_le_log2_digits reaches (by omega)
    omega

end Decimal

/-- A decimal that rounds to a magnitude is read as it. -/
theorem Binary64.ofDecimal_of_roundsTo
    {n : Nat}
    {decimal : Decimal}
    (representable : binary64.Representable n)
    (nonzero : n ≠ 0)
    (rounds : decimal.roundsTo n = true)
    (small : decimal.exponent ≤ placeBound)
    (negative : Bool) :
    ofDecimal negative decimal.digits decimal.exponent = .finite negative n representable := by
  have notZero := Decimal.digits_ne_zero_of_roundsTo representable nonzero rounds
  have notTiny := Decimal.bound_le_of_roundsTo representable nonzero rounds
  have nearest : binary64.nearest (decimalUnits decimal.digits decimal.exponent).1
      (power 10 (-decimal.exponent).toNat) = n :=
    Format.nearest_of_contains (by decide) representable nonzero (power_pos (by decide) _) rounds
  rw [ofDecimal, if_neg notZero, if_neg (by omega), if_neg (by omega), ofUnits]
  simp only [nearest]
  exact dif_pos representable.1

end Number
end RestQuery
