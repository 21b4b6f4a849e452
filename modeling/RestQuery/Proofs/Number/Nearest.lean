import RestQuery.Number.Shortest

/-!
# Numbers that round to a given one

The interval around a value of a format, as the search for short decimals
describes it, holds only numbers whose nearest value is the given one. Below a
power of two the values are twice as close to each other, which is the one case
where a number in the interval is rounded at another place than the value.
-/

namespace RestQuery
namespace Number

/-! ## Rounding a quotient -/

/-- A quotient that is within a half of a natural number is rounded to it; at
exactly a half, if the number is even. -/
theorem roundHalfEven_eq
    {num den m : Nat}
    (positive : 0 < den)
    (lower : 2 * (m * den) ≤ 2 * num + den)
    (upper : 2 * num ≤ 2 * (m * den) + den)
    (ties : m % 2 = 0 ∨ 2 * (m * den) < 2 * num + den ∧ 2 * num < 2 * (m * den) + den) :
    roundHalfEven num den = m := by
  have division : num / den * den + num % den = num := Nat.div_add_mod' num den
  have remainder : num % den < den := Nat.mod_lt num positive
  have notBelow : num / den ≤ m := by
    refine Nat.le_of_not_lt fun below => ?_
    have := Nat.mul_le_mul_right den (Nat.succ_le_of_lt below)
    rw [Nat.succ_mul] at this
    omega
  have notAbove : m ≤ num / den + 1 := by
    refine Nat.le_of_not_lt fun above => ?_
    have := Nat.mul_le_mul_right den (Nat.succ_le_of_lt above)
    rw [Nat.succ_mul, Nat.succ_mul] at this
    omega
  rcases Nat.lt_or_eq_of_le notBelow with short | exact
  · have next : num / den + 1 = m := by omega
    have product : m * den = num / den * den + den := by rw [← next, Nat.succ_mul]
    unfold roundHalfEven
    split
    · omega
    · split <;> omega
  · rw [← exact] at lower upper ties
    unfold roundHalfEven
    split
    · exact exact
    · split <;> omega

namespace Format

/-- A quotient of units that is within half a step of a multiple of the step is
rounded to it. -/
theorem nearest_eq
    {format : Format}
    {num den n place m : Nat}
    (positive : 0 < den)
    (isPlace : format.lastPlace (num / den) = place)
    (isMultiple : n = m * power 2 place)
    (lower : 2 * (n * den) ≤ 2 * num + power 2 place * den)
    (upper : 2 * num ≤ 2 * (n * den) + power 2 place * den)
    (ties : m % 2 = 0 ∨
      2 * (n * den) < 2 * num + power 2 place * den ∧
        2 * num < 2 * (n * den) + power 2 place * den) :
    format.nearest num den = n := by
  have product : m * (den * power 2 place) = n * den := by
    rw [isMultiple, Nat.mul_assoc, Nat.mul_comm den]
  have step : den * power 2 place = power 2 place * den := Nat.mul_comm _ _
  have rounded : roundHalfEven num (den * power 2 place) = m := by
    refine roundHalfEven_eq (Nat.mul_pos positive (power_pos (by decide) _)) ?_ ?_ ?_
    · rwa [product, step]
    · rwa [product, step]
    · rwa [product, step]
  rw [nearest]
  simp only [isPlace, rounded]
  exact isMultiple.symm

/-! ## Places -/

theorem log2_eq
    {n place : Nat}
    (lower : power 2 place ≤ n)
    (upper : n < power 2 (place + 1)) :
    n.log2 = place := by
  have nonzero : n ≠ 0 := by
    have : 0 < power 2 place := power_pos (by decide) place
    omega
  exact (Nat.log2_eq_iff nonzero).mpr ⟨lower, upper⟩

theorem power_log2_le {n : Nat} (nonzero : n ≠ 0) : power 2 n.log2 ≤ n :=
  Nat.log2_self_le nonzero

theorem power_succ (place : Nat) : power 2 (place + 1) = 2 * power 2 place := by
  rw [power_add, Nat.mul_comm]
  rfl

/-- The last place of a value of a format is not above its first place. -/
theorem lastPlace_le_log2
    {format : Format}
    {n : Nat}
    (representable : format.Representable n)
    (nonzero : n ≠ 0) :
    format.lastPlace n ≤ n.log2 := by
  have reaches : power 2 (format.lastPlace n) ≤ n :=
    Nat.le_of_dvd (Nat.pos_of_ne_zero nonzero) representable.2
  exact (Nat.le_log2 nonzero).mpr reaches

/-- Between two multiples of a step there is room for the step. -/
theorem add_le_of_dvd_of_lt
    {step m n : Nat}
    (dvdLeft : step ∣ m)
    (dvdRight : step ∣ n)
    (lt : m < n) :
    m + step ≤ n := by
  obtain ⟨i, rfl⟩ := dvdLeft
  obtain ⟨j, rfl⟩ := dvdRight
  have : i < j := Nat.lt_of_mul_lt_mul_left lt
  calc step * i + step = step * (i + 1) := rfl
    _ ≤ step * j := Nat.mul_le_mul_left step this

/-! ## The interval around a value -/

/-- How far the interval reaches down, in quarters of a unit. -/
def reach (format : Format) (n : Nat) : Nat :=
  if format.least < format.lastPlace n && n == power 2 n.log2 then
    power 2 (format.lastPlace n)
  else 2 * power 2 (format.lastPlace n)

theorem reach_le (format : Format) (n : Nat) :
    format.reach n ≤ 2 * power 2 (format.lastPlace n) := by
  rw [reach]
  split <;> omega

/-- What it means to lie in the interval around a value, without quotients. -/
theorem contains_basin_iff
    {format : Format}
    {n num den : Nat}
    (reaches : power 2 (format.lastPlace n) ≤ n) :
    (format.basin n).contains num den = true ↔
      (4 * (n * den) ≤ 4 * num + format.reach n * den ∧
        4 * num ≤ 4 * (n * den) + 2 * (power 2 (format.lastPlace n) * den)) ∧
      (n / power 2 (format.lastPlace n) % 2 = 0 ∨
        4 * (n * den) < 4 * num + format.reach n * den ∧
          4 * num < 4 * (n * den) + 2 * (power 2 (format.lastPlace n) * den)) := by
  have lower : (format.basin n).lower = 4 * n - format.reach n := rfl
  have upper : (format.basin n).upper = 4 * n + 2 * power 2 (format.lastPlace n) := rfl
  have closed : (format.basin n).closed = (n / power 2 (format.lastPlace n) % 2 == 0) := rfl
  have inside : format.reach n * den ≤ 4 * n * den := by
    refine Nat.mul_le_mul_right den ?_
    have := format.reach_le n
    omega
  rw [Basin.contains, lower, upper, closed, Nat.sub_mul, Nat.add_mul, ← Nat.mul_assoc 4,
    ← Nat.mul_assoc 2]
  split
  · next even =>
    rw [beq_iff_eq] at even
    simp only [Bool.and_eq_true, decide_eq_true_eq]
    omega
  · next odd =>
    rw [beq_iff_eq] at odd
    simp only [Bool.and_eq_true, decide_eq_true_eq]
    omega

/-- A quotient of units in the interval around a value is not far above it. -/
theorem div_lt_power
    {format : Format}
    {n num den : Nat}
    (representable : format.Representable n)
    (nonzero : n ≠ 0)
    (positive : 0 < den)
    (upper : 4 * num ≤ 4 * (n * den) + 2 * (power 2 (format.lastPlace n) * den)) :
    num / den < power 2 (n.log2 + 1) := by
  have place := lastPlace_le_log2 representable nonzero
  have room : n + power 2 (format.lastPlace n) ≤ power 2 (n.log2 + 1) :=
    add_le_of_dvd_of_lt representable.2 (power_dvd_power 2 (by omega)) (lt_power_log2_succ n)
  have someStep : 0 < power 2 (format.lastPlace n) := power_pos (by decide) _
  have product := Nat.mul_le_mul_right den room
  have steps : 0 < power 2 (format.lastPlace n) * den := Nat.mul_pos someStep positive
  rw [Nat.add_mul] at product
  rw [Nat.div_lt_iff_lt_mul positive]
  omega

/-- Above the power of two below a value, numbers are rounded at the last place of
the value. -/
theorem nearest_of_le_div
    {format : Format}
    {n num den : Nat}
    (representable : format.Representable n)
    (nonzero : n ≠ 0)
    (positive : 0 < den)
    (contained : (format.basin n).contains num den = true)
    (samePlace : format.lastPlace (num / den) = format.lastPlace n) :
    format.nearest num den = n := by
  have reaches : power 2 (format.lastPlace n) ≤ n :=
    Nat.le_of_dvd (Nat.pos_of_ne_zero nonzero) representable.2
  obtain ⟨⟨lower, upper⟩, ties⟩ := (contains_basin_iff reaches).mp contained
  have reach := Nat.mul_le_mul_right den (format.reach_le n)
  rw [Nat.mul_assoc] at reach
  refine nearest_eq positive samePlace (Nat.div_mul_cancel representable.2).symm ?_ ?_ ?_
  · omega
  · omega
  · omega

/-- A number in the interval around a value that is below the power of two below
the value lies around the power itself. -/
theorem eq_power_of_lt
    {format : Format}
    {n num den : Nat}
    (representable : format.Representable n)
    (nonzero : n ≠ 0)
    (positive : 0 < den)
    (lower : 4 * (n * den) ≤ 4 * num + format.reach n * den)
    (below : num < power 2 n.log2 * den) :
    n = power 2 n.log2 := by
  refine Decidable.byContradiction fun different => ?_
  have place := lastPlace_le_log2 representable nonzero
  have above : power 2 n.log2 < n :=
    Nat.lt_of_le_of_ne (power_log2_le nonzero) (Ne.symm different)
  have room : power 2 n.log2 + power 2 (format.lastPlace n) ≤ n :=
    add_le_of_dvd_of_lt (power_dvd_power 2 place) representable.2 above
  have product := Nat.mul_le_mul_right den room
  have reach := Nat.mul_le_mul_right den (format.reach_le n)
  have steps : 0 < power 2 (format.lastPlace n) * den :=
    Nat.mul_pos (power_pos (by decide) _) positive
  rw [Nat.add_mul] at product
  rw [Nat.mul_assoc] at reach
  omega

/-- Below a power of two, numbers in the interval around it are rounded one place
further to the right. -/
theorem lastPlace_of_narrow
    {format : Format}
    {n num den place : Nat}
    (isPower : n = power 2 n.log2)
    (narrow : format.least < format.lastPlace n)
    (isPlace : format.lastPlace n = place + 1)
    (precise : 0 < format.precision)
    (positive : 0 < den)
    (lower : 4 * (n * den) ≤ 4 * num + power 2 (place + 1) * den)
    (below : num < power 2 n.log2 * den) :
    format.lastPlace (num / den) = place := by
  have leading : n.log2 + 1 - format.precision = place + 1 := by
    rw [lastPlace] at narrow isPlace
    omega
  obtain ⟨last, isLast⟩ : ∃ last, n.log2 = last + 1 := ⟨n.log2 - 1, by omega⟩
  have half : n = 2 * power 2 last := by
    rw [← power_succ, ← isLast]
    exact isPower
  have step : power 2 (place + 1) ≤ 2 * power 2 last := by
    rw [← power_succ]
    exact power_le_power (by decide) (by omega)
  have reaches : power 2 last ≤ num / den := by
    rw [Nat.le_div_iff_mul_le positive]
    have product := Nat.mul_le_mul_right den step
    rw [Nat.mul_assoc] at product
    rw [half, Nat.mul_assoc] at lower
    omega
  have short : num / den < power 2 (last + 1) := by
    rw [Nat.div_lt_iff_lt_mul positive, ← isLast]
    exact below
  have leadingQuotient := log2_eq reaches short
  rw [lastPlace] at narrow ⊢
  omega

/-- Every number in the interval around a value of a format has the value as its
nearest one. -/
theorem nearest_of_contains
    {format : Format}
    {n num den : Nat}
    (precise : 0 < format.precision)
    (representable : format.Representable n)
    (nonzero : n ≠ 0)
    (positive : 0 < den)
    (contained : (format.basin n).contains num den = true) :
    format.nearest num den = n := by
  have reaches : power 2 (format.lastPlace n) ≤ n :=
    Nat.le_of_dvd (Nat.pos_of_ne_zero nonzero) representable.2
  obtain ⟨⟨lower, upper⟩, -⟩ := (contains_basin_iff reaches).mp contained
  by_cases binade : power 2 n.log2 ≤ num / den
  · have log2 : (num / den).log2 = n.log2 :=
      log2_eq binade (div_lt_power representable nonzero positive upper)
    exact nearest_of_le_div representable nonzero positive contained (by simp only [lastPlace, log2])
  · have below : num < power 2 n.log2 * den :=
      (Nat.div_lt_iff_lt_mul positive).mp (Nat.lt_of_not_le binade)
    have isPower := eq_power_of_lt representable nonzero positive lower below
    by_cases narrow : format.least < format.lastPlace n
    · obtain ⟨place, isPlace⟩ : ∃ place, format.lastPlace n = place + 1 :=
        ⟨format.lastPlace n - 1, by omega⟩
      have reach : format.reach n = power 2 (place + 1) := by
        rw [Format.reach, isPlace]
        rw [isPlace] at narrow
        simp [narrow, ← isPower]
      rw [reach] at lower
      have finer := lastPlace_of_narrow isPower narrow isPlace precise positive lower below
      obtain ⟨m, isMultiple⟩ := representable.2
      rw [isPlace, power_succ] at isMultiple
      have isEven : n = 2 * m * power 2 place := by
        rw [isMultiple, Nat.mul_assoc, Nat.mul_assoc, Nat.mul_comm m]
      rw [power_succ, Nat.mul_assoc] at lower
      rw [← isPower] at below
      refine nearest_eq positive finer isEven ?_ ?_ (.inl (by omega))
      · omega
      · omega
    · have samePlace : format.lastPlace (num / den) = format.lastPlace n := by
        have smaller : num / den < power 2 n.log2 := Nat.lt_of_not_le binade
        by_cases zero : num / den = 0
        · rw [lastPlace] at narrow
          rw [lastPlace, lastPlace, zero, Nat.log2_zero]
          omega
        · have := log2_lt_of_lt_power zero smaller
          rw [lastPlace] at narrow
          rw [lastPlace, lastPlace]
          omega
      exact nearest_of_le_div representable nonzero positive contained samePlace

end Format
end Number
end RestQuery
