import RestQuery.Number.Power

/-!
# Rounding to a binary format

A binary floating-point format with gradual underflow is a grid on the
non-negative numbers. Everything here is measured in units of `2 ^ -1074`, the
least positive value of the widest format in use, so every value of every
format is a natural number and rounding is exact arithmetic on naturals.

Main statement: what rounding yields below the limit of a format is a value of
that format.
-/

namespace RestQuery
namespace Number

/-- The quotient rounded to the nearest natural number, a half to the even
neighbour. -/
def roundHalfEven (num den : Nat) : Nat :=
  if 2 * (num % den) < den then num / den
  else if den < 2 * (num % den) then num / den + 1
  else num / den + num / den % 2

theorem roundHalfEven_le_succ (num den : Nat) :
    roundHalfEven num den ≤ num / den + 1 := by
  unfold roundHalfEven
  split
  · omega
  · split <;> omega

/-- A rounded quotient stays within every natural bound on the quotient. -/
theorem roundHalfEven_le
    {num den bound : Nat}
    (positive : 0 < den)
    (bounded : num ≤ bound * den) :
    roundHalfEven num den ≤ bound := by
  by_cases short : num / den < bound
  · have := roundHalfEven_le_succ num den
    omega
  · have lower : bound ≤ num / den := Nat.le_of_not_lt short
    have upper : num / den ≤ bound := Nat.div_le_of_le_mul (by rwa [Nat.mul_comm])
    have quotient : num / den = bound := Nat.le_antisymm upper lower
    have division := Nat.div_add_mod num den
    have remainder : num % den = 0 := by
      rw [quotient, Nat.mul_comm] at division
      omega
    simp [roundHalfEven, remainder, quotient, positive]

/-- A binary format: the number of significant bits, and the exponents, in
units, of its least positive value and of the power of two beyond its values. -/
structure Format where
  precision : Nat
  least : Nat
  limit : Nat

/-- The format with fifty-three significant bits. -/
def binary64 : Format := ⟨53, 0, 2098⟩

/-- The format with twenty-four significant bits. -/
def binary32 : Format := ⟨24, 925, 1202⟩

namespace Format

/-- The exponent of the last place that the format keeps of numbers as large
as `n`. -/
def lastPlace (format : Format) (n : Nat) : Nat :=
  max format.least (n.log2 + 1 - format.precision)

/-- The number of units is a value of the format. -/
def Representable (format : Format) (n : Nat) : Prop :=
  n < power 2 format.limit ∧ power 2 (format.lastPlace n) ∣ n

/-- The multiple of the last place nearest to a quotient of units. -/
def nearest (format : Format) (num den : Nat) : Nat :=
  let step := power 2 (format.lastPlace (num / den))
  roundHalfEven num (den * step) * step

theorem lastPlace_le_of_lt
    {format : Format}
    {n place : Nat}
    (precise : 0 < format.precision)
    (least : format.least ≤ place)
    (small : n < power 2 (format.precision + place)) :
    format.lastPlace n ≤ place := by
  unfold lastPlace
  by_cases zero : n = 0
  · subst zero
    simp only [Nat.log2_zero]
    omega
  · have := log2_lt_of_lt_power zero small
    omega

/-- Rounding yields a value of the format, unless it leaves the format's
range. -/
theorem representable_nearest
    {format : Format}
    {num den : Nat}
    (precise : 0 < format.precision)
    (positive : 0 < den)
    (small : format.nearest num den < power 2 format.limit) :
    format.Representable (format.nearest num den) := by
  refine ⟨small, ?_⟩
  generalize place_eq : format.lastPlace (num / den) = place
  have least : format.least ≤ place := by
    rw [← place_eq]
    exact Nat.le_max_left _ _
  have below : num / den < power 2 (format.precision + place) := by
    by_cases zero : num / den = 0
    · rw [zero]
      exact power_pos (by decide) _
    · refine Nat.lt_of_lt_of_le (lt_power_log2_succ _) (power_le_power (by decide) ?_)
      have : (num / den).log2 + 1 - format.precision ≤ place := by
        rw [← place_eq]
        exact Nat.le_max_right _ _
      omega
  have bounded :
      roundHalfEven num (den * power 2 place) ≤ power 2 format.precision := by
    refine roundHalfEven_le (Nat.mul_pos positive (power_pos (by decide) _)) ?_
    have := (Nat.div_lt_iff_lt_mul positive).mp below
    rw [power_add] at this
    calc num ≤ power 2 format.precision * power 2 place * den := Nat.le_of_lt this
      _ = power 2 format.precision * (den * power 2 place) := by
        rw [Nat.mul_assoc, Nat.mul_comm (power 2 place) den]
  have value :
      format.nearest num den =
        roundHalfEven num (den * power 2 place) * power 2 place := by
    simp only [nearest, place_eq]
  rw [value]
  rcases Nat.lt_or_eq_of_le bounded with strict | full
  · have place_le :
        format.lastPlace (roundHalfEven num (den * power 2 place) * power 2 place)
          ≤ place := by
      refine lastPlace_le_of_lt precise least ?_
      rw [power_add]
      exact Nat.mul_lt_mul_of_pos_right strict (power_pos (by decide) _)
    exact Nat.dvd_trans (power_dvd_power 2 place_le) (Nat.dvd_mul_left _ _)
  · rw [full, ← power_add]
    have place_le :
        format.lastPlace (power 2 (format.precision + place)) ≤ place + 1 := by
      refine lastPlace_le_of_lt precise (Nat.le_succ_of_le least) ?_
      exact power_lt_power (by decide) (by omega)
    exact power_dvd_power 2 (Nat.le_trans place_le (by omega))

end Format

end Number
end RestQuery
