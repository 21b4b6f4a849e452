import Mathlib.Data.List.Induction
import Mathlib.Data.Nat.Digits.Defs
import RestQuery.Text.Whole

/-!
# Whole numbers are read as they were written

The decimal form of an integer has digits and perhaps a minus sign, starts with
a zero only if it is zero, and is read as the integer it was written for. Numbers
without a minus sign are read from exactly the texts that are literals of them.
-/

namespace RestQuery
namespace Text

/-! ## Digits -/

/-- A digit differs from everything that is none. -/
theorem ne_of_isDigit
    {c d : Char}
    (digit : c.isDigit = true)
    (noDigit : d.isDigit = false) :
    c ≠ d := by
  rintro rfl
  rw [noDigit] at digit
  cases digit

theorem isDigit_of_mem_digits
    {n : Nat}
    {c : Char}
    (member : c ∈ digits n) :
    c.isDigit = true :=
  Nat.isDigit_of_mem_toDigits (by decide) (by decide) member

theorem all_isDigit_digits (n : Nat) : (digits n).all Char.isDigit = true :=
  List.all_eq_true.mpr fun _ member => isDigit_of_mem_digits member

theorem digits_ne_nil (n : Nat) : digits n ≠ [] := Nat.toDigits_ne_nil

theorem ofDigitChars_digits (n : Nat) : Nat.ofDigitChars 10 (digits n) 0 = n :=
  Nat.ofDigitChars_ten_toDigits

theorem readDigits?_digits (n : Nat) : readDigits? (digits n) = some n := by
  have someDigit : (digits n).isEmpty = false := by
    simpa using digits_ne_nil n
  rw [readDigits?, all_isDigit_digits, someDigit, ofDigitChars_digits]
  rfl

/-- Only zero is written with a zero at the front. -/
theorem head?_digits_ne_zero
    {n : Nat}
    (nonzero : n ≠ 0) :
    (digits n).head? ≠ some '0' := by
  induction n using Nat.base_induction 10 (by decide) with
  | single digit small =>
      rw [digits, Nat.toDigits_of_lt_base small, List.head?_cons]
      intro same
      have : digit.digitChar.toNat = '0'.toNat := by rw [Option.some.inj same]
      rw [Nat.toNat_digitChar_of_lt_ten small] at this
      exact nonzero (by simpa using this)
  | digit leading last small positive inductionHypothesis =>
      have leadingHead := inductionHypothesis (Nat.ne_of_gt positive)
      rw [digits, ← Nat.toDigits_append_toDigits (by decide) positive small]
      cases shape : Nat.toDigits 10 leading with
      | nil => exact absurd shape Nat.toDigits_ne_nil
      | cons first more =>
          rwa [digits, shape] at leadingHead

/-! ## Integers -/

theorem isDigit_or_eq_of_mem_intChars
    {value : Int}
    {c : Char}
    (member : c ∈ intChars value) :
    c.isDigit = true ∨ c = '-' := by
  cases value with
  | ofNat n => exact .inl (isDigit_of_mem_digits member)
  | negSucc n =>
      rcases List.mem_cons.mp member with sign | digit
      · exact .inr sign
      · exact .inl (isDigit_of_mem_digits digit)

theorem readInt?_digits (n : Nat) : readInt? (digits n) = some (Int.ofNat n) := by
  have noSign : ∀ c ∈ digits n, c ≠ '+' ∧ c ≠ '-' := fun c member =>
    have digit := isDigit_of_mem_digits member
    ⟨ne_of_isDigit digit rfl, ne_of_isDigit digit rfl⟩
  rw [readInt?.eq_def]
  split
  · next rest shape =>
      exact absurd rfl (noSign '+' (shape ▸ List.mem_cons_self)).1
  · next rest shape =>
      exact absurd rfl (noSign '-' (shape ▸ List.mem_cons_self)).2
  · rw [readDigits?_digits, Option.map_some]

/-- An integer is read as it was written. -/
theorem readInt?_intChars (value : Int) : readInt? (intChars value) = some value := by
  cases value with
  | ofNat n => exact readInt?_digits n
  | negSucc n =>
      rw [intChars, readInt?, readDigits?_digits, Option.map_some, Int.negSucc_eq]
      rfl

/-- An integer of sixty-four bits is read as it was written. -/
theorem readInt64?_intChars (value : Int64) :
    readInt64? (intChars value.toInt) = some value := by
  have bounded :
      Int64.minValue.toInt ≤ value.toInt ∧ value.toInt ≤ Int64.maxValue.toInt :=
    ⟨value.minValue_le_toInt, value.toInt_le⟩
  rw [readInt64?, readInt?_intChars, Option.bind_eq_bind, Option.bind_some,
    if_pos (by simpa only [Bool.and_eq_true, decide_eq_true_eq] using bounded),
    Int64.ofInt_toInt]

/-! ## Numbers without a minus sign -/

/-- The value of decimal digits, the last of them being the units. -/
def decimalValue (s : List Char) : Nat :=
  Nat.ofDigits 10 (s.reverse.map fun c => c.toNat - '0'.toNat)

/-- ASCII digits, one at least, spell the number that is their value. -/
structure Spells (s : List Char) (n : Nat) : Prop where
  nonempty : s ≠ []
  digits : ∀ c ∈ s, c.isDigit = true
  value_eq : decimalValue s = n

/-- A literal of a number of sixty-four bits: digits that spell it, behind a plus sign
or without a sign. -/
inductive IsUInt64Literal : List Char → UInt64 → Prop
  | unsigned {s : List Char} {value : UInt64} (spells : Spells s value.toNat) :
      IsUInt64Literal s value
  | signed {s : List Char} {value : UInt64} (spells : Spells s value.toNat) :
      IsUInt64Literal ('+' :: s) value

theorem decimalValue_append_singleton (s : List Char) (c : Char) :
    decimalValue (s ++ [c]) = 10 * decimalValue s + (c.toNat - '0'.toNat) := by
  rw [decimalValue, List.reverse_concat, List.map_cons, Nat.ofDigits_cons, decimalValue,
    Nat.add_comm]

theorem ofDigitChars_eq_decimalValue (s : List Char) :
    Nat.ofDigitChars 10 s 0 = decimalValue s := by
  induction s using List.reverseRecOn with
  | nil => rfl
  | append_singleton s c inductionHypothesis =>
      rw [Nat.ofDigitChars_append, inductionHypothesis, decimalValue_append_singleton]
      rfl

/-- A number is read from exactly the digits that spell it. -/
theorem readDigits?_eq_some_iff {s : List Char} {n : Nat} :
    readDigits? s = some n ↔ Spells s n := by
  rw [readDigits?, ofDigitChars_eq_decimalValue, Option.ite_none_right_eq_some]
  constructor
  · rintro ⟨digits, value_eq⟩
    simp only [Bool.and_eq_true, Bool.not_eq_true', List.isEmpty_eq_false_iff,
      List.all_eq_true] at digits
    exact ⟨digits.1, digits.2, Option.some.inj value_eq⟩
  · rintro ⟨nonempty, digits, value_eq⟩
    refine ⟨?_, congrArg some value_eq⟩
    simp only [Bool.and_eq_true, Bool.not_eq_true', List.isEmpty_eq_false_iff,
      List.all_eq_true]
    exact ⟨nonempty, digits⟩

/-- A plus sign is taken off, and nothing else. -/
theorem eq_or_eq_cons_unsignedDigits (s : List Char) :
    s = unsignedDigits s ∨ s = '+' :: unsignedDigits s := by
  rw [unsignedDigits.eq_def]
  split
  · exact .inr rfl
  · exact .inl rfl

theorem Spells.unsignedDigits_eq
    {s : List Char}
    {n : Nat}
    (spells : Spells s n) :
    unsignedDigits s = s := by
  rw [unsignedDigits.eq_def]
  split
  · have sign : '+'.isDigit = true := spells.digits '+' List.mem_cons_self
    cases sign
  · rfl

/-- A number of sixty-four bits is read from exactly its literals. -/
theorem readUInt64?_eq_some_iff {s : List Char} {value : UInt64} :
    readUInt64? s = some value ↔ IsUInt64Literal s value := by
  have fits_iff (n : Nat) :
      (if n < UInt64.size then some (UInt64.ofNat n) else none) = some value ↔
        n = value.toNat := by
    constructor
    · intro found
      obtain ⟨bounded, same⟩ := Option.ite_none_right_eq_some.mp found
      rw [← Option.some.inj same, UInt64.toNat_ofNat_of_lt' bounded]
    · rintro rfl
      rw [if_pos value.toNat_lt_size, UInt64.ofNat_toNat]
  rw [readUInt64?, Option.bind_eq_bind, Option.bind_eq_some_iff]
  simp only [fits_iff, readDigits?_eq_some_iff]
  constructor
  · rintro ⟨n, spells, rfl⟩
    rcases eq_or_eq_cons_unsignedDigits s with plain | sign
    · rw [plain]
      exact .unsigned spells
    · rw [sign]
      exact .signed spells
  · rintro (spells | spells)
    · rw [spells.unsignedDigits_eq]
      exact ⟨_, spells, rfl⟩
    · exact ⟨_, spells, rfl⟩

/-- A literal holds nothing but digits and a sign. -/
theorem IsUInt64Literal.not_mem
    {s : List Char}
    {value : UInt64}
    (literal : IsUInt64Literal s value)
    {c : Char}
    (noDigit : c.isDigit = false)
    (noSign : c ≠ '+') :
    c ∉ s := by
  have noSpelling {s : List Char} {n : Nat} (spells : Spells s n) : c ∉ s :=
    fun member => ne_of_isDigit (spells.digits c member) noDigit rfl
  cases literal with
  | unsigned spells => exact noSpelling spells
  | signed spells => exact List.not_mem_cons_of_ne_of_not_mem noSign (noSpelling spells)

end Text
end RestQuery
