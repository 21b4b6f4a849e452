import Mathlib.Data.List.TakeWhile
import RestQuery.Json.Reading
import RestQuery.Proofs.Json.Tokens
import RestQuery.Proofs.Text.Whole

/-!
# Integers in documents

The decimal form of an integer is a literal, and as long as the integer fits
sixty-four bits the literal counts as that integer.
-/

namespace RestQuery
namespace Json

open Number (Literal readLiteral?)

theorem isWordChar_of_isDigit
    {c : Char}
    (digit : c.isDigit = true) :
    isWordChar c = true := by
  have different : ∀ d : Char, d.isDigit = false → c ≠ d :=
    fun _ noDigit => Text.ne_of_isDigit digit noDigit
  simp [isWordChar, punctuation?, isSpace, different]

theorem magnitude_digits (n : Nat) : magnitude (Text.digits n) = Text.digits n := by
  cases shape : Text.digits n with
  | nil => rfl
  | cons first rest =>
      have digit : first.isDigit = true :=
        Text.isDigit_of_mem_digits (shape ▸ List.mem_cons_self)
      have noSign : first ≠ '-' := Text.ne_of_isDigit digit rfl
      rw [magnitude.eq_def]
      split
      · next same => exact absurd (List.cons.inj same).1 noSign
      · rfl

/-- The literal of an integer is its magnitude, perhaps behind a minus sign. -/
theorem magnitude_intChars (value : Int) :
    magnitude (Text.intChars value) = Text.digits value.natAbs := by
  cases value with
  | ofNat n => exact magnitude_digits n
  | negSucc n => rfl

theorem afterIntegral?_digits (n : Nat) : afterIntegral? (Text.digits n) = some [] := by
  by_cases zero : n = 0
  · subst zero
    rfl
  · have leading := Text.head?_digits_ne_zero zero
    have allDigits := Text.all_isDigit_digits n
    cases shape : Text.digits n with
    | nil => exact absurd shape (Text.digits_ne_nil n)
    | cons first rest =>
        rw [shape, List.head?_cons] at leading
        rw [shape, List.all_cons, Bool.and_eq_true] at allDigits
        have noZero : first ≠ '0' := fun same => leading (congrArg some same)
        have noRest : rest.dropWhile Char.isDigit = [] :=
          List.dropWhile_eq_nil_iff.mpr fun c member =>
            List.all_eq_true.mp allDigits.2 c member
        rw [afterIntegral?.eq_def]
        split
        · next same => exact absurd (List.cons.inj same).1 noZero
        · next same =>
            obtain ⟨rfl, rfl⟩ := List.cons.inj same
            rw [if_pos allDigits.1, noRest]
        · next same => cases same

/-- The decimal form of an integer is the literal of a number. -/
theorem isLiteral_intChars (value : Int) : IsLiteral (Text.intChars value) := by
  have number : isNumber (Text.intChars value) = true := by
    rw [isNumber, magnitude_intChars, afterIntegral?_digits]
    rfl
  refine ⟨?_, fun c member => ?_⟩
  · have noName :
        Text.intChars value ≠ "null".toList ∧ Text.intChars value ≠ "true".toList ∧
          Text.intChars value ≠ "false".toList := by
      refine ⟨?_, ?_, ?_⟩ <;> intro same <;> rw [same] at number <;> cases number
    rw [wordToken?, if_neg noName.1, if_neg noName.2.1, if_neg noName.2.2, if_pos number]
  · rcases Text.isDigit_or_eq_of_mem_intChars member with digit | sign
    · exact isWordChar_of_isDigit digit
    · subst sign
      rfl

theorem readLiteral?_digits (n : Nat) :
    readLiteral? (Text.digits n) = some ⟨Text.digits n, [], 0⟩ := by
  have whole : (Text.digits n).takeWhile Char.isDigit = Text.digits n :=
    List.takeWhile_eq_self_iff.mpr fun c member => Text.isDigit_of_mem_digits member
  have behind : (Text.digits n).dropWhile Char.isDigit = [] :=
    List.dropWhile_eq_nil_iff.mpr fun c member => Text.isDigit_of_mem_digits member
  simp [readLiteral?, whole, behind, Text.digits_ne_nil, Number.readExponent?]

theorem head?_digits_ne_minus (n : Nat) : (Text.digits n).head? ≠ some '-' := by
  intro sign
  have digit := Text.isDigit_of_mem_digits (List.mem_of_head? sign)
  cases digit

/-- The literal of an integer of sixty-four bits, signed or unsigned, counts as
that integer. -/
theorem quantity?_intChars
    {value : Int}
    (least : -leastMagnitude ≤ value)
    (greatest : value < UInt64.size) :
    quantity? (Text.intChars value) = some (.whole value) := by
  rw [quantity?, magnitude_intChars, readLiteral?_digits, Option.bind_eq_bind,
    Option.bind_some, Text.all_isDigit_digits, if_pos rfl]
  have significand :
      Literal.significand ⟨Text.digits value.natAbs, [], 0⟩ = value.natAbs := by
    rw [Literal.significand, List.append_nil, Text.ofDigitChars_digits]
  rw [significand]
  cases value with
  | ofNat n =>
      have small : n < UInt64.size := Int.ofNat_lt.mp greatest
      have positive : ((Text.intChars (Int.ofNat n)).head? == some '-') = false :=
        beq_eq_false_iff_ne.mpr (head?_digits_ne_minus n)
      rw [positive, if_neg Bool.false_ne_true, if_pos (by simpa using small)]
      rfl
  | negSucc n =>
      have small : n + 1 ≤ leastMagnitude := by
        rw [Int.negSucc_eq] at least
        omega
      have negative : ((Text.intChars (Int.negSucc n)).head? == some '-') = true := rfl
      rw [negative, if_pos rfl, Int.natAbs_negSucc, if_pos (by simpa using small)]
      rfl

/-- A signed integer of sixty-four bits counts as itself. -/
theorem quantity?_int64 (value : Int64) :
    quantity? (Text.intChars value.toInt) = some (.whole value.toInt) := by
  refine quantity?_intChars value.minValue_le_toInt ?_
  exact Int.lt_of_le_of_lt value.toInt_le (by decide)

/-- An integer within bounds, and within sixty-four bits, is read from the literal
it is written as. -/
theorem asWhole?_ofInt
    {least greatest value : Int}
    (notBelow : least ≤ value)
    (notAbove : value ≤ greatest)
    (counted : quantity? (Text.intChars value) = some (.whole value)) :
    asWhole? least greatest (ofInt value) = some value := by
  have inRange : (least ≤ value && value ≤ greatest) = true := by
    simpa only [Bool.and_eq_true, decide_eq_true_eq] using And.intro notBelow notAbove
  simp only [asWhole?, ofInt, counted]
  rw [if_pos inRange]

/-- A signed integer of sixty-four bits is read from the literal it is written
as. -/
theorem asInt64?_ofInt (value : Int64) : asInt64? (ofInt value.toInt) = some value := by
  rw [asInt64?, asWhole?_ofInt value.minValue_le_toInt value.toInt_le (quantity?_int64 value),
    Option.map_some, Int64.ofInt_toInt]

/-- A signed integer of thirty-two bits is read from the literal it is written
as. -/
theorem asInt32?_ofInt (value : Int32) : asInt32? (ofInt value.toInt) = some value := by
  have counted : quantity? (Text.intChars value.toInt) = some (.whole value.toInt) := by
    refine quantity?_intChars ?_ ?_
    · exact Int.le_trans (by decide) value.minValue_le_toInt
    · exact Int.lt_of_le_of_lt value.toInt_le (by decide)
  rw [asInt32?, asWhole?_ofInt value.minValue_le_toInt value.toInt_le counted,
    Option.map_some, Int32.ofInt_toInt]

end Json
end RestQuery
