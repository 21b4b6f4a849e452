import Mathlib.Algebra.Group.Nat.Defs
import Mathlib.Data.List.TakeWhile
import RestQuery.Number.Literal
import RestQuery.Number.Notation
import RestQuery.Proofs.Number.Shortest
import RestQuery.Proofs.Text.Whole

/-!
# Decimals with a point are read back

A decimal with places behind the point is written as digits, a point and
digits, and is read as a literal with the same digits and as many places. The
literal of the shortest decimal of a floating-point number is therefore read as
the number. A decimal without places is written as an integer.
-/

namespace RestQuery
namespace Number

/-! ## Literals -/

/-- Digits, a point and digits are a literal. -/
theorem readLiteral?_point
    {whole fraction : List Char}
    (some_ : whole ≠ [])
    (wholeDigits : ∀ c ∈ whole, c.isDigit = true)
    (fractionDigits : ∀ c ∈ fraction, c.isDigit = true) :
    readLiteral? (whole ++ '.' :: fraction) = some ⟨whole, fraction, 0⟩ := by
  have point : ¬Char.isDigit '.' = true := by decide
  have before : (whole ++ '.' :: fraction).takeWhile Char.isDigit = whole := by
    rw [List.takeWhile_append_of_pos wholeDigits, List.takeWhile_cons_of_neg point,
      List.append_nil]
  have behind : (whole ++ '.' :: fraction).dropWhile Char.isDigit = '.' :: fraction := by
    rw [List.dropWhile_append_of_pos wholeDigits, List.dropWhile_cons_of_neg point]
  have all : fraction.takeWhile Char.isDigit = fraction :=
    List.takeWhile_eq_self_iff.mpr fractionDigits
  have rest : fraction.dropWhile Char.isDigit = [] := List.dropWhile_eq_nil_iff.mpr fractionDigits
  simp [readLiteral?, before, behind, all, rest, some_, readExponent?]

theorem splitSign_of_isDigit
    {c : Char}
    (digit : c.isDigit = true)
    (s : List Char) :
    splitSign (c :: s) = (false, c :: s) := by
  rw [splitSign.eq_def]
  split
  · next same => exact absurd (List.cons.inj same).1 (Text.ne_of_isDigit digit rfl)
  · next same => exact absurd (List.cons.inj same).1 (Text.ne_of_isDigit digit rfl)
  · rfl

/-- A text behind the minus sign of a negative number. -/
def signed (negative : Bool) (s : List Char) : List Char := if negative then '-' :: s else s

/-- A literal behind a sign is rounded once. -/
theorem readBinary64?_signed
    {c : Char}
    {s : List Char}
    {literal : Literal}
    (digit : c.isDigit = true)
    (isLiteral : readLiteral? (c :: s) = some literal)
    (negative : Bool) :
    readBinary64? (signed negative (c :: s)) =
      some (Binary64.ofDecimal negative literal.significand literal.scale) := by
  cases negative with
  | false =>
      simp only [readBinary64?, readRounded?, signed, Bool.false_eq_true, if_false,
        splitSign_of_isDigit digit, isLiteral]
  | true => simp only [readBinary64?, readRounded?, signed, if_true, splitSign, isLiteral]

/-! ## Texts that are no numbers -/

theorem all_isDigit_of_mem
    {s : List Char}
    {c : Char}
    (member : c ∈ s)
    (noDigit : c.isDigit = false) :
    s.all Char.isDigit = false := by
  rw [List.all_eq_false]
  exact ⟨c, member, by rw [noDigit]; exact Bool.false_ne_true⟩

/-- No exponent holds a comma. -/
theorem readExponent?_of_comma
    {s : List Char}
    (comma : ',' ∈ s) :
    readExponent? s = none := by
  cases s with
  | nil => cases comma
  | cons mark rest =>
      by_cases isMark : (mark == 'e' || mark == 'E') = true
      · have inRest : ',' ∈ rest := by
          refine List.mem_of_ne_of_mem ?_ comma
          rintro rfl
          cases isMark
        rw [readExponent?.eq_def]
        simp only [isMark, if_true]
        split
        · next digits =>
            have inDigits : ',' ∈ digits := List.mem_of_ne_of_mem (by decide) inRest
            simp [all_isDigit_of_mem inDigits rfl]
        · next digits =>
            have inDigits : ',' ∈ digits := List.mem_of_ne_of_mem (by decide) inRest
            simp [all_isDigit_of_mem inDigits rfl]
        · simp [all_isDigit_of_mem inRest rfl]
      · simp [readExponent?, isMark]

/-- A character that is no digit is not dropped with the digits in front of it. -/
theorem mem_dropWhile_isDigit
    {s : List Char}
    {c : Char}
    (member : c ∈ s)
    (noDigit : c.isDigit = false) :
    c ∈ s.dropWhile Char.isDigit := by
  rw [← List.takeWhile_append_dropWhile (p := Char.isDigit) (l := s)] at member
  rcases List.mem_append.mp member with digit | behind
  · rw [List.mem_takeWhile_imp digit] at noDigit
    cases noDigit
  · exact behind

/-- No literal holds a comma. -/
theorem readLiteral?_of_comma
    {s : List Char}
    (comma : ',' ∈ s) :
    readLiteral? s = none := by
  have behind := mem_dropWhile_isDigit comma rfl
  rw [readLiteral?]
  split
  next fraction tail parts =>
    have inTail : ',' ∈ tail := by
      split at parts
      · next rest shape =>
          cases parts
          rw [shape] at behind
          exact mem_dropWhile_isDigit (List.mem_of_ne_of_mem (by decide) behind) rfl
      · cases parts
        exact behind
    rw [readExponent?_of_comma inTail]
    simp

/-- No text with a comma stands for a number. -/
theorem readBinary64?_of_comma
    {s : List Char}
    (comma : ',' ∈ s) :
    readBinary64? s = none := by
  have named (negative : Bool) {s : List Char} (comma : ',' ∈ s) :
      readNamed? negative s = none := by
    have noName {name : String} (absent : ',' ∉ name.toList) :
        String.ofList (s.map Char.toLower) ≠ name := by
      rintro rfl
      rw [String.toList_ofList] at absent
      exact absent (List.mem_map.mpr ⟨',', comma, rfl⟩)
    rw [readNamed?]
    split
    · next same => exact absurd same (noName (by decide))
    · next same => exact absurd same (noName (by decide))
    · next same => exact absurd same (noName (by decide))
    · rfl
  have inMagnitude : ',' ∈ (splitSign s).2 := by
    unfold splitSign
    split
    · exact List.mem_of_ne_of_mem (by decide) comma
    · exact List.mem_of_ne_of_mem (by decide) comma
    · exact comma
  simp only [readBinary64?, readRounded?, readLiteral?_of_comma inMagnitude]
  exact named _ inMagnitude

/-! ## Places behind the point -/

theorem ofDigitChars_zeros (count : Nat) (s : List Char) :
    Nat.ofDigitChars 10 (List.replicate count '0' ++ s) 0 = Nat.ofDigitChars 10 s 0 := by
  induction count with
  | zero => rfl
  | succ count inductionHypothesis =>
      rw [List.replicate_succ, List.cons_append, Nat.ofDigitChars_cons]
      exact inductionHypothesis

/-- Digits with a point among or in front of them are the digits in front of the
point and as many digits behind it as there are places. -/
theorem exists_pointed
    {digits : List Char}
    (allDigits : ∀ c ∈ digits, c.isDigit = true)
    (places : Nat) :
    ∃ first whole fraction,
      Notation.pointed digits places = first :: whole ++ '.' :: fraction ∧
        (∀ c ∈ first :: whole, c.isDigit = true) ∧ (∀ c ∈ fraction, c.isDigit = true) ∧
        fraction.length = places ∧
        Nat.ofDigitChars 10 (first :: whole ++ fraction) 0 = Nat.ofDigitChars 10 digits 0 ∧
        (digits.head? = some first ∨ first = '0' ∧ whole = []) := by
  by_cases inside : places < digits.length
  · cases shape : digits.take (digits.length - places) with
    | nil =>
        have : (digits.take (digits.length - places)).length = 0 := by rw [shape]; rfl
        rw [List.length_take] at this
        omega
    | cons first whole =>
        refine ⟨first, whole, digits.drop (digits.length - places), ?_, ?_, ?_, ?_, ?_, .inl ?_⟩
        · rw [Notation.pointed, if_pos inside, shape]
        · intro c member
          exact allDigits c (List.mem_of_mem_take (shape ▸ member))
        · exact fun c member => allDigits c (List.mem_of_mem_drop member)
        · rw [List.length_drop]
          omega
        · rw [← shape, List.take_append_drop]
        · rw [← List.take_append_drop (digits.length - places) digits, shape]
          rfl
  · refine ⟨'0', [], List.replicate (places - digits.length) '0' ++ digits, ?_, ?_, ?_, ?_, ?_,
      .inr ⟨rfl, rfl⟩⟩
    · rw [Notation.pointed, if_neg inside]
      rfl
    · simp
    · intro c member
      rcases List.mem_append.mp member with zero | digit
      · rw [List.eq_of_mem_replicate zero]
        rfl
      · exact allDigits c digit
    · rw [List.length_append, List.length_replicate]
      omega
    · exact ofDigitChars_zeros (places - digits.length + 1) digits

theorem point_mem_signed_pointed
    (negative : Bool)
    (digits : List Char)
    (places : Nat) :
    '.' ∈ signed negative (Notation.pointed digits places) := by
  have inside : '.' ∈ Notation.pointed digits places := by
    rw [Notation.pointed]
    split <;> simp
  cases negative with
  | false => exact inside
  | true => exact List.mem_cons_of_mem '-' inside

/-- A decimal with places, written with a point, is read as the magnitude that it
rounds to. -/
theorem readBinary64?_pointed
    {n : Nat}
    {decimal : Decimal}
    (representable : binary64.Representable n)
    (nonzero : n ≠ 0)
    (rounds : decimal.roundsTo n = true)
    (hasPlaces : decimal.exponent < 0)
    (negative : Bool) :
    readBinary64?
        (signed negative (Notation.pointed (Text.digits decimal.digits) decimal.exponent.natAbs)) =
      some (.finite negative n representable) := by
  obtain ⟨first, whole, fraction, shape, wholeDigits, fractionDigits, length, value, -⟩ :=
    @exists_pointed (Text.digits decimal.digits)
      (fun _ member => Text.isDigit_of_mem_digits member) decimal.exponent.natAbs
  have isLiteral : readLiteral? (first :: (whole ++ '.' :: fraction)) = _ :=
    readLiteral?_point (List.cons_ne_nil first whole) wholeDigits fractionDigits
  have significand : Literal.significand ⟨first :: whole, fraction, 0⟩ = decimal.digits := by
    rw [Literal.significand, value, Text.ofDigitChars_digits]
  have scale : Literal.scale ⟨first :: whole, fraction, 0⟩ = decimal.exponent := by
    show (0 : Int) - fraction.length = decimal.exponent
    rw [length]
    omega
  rw [shape, List.cons_append, readBinary64?_signed (wholeDigits first List.mem_cons_self) isLiteral,
    significand, scale, Binary64.ofDecimal_of_roundsTo representable nonzero rounds]
  have placeBound : (Binary64.placeBound : Int) = 400 := rfl
  omega

/-! ## Whole decimals -/

/-- Zeros behind the digits of a number multiply it by ten. -/
theorem digits_append_zeros
    {n : Nat}
    (nonzero : n ≠ 0)
    (count : Nat) :
    Text.digits n ++ List.replicate count '0' = Text.digits (n * 10 ^ count) := by
  induction count with
  | zero => simp
  | succ count inductionHypothesis =>
      have positive : 0 < n * 10 ^ count :=
        Nat.mul_pos (Nat.pos_of_ne_zero nonzero) (Nat.pow_pos (by decide))
      have zero : Nat.toDigits 10 0 = ['0'] := rfl
      rw [List.replicate_succ', ← List.append_assoc, inductionHypothesis, Text.digits, ← zero,
        Nat.toDigits_append_toDigits (by decide) positive (by decide), Text.digits,
        Nat.pow_succ]
      congr 1
      rw [Nat.add_zero, Nat.mul_comm 10, Nat.mul_assoc]

end Number
end RestQuery
