import RestQuery.Proofs.Filter.Operands
import RestQuery.Proofs.Number.Notation

/-!
# Bare values that keep their form

A bare text is read as the value that it looks like, and that value may be
written differently: `+5` is read as five. The texts that keep their form are
the written forms of values: texts that look like no other value, integers,
truth values, and floating-point numbers but for minus zero, which is read as
the integer zero.
-/

namespace RestQuery

open Number (Binary64 Decimal)

/-- The written form of the value is read as a value with this form. -/
def Scalar.IsPlain : Scalar → Prop
  | text value => Filter.readScalar value.toList = .text value
  | int _ => True
  | float value => value ≠ .zero true
  | bool _ => True

namespace Filter

/-- The text is the written form of a plain value. -/
def IsCanonical (s : List Char) : Prop := ∃ value : Scalar, value.IsPlain ∧ value.chars = s

/-! ## Integers -/

/-- An integer is read as itself if it fits sixty-four bits, and not at all
otherwise. -/
theorem readInt64?_intChars_eq (value : Int) :
    Text.readInt64? (Text.intChars value) =
      if Int64.minValue.toInt ≤ value && value ≤ Int64.maxValue.toInt then
        some (Int64.ofInt value)
      else none := by
  rw [Text.readInt64?, Text.readInt?_intChars]
  rfl

theorem not_mem_intChars
    {c : Char}
    (noDigit : c.isDigit = false)
    (noSign : c ≠ '-')
    (value : Int) :
    c ∉ Text.intChars value := by
  intro member
  rcases Text.isDigit_or_eq_of_mem_intChars member with digit | sign
  · rw [noDigit] at digit
    cases digit
  · exact noSign sign

/-- Without a point, a text that is no integer and no truth value stands for
itself. -/
theorem readScalar_of_no_point
    {s : List Char}
    (noInteger : Text.readInt64? s = none)
    (noPoint : '.' ∉ s)
    (notTrue : s ≠ "true".toList)
    (notFalse : s ≠ "false".toList) :
    readScalar s = .text (String.ofList s) := by
  have plain : s.contains '.' = false := by simpa using noPoint
  simp only [readScalar, noInteger, plain, Bool.false_eq_true, if_false, notTrue, notFalse]

/-- A text with a character that no integer has is none. -/
theorem ne_intChars_of_mem
    {s : List Char}
    {c : Char}
    (member : c ∈ s)
    (noDigit : c.isDigit = false)
    (noSign : c ≠ '-')
    (value : Int) :
    Text.intChars value ≠ s := by
  rintro rfl
  exact not_mem_intChars noDigit noSign value member

/-- The decimal form of an integer of any size keeps its form. -/
theorem chars_readScalar_intChars (value : Int) :
    (readScalar (Text.intChars value)).chars = Text.intChars value := by
  have read := readInt64?_intChars_eq value
  split at read
  · next inRange =>
      simp only [Bool.and_eq_true, decide_eq_true_eq] at inRange
      have greatest : value < 2 ^ 63 := Int.lt_of_le_of_lt inRange.2 (by decide)
      rw [readScalar, read]
      exact congrArg Text.intChars (Int64.toInt_ofInt_of_le inRange.1 greatest)
  · rw [readScalar_of_no_point read (not_mem_intChars rfl (by decide) value)
      (ne_intChars_of_mem (c := 't') (by decide) rfl (by decide) value)
      (ne_intChars_of_mem (c := 'f') (by decide) rfl (by decide) value)]
    exact String.toList_ofList

/-- A text with a character that is neither a digit nor a sign is no integer. -/
theorem readInt64?_of_mem
    {s : List Char}
    {c : Char}
    (member : c ∈ s)
    (noDigit : c.isDigit = false)
    (noMinus : c ≠ '-')
    (noPlus : c ≠ '+') :
    Text.readInt64? s = none := by
  have noDigits {rest : List Char} (member : c ∈ rest) : Text.readDigits? rest = none := by
    rw [Text.readDigits?, Number.all_isDigit_of_mem member noDigit, Bool.and_false,
      if_neg Bool.false_ne_true]
  have noInt : Text.readInt? s = none := by
    unfold Text.readInt?
    split
    · rw [noDigits (List.mem_of_ne_of_mem noPlus member)]
      rfl
    · rw [noDigits (List.mem_of_ne_of_mem noMinus member)]
      rfl
    · rw [noDigits member]
      rfl
  rw [Text.readInt64?, noInt]
  rfl

/-! ## Floating-point numbers -/

/-- A text with a point that is the literal of a floating-point number is read as
the number. -/
theorem readScalar_of_readBinary64?
    {s : List Char}
    {value : Binary64}
    (point : '.' ∈ s)
    (isNumber : Number.readBinary64? s = some value) :
    readScalar s = .float value := by
  have hasPoint : s.contains '.' = true := by simpa using point
  rw [readScalar, readInt64?_of_mem point rfl (by decide) (by decide)]
  simp only [hasPoint, if_true, isNumber]

/-- Behind its sign, a magnitude other than zero is written as its shortest
decimal. -/
theorem floatChars_of_ne_zero
    {n : Nat}
    (nonzero : n ≠ 0)
    (negative : Bool)
    (representable : Number.binary64.Representable n) :
    Scalar.floatChars (.finite negative n representable) =
      Number.signed negative
        (Scalar.numberNotation.positionalChars (Decimal.shortest .up n)) := by
  have magnitude : Scalar.numberNotation.magnitudeChars n =
      Scalar.numberNotation.positionalChars (Decimal.shortest .up n) := by
    rw [Number.Notation.magnitudeChars, if_neg nonzero]
    rfl
  rw [Scalar.floatChars, Number.Notation.signedChars, magnitude]
  rfl

/-- A decimal without places is written as an integer. -/
theorem exists_signed_eq_intChars
    {decimal : Decimal}
    (someDigit : decimal.digits ≠ 0)
    (whole : ¬decimal.exponent < 0)
    (negative : Bool) :
    ∃ value : Int,
      Number.signed negative (Scalar.numberNotation.positionalChars decimal) =
        Text.intChars value := by
  have shape : Scalar.numberNotation.positionalChars decimal =
      Text.digits (decimal.digits * 10 ^ decimal.exponent.toNat) := by
    rw [Number.Notation.positionalChars, if_neg whole, ← Number.digits_append_zeros someDigit]
    exact List.append_nil _
  have positive : 0 < decimal.digits * 10 ^ decimal.exponent.toNat :=
    Nat.mul_pos (Nat.pos_of_ne_zero someDigit) (Nat.pow_pos (by decide))
  rw [shape]
  cases negative with
  | false => exact ⟨.ofNat _, rfl⟩
  | true =>
      obtain ⟨n, isSucc⟩ := Nat.exists_eq_succ_of_ne_zero (Nat.ne_of_gt positive)
      exact ⟨.negSucc n, by rw [isSucc]; rfl⟩

/-- The character stands in the written form of some number. -/
def isNumeral (c : Char) : Bool := c.isAlphanum || c == '.' || c == '-'

theorem isNumeral_of_isDigit {c : Char} (digit : c.isDigit = true) : isNumeral c = true := by
  simp [isNumeral, Char.isAlphanum, digit]

theorem isNumeral_of_mem_intChars
    {value : Int}
    {c : Char}
    (member : c ∈ Text.intChars value) :
    isNumeral c = true := by
  rcases Text.isDigit_or_eq_of_mem_intChars member with digit | rfl
  · exact isNumeral_of_isDigit digit
  · rfl

/-- A decimal with places is written in numerals. -/
theorem isNumeral_of_mem_signed_pointed
    {negative : Bool}
    {digits : List Char}
    (allDigits : ∀ c ∈ digits, c.isDigit = true)
    {places : Nat}
    {c : Char}
    (member : c ∈ Number.signed negative (Number.Notation.pointed digits places)) :
    isNumeral c = true := by
  obtain ⟨first, whole, fraction, shape, wholeDigits, fractionDigits, -⟩ :=
    Number.exists_pointed allDigits places
  have inside {c : Char} (member : c ∈ Number.Notation.pointed digits places) :
      isNumeral c = true := by
    rw [shape, List.mem_append] at member
    rcases member with member | member
    · exact isNumeral_of_isDigit (wholeDigits c member)
    · rcases List.mem_cons.mp member with rfl | member
      · rfl
      · exact isNumeral_of_isDigit (fractionDigits c member)
  cases negative with
  | false => exact inside member
  | true =>
      rcases List.mem_cons.mp member with rfl | member
      · rfl
      · exact inside member

/-- A magnitude other than zero is written in numerals with a point, and read from
them, or like an integer. -/
theorem floatChars_form
    {n : Nat}
    (nonzero : n ≠ 0)
    (negative : Bool)
    (representable : Number.binary64.Representable n) :
    ('.' ∈ Scalar.floatChars (.finite negative n representable) ∧
        Number.readBinary64? (Scalar.floatChars (.finite negative n representable)) =
          some (.finite negative n representable) ∧
        ∀ c ∈ Scalar.floatChars (.finite negative n representable), isNumeral c = true) ∨
      ∃ whole : Int,
        Scalar.floatChars (.finite negative n representable) = Text.intChars whole := by
  have rounds := Decimal.roundsTo_shortest .up representable nonzero
  have someDigit := Decimal.digits_ne_zero_of_roundsTo representable nonzero rounds
  have written := floatChars_of_ne_zero nonzero negative representable
  by_cases hasPlaces : (Decimal.shortest .up n).exponent < 0
  · have read := Number.readBinary64?_pointed representable nonzero rounds hasPlaces negative
    rw [Number.Notation.positionalChars, if_pos hasPlaces] at written
    rw [written]
    refine .inl ⟨Number.point_mem_signed_pointed negative _ _, read, fun c member => ?_⟩
    exact isNumeral_of_mem_signed_pointed (fun _ digit => Text.isDigit_of_mem_digits digit) member
  · rw [written]
    exact .inr (exists_signed_eq_intChars someDigit hasPlaces negative)

/-- Every floating-point number other than minus zero keeps its form: with a
point it is read as itself, and otherwise as an integer or a text. -/
theorem chars_readScalar_floatChars
    {value : Binary64}
    (notMinusZero : value ≠ .zero true) :
    (readScalar (Scalar.floatChars value)).chars = Scalar.floatChars value := by
  cases value with
  | nan => rfl
  | infinite negative => cases negative <;> rfl
  | finite negative n representable =>
      by_cases zero : n = 0
      · subst zero
        cases negative with
        | true => exact absurd rfl notMinusZero
        | false => exact chars_readScalar_intChars 0
      · rcases floatChars_form zero negative representable with ⟨point, read, -⟩ | ⟨whole, shape⟩
        · rw [readScalar_of_readBinary64? point read]
          rfl
        · rw [shape]
          exact chars_readScalar_intChars whole

/-- A floating-point number that is written with a point is read as itself. -/
theorem readScalar_floatChars
    {value : Binary64}
    (point : '.' ∈ Scalar.floatChars value) :
    readScalar (Scalar.floatChars value) = .float value := by
  cases value with
  | nan => exact absurd point (by decide)
  | infinite negative => cases negative <;> exact absurd point (by decide)
  | finite negative n representable =>
      by_cases zero : n = 0
      · subst zero
        cases negative with
        | false => exact absurd point (not_mem_intChars rfl (by decide) 0)
        | true => exact absurd point (by decide : '.' ∉ "-0".toList)
      · rcases floatChars_form zero negative representable with ⟨-, read, -⟩ | ⟨whole, shape⟩
        · exact readScalar_of_readBinary64? point read
        · rw [shape] at point
          exact absurd point (not_mem_intChars rfl (by decide) whole)

/-- Only a text with a point is read as a floating-point number. -/
theorem point_mem_of_readScalar
    {s : List Char}
    {value : Binary64}
    (isFloat : readScalar s = .float value) :
    '.' ∈ s := by
  by_contra noPoint
  have plain : s.contains '.' = false := by simpa using noPoint
  simp only [readScalar, plain, Bool.false_eq_true, if_false] at isFloat
  split at isFloat
  · cases isFloat
  · split at isFloat
    · cases isFloat
    · split at isFloat <;> cases isFloat

/-- A floating-point number is written in numerals. -/
theorem isNumeral_of_mem_floatChars
    {value : Binary64}
    {c : Char}
    (member : c ∈ Scalar.floatChars value) :
    isNumeral c = true := by
  have each {s : List Char} (all : s.all isNumeral = true) (member : c ∈ s) :
      isNumeral c = true :=
    List.all_eq_true.mp all c member
  cases value with
  | nan => exact each (s := "NaN".toList) (by decide) member
  | infinite negative =>
      cases negative with
      | false => exact each (s := "inf".toList) (by decide) member
      | true => exact each (s := "-inf".toList) (by decide) member
  | finite negative n representable =>
      by_cases zero : n = 0
      · subst zero
        cases negative with
        | false => exact each (s := "0".toList) (by decide) member
        | true => exact each (s := "-0".toList) (by decide) member
      · rcases floatChars_form zero negative representable with ⟨-, -, numerals⟩ | ⟨whole, shape⟩
        · exact numerals c member
        · rw [shape] at member
          exact isNumeral_of_mem_intChars member

/-! ## Values that are spelled otherwise -/

/-- A text with a comma stands for itself. -/
theorem readScalar_of_comma
    {s : List Char}
    (comma : ',' ∈ s) :
    readScalar s = .text (String.ofList s) := by
  have notTrue : s ≠ "true".toList := fun same => absurd (same ▸ comma) (by decide)
  have notFalse : s ≠ "false".toList := fun same => absurd (same ▸ comma) (by decide)
  simp only [readScalar, readInt64?_of_mem comma rfl (by decide) (by decide),
    Number.readBinary64?_of_comma comma, ite_self, notTrue, notFalse, if_false]

/-- What a text without a comma is read as is written without one. -/
theorem comma_not_mem_chars_readScalar
    {s : List Char}
    (absent : ',' ∉ s) :
    ',' ∉ (readScalar s).chars := by
  rw [readScalar]
  split
  · exact not_mem_intChars rfl (by decide) _
  · split
    · exact fun comma => absurd (isNumeral_of_mem_floatChars comma) (by decide)
    · split
      · decide
      · split
        · decide
        · rwa [Scalar.chars, String.toList_ofList]

/-- A text and the form of the value that it is read as do not differ in front of a
comma. -/
theorem differBehind_chars_readScalar (s : List Char) :
    Text.DifferBehind ',' (readScalar s).chars s := by
  by_cases comma : ',' ∈ s
  · rw [readScalar_of_comma comma, Scalar.chars, String.toList_ofList]
    exact .self ',' s
  · exact ⟨[], _, _, rfl, rfl, comma_not_mem_chars_readScalar comma, comma⟩

/-! ## Canonical texts -/

/-- A plain value is read from its written form as a value with this form. -/
theorem chars_readScalar_of_isPlain
    {value : Scalar}
    (plain : value.IsPlain) :
    (readScalar value.chars).chars = value.chars := by
  cases value with
  | text value => exact congrArg Scalar.chars plain
  | int value => exact congrArg Scalar.chars (readScalar_intChars value)
  | float value => exact chars_readScalar_floatChars plain
  | bool value => exact congrArg Scalar.chars (readScalar_bool value)

/-- The texts that keep their form are the canonical ones. -/
theorem isCanonical_iff {s : List Char} : IsCanonical s ↔ (readScalar s).chars = s := by
  constructor
  · rintro ⟨value, plain, rfl⟩
    exact chars_readScalar_of_isPlain plain
  · intro keeps
    refine ⟨readScalar s, ?_, keeps⟩
    cases read : readScalar s with
    | text value =>
        rw [read] at keeps
        rw [Scalar.IsPlain, ← read]
        exact congrArg readScalar keeps
    | int value => trivial
    | float value =>
        rintro rfl
        have form : s = Scalar.floatChars (.zero true) := by
          rw [← keeps, read]
          rfl
        rw [form] at read
        cases read
    | bool value => trivial

end Filter
end RestQuery
