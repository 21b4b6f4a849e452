import RestQuery.Proofs.Json.Integers
import RestQuery.Proofs.Number.Notation

/-!
# Floating-point numbers in documents

Every finite floating-point number is written as the literal of a number: with
places or with an exponent or both, and without a leading zero that a literal
may not have.
-/

namespace RestQuery
namespace Json

open Number (Binary64 Decimal)

/-! ## The parts of a literal -/

/-- Digits that start with a zero only if they are a single one. -/
def IsIntegral (s : List Char) : Prop :=
  ∃ first rest,
    s = first :: rest ∧ (∀ c ∈ first :: rest, c.isDigit = true) ∧ (first = '0' → rest = [])

/-- One or more digits. -/
def AreDigits (s : List Char) : Prop := s ≠ [] ∧ ∀ c ∈ s, c.isDigit = true

/-- A point and digits, or nothing. -/
def IsFraction (s : List Char) : Prop := s = [] ∨ ∃ digits, s = '.' :: digits ∧ AreDigits digits

/-- An exponent with its sign, or nothing. -/
def IsExponent (s : List Char) : Prop :=
  s = [] ∨ ∃ sign digits, s = 'e' :: sign :: digits ∧ (sign = '+' ∨ sign = '-') ∧ AreDigits digits

/-- What follows is not a digit. -/
def EndsDigits (s : List Char) : Prop := ∀ c, s.head? = some c → c.isDigit = false

theorem IsExponent.endsDigits {s : List Char} (isExponent : IsExponent s) : EndsDigits s := by
  rintro c head
  rcases isExponent with rfl | ⟨sign, digits, rfl, -, -⟩
  · cases head
  · cases head
    rfl

theorem IsFraction.endsDigits_append
    {fraction exponent : List Char}
    (isFraction : IsFraction fraction)
    (isExponent : IsExponent exponent) :
    EndsDigits (fraction ++ exponent) := by
  rcases isFraction with rfl | ⟨digits, rfl, -⟩
  · exact isExponent.endsDigits
  · rintro c head
    cases head
    rfl

theorem dropWhile_isDigit_append
    {digits rest : List Char}
    (allDigits : ∀ c ∈ digits, c.isDigit = true)
    (ends : EndsDigits rest) :
    (digits ++ rest).dropWhile Char.isDigit = rest := by
  rw [List.dropWhile_append_of_pos allDigits]
  cases rest with
  | nil => rfl
  | cons c more => rw [List.dropWhile_cons_of_neg (by simp [ends c rfl])]

theorem afterDigits?_append
    {digits rest : List Char}
    (areDigits : AreDigits digits)
    (ends : EndsDigits rest) :
    afterDigits? (digits ++ rest) = some rest := by
  obtain ⟨some_, allDigits⟩ := areDigits
  cases digits with
  | nil => exact absurd rfl some_
  | cons c more =>
      obtain ⟨first, others⟩ := List.forall_mem_cons.mp allDigits
      rw [List.cons_append, afterDigits?, if_pos first, dropWhile_isDigit_append others ends]

theorem afterIntegral?_append
    {whole rest : List Char}
    (isIntegral : IsIntegral whole)
    (ends : EndsDigits rest) :
    afterIntegral? (whole ++ rest) = some rest := by
  obtain ⟨first, more, rfl, allDigits, zero⟩ := isIntegral
  by_cases isZero : first = '0'
  · rw [zero isZero, isZero]
    rfl
  · obtain ⟨isDigit, others⟩ := List.forall_mem_cons.mp allDigits
    rw [List.cons_append, afterIntegral?.eq_def]
    split
    · next same => exact absurd (List.cons.inj same).1 isZero
    · next same =>
        obtain ⟨rfl, rfl⟩ := List.cons.inj same
        rw [if_pos isDigit, dropWhile_isDigit_append others ends]
    · next same => cases same

theorem afterFraction?_append
    {fraction exponent : List Char}
    (isFraction : IsFraction fraction)
    (isExponent : IsExponent exponent) :
    afterFraction? (fraction ++ exponent) = some exponent := by
  rcases isFraction with rfl | ⟨digits, rfl, areDigits⟩
  · rcases isExponent with rfl | ⟨sign, digits, rfl, -, -⟩ <;> rfl
  · exact afterDigits?_append areDigits isExponent.endsDigits

theorem afterExponent?_of_isExponent
    {exponent : List Char}
    (isExponent : IsExponent exponent) :
    afterExponent? exponent = some [] := by
  rcases isExponent with rfl | ⟨sign, digits, rfl, rfl | rfl, areDigits⟩
  · rfl
  · have after : afterDigits? (digits ++ []) = some [] := afterDigits?_append areDigits nofun
    rwa [List.append_nil] at after
  · have after : afterDigits? (digits ++ []) = some [] := afterDigits?_append areDigits nofun
    rwa [List.append_nil] at after

/-! ## Literals -/

/-- The characters are the parts of a number without a sign. -/
def IsDecimalForm (s : List Char) : Prop :=
  ∃ whole fraction exponent,
    s = whole ++ (fraction ++ exponent) ∧
      IsIntegral whole ∧ IsFraction fraction ∧ IsExponent exponent

theorem isNumber_signed
    {s : List Char}
    (isForm : IsDecimalForm s)
    (negative : Bool) :
    isNumber (Number.signed negative s) = true := by
  obtain ⟨whole, fraction, exponent, rfl, isIntegral, isFraction, isExponent⟩ := isForm
  have magnitude_eq : magnitude (Number.signed negative (whole ++ (fraction ++ exponent))) =
      whole ++ (fraction ++ exponent) := by
    cases negative with
    | true => rfl
    | false =>
        obtain ⟨first, more, rfl, allDigits, -⟩ := isIntegral
        have noSign : first ≠ '-' := Text.ne_of_isDigit (allDigits first List.mem_cons_self) rfl
        rw [Number.signed, if_neg Bool.false_ne_true, magnitude.eq_def]
        split
        · next same => exact absurd (List.cons.inj same).1 noSign
        · rfl
  rw [isNumber, magnitude_eq,
    afterIntegral?_append isIntegral (isFraction.endsDigits_append isExponent), Option.bind_some,
    afterFraction?_append isFraction isExponent, Option.bind_some,
    afterExponent?_of_isExponent isExponent]
  rfl

/-- A number has digits, a point, an exponent mark and signs. -/
theorem isDigit_or_mem_of_isDecimalForm
    {s : List Char}
    (isForm : IsDecimalForm s)
    {c : Char}
    (member : c ∈ s) :
    c.isDigit = true ∨ c ∈ ['.', 'e', '+', '-'] := by
  obtain ⟨whole, fraction, exponent, rfl, isIntegral, isFraction, isExponent⟩ := isForm
  rcases List.mem_append.mp member with inWhole | member
  · obtain ⟨first, more, rfl, allDigits, -⟩ := isIntegral
    exact .inl (allDigits c inWhole)
  · rcases List.mem_append.mp member with inFraction | inExponent
    · rcases isFraction with rfl | ⟨digits, rfl, -, allDigits⟩
      · cases inFraction
      · rcases List.mem_cons.mp inFraction with rfl | digit
        · exact .inr (by decide)
        · exact .inl (allDigits c digit)
    · rcases isExponent with rfl | ⟨sign, digits, rfl, isSign, -, allDigits⟩
      · cases inExponent
      · rcases List.mem_cons.mp inExponent with rfl | inExponent
        · exact .inr (by decide)
        · rcases List.mem_cons.mp inExponent with rfl | digit
          · rcases isSign with rfl | rfl
            · exact .inr (by decide)
            · exact .inr (by decide)
          · exact .inl (allDigits c digit)

theorem isLiteral_signed
    {s : List Char}
    (isForm : IsDecimalForm s)
    (negative : Bool) :
    IsLiteral (Number.signed negative s) := by
  have number := isNumber_signed isForm negative
  generalize isLiteral : Number.signed negative s = literal at number
  refine ⟨?_, fun c member => ?_⟩
  · have noName :
        literal ≠ "null".toList ∧ literal ≠ "true".toList ∧ literal ≠ "false".toList := by
      refine ⟨?_, ?_, ?_⟩ <;> rintro rfl <;> cases number
    rw [wordToken?, if_neg noName.1, if_neg noName.2.1, if_neg noName.2.2, if_pos number]
  · have inForm : c = '-' ∨ c ∈ s := by
      rw [← isLiteral] at member
      cases negative with
      | true => exact List.mem_cons.mp member
      | false => exact .inr member
    rcases inForm with rfl | inForm
    · rfl
    · rcases isDigit_or_mem_of_isDecimalForm isForm inForm with digit | mark
      · exact isWordChar_of_isDigit digit
      · have marks : (['.', 'e', '+', '-'].all isWordChar) = true := by decide
        exact List.all_eq_true.mp marks c mark

/-! ## Written numbers -/

theorem areDigits_digits (n : Nat) : AreDigits (Text.digits n) :=
  ⟨Text.digits_ne_nil n, fun _ member => Text.isDigit_of_mem_digits member⟩

theorem isExponent_exponentChars (exponent : Int) :
    IsExponent ('e' :: Number.Notation.exponentChars exponent) := by
  refine .inr ⟨_, _, rfl, ?_, areDigits_digits exponent.natAbs⟩
  by_cases negative : exponent < 0
  · exact .inr (if_pos negative)
  · exact .inl (if_neg negative)

/-- A decimal other than zero is written positionally with places behind its
point. -/
theorem isDecimalForm_positionalChars
    {decimal : Decimal}
    (someDigit : decimal.digits ≠ 0) :
    IsDecimalForm (numberNotation.positionalChars decimal) := by
  have noZero := Text.head?_digits_ne_zero someDigit
  by_cases hasPlaces : decimal.exponent < 0
  · obtain ⟨first, whole, fraction, shape, wholeDigits, fractionDigits, length, -, head⟩ :=
      Number.exists_pointed (fun _ member => Text.isDigit_of_mem_digits member)
        decimal.exponent.natAbs
    refine ⟨first :: whole, '.' :: fraction, [], ?_, ⟨first, whole, rfl, wholeDigits, ?_⟩,
      .inr ⟨fraction, rfl, ?_, fractionDigits⟩, .inl rfl⟩
    · rw [Number.Notation.positionalChars, if_pos hasPlaces, List.append_nil]
      exact shape
    · rintro rfl
      rcases head with leading | ⟨-, single⟩
      · exact absurd leading noZero
      · exact single
    · rintro rfl
      rw [List.length_nil] at length
      omega
  · cases shape : Text.digits decimal.digits with
    | nil => exact absurd shape (Text.digits_ne_nil _)
    | cons first more =>
        rw [shape] at noZero
        refine ⟨first :: more ++ List.replicate decimal.exponent.toNat '0', ['.', '0'], [], ?_,
          ⟨first, _, rfl, ?_, fun zero => absurd (congrArg some zero) noZero⟩,
          .inr ⟨['0'], rfl, by simp [AreDigits]⟩, .inl rfl⟩
        · rw [Number.Notation.positionalChars, if_neg hasPlaces, shape]
          rfl
        · intro c member
          have member : c ∈ Text.digits decimal.digits ++
              List.replicate decimal.exponent.toNat '0' := by
            rw [shape]
            exact member
          rcases List.mem_append.mp member with digit | zero
          · exact Text.isDigit_of_mem_digits digit
          · rw [List.eq_of_mem_replicate zero]
            rfl

/-- A decimal other than zero is written with an exponent behind its digits. -/
theorem isDecimalForm_scientificChars
    {decimal : Decimal}
    (someDigit : decimal.digits ≠ 0)
    (leading : Int) :
    IsDecimalForm (Number.Notation.scientificChars decimal leading) := by
  have noZero := Text.head?_digits_ne_zero someDigit
  have allDigits := (areDigits_digits decimal.digits).2
  cases shape : Text.digits decimal.digits with
  | nil => exact absurd shape (Text.digits_ne_nil _)
  | cons first more =>
      rw [shape] at noZero allDigits
      obtain ⟨firstDigit, moreDigits⟩ := List.forall_mem_cons.mp allDigits
      have isIntegral : IsIntegral [first] := ⟨first, [], rfl, by simpa using firstDigit, fun _ => rfl⟩
      rw [Number.Notation.scientificChars, shape]
      cases more with
      | nil =>
          exact ⟨[first], [], _, rfl, isIntegral, .inl rfl, isExponent_exponentChars leading⟩
      | cons next others =>
          refine ⟨[first], '.' :: next :: others, _, ?_, isIntegral,
            .inr ⟨_, rfl, List.cons_ne_nil next others, moreDigits⟩,
            isExponent_exponentChars leading⟩
          rfl

/-- Every finite floating-point number is written as the literal of a number. -/
theorem isLiteral_signedChars
    {n : Nat}
    (representable : Number.binary64.Representable n)
    (negative : Bool) :
    IsLiteral (numberNotation.signedChars negative n) := by
  have shape : numberNotation.signedChars negative n =
      Number.signed negative (numberNotation.magnitudeChars n) := rfl
  rw [shape]
  refine isLiteral_signed ?_ negative
  by_cases zero : n = 0
  · subst zero
    exact ⟨['0'], ['.', '0'], [], rfl, ⟨'0', [], rfl, by simp, fun _ => rfl⟩,
      .inr ⟨['0'], rfl, by simp [AreDigits]⟩, .inl rfl⟩
  · have rounds := Decimal.roundsTo_shortest numberNotation.tie representable zero
    have someDigit := Decimal.digits_ne_zero_of_roundsTo representable zero rounds
    rw [Number.Notation.magnitudeChars, if_neg zero]
    simp only [Number.Notation.decimalChars]
    split
    · exact isDecimalForm_positionalChars someDigit
    · exact isDecimalForm_scientificChars someDigit _

end Json
end RestQuery
