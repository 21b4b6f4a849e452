import RestQuery.Filter.Reading
import RestQuery.Proofs.Sequence
import RestQuery.Proofs.Text.Cutting

/-!
# Conditions

A condition is written as the token of its operator and its operand. The token
is found again in front of any operand, and the operand goes to the reader of
the operator's kind. What comes out is a condition on the column it was read
for, under as many negations as were written.
-/

namespace RestQuery

namespace Operator

/-- No token holds a character that ends one. -/
theorem endsToken_of_mem_token
    {operator : Operator}
    {c : Char}
    (member : c ∈ operator.token.toList) :
    Filter.endsToken c = false := by
  have noneEnds : (operator.token.toList.all fun c => !Filter.endsToken c) = true := by
    cases operator <;> decide
  simpa using List.all_eq_true.mp noneEnds c member

/-- Only one token starts like a negation. -/
theorem after?_negation_token
    {operator : Operator}
    (notNot : operator ≠ .not)
    (rest : List Char) :
    Text.after? "not.".toList (operator.token.toList ++ rest) = none := by
  cases operator <;> first | rfl | exact absurd rfl notNot

theorem ne_not_of_isLogical
    {operator : Operator}
    (notLogical : operator.isLogical = false) :
    operator ≠ .not := by
  rintro rfl
  cases notLogical

end Operator

namespace Filter

open Sequence

variable {inGroup : Bool} {column : List Char} {operator : Operator}

/-! ## Reading a token and its operand -/

/-- A value that does not start with a negation is one condition. -/
theorem readLeaf_of_after?_eq_none
    {value : List Char}
    (notNegated : Text.after? "not.".toList value = none) :
    readLeaf inGroup column value = readCondition inGroup column value := by
  rw [readLeaf.eq_def]
  split
  · next rest =>
      have negated : Text.after? "not.".toList ('n' :: 'o' :: 't' :: '.' :: rest) = some rest :=
        Text.after?_append "not.".toList rest
      rw [negated] at notNegated
      cases notNegated
  · rfl

/-- A token at the front is the one of a condition. -/
theorem readLeaf_token
    (notLogical : operator.isLogical = false)
    (s : List Char) :
    readLeaf inGroup column (operator.token.toList ++ s) =
      readCondition inGroup column (operator.token.toList ++ s) :=
  readLeaf_of_after?_eq_none
    (Operator.after?_negation_token (Operator.ne_not_of_isLogical notLogical) s)

/-- A negation is read as one of what follows it. -/
theorem readLeaf_negation
    (rest : List Char) :
    readLeaf inGroup column ("not.".toList ++ rest) =
      (readLeaf inGroup column rest).map .not := by
  show readLeaf inGroup column ('n' :: 'o' :: 't' :: '.' :: rest) = _
  rw [readLeaf]
  cases readLeaf inGroup column rest <;> rfl

/-- The token is what stands before the first character that ends one. -/
theorem takeWhile_token
    (operator : Operator)
    {c : Char}
    (ends : endsToken c = true)
    (rest : List Char) :
    (operator.token.toList ++ c :: rest).takeWhile (fun d => !endsToken d) =
      operator.token.toList := by
  have inToken : ∀ d ∈ operator.token.toList, (!endsToken d) = true := fun d member => by
    rw [Operator.endsToken_of_mem_token member, Bool.not_false]
  rw [List.takeWhile_append_of_pos inToken, List.takeWhile_cons_of_neg (by simp [ends]),
    List.append_nil]

theorem dropWhile_token
    (operator : Operator)
    {c : Char}
    (ends : endsToken c = true)
    (rest : List Char) :
    (operator.token.toList ++ c :: rest).dropWhile (fun d => !endsToken d) = c :: rest := by
  have inToken : ∀ d ∈ operator.token.toList, (!endsToken d) = true := fun d member => by
    rw [Operator.endsToken_of_mem_token member, Bool.not_false]
  rw [List.dropWhile_append_of_pos inToken, List.dropWhile_cons_of_neg (by simp [ends])]

/-- The operator is found again by its token. -/
theorem named_token (operator : Operator) :
    Operator.named (String.ofList operator.token.toList) = .ok operator := by
  rw [String.ofList_toList, Operator.named, Operator.ofToken?_token]

/-- Behind its token and a point, the operand is read as the operator needs
it. -/
theorem readCondition_point
    (notSearch : operator.isFullText = false)
    (s : List Char) :
    readCondition inGroup column (operator.token.toList ++ '.' :: s) =
      readOperand inGroup column operator s >>= condition (String.ofList column) operator := by
  have point : endsToken '.' = true := rfl
  rw [readCondition, takeWhile_token operator point, dropWhile_token operator point,
    named_token]
  simp [bind, Except.bind, notSearch, Text.after?, orFail]

/-- Behind its token, the language and the query are read for a search. -/
theorem readCondition_search
    (search : operator.isFullText = true)
    (s : List Char) :
    readCondition inGroup column (operator.token.toList ++ '(' :: s) =
      orFail (malformed column (operator.token.toList ++ '(' :: s) .incompleteSearch)
          (readSearch? inGroup ('(' :: s)) >>=
        fun found => condition (String.ofList column) operator (.fullText found) := by
  have parenthesis : endsToken '(' = true := rfl
  rw [readCondition, takeWhile_token operator parenthesis,
    dropWhile_token operator parenthesis, named_token]
  simp [bind, Except.bind, search]

/-! ## What is built -/

/-- A fitting right-hand side is not null, and its operator is not a logical
one. -/
theorem isNull_isLogical_of_fits
    {criterion : Criterion}
    (fits : criterion.fits operator.operandKind = true) :
    criterion.isNull = false ∧ operator.isLogical = false := by
  constructor
  · cases criterion <;> first | rfl | simp [Criterion.fits] at fits
  · cases operator <;> first | rfl | simp [Criterion.fits, Operator.operandKind] at fits

/-- Only a search is a right-hand side of an operator that searches. -/
theorem isFullText_of_fits
    {criterion : Criterion}
    (fits : criterion.fits operator.operandKind = true)
    (noSearch : ∀ search, criterion ≠ .fullText search) :
    operator.isFullText = false := by
  rw [Operator.isFullText, beq_eq_false_iff_ne]
  intro kind
  rw [kind] at fits
  cases criterion with
  | fullText search => exact noSearch search rfl
  | _ => cases fits

theorem checkOperand_of_fits
    {criterion : Criterion}
    (fits : criterion.fits operator.operandKind = true)
    (column : String) :
    checkOperand column operator criterion = .ok () := by
  have notLogical := (isNull_isLogical_of_fits fits).2
  rw [checkOperand, notLogical, if_neg Bool.false_ne_true, if_pos fits]

/-- A fitting right-hand side is kept as it is. -/
theorem condition_of_fits
    {criterion : Criterion}
    (fits : criterion.fits operator.operandKind = true)
    (column : String) :
    condition column operator criterion = .ok (.leaf column operator criterion) := by
  have someOperand : ¬criterion.isNull = true := by
    simp [(isNull_isLogical_of_fits fits).1]
  rw [condition.eq_def, if_neg someOperand, checkOperand_of_fits fits]
  rfl

/-- A fitting right-hand side is written behind the token. -/
theorem conditionChars_of_fits
    {criterion : Criterion}
    (fits : criterion.fits operator.operandKind = true)
    (column : String) :
    conditionChars inGroup column operator criterion =
      .ok (operator.token.toList ++ operandChars inGroup operator criterion) := by
  have someOperand : ¬criterion.isNull = true := by
    simp [(isNull_isLogical_of_fits fits).1]
  rw [conditionChars, conditionCharsBy.eq_def, if_neg someOperand, checkOperand_of_fits fits]
  rfl

/-- A right-hand side that is read is accepted, and written behind the token. -/
theorem condition_of_accepted
    {found : Criterion}
    (accepted : operator = .is ∧ found = .null ∨ found.fits operator.operandKind = true)
    (column : String) :
    condition column operator found = .ok (.leaf column operator found) := by
  rcases accepted with ⟨rfl, rfl⟩ | fits
  · rfl
  · exact condition_of_fits fits column

theorem conditionChars_of_accepted
    {found : Criterion}
    (accepted : operator = .is ∧ found = .null ∨ found.fits operator.operandKind = true)
    (column : String) :
    conditionChars inGroup column operator found =
      .ok (operator.token.toList ++ operandChars inGroup operator found) := by
  rcases accepted with ⟨rfl, rfl⟩ | fits
  · rfl
  · exact conditionChars_of_fits fits column

theorem fits_of_checkOperand
    {column : String}
    {criterion : Criterion}
    (checked : checkOperand column operator criterion = .ok ()) :
    criterion.fits operator.operandKind = true := by
  unfold checkOperand at checked
  split at checked
  · cases checked
  · split at checked
    · assumption
    · cases checked

/-- An accepted condition can be written, with one value before and after the
check. -/
theorem exists_valueChars_of_condition
    (inGroup : Bool)
    {column : String}
    {criterion : Criterion}
    {built : Filter}
    (accepted : condition column operator criterion = .ok built) :
    ∃ value,
      conditionChars inGroup column operator criterion = .ok value ∧
        built.valueChars inGroup = .ok value := by
  by_cases isNull : criterion.isNull = true
  · rw [condition.eq_def, if_pos isNull] at accepted
    rw [conditionChars, conditionCharsBy.eq_def, if_pos isNull]
    cases operator <;> cases accepted <;> exact ⟨_, rfl, rfl⟩
  · rw [condition.eq_def, if_neg isNull] at accepted
    obtain ⟨_, checked, returned⟩ := bind_eq_ok_iff.mp accepted
    cases returned
    have written : conditionChars inGroup column operator criterion = _ :=
      conditionChars_of_fits (fits_of_checkOperand checked) column
    exact ⟨_, written, written⟩

/-- A condition is one on its column. -/
theorem column?_of_condition
    {column : String}
    {criterion : Criterion}
    {filter : Filter}
    (built : condition column operator criterion = .ok filter) :
    filter.column? = some column := by
  unfold condition at built
  split at built
  · split at built <;> cases built <;> rfl
  · obtain ⟨-, -, returned⟩ := bind_eq_ok_iff.mp built
    cases returned
    rfl

theorem column?_of_readCondition
    {value : List Char}
    {filter : Filter}
    (read : readCondition inGroup column value = .ok filter) :
    filter.column? = some (String.ofList column) := by
  simp only [readCondition] at read
  split at read
  · obtain ⟨_, refused, _⟩ := bind_eq_ok_iff.mp read
    cases refused
  · obtain ⟨operator, -, read⟩ := bind_eq_ok_iff.mp read
    split at read
    · obtain ⟨search, -, built⟩ := bind_eq_ok_iff.mp read
      exact column?_of_condition built
    · obtain ⟨operand, -, read⟩ := bind_eq_ok_iff.mp read
      obtain ⟨criterion, -, built⟩ := bind_eq_ok_iff.mp read
      exact column?_of_condition built

/-- What is read for a column is a condition on it. -/
theorem column?_of_readLeaf
    {value : List Char}
    {filter : Filter}
    (read : readLeaf inGroup column value = .ok filter) :
    filter.column? = some (String.ofList column) := by
  induction value using readLeaf.induct generalizing filter with
  | case1 rest inductionHypothesis =>
      rw [readLeaf] at read
      obtain ⟨inner, readInner, returned⟩ := bind_eq_ok_iff.mp read
      cases returned
      rw [column?]
      exact inductionHypothesis readInner
  | case2 value notNegated =>
      rw [readLeaf.eq_def] at read
      split at read
      · next rest => exact absurd rfl (notNegated rest)
      · exact column?_of_readCondition read

end Filter
end RestQuery
