import RestQuery.Proofs.Filter.Rereading

/-!
# Accepted conditions are written, read and written again

Whatever condition was accepted, its parameter is read as a condition with the
same operator and the same kind of right-hand side, under the same negations.
What can be told of the second parameter is told by the first one: they are the
same exactly if nothing bare in it would be spelled otherwise.
-/

namespace RestQuery
namespace Filter

open Sequence

variable {operator : Operator}

/-! ## Conditions that are read again -/

/-- The condition under the negations of a filter: its column, its operator and
its right-hand side. -/
def condition? : Filter → Option (String × Operator × Criterion)
  | leaf column operator criterion => some (column, operator, criterion)
  | not inner => inner.condition?
  | group _ _ => none

/-- The filter with another right-hand side in its condition. -/
def withOperand (found : Criterion) : Filter → Filter
  | leaf column operator _ => .leaf column operator found
  | not inner => .not (inner.withOperand found)
  | group connective children => .group connective children

/-- A written condition is read as one with the expected kind of right-hand side,
and that one is written the same exactly if all is canonical. -/
structure IsReread
    (name : String)
    (operator : Operator)
    (criterion found : Criterion)
    (value : List Char) : Prop where
  readsAs : ReadsAs (.leaf name operator criterion) name value (.leaf name operator found)
  shape : found.shape = criterion.shapeRead operator
  rewritten :
    (leaf name operator found).valueChars false = .ok value ↔ criterion.IsCanonical operator

/-- An operand that is read as another one makes such a condition. -/
theorem Rereads.isReread
    {criterion found : Criterion}
    {s : List Char}
    (rereads : Rereads operator criterion found s)
    (fits : criterion.fits operator.operandKind = true)
    (notSearch : operator.isFullText = false)
    (name : String) :
    IsReread name operator criterion found (operator.token.toList ++ '.' :: s) where
  readsAs := readsAs_point fits notSearch rereads.written (rereads.read name.toList)
    (condition_of_accepted rereads.accepted name)
  shape := rereads.shape
  rewritten := by
    rw [valueChars, conditionChars_of_accepted rereads.accepted, Except.ok.injEq,
      List.append_cancel_left_eq, rereads.rewritten]

/-- A search is read as one with the same text, cut at the first mark that ends a
language. -/
theorem exists_isReread_search
    (kind : operator.operandKind = .search)
    (search : FullTextSearch)
    (name : String) :
    ∃ found value, IsReread name operator (.fullText search) found value := by
  obtain ⟨⟨language, query⟩, cut⟩ :=
    Text.exists_cutAtMark_append ").".toList search.language.toList search.query.toList
  have whole := Text.eq_append_of_cutAtMark cut
  have chars (s : List Char) : (String.ofList s).toList = s := String.toList_ofList
  refine ⟨.fullText ⟨String.ofList query, String.ofList language⟩, _,
    readsAs_search kind (readSearch?_of_cutAtMark false cut) name, rfl, iff_of_true ?_ trivial⟩
  rw [valueChars_search kind, whole, chars language, chars query]

/-- Every condition with a right-hand side that is not taken for another notation is
read again. -/
theorem exists_isReread
    {criterion : Criterion}
    (fits : criterion.fits operator.operandKind = true)
    (readable : criterion.IsReadable operator)
    (name : String) :
    ∃ found value, IsReread name operator criterion found value := by
  by_cases noSearch : ∀ search, criterion ≠ .fullText search
  · obtain ⟨found, s, rereads⟩ := exists_rereads fits readable noSearch
    exact ⟨found, _, rereads.isReread fits (isFullText_of_fits fits noSearch) name⟩
  · obtain ⟨search, rfl⟩ := not_forall_not.mp noSearch
    have kind : operator.operandKind = .search := by
      cases operator <;> first | rfl | cases fits
    exact exists_isReread_search kind search name

/-! ## Accepted conditions -/

/-- A condition is written as a parameter on its column exactly if it is written as
the value of the parameter. -/
theorem toParam_eq_ok_iff
    {filter : Filter}
    {name : String}
    {value : List Char}
    (isCondition : filter.column? = some name) :
    filter.toParam = .ok ⟨name, String.ofList value⟩ ↔ filter.valueChars false = .ok value := by
  constructor
  · intro written
    obtain ⟨other, valueChars, returned⟩ := bind_eq_ok_iff.mp written
    obtain ⟨-, same⟩ := Param.mk.inj (Except.ok.inj returned)
    rw [valueChars, String.ofList_injective same]
  · exact toParam_of_valueChars isCondition

/-- A null is accepted as a null test or as the negation of one. -/
theorem eq_isNull_or_not_of_condition_null
    {name : String}
    {built : Filter}
    (accepted : condition name operator .null = .ok built) :
    built = isNull name ∨ built = .not (isNull name) := by
  cases operator <;> cases accepted <;> simp

/-- Any other right-hand side is accepted as it is, for an operator that it fits. -/
theorem fits_and_eq_leaf_of_condition
    {name : String}
    {criterion : Criterion}
    {built : Filter}
    (notNull : criterion ≠ .null)
    (accepted : condition name operator criterion = .ok built) :
    criterion.fits operator.operandKind = true ∧ built = .leaf name operator criterion := by
  have someOperand : ¬criterion.isNull = true := by
    cases criterion <;> first | exact Bool.false_ne_true | exact absurd rfl notNull
  rw [condition.eq_def, if_neg someOperand] at accepted
  obtain ⟨_, checked, returned⟩ := bind_eq_ok_iff.mp accepted
  exact ⟨fits_of_checkOperand checked, (Except.ok.inj returned).symm⟩

/-- The right-hand side of a condition that is accepted without negation is kept. -/
theorem eq_of_condition_leaf
    {name : String}
    {criterion found : Criterion}
    (accepted : condition name operator criterion = .ok (.leaf name operator found)) :
    criterion = found := by
  by_cases null : criterion = .null
  · subst null
    rcases eq_isNull_or_not_of_condition_null accepted with same | same
    · cases same
      rfl
    · cases same
  · cases (fits_and_eq_leaf_of_condition null accepted).2
    rfl

/-- Only a search is written otherwise than behind a point. -/
theorem exists_operandChars_eq_cons
    {criterion : Criterion}
    (noSearch : ∀ search, criterion ≠ .fullText search) :
    ∃ s, operandChars false operator criterion = '.' :: s := by
  cases criterion with
  | null => exact ⟨_, rfl⟩
  | scalar value => cases value <;> exact ⟨_, rfl⟩
  | list items =>
      rw [operandChars]
      split <;> exact ⟨_, rfl⟩
  | map values => exact ⟨_, rfl⟩
  | interval range => exact ⟨_, rfl⟩
  | fullText search => exact absurd rfl (noSearch search)

/-- A condition that is read with a right-hand side of the expected kind was not
taken for another notation. -/
theorem isReadable_of_readLeaf
    {name : String}
    {criterion found : Criterion}
    (fits : criterion.fits operator.operandKind = true)
    (isRead : readLeaf false name.toList
        (operator.token.toList ++ operandChars false operator criterion) =
      .ok (.leaf name operator found))
    (shape : found.shape = criterion.shapeRead operator) :
    criterion.IsReadable operator := by
  by_cases noSearch : ∀ search, criterion ≠ .fullText search
  · obtain ⟨s, written⟩ := @exists_operandChars_eq_cons operator criterion noSearch
    rw [written, readLeaf_token (isNull_isLogical_of_fits fits).2,
      readCondition_point (isFullText_of_fits fits noSearch), String.ofList_toList] at isRead
    obtain ⟨operand, isOperand, accepted⟩ := bind_eq_ok_iff.mp isRead
    obtain rfl := eq_of_condition_leaf accepted
    exact isReadable_of_readOperand fits written isOperand shape
  · obtain ⟨search, isSearch⟩ := not_forall_not.mp noSearch
    rw [isSearch]
    trivial

/-! ## Parameters that are read again -/

/-- The parameter is read as the filter with a right-hand side of some shape. -/
def ReadsWith (param : Param) (filter : Filter) (shape : Shape) (found : Criterion) : Prop :=
  ofParam param = .ok (filter.withOperand found) ∧ found.shape = shape

/-- The parameter of a filter is read as the filter with a right-hand side of the
expected kind exactly if the right-hand side is readable, and then that filter is
written as the same parameter exactly if what was written bare is canonical. -/
structure RereadsExactly
    (filter : Filter)
    (operator : Operator)
    (criterion : Criterion)
    (param : Param) : Prop where
  read : (∃ found, ReadsWith param filter (criterion.shapeRead operator) found) ↔
    criterion.IsReadable operator
  rewritten : ∀ found, ReadsWith param filter (criterion.shapeRead operator) found →
    ((filter.withOperand found).toParam = .ok param ↔ criterion.IsCanonical operator)

/-- A null test, or the negation of one, is read as itself. -/
theorem rereadsExactly_of_null
    {filter : Filter}
    {param : Param}
    (same : filter.withOperand .null = filter)
    (written : filter.toParam = .ok param)
    (isRead : ofParam param = .ok filter) :
    RereadsExactly filter .is .null param where
  read := iff_of_true ⟨.null, by rw [same]; exact isRead, rfl⟩ trivial
  rewritten found reads := by
    have same : filter.withOperand found = filter :=
      Except.ok.inj (reads.1.symm.trans isRead)
    rw [same]
    exact iff_of_true written trivial

/-- A condition that is not null is read from its parameter, and written again, as
far as its right-hand side allows. -/
theorem exists_rereadsExactly_leaf
    {name : String}
    {criterion : Criterion}
    (fits : criterion.fits operator.operandKind = true)
    (named : name ≠ "")
    (noKey : name ∉ ["and", "or", "not.and", "not.or"]) :
    ∃ param,
      toParam (.leaf name operator criterion) = .ok param ∧
        RereadsExactly (.leaf name operator criterion) operator criterion param := by
  have written : valueChars false (.leaf name operator criterion) = _ :=
    conditionChars_of_fits fits name
  have reread (readable : criterion.IsReadable operator) :
      ∃ found, IsReread name operator criterion found
        (operator.token.toList ++ operandChars false operator criterion) := by
    obtain ⟨found, value, reread⟩ := exists_isReread fits readable name
    have same := reread.readsAs.written
    rw [written] at same
    exact ⟨found, Except.ok.inj same ▸ reread⟩
  have isRead := ofParam_eq_readLeaf named noKey
    (operator.token.toList ++ operandChars false operator criterion)
  refine ⟨_, toParam_of_valueChars rfl written, ⟨⟨?_, fun readable => ?_⟩, fun found reads => ?_⟩⟩
  · rintro ⟨found, reads, shape⟩
    rw [isRead] at reads
    exact isReadable_of_readLeaf fits reads shape
  · obtain ⟨found, reread⟩ := reread readable
    exact ⟨found, isRead.trans reread.readsAs.read_eq, reread.shape⟩
  · have readable := isReadable_of_readLeaf fits (isRead.symm.trans reads.1) reads.2
    obtain ⟨found', reread⟩ := reread readable
    have same := (isRead.symm.trans reads.1).symm.trans reread.readsAs.read_eq
    cases same
    exact (toParam_eq_ok_iff rfl).trans reread.rewritten

/-- An accepted condition on a column whose name is no key of a group is written as
a parameter. The parameter is read as a condition under the same negations, on
the same column, with the same operator and a right-hand side of the expected
kind, exactly if the right-hand side is not taken for another notation; and that
condition is written as the same parameter exactly if what was written bare is
canonical. -/
theorem exists_rereadsExactly
    {name : String}
    {criterion : Criterion}
    {built : Filter}
    (accepted : condition name operator criterion = .ok built)
    (named : name ≠ "")
    (noKey : name ∉ ["and", "or", "not.and", "not.or"]) :
    ∃ kept param,
      built.condition? = some (name, kept, criterion) ∧
        built.toParam = .ok param ∧
        RereadsExactly built kept criterion param := by
  by_cases null : criterion = .null
  · subst null
    rcases eq_isNull_or_not_of_condition_null accepted with rfl | rfl
    · obtain ⟨written, isRead⟩ := (readsAs_isNull name).toParam_ofParam named noKey
      exact ⟨.is, _, rfl, written, rereadsExactly_of_null rfl written isRead⟩
    · obtain ⟨written, isRead⟩ := (readsAs_isNull name).not.toParam_ofParam named noKey
      exact ⟨.is, _, rfl, written, rereadsExactly_of_null rfl written isRead⟩
  · obtain ⟨fits, rfl⟩ := fits_and_eq_leaf_of_condition null accepted
    obtain ⟨param, written, exactly⟩ := exists_rereadsExactly_leaf fits named noKey
    exact ⟨operator, param, rfl, written, exactly⟩

/-- A list with a comma in a text is read as a longer list, which is written the
same. -/
theorem exists_rereadsExactly_comma :
    (Criterion.list [.text "a,b", .int 5]).IsReadable .contains ∧
      (Criterion.list [.text "a,b", .int 5]).IsCanonical .contains ∧
      ∃ kept param,
        (Filter.leaf "a" .contains (.list [.text "a,b", .int 5])).condition? =
            some ("a", kept, .list [.text "a,b", .int 5]) ∧
          (Filter.leaf "a" .contains (.list [.text "a,b", .int 5])).toParam = .ok param ∧
          RereadsExactly (.leaf "a" .contains (.list [.text "a,b", .int 5])) kept
            (.list [.text "a,b", .int 5]) param := by
  have keeps : ∀ part ∈ Text.splitTopLevel (bareItems [.text "a,b", .int 5]),
      (readScalar part).chars = part := by decide
  have accepted : condition "a" .contains (.list [.text "a,b", .int 5]) =
      .ok (.leaf "a" .contains (.list [.text "a,b", .int 5])) := rfl
  exact ⟨.inr (by decide), .inr fun part member => isCanonical_iff.mpr (keeps part member),
    exists_rereadsExactly accepted (by decide) (by decide)⟩

/-- Not everything that is accepted is read alike: an empty map is read as a list, a
number is written without the plus sign of a text, and a list that starts with a
double quote and a map with a value that is no number are not read at all. -/
theorem reread_otherwise :
    (condition "a" .contains (.map .empty) = .ok (.leaf "a" .contains (.map .empty)) ∧
      toParam (.leaf "a" .contains (.map .empty)) = .ok ⟨"a", "cs.\x7b\x7d"⟩ ∧
      ofParam ⟨"a", "cs.\x7b\x7d"⟩ = .ok (.leaf "a" .contains (.list [])) ∧
      (Criterion.list []).shape ≠ (Criterion.map .empty).shape) ∧
    (condition "a" .equal (.scalar (.text "+5")) = .ok (comparison "a" .equal (.text "+5")) ∧
      toParam (comparison "a" .equal (.text "+5")) = .ok ⟨"a", "eq.+5"⟩ ∧
      ofParam ⟨"a", "eq.+5"⟩ = .ok (comparison "a" .equal (.int 5)) ∧
      toParam (comparison "a" .equal (.int 5)) = .ok ⟨"a", "eq.5"⟩) ∧
    (condition "a" .contains (.list [.text "\""]) =
        .ok (.leaf "a" .contains (.list [.text "\""])) ∧
      toParam (.leaf "a" .contains (.list [.text "\""])) = .ok ⟨"a", "cs.\x7b\"\x7d"⟩ ∧
      ∃ fault, ofParam ⟨"a", "cs.\x7b\"\x7d"⟩ = .error fault) ∧
    (condition "a" .oneOf (.map (.ofList [("k", .float .nan)])) =
        .ok (.leaf "a" .oneOf (.map (.ofList [("k", .float .nan)]))) ∧
      toParam (.leaf "a" .oneOf (.map (.ofList [("k", .float .nan)]))) =
        .ok ⟨"a", "in.\x7b\"k\":null\x7d"⟩ ∧
      ∃ fault, ofParam ⟨"a", "in.\x7b\"k\":null\x7d"⟩ = .error fault) := by
  refine ⟨⟨rfl, rfl, rfl, by decide⟩, ⟨rfl, rfl, rfl, rfl⟩, ⟨rfl, rfl, ?_⟩, rfl, rfl, ?_⟩
  · exact ⟨_, rfl⟩
  · exact ⟨_, rfl⟩

end Filter
end RestQuery
