import RestQuery.Proofs.Filter.Negation
import RestQuery.Proofs.Filter.Restoring
import RestQuery.Proofs.Filter.Rewriting

/-!
# Conditions that survive another reading

A condition that was read, under any number of negations, is written again with
its operator and its right-hand side. The value is read as the same condition
exactly if the right-hand side is stable. A search always survives: its language
was cut at the first mark that ends one.
-/

namespace RestQuery
namespace Filter

open Sequence

variable {inGroup : Bool}

/-- The right-hand side of a condition is stable. -/
def HasStableOperand (inGroup : Bool) : Filter → Prop
  | leaf _ operator criterion => criterion.IsStable inGroup operator
  | _ => True

/-- The right-hand sides of all conditions in the filter are stable. -/
def IsStable (inGroup : Bool) (filter : Filter) : Prop :=
  filter.Everywhere (HasStableOperand inGroup)

theorem isStable_leaf_iff
    {column : String}
    {operator : Operator}
    {criterion : Criterion} :
    IsStable inGroup (.leaf column operator criterion) ↔ criterion.IsStable inGroup operator :=
  everywhere_leaf_iff

theorem isStable_not_iff {inner : Filter} :
    IsStable inGroup (.not inner) ↔ inner.IsStable inGroup :=
  everywhere_not_iff.trans (and_iff_right trivial)

theorem isStable_signedGroup_iff
    {negated : Bool}
    {connective : Connective}
    {children : List Filter} :
    IsStable inGroup (signedGroup negated connective children) ↔
      ∀ child ∈ children, child.IsStable inGroup :=
  (everywhere_signedGroup_iff fun _ => trivial).trans (and_iff_right trivial)

/-! ## Conditions -/

/-- A condition that is read has a right-hand side in one of the notations. -/
theorem exists_isRead_of_readCondition
    {column value : List Char}
    {filter : Filter}
    (isRead : readCondition inGroup column value = .ok filter) :
    ∃ operator criterion,
      filter = .leaf (String.ofList column) operator criterion ∧ criterion.IsRead operator := by
  simp only [readCondition] at isRead
  split at isRead
  · obtain ⟨_, refused, _⟩ := bind_eq_ok_iff.mp isRead
    cases refused
  · obtain ⟨operator, -, isRead⟩ := bind_eq_ok_iff.mp isRead
    split at isRead
    · next isSearch =>
        obtain ⟨search, found, accepted⟩ := bind_eq_ok_iff.mp isRead
        have notNull : Criterion.fullText search ≠ .null := by
          intro equal
          cases equal
        obtain ⟨fits, rfl⟩ := fits_and_eq_leaf_of_condition notNull accepted
        have kind : operator.operandKind = .search := by
          cases operator <;> first | rfl | cases fits
        obtain ⟨rest, -, found⟩ := Option.bind_eq_some_iff.mp (eq_some_of_orFail found)
        obtain ⟨⟨language, query⟩, cut, returned⟩ := Option.bind_eq_some_iff.mp found
        cases returned
        refine ⟨operator, _, rfl, .search kind _ ?_⟩
        rw [String.toList_ofList]
        exact Text.not_isInfix_of_cutAtMark (List.cons_ne_nil _ _) cut
    · next notSearch =>
        obtain ⟨operand, -, isRead⟩ := bind_eq_ok_iff.mp isRead
        obtain ⟨criterion, found, accepted⟩ := bind_eq_ok_iff.mp isRead
        have notSearch : operator.isFullText = false := by simpa using notSearch
        cases logical : operator.isLogical with
        | false =>
            have criterionRead := isRead_of_readOperand logical notSearch found
            rw [condition_of_accepted (accepted_of_isRead criterionRead)] at accepted
            cases accepted
            exact ⟨operator, criterion, rfl, criterionRead⟩
        | true =>
            have kind : operator.operandKind = .none := by
              simpa [Operator.isLogical] using logical
            have isPlain : criterion = readPlain inGroup operand := by
              rw [readOperand, if_neg (not_is_null_of_kind (by simp [kind]) operand), kind] at found
              exact (Except.ok.inj found).symm
            have notNull : criterion ≠ .null := by
              intro isNull
              rw [isPlain, readPlain] at isNull
              split at isNull <;> cases isNull
            have fits := (fits_and_eq_leaf_of_condition notNull accepted).1
            rw [kind] at fits
            cases criterion <;> cases fits

/-- The value of a condition that was read is written as a text that is read as the
condition exactly if its right-hand side is stable, and starts unlike any group. -/
structure ValueRestores
    (inGroup : Bool)
    (filter : Filter)
    (column value : List Char) : Prop where
  written : filter.valueChars inGroup = .ok value
  noGroup : groupHead? value = none
  alike : filter.IsStable inGroup → Alike filter filter
  read : filter.IsStable inGroup → readLeaf inGroup column value = .ok filter
  stable : ∀ found, readLeaf inGroup column value = .ok found → Alike found filter →
    filter.IsStable inGroup

theorem alike_leaf_iff
    {column column' : String}
    {operator operator' : Operator}
    {criterion criterion' : Criterion} :
    Alike (.leaf column operator criterion) (.leaf column' operator' criterion') ↔
      (column = column' ∧ operator = operator') ∧ criterion.same criterion' = true := by
  simp [Alike, same]

/-- A search is read back, whatever it holds. -/
theorem valueRestores_search
    {column : List Char}
    {operator : Operator}
    (kind : operator.operandKind = .search)
    {search : FullTextSearch}
    (noMark : ¬[')', '.'] <:+: search.language.toList) :
    ∃ value,
      ValueRestores inGroup (.leaf (String.ofList column) operator (.fullText search))
        column value := by
  have fits : (Criterion.fullText search).fits operator.operandKind = true := by
    rw [kind]
    rfl
  have isSearch : operator.isFullText = true := by
    rw [Operator.isFullText, kind]
    rfl
  have written : conditionChars inGroup (String.ofList column) operator (.fullText search) = _ :=
    conditionChars_of_fits fits (String.ofList column)
  have shape : operandChars inGroup operator (.fullText search) =
      '(' :: (search.language.toList ++ (").".toList ++ textChars inGroup search.query.toList)) := by
    simp [operandChars]
  refine ⟨_, written, groupHead?_of_conditionChars written, fun _ => ?_, fun _ => ?_,
    fun _ _ _ => ?_⟩
  · exact alike_leaf_iff.mpr ⟨⟨rfl, rfl⟩, beq_self_eq_true search⟩
  · rw [readLeaf_token (isNull_isLogical_of_fits fits).2, shape, readCondition_search isSearch,
      readSearch?_chars inGroup noMark]
    exact condition_of_fits fits (String.ofList column)
  · exact isStable_leaf_iff.mpr trivial

/-- A condition that was read is read back exactly if its right-hand side is
stable. -/
theorem exists_valueRestores_leaf
    (column : List Char)
    {operator : Operator}
    {criterion : Criterion}
    (criterionRead : criterion.IsRead operator) :
    ∃ value,
      ValueRestores inGroup (.leaf (String.ofList column) operator criterion) column value := by
  have accepted := accepted_of_isRead criterionRead
  by_cases noSearch : ∀ search, criterion ≠ .fullText search
  · obtain ⟨s, restores⟩ := exists_restores criterionRead noSearch inGroup
    have notLogical : operator.isLogical = false := by
      rcases accepted with ⟨rfl, -⟩ | fits
      · rfl
      · exact (isNull_isLogical_of_fits fits).2
    have notSearch : operator.isFullText = false := by
      rcases accepted with ⟨rfl, -⟩ | fits
      · rfl
      · exact isFullText_of_fits fits noSearch
    have written : conditionChars inGroup (String.ofList column) operator criterion = _ :=
      conditionChars_of_accepted accepted (String.ofList column)
    have readsAs : readLeaf inGroup column
          (operator.token.toList ++ operandChars inGroup operator criterion) =
        readOperand inGroup column operator s >>= condition (String.ofList column) operator := by
      rw [restores.written, readLeaf_token notLogical, readCondition_point notSearch]
    refine ⟨_, written, groupHead?_of_conditionChars written, fun stable => ?_,
      fun stable => ?_, fun found isRead alike => isStable_leaf_iff.mpr ?_⟩
    · have likeItself := criterion_same_self criterionRead (isStable_leaf_iff.mp stable)
      exact alike_leaf_iff.mpr ⟨⟨rfl, rfl⟩, likeItself⟩
    · rw [readsAs, restores.read (isStable_leaf_iff.mp stable)]
      exact condition_of_accepted accepted (String.ofList column)
    · rw [readsAs] at isRead
      obtain ⟨operand, operandRead, built⟩ := bind_eq_ok_iff.mp isRead
      cases found with
      | leaf foundColumn foundOperator foundCriterion =>
          obtain ⟨⟨rfl, rfl⟩, likewise⟩ := alike_leaf_iff.mp alike
          obtain rfl := eq_of_condition_leaf built
          exact restores.stable column operand operandRead likewise
      | not | group => simp [Alike, same] at alike
  · obtain ⟨search, rfl⟩ := not_forall_not.mp noSearch
    cases criterionRead with
    | search kind search noMark => exact valueRestores_search kind noMark

theorem ValueRestores.not
    {filter : Filter}
    {column : List Char}
    {name : String}
    {value : List Char}
    (isCondition : filter.column? = some name)
    (inner : ValueRestores inGroup filter column value) :
    ValueRestores inGroup (.not filter) column ("not.".toList ++ value) where
  written := by
    rw [valueChars_not isCondition, inner.written]
    rfl
  noGroup := groupHead?_negation value
  alike stable := (comparison_alike.not_iff _ _).mpr (inner.alike (isStable_not_iff.mp stable))
  read stable := by
    rw [readLeaf_negation, inner.read (isStable_not_iff.mp stable)]
    rfl
  stable found isRead alike := by
    rw [readLeaf_negation] at isRead
    cases innerRead : readLeaf inGroup column value with
    | error fault =>
        rw [innerRead] at isRead
        cases isRead
    | ok innerFound =>
        rw [innerRead] at isRead
        cases isRead
        have innerAlike := (comparison_alike.not_iff innerFound filter).mp alike
        exact isStable_not_iff.mpr (inner.stable innerFound innerRead innerAlike)

/-- A condition under negations that was read is read back exactly if its right-hand
side is stable. -/
theorem exists_valueRestores
    {column text : List Char}
    {filter : Filter}
    (isRead : readLeaf inGroup column text = .ok filter) :
    ∃ value, ValueRestores inGroup filter column value := by
  induction text using readLeaf.induct generalizing filter with
  | case1 rest inductionHypothesis =>
      rw [readLeaf] at isRead
      obtain ⟨inner, innerRead, returned⟩ := bind_eq_ok_iff.mp isRead
      cases returned
      obtain ⟨value, restores⟩ := inductionHypothesis innerRead
      exact ⟨_, restores.not (column?_of_readLeaf innerRead)⟩
  | case2 text notNegated =>
      rw [readLeaf.eq_def] at isRead
      split at isRead
      · next rest => exact absurd rfl (notNegated rest)
      · obtain ⟨operator, criterion, rfl, criterionRead⟩ := exists_isRead_of_readCondition isRead
        exact exists_valueRestores_leaf column criterionRead

end Filter
end RestQuery
