import RestQuery.Proofs.Filter.Reparsing

/-!
# What is read could have been built

A parameter that is no filter is refused with a usage error, whatever is wrong
with it. From any other parameter the reader makes a tree in which every
condition, however deep, is one that the checked constructor accepts and leaves
as it is: the operand readers of an operator return nothing but right-hand sides
of its kind, and null comes from the null test only.
-/

namespace RestQuery
namespace Filter

open Sequence

variable {inGroup : Bool}

/-! ## Refusals -/

theorem failsOnly_orFail
    {α : Type}
    {kind : Error → Bool}
    {error : Error}
    (fitting : kind error = true)
    (found? : Option α) :
    FailsOnly kind (orFail error found?) := by
  cases found? with
  | none => exact .of_error fitting
  | some found => exact .of_ok

theorem failsOnly_named (token : String) :
    FailsOnly Error.isUsage (Operator.named token) := by
  unfold Operator.named
  split
  · exact .of_ok
  · exact .of_error rfl

theorem failsOnly_readMapValues (column s : List Char) (members : List (String × Json)) :
    FailsOnly Error.isUsage (readMapValues column s members) := by
  induction members with
  | nil => exact .of_ok
  | cons member rest inductionHypothesis =>
      apply (failsOnly_orFail rfl _).bind
      intro value
      exact inductionHypothesis.bind fun _ => .of_pure

theorem failsOnly_readMap (column s : List Char) :
    FailsOnly Error.isUsage (readMap column s) :=
  (failsOnly_orFail rfl _).bind fun _ => (failsOnly_readMapValues ..).bind fun _ => .of_pure

theorem failsOnly_readQuotedList (column s : List Char) :
    FailsOnly Error.isUsage (readQuotedList column s) :=
  (failsOnly_orFail rfl _).bind fun _ => .of_pure

theorem failsOnly_readRange (column s : List Char) :
    FailsOnly Error.isUsage (readRange column s) :=
  (failsOnly_orFail rfl _).bind fun _ => .of_pure

theorem failsOnly_readContainer (column s : List Char) :
    FailsOnly Error.isUsage (readContainer column s) := by
  unfold readContainer
  split
  · exact failsOnly_readRange column _
  · exact failsOnly_readRange column _
  · exact failsOnly_readMap column _
  · exact (failsOnly_orFail rfl _).bind fun _ => .of_pure

theorem failsOnly_readCollection (column s : List Char) :
    FailsOnly Error.isUsage (readCollection column s) := by
  unfold readCollection
  split
  · exact failsOnly_readQuotedList column _
  · exact failsOnly_readMap column s

theorem failsOnly_readOperand (column : List Char) (operator : Operator) (s : List Char) :
    FailsOnly Error.isUsage (readOperand inGroup column operator s) := by
  unfold readOperand
  split
  · exact .of_ok
  · split
    · exact .of_ok
    · exact failsOnly_readCollection column s
    · exact failsOnly_readContainer column s
    · exact failsOnly_readRange column s
    · exact .of_ok

theorem failsOnly_readCondition (column value : List Char) :
    FailsOnly Error.isUsage (readCondition inGroup column value) := by
  simp only [readCondition]
  split
  · exact FailsOnly.of_error rfl
  · apply (failsOnly_named _).bind
    intro operator
    split
    · exact (failsOnly_orFail rfl _).bind fun _ => failsOnly_condition ..
    · apply (failsOnly_orFail rfl _).bind
      intro operand
      exact (failsOnly_readOperand column operator operand).bind fun _ => failsOnly_condition ..

theorem failsOnly_readLeaf (column value : List Char) :
    FailsOnly Error.isUsage (readLeaf inGroup column value) := by
  induction value using readLeaf.induct with
  | case1 rest inductionHypothesis =>
      rw [readLeaf]
      exact inductionHypothesis.bind fun _ => .of_pure
  | case2 value notNegated =>
      rw [readLeaf.eq_def]
      split
      · next rest => exact absurd rfl (notNegated rest)
      · exact failsOnly_readCondition column value

/-- A group is refused with a usage error if each of its parts is. -/
theorem failsOnly_readGroup
    (negated : Bool)
    (connective : Connective)
    {body : List Char}
    (each : ∀ part : List Char, part.length < body.length →
      FailsOnly Error.isUsage (readChild part)) :
    FailsOnly Error.isUsage (readGroup negated connective body) := by
  unfold readGroup
  cases enclosed : Text.enclosed? '(' ')' body with
  | none => exact FailsOnly.of_error rfl
  | some inner =>
      refine (FailsOnly.mapM fun part member => each part ?_).bind fun _ => .of_pure
      have := Text.length_of_enclosed? enclosed
      have := Text.length_le_of_mem_splitTopLevel member
      omega

theorem failsOnly_readChild (s : List Char) : FailsOnly Error.isUsage (readChild s) := by
  induction length : s.length using Nat.strong_induction_on generalizing s with
  | _ n inductionHypothesis =>
      rw [readChild_eq]
      cases head : childHead? s with
      | none =>
          show FailsOnly Error.isUsage (readFoldedLeaf s)
          unfold readFoldedLeaf
          split
          · exact failsOnly_readLeaf ..
          · exact .of_error rfl
      | some found =>
          have shorter := length_of_childHead? head
          apply failsOnly_readGroup
          intro part partShorter
          exact inductionHypothesis part.length (by omega) part rfl

theorem failsOnly_ofParam (param : Param) : FailsOnly Error.isUsage (ofParam param) := by
  unfold ofParam Filter.read
  split
  · exact failsOnly_readGroup _ _ fun part _ => failsOnly_readChild part
  · split
    · exact .of_error rfl
    · exact failsOnly_readLeaf ..

/-! ## Conditions -/

/-- The checked constructor accepts the condition and returns it as it is. Its
operator takes a right-hand side and is given one of its kind, or null if it is
the null test. -/
structure IsBuilt (column : String) (operator : Operator) (criterion : Criterion) : Prop where
  unchanged : condition column operator criterion = .ok (.leaf column operator criterion)
  notLogical : operator ∉ [.and, .or, .not]
  fits : criterion ≠ .null → criterion.fits operator.operandKind = true
  is : criterion = .null → operator = .is

/-- The filter is no condition, or one that the checked constructor leaves as it
is. -/
def IsChecked : Filter → Prop
  | leaf column operator criterion => IsBuilt column operator criterion
  | _ => True

/-- A right-hand side that its operator takes makes such a condition. -/
theorem isBuilt_of_accepted
    {operator : Operator}
    {criterion : Criterion}
    (accepted : operator = .is ∧ criterion = .null ∨ criterion.fits operator.operandKind = true)
    (column : String) :
    IsBuilt column operator criterion := by
  refine ⟨condition_of_accepted accepted column, ?_, fun notNull => ?_, fun isNull => ?_⟩
  · rcases accepted with ⟨rfl, -⟩ | fits
    · decide
    · have notLogical := (isNull_isLogical_of_fits fits).2
      cases operator <;> first | decide | exact nomatch notLogical
  · rcases accepted with ⟨-, isNull⟩ | fits
    · exact absurd isNull notNull
    · exact fits
  · rcases accepted with ⟨is, -⟩ | fits
    · exact is
    · have notNull := (isNull_isLogical_of_fits fits).1
      rw [isNull] at notNull
      cases notNull

theorem isChecked_of_readCondition
    {column value : List Char}
    {filter : Filter}
    (isRead : readCondition inGroup column value = .ok filter) :
    filter.IsChecked := by
  obtain ⟨operator, criterion, rfl, criterionRead⟩ := exists_isRead_of_readCondition isRead
  exact isBuilt_of_accepted (accepted_of_isRead criterionRead) _

/-- Under negations there is one condition, and the constructor leaves it as it
is. -/
theorem everywhere_isChecked_of_readLeaf
    {column value : List Char}
    {filter : Filter}
    (isRead : readLeaf inGroup column value = .ok filter) :
    filter.Everywhere IsChecked := by
  induction value using readLeaf.induct generalizing filter with
  | case1 rest inductionHypothesis =>
      rw [readLeaf] at isRead
      obtain ⟨inner, innerRead, returned⟩ := bind_eq_ok_iff.mp isRead
      cases returned
      exact everywhere_not_iff.mpr ⟨trivial, inductionHypothesis innerRead⟩
  | case2 value notNegated =>
      rw [readLeaf.eq_def] at isRead
      split at isRead
      · next rest => exact absurd rfl (notNegated rest)
      · obtain ⟨operator, criterion, rfl, -⟩ := exists_isRead_of_readCondition isRead
        exact everywhere_leaf_iff.mpr (isChecked_of_readCondition isRead)

/-! ## Trees -/

theorem everywhere_isChecked_signedGroup
    {negated : Bool}
    {connective : Connective}
    {children : List Filter}
    (each : ∀ child ∈ children, child.Everywhere IsChecked) :
    (signedGroup negated connective children).Everywhere IsChecked :=
  (everywhere_signedGroup_iff fun _ => trivial).mpr ⟨trivial, each⟩

theorem everywhere_isChecked_of_readChild
    {s : List Char}
    {filter : Filter}
    (isRead : readChild s = .ok filter) :
    filter.Everywhere IsChecked := by
  refine readChild_induction (motive := fun filter => filter.Everywhere IsChecked)
    ?condition ?group isRead
  case condition =>
    intro column text filter _ _ isRead
    exact everywhere_isChecked_of_readLeaf isRead
  case group =>
    intro negated connective children inductionHypothesis
    exact everywhere_isChecked_signedGroup inductionHypothesis

theorem everywhere_isChecked_of_ofParam
    {param : Param}
    {filter : Filter}
    (isRead : ofParam param = .ok filter) :
    filter.Everywhere IsChecked := by
  rcases readLeaf_or_group_of_ofParam isRead with
    ⟨-, -, leafRead⟩ | ⟨negated, connective, children, rfl, areRead⟩
  · exact everywhere_isChecked_of_readLeaf leafRead
  · apply everywhere_isChecked_signedGroup
    intro child member
    obtain ⟨part, childRead⟩ := areRead child member
    exact everywhere_isChecked_of_readChild childRead

/-- A condition on a column is a stack of negations over one comparison of the
column. -/
theorem exists_iterate_not_of_column?
    {filter : Filter}
    {name : String}
    (isCondition : filter.column? = some name) :
    ∃ negations operator criterion,
      filter = Nat.iterate .not negations (.leaf name operator criterion) := by
  induction filter using column?.induct with
  | case1 column operator criterion =>
      cases isCondition
      exact ⟨0, operator, criterion, rfl⟩
  | case2 inner inductionHypothesis =>
      obtain ⟨negations, operator, criterion, rfl⟩ := inductionHypothesis isCondition
      refine ⟨negations + 1, operator, criterion, ?_⟩
      rw [Function.iterate_succ_apply']
  | case3 => cases isCondition

/-- Under a key that names no group, a parameter is read as a condition. -/
theorem readLeaf_of_ofParam
    {param : Param}
    {filter : Filter}
    (isRead : ofParam param = .ok filter)
    (noKey : param.key ∉ ["and", "or", "not.and", "not.or"]) :
    readLeaf false param.key.toList param.value.toList = .ok filter := by
  rcases param with ⟨key, value⟩
  by_cases named : key = ""
  · subst named
    cases isRead
  · have asLeaf := ofParam_eq_readLeaf named noKey value.toList
    rw [String.ofList_toList] at asLeaf
    rw [← asLeaf, isRead]

/-- What becomes of a parameter when it is read. -/
structure ReadsBuilt (param : Param) : Prop where
  usage : ∀ error, ofParam param = .error error → ∃ fault, error = .usage fault
  built : ∀ filter, ofParam param = .ok filter →
    ∀ column operator criterion, .leaf column operator criterion ∈ filter.subfilters →
      IsBuilt column operator criterion
  condition : ∀ filter, ofParam param = .ok filter →
    param.key ∉ ["and", "or", "not.and", "not.or"] →
      ∃ negations operator criterion,
        filter = Nat.iterate .not negations (.leaf param.key operator criterion)

/-- Any parameter is refused with a usage error or read as a tree of conditions
that the checked constructor accepts and leaves as they are; and under a key that
names no group the tree is one condition on this column, with negations around
it. -/
theorem readsBuilt (param : Param) : ReadsBuilt param where
  usage error refused := Error.exists_usage ((failsOnly_ofParam param).kind_of_error error refused)
  built filter isRead column operator criterion below :=
    everywhere_isChecked_of_ofParam isRead _ below
  condition filter isRead noKey := by
    apply exists_iterate_not_of_column?
    rw [column?_of_readLeaf (readLeaf_of_ofParam isRead noKey), String.ofList_toList]

end Filter
end RestQuery
