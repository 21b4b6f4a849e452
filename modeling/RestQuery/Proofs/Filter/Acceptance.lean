import RestQuery.Proofs.Failures
import RestQuery.Proofs.Filter.Trees

/-!
# What can be written is what can be built

The constructor of conditions and the writer of filters check right-hand sides
and rewrite nulls each on their own. They agree on every tree: a filter can be
written exactly if its groups have children and the constructor accepts each of
its conditions, and putting what the constructor returns in place of every
condition changes nothing in what is written.
-/

namespace RestQuery
namespace Filter

open Sequence

/-! ## Only usage errors -/

theorem failsOnly_checkOperand
    (column : String)
    (operator : Operator)
    (criterion : Criterion) :
    FailsOnly Error.isUsage (checkOperand column operator criterion) := by
  rw [checkOperand]
  split
  · exact .of_error rfl
  · split
    · exact .of_ok
    · exact .of_error rfl

theorem failsOnly_condition
    (column : String)
    (operator : Operator)
    (criterion : Criterion) :
    FailsOnly Error.isUsage (condition column operator criterion) := by
  unfold condition
  split
  · split
    · exact .of_ok
    · exact .of_ok
    · exact .of_ok
    · exact .of_ok
    · exact .of_error rfl
  · exact (failsOnly_checkOperand ..).bind fun _ => .of_pure

theorem failsOnly_conditionChars
    (inGroup : Bool)
    (column : String)
    (operator : Operator)
    (criterion : Criterion) :
    FailsOnly Error.isUsage (conditionChars inGroup column operator criterion) := by
  unfold conditionChars conditionCharsBy
  split
  · split
    · exact .of_ok
    · exact .of_ok
    · exact .of_ok
    · exact .of_ok
    · exact .of_error rfl
  · exact (failsOnly_checkOperand ..).bind fun _ => .of_pure

theorem failsOnly_valueChars (filter : Filter) (inGroup : Bool) :
    FailsOnly Error.isUsage (filter.valueChars inGroup) := by
  induction filter using induction generalizing inGroup with
  | leaf => exact failsOnly_conditionChars ..
  | not inner inductionHypothesis =>
      rw [valueChars_not_eq]
      split
      · exact inductionHypothesis inGroup
      · exact (inductionHypothesis inGroup).bind fun _ => .of_pure
  | group connective children inductionHypothesis =>
      rw [valueChars, bodyChars_eq]
      split
      · exact .of_error rfl
      · refine (FailsOnly.mapM fun child member => ?_).bind fun _ => .of_pure
        rw [childChars_eq]
        exact (inductionHypothesis child member true).bind fun _ => .of_pure

theorem failsOnly_toParam (filter : Filter) : FailsOnly Error.isUsage filter.toParam :=
  (failsOnly_valueChars filter false).bind fun _ => .of_pure

/-! ## Filters whose parts are accepted -/

/-- A group has children, and the checked constructor accepts a condition. -/
def IsAdmitted : Filter → Prop
  | leaf column operator criterion => ∃ built, condition column operator criterion = .ok built
  | not _ => True
  | group _ children => children ≠ []

/-- Every group in the filter has children, and the checked constructor accepts
every condition in it. -/
def IsWellFormed (filter : Filter) : Prop := filter.Everywhere IsAdmitted

/-- A condition is written exactly if the checked constructor accepts it. -/
theorem exists_conditionChars_iff
    (inGroup : Bool)
    (column : String)
    (operator : Operator)
    (criterion : Criterion) :
    (∃ value, conditionChars inGroup column operator criterion = .ok value) ↔
      ∃ built, condition column operator criterion = .ok built := by
  constructor
  · rintro ⟨value, written⟩
    rw [conditionChars, conditionCharsBy.eq_def] at written
    rw [condition.eq_def]
    by_cases isNull : criterion.isNull = true
    · rw [if_pos isNull] at written ⊢
      cases operator <;> first | exact ⟨_, rfl⟩ | cases written
    · rw [if_neg isNull] at written ⊢
      obtain ⟨_, checked, -⟩ := bind_eq_ok_iff.mp written
      rw [checked]
      exact ⟨_, rfl⟩
  · rintro ⟨built, accepted⟩
    obtain ⟨value, written, -⟩ := exists_valueChars_of_condition inGroup accepted
    exact ⟨value, written⟩

/-- A child is written exactly if its value is. -/
theorem exists_childChars_iff (filter : Filter) :
    (∃ part, filter.childChars = .ok part) ↔ ∃ value, filter.valueChars true = .ok value := by
  rw [childChars_eq]
  cases filter.valueChars true <;> simp [bind, Except.bind, pure, Except.pure]

/-- A filter has a value exactly if its parts are accepted. -/
theorem exists_valueChars_iff (filter : Filter) (inGroup : Bool) :
    (∃ value, filter.valueChars inGroup = .ok value) ↔ filter.IsWellFormed := by
  induction filter using induction generalizing inGroup with
  | leaf => rw [IsWellFormed, everywhere_leaf_iff, valueChars, exists_conditionChars_iff, IsAdmitted]
  | not inner inductionHypothesis =>
      rw [IsWellFormed, everywhere_not_iff, and_iff_right (by trivial), ← IsWellFormed,
        ← inductionHypothesis inGroup, valueChars_not_eq]
      split
      · rfl
      · cases inner.valueChars inGroup <;> simp [bind, Except.bind, pure, Except.pure]
  | group connective children inductionHypothesis =>
      have each (child : Filter) (member : child ∈ children) :
          (∃ part, child.childChars = .ok part) ↔ child.IsWellFormed := by
        rw [exists_childChars_iff, inductionHypothesis child member]
      rw [IsWellFormed, everywhere_group_iff, valueChars]
      constructor
      · rintro ⟨value, written⟩
        rw [bodyChars_eq] at written
        split at written
        · cases written
        · next someChildren =>
            refine ⟨someChildren, fun child member => (each child member).mp ?_⟩
            obtain ⟨parts, parted, -⟩ := bind_eq_ok_iff.mp written
            obtain ⟨part, -, found⟩ := exists_of_mem_right (mapM_eq_ok_iff.mp parted).flip member
            exact ⟨part, found⟩
      · rintro ⟨someChildren, wellFormed⟩
        obtain ⟨parts, parted⟩ :=
          exists_forall₂ fun child member => (each child member).mpr (wellFormed child member)
        exact ⟨_, bodyChars_eq_ok connective someChildren (mapM_eq_ok_iff.mpr parted)⟩

/-- A filter is written as a parameter exactly if its parts are accepted. -/
theorem exists_toParam_iff (filter : Filter) :
    (∃ param, filter.toParam = .ok param) ↔ filter.IsWellFormed := by
  rw [← exists_valueChars_iff filter false, toParam]
  cases filter.valueChars false <;> simp [bind, Except.bind, pure, Except.pure]

/-! ## Filters built anew -/

mutual

/-- The filter with every condition replaced by what the checked constructor
returns for it. -/
def rebuilt : Filter → Except Error Filter
  | leaf column operator criterion => condition column operator criterion
  | not inner => do return .not (← inner.rebuilt)
  | group connective children => do return .group connective (← rebuiltAll children)

/-- The filters of a list, each built anew. -/
def rebuiltAll : List Filter → Except Error (List Filter)
  | [] => .ok []
  | child :: children => do return (← child.rebuilt) :: (← rebuiltAll children)

end

theorem rebuiltAll_eq_mapM (children : List Filter) :
    rebuiltAll children = children.mapM rebuilt := by
  induction children with
  | nil => rfl
  | cons child rest inductionHypothesis =>
      rw [rebuiltAll, inductionHypothesis, List.mapM_cons]

/-- A filter can be built anew if all its conditions are accepted. -/
theorem IsWellFormed.exists_rebuilt
    {filter : Filter}
    (wellFormed : filter.IsWellFormed) :
    ∃ built, filter.rebuilt = .ok built := by
  induction filter using induction with
  | leaf => exact everywhere_leaf_iff.mp wellFormed
  | not inner inductionHypothesis =>
      obtain ⟨built, isBuilt⟩ := inductionHypothesis (everywhere_not_iff.mp wellFormed).2
      rw [rebuilt, isBuilt]
      exact ⟨_, rfl⟩
  | group connective children inductionHypothesis =>
      obtain ⟨-, each⟩ := everywhere_group_iff.mp wellFormed
      obtain ⟨built, areBuilt⟩ :=
        exists_forall₂ fun child member => inductionHypothesis child member (each child member)
      rw [rebuilt, rebuiltAll_eq_mapM, mapM_eq_ok_iff.mpr areBuilt]
      exact ⟨_, rfl⟩

/-- Two filters are written alike, by themselves, under a negation and as
children of a group. -/
structure WrittenAlike (filter other : Filter) : Prop where
  key : other.keyChars = filter.keyChars
  value : ∀ inGroup, other.valueChars inGroup = filter.valueChars inGroup
  isGroup : other.isGroup = filter.isGroup
  isSignedGroup : other.isSignedGroup = filter.isSignedGroup

namespace WrittenAlike

variable {filter other : Filter}

theorem child (alike : WrittenAlike filter other) : other.childChars = filter.childChars := by
  rw [childChars_eq, childChars_eq, alike.key, alike.value, alike.isSignedGroup]

theorem toParam (alike : WrittenAlike filter other) : other.toParam = filter.toParam := by
  rw [Filter.toParam, Filter.toParam, alike.key, alike.value]

/-- What the checked constructor returns is written like what it was given. -/
theorem of_condition
    {column : String}
    {operator : Operator}
    {criterion : Criterion}
    {built : Filter}
    (accepted : condition column operator criterion = .ok built) :
    WrittenAlike (.leaf column operator criterion) built := by
  have isCondition := column?_of_condition accepted
  obtain ⟨noSignedGroup, noGroup⟩ := isSignedGroup_of_column? isCondition
  refine ⟨keyChars_of_column? isCondition, fun inGroup => ?_, noGroup, noSignedGroup⟩
  obtain ⟨value, given, returned⟩ := exists_valueChars_of_condition inGroup accepted
  rw [returned, valueChars, given]

theorem not (alike : WrittenAlike filter other) : WrittenAlike (.not filter) (.not other) where
  key := by rw [keyChars_not, keyChars_not, alike.key, alike.isGroup]
  value inGroup := by
    rw [valueChars_not_eq, valueChars_not_eq, alike.value, alike.isGroup]
  isGroup := rfl
  isSignedGroup := alike.isGroup

theorem group
    (connective : Connective)
    {children others : List Filter}
    (each : List.Forall₂ WrittenAlike children others) :
    WrittenAlike (.group connective children) (.group connective others) where
  key := rfl
  value inGroup := by
    have parts : others.mapM childChars = children.mapM childChars := by
      induction each with
      | nil => rfl
      | cons first _ inductionHypothesis =>
          rw [List.mapM_cons, List.mapM_cons, first.child, inductionHypothesis]
    have none : others = [] ↔ children = [] := by
      rw [← List.length_eq_zero_iff, ← List.length_eq_zero_iff, each.length_eq]
    simp only [valueChars, bodyChars_eq, parts, none]
  isGroup := rfl
  isSignedGroup := rfl

end WrittenAlike

/-- A filter that is built anew is written as before. -/
theorem writtenAlike_of_rebuilt
    {filter built : Filter}
    (isBuilt : filter.rebuilt = .ok built) :
    WrittenAlike filter built := by
  induction filter using induction generalizing built with
  | leaf => exact .of_condition isBuilt
  | not inner inductionHypothesis =>
      obtain ⟨builtInner, innerIsBuilt, returned⟩ := bind_eq_ok_iff.mp isBuilt
      cases returned
      exact (inductionHypothesis innerIsBuilt).not
  | group connective children inductionHypothesis =>
      obtain ⟨builtChildren, areBuilt, returned⟩ := bind_eq_ok_iff.mp isBuilt
      cases returned
      rw [rebuiltAll_eq_mapM, mapM_eq_ok_iff] at areBuilt
      have alike : ∀ child ∈ children, ∀ built, child.rebuilt = .ok built →
          WrittenAlike child built := fun child member _ => inductionHypothesis child member
      have both := (List.forall₂_and_left _ _).mpr ⟨alike, areBuilt⟩
      exact .group connective (both.imp fun child built found => found.1 built found.2)

/-! ## The writer and the constructor agree -/

/-- Right-hand sides that fit no operator, null among them, are never handed to
the writer of right-hand sides. -/
theorem conditionCharsBy_eq
    {write : Criterion → Except Error (List Char)}
    {inGroup : Bool}
    {operator : Operator}
    (fitting : ∀ criterion, criterion.fits operator.operandKind = true →
      write criterion = .ok (operandChars inGroup operator criterion))
    (column : String)
    (criterion : Criterion) :
    conditionCharsBy write column operator criterion =
      conditionChars inGroup column operator criterion := by
  rw [conditionChars, conditionCharsBy.eq_def, conditionCharsBy.eq_def]
  by_cases isNull : criterion.isNull = true
  · rw [if_pos isNull, if_pos isNull]
  · rw [if_neg isNull, if_neg isNull]
    cases checked : checkOperand column operator criterion with
    | error fault => rfl
    | ok _ => rw [fitting criterion (fits_of_checkOperand checked)]

/-- The parameter of the filter is what its parts, as the checked constructor
returns them, make of it. -/
structure WritesAsBuilt (filter : Filter) : Prop where
  written_iff : (∃ param, filter.toParam = .ok param) ↔ filter.IsWellFormed
  rebuilt : ∀ param, filter.toParam = .ok param →
    ∃ built, filter.rebuilt = .ok built ∧ built.toParam = .ok param
  key_of_condition : ∀ param column, filter.toParam = .ok param →
    filter.column? = some column → param.key = column
  key_of_group : ∀ param, filter.toParam = .ok param →
    filter.column? = none → param.key ∈ ["and", "or", "not.and", "not.or"]
  usage : ∀ error, filter.toParam = .error error → ∃ fault, error = .usage fault
  operand : ∀ column operator criterion,
    .leaf column operator criterion ∈ filter.subfilters →
      ∀ inGroup write,
        (∀ fit : Criterion, fit.fits operator.operandKind = true →
          write fit = .ok (operandChars inGroup operator fit)) →
        conditionCharsBy write column operator criterion =
          conditionChars inGroup column operator criterion

/-- A filter is written exactly if its groups have children and the checked
constructor accepts its conditions. It is then written like the filter with what
the constructor returns in place of each condition, on the column of a condition
and under the key of a group. Otherwise it is refused with a usage error, and no
right-hand side that fits no operator is ever written. -/
theorem writesAsBuilt (filter : Filter) : filter.WritesAsBuilt := by
  have value_of_toParam {param : Param} (written : filter.toParam = .ok param) :
      ∃ value, param = ⟨String.ofList filter.keyChars, String.ofList value⟩ := by
    obtain ⟨value, -, returned⟩ := bind_eq_ok_iff.mp written
    exact ⟨value, (Except.ok.inj returned).symm⟩
  refine ⟨exists_toParam_iff filter, fun param written => ?_, fun param column written isCondition => ?_,
    fun param written noCondition => ?_, fun error failure => ?_,
    fun column operator criterion _ inGroup write fitting => ?_⟩
  · obtain ⟨built, isBuilt⟩ := ((exists_toParam_iff filter).mp ⟨param, written⟩).exists_rebuilt
    exact ⟨built, isBuilt, (writtenAlike_of_rebuilt isBuilt).toParam.trans written⟩
  · obtain ⟨value, rfl⟩ := value_of_toParam written
    show String.ofList filter.keyChars = column
    rw [keyChars_of_column? isCondition, String.ofList_toList]
  · obtain ⟨value, rfl⟩ := value_of_toParam written
    exact keyChars_of_column?_eq_none noCondition
  · exact Error.exists_usage ((failsOnly_toParam filter).kind_of_error error failure)
  · exact conditionCharsBy_eq fitting column criterion

end Filter
end RestQuery
