import RestQuery.Proofs.Filter.Folding

/-!
# Filters as trees

A filter is a tree of conditions, negations and groups. What holds everywhere in
a tree holds of the filter itself and everywhere in what is right below it.
-/

namespace RestQuery
namespace Filter

open Sequence

/-- What holds of conditions, and of negations and groups of filters of which it
holds, holds of every filter. -/
@[elab_as_elim]
theorem induction
    {motive : Filter → Prop}
    (leaf : ∀ column operator criterion, motive (.leaf column operator criterion))
    (not : ∀ inner, motive inner → motive (.not inner))
    (group : ∀ connective children,
      (∀ child ∈ children, motive child) → motive (.group connective children))
    (filter : Filter) :
    motive filter :=
  @Filter.rec motive (fun children => ∀ child ∈ children, motive child) leaf not group
    (fun _ member => nomatch member)
    (fun _ _ first others => List.forall_mem_cons.mpr ⟨first, others⟩)
    filter

mutual

/-- The filter and all filters below it. -/
def subfilters : Filter → List Filter
  | leaf column operator criterion => [.leaf column operator criterion]
  | not inner => .not inner :: inner.subfilters
  | group connective children => .group connective children :: subfiltersAll children

/-- The filters of a list and all filters below them. -/
def subfiltersAll : List Filter → List Filter
  | [] => []
  | child :: children => child.subfilters ++ subfiltersAll children

end

theorem subfiltersAll_eq_flatMap (children : List Filter) :
    subfiltersAll children = children.flatMap subfilters := by
  induction children with
  | nil => rfl
  | cons child rest inductionHypothesis =>
      rw [subfiltersAll, inductionHypothesis, List.flatMap_cons]

/-- The property holds of the filter and of all filters below it. -/
def Everywhere (property : Filter → Prop) (filter : Filter) : Prop :=
  ∀ below ∈ filter.subfilters, property below

section Everywhere

variable {property : Filter → Prop}

@[simp] theorem everywhere_leaf_iff
    {column : String}
    {operator : Operator}
    {criterion : Criterion} :
    Everywhere property (.leaf column operator criterion) ↔
      property (.leaf column operator criterion) := by
  simp [Everywhere, subfilters]

@[simp] theorem everywhere_not_iff {inner : Filter} :
    Everywhere property (.not inner) ↔ property (.not inner) ∧ Everywhere property inner := by
  simp [Everywhere, subfilters]

@[simp] theorem everywhere_group_iff {connective : Connective} {children : List Filter} :
    Everywhere property (.group connective children) ↔
      property (.group connective children) ∧ ∀ child ∈ children, Everywhere property child := by
  simp only [Everywhere, subfilters, subfiltersAll_eq_flatMap, List.forall_mem_cons,
    List.mem_flatMap]
  refine and_congr_right fun _ => ⟨fun each child member below isBelow => ?_, ?_⟩
  · exact each below ⟨child, member, isBelow⟩
  · rintro each below ⟨child, member, isBelow⟩
    exact each child member below isBelow

end Everywhere

/-! ## Groups and conditions -/

/-- A property that says nothing of negations holds everywhere in a group if it
holds of the group and everywhere in its children. -/
theorem everywhere_signedGroup_iff
    {property : Filter → Prop}
    (ofNot : ∀ inner, property (.not inner))
    {negated : Bool}
    {connective : Connective}
    {children : List Filter} :
    Everywhere property (signedGroup negated connective children) ↔
      property (.group connective children) ∧ ∀ child ∈ children, Everywhere property child := by
  cases negated with
  | false => exact everywhere_group_iff
  | true => exact everywhere_not_iff.trans ((and_iff_right (ofNot _)).trans everywhere_group_iff)

/-- A property that says nothing of negations and conditions holds everywhere in a
condition. -/
theorem everywhere_of_column?
    {property : Filter → Prop}
    (ofNot : ∀ inner, property (.not inner))
    (ofLeaf : ∀ column operator criterion, property (.leaf column operator criterion))
    {filter : Filter}
    {column : String}
    (isCondition : filter.column? = some column) :
    filter.Everywhere property := by
  induction filter using column?.induct with
  | case1 => exact everywhere_leaf_iff.mpr (ofLeaf _ _ _)
  | case2 inner inductionHypothesis =>
      exact everywhere_not_iff.mpr ⟨ofNot inner, inductionHypothesis isCondition⟩
  | case3 => cases isCondition

/-- A filter that is no condition has the key of a group. -/
theorem keyChars_of_column?_eq_none
    {filter : Filter}
    (noCondition : filter.column? = none) :
    String.ofList filter.keyChars ∈ ["and", "or", "not.and", "not.or"] := by
  induction filter using induction with
  | leaf => cases noCondition
  | not inner inductionHypothesis =>
      rw [keyChars_not]
      split
      · cases inner with
        | leaf | not => contradiction
        | group connective =>
            rw [keyChars]
            cases connective <;> decide
      · exact inductionHypothesis noCondition
  | group connective =>
      rw [keyChars]
      cases connective <;> decide

end Filter
end RestQuery
