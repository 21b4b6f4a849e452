import RestQuery.Proofs.Filter.Acceptance
import RestQuery.Proofs.Filter.StableConditions

/-!
# What was read is written and read again

A filter that was read from a parameter can be written unless it has a group
without children, which the reader takes and the writer refuses. What was
written is read as the same filter exactly if all its right-hand sides are
stable, provided that the children of its groups, as they are written again, can
still be told apart.
-/

namespace RestQuery
namespace Filter

open Sequence

variable {inGroup : Bool}

/-! ## Children -/

/-- What holds of the conditions that are read in groups, and of groups whose
children it holds of, holds of every child that is read. -/
theorem readChild_induction
    {motive : Filter → Prop}
    (condition : ∀ column text filter, '.' ∉ column → groupHead? (column ++ '.' :: text) = none →
      readLeaf true column text = .ok filter → motive filter)
    (group : ∀ negated connective children, (∀ child ∈ children, motive child) →
      motive (signedGroup negated connective children))
    {s : List Char}
    {filter : Filter}
    (isRead : readChild s = .ok filter) :
    motive filter := by
  induction length : s.length using Nat.strong_induction_on generalizing s filter with
  | _ n inductionHypothesis =>
      rw [readChild_eq] at isRead
      cases head : childHead? s with
      | none =>
          simp only [head, readFoldedLeaf] at isRead
          split at isRead
          · next column text cut =>
              obtain ⟨rfl, noPoint⟩ := Text.eq_append_of_cutAt cut
              refine condition column text filter noPoint ?_ isRead
              unfold childHead? at head
              split at head
              · cases head
              · exact Option.map_eq_none_iff.mp head
          · cases isRead
      | some found =>
          obtain ⟨negated, connective, body⟩ := found
          simp only [head] at isRead
          obtain ⟨inner, children, enclosed, areRead, rfl⟩ := readGroup_eq_ok_iff.mp isRead
          refine group negated connective children fun child member => ?_
          obtain ⟨part, inParts, childRead⟩ :=
            exists_of_mem_right (mapM_eq_ok_iff.mp areRead) member
          have := length_of_childHead? head
          have := Text.length_of_enclosed? enclosed
          have := Text.length_le_of_mem_splitTopLevel inParts
          exact inductionHypothesis part.length (by omega) childRead rfl

/-- A child of a group is written as a text that is read as the child exactly if its
right-hand sides are stable. -/
structure ChildRestores (filter : Filter) (part : List Char) : Prop where
  written : filter.childChars = .ok part
  notBlank : part ≠ []
  alike : filter.IsStable true → Alike filter filter
  read : filter.IsStable true → readChild part = .ok filter
  stable : ∀ found, readChild part = .ok found → Alike found filter → filter.IsStable true

theorem exists_childRestores_of_readLeaf
    {column text : List Char}
    {filter : Filter}
    (noPoint : '.' ∉ column)
    (noHead : groupHead? (column ++ '.' :: text) = none)
    (isRead : readLeaf true column text = .ok filter) :
    ∃ part, ChildRestores filter part := by
  obtain ⟨value, restores⟩ := exists_valueRestores isRead
  have reads := readChild_of_groupHead?_eq_none noPoint
    (groupHead?_column_of_eq_none noHead value) restores.noGroup
  refine ⟨column ++ '.' :: value, ?_, by simp, restores.alike, fun stable => ?_,
    fun found foundRead => ?_⟩
  · rw [childChars_of_column? (column?_of_readLeaf isRead), restores.written, String.toList_ofList]
    rfl
  · rw [reads, restores.read stable]
  · rw [reads] at foundRead
    exact restores.stable found foundRead

/-! ## Groups -/

/-- A group has children. -/
def HasChildren : Filter → Prop
  | group _ children => children ≠ []
  | _ => True

/-- Every group in the filter has children. -/
def IsPopulated (filter : Filter) : Prop := filter.Everywhere HasChildren

/-- The children of a group, as they are written, can be told apart. -/
def SeparatesChildren : Filter → Prop
  | group _ children => ∀ parts, children.mapM childChars = .ok parts → Text.Separable parts
  | _ => True

/-- The children of every group in the filter, as they are written, can be told
apart. -/
def IsSeparable (filter : Filter) : Prop := filter.Everywhere SeparatesChildren

theorem sameAll_iff {lefts rights : List Filter} :
    sameAll lefts rights = true ↔ List.Forall₂ Alike lefts rights := by
  induction lefts generalizing rights with
  | nil => cases rights <;> simp [sameAll]
  | cons left lefts inductionHypothesis =>
      cases rights with
      | nil => simp [sameAll]
      | cons right rights => simp [sameAll, Alike, inductionHypothesis]

theorem alike_signedGroup_iff
    {negated : Bool}
    {connective : Connective}
    {found children : List Filter} :
    Alike (signedGroup negated connective found) (signedGroup negated connective children) ↔
      List.Forall₂ Alike found children := by
  rw [← sameAll_iff]
  cases negated <;> simp [signedGroup, Alike, same]

section Body

variable {connective : Connective} {children : List Filter}

/-- The children of a group are written as a text in parentheses that is read as the
group exactly if the right-hand sides in it are stable. -/
structure BodyRestores
    (connective : Connective)
    (children : List Filter)
    (body : List Char) : Prop where
  written : bodyChars connective children = .ok body
  starts : ∃ rest, body = '(' :: rest
  alike : (∀ child ∈ children, child.IsStable true) → ∀ negated,
    Alike (signedGroup negated connective children) (signedGroup negated connective children)
  read : (∀ child ∈ children, child.IsStable true) →
    ∀ negated, readGroup negated connective body = .ok (signedGroup negated connective children)
  stable : ∀ negated found, readGroup negated connective body = .ok found →
    Alike found (signedGroup negated connective children) → ∀ child ∈ children, child.IsStable true

theorem exists_bodyRestores
    (connective : Connective)
    (some : children ≠ [])
    (each : ∀ child ∈ children, ∃ part, ChildRestores child part)
    (separates : SeparatesChildren (.group connective children)) :
    ∃ body, BodyRestores connective children body := by
  obtain ⟨parts, restores⟩ := exists_forall₂ each
  have written : children.mapM childChars = .ok parts :=
    mapM_eq_ok_iff.mpr (restores.imp fun _ _ child => child.written)
  have notBlank : parts ≠ [[]] := by
    rintro rfl
    obtain ⟨_, _, child⟩ := exists_of_mem_right restores List.mem_cons_self
    exact child.notBlank rfl
  have reads (negated : Bool) :
      readGroup negated connective ('(' :: Text.joinWith ',' parts ++ [')']) =
        parts.mapM readChild >>= fun found => pure (signedGroup negated connective found) := by
    rw [readGroup_enclose, (Text.splitTopLevel_joinWith_iff notBlank).mpr (separates parts written)]
  have withParts (stable : ∀ child ∈ children, child.IsStable true) :=
    (List.forall₂_and_left _ _).mpr ⟨stable, restores⟩
  refine ⟨_, bodyChars_eq_ok connective some written, ⟨_, rfl⟩, fun stable negated => ?_,
    fun stable negated => ?_, fun negated found isRead alike => ?_⟩
  · refine alike_signedGroup_iff.mpr (List.forall₂_same.mpr fun child member => ?_)
    obtain ⟨_, -, childStable, childRestores⟩ :=
      exists_of_mem_right (withParts stable).flip member
    exact childRestores.alike childStable
  · have areRead : parts.mapM readChild = .ok children :=
      mapM_eq_ok_iff.mpr ((withParts stable).imp fun _ _ child => child.2.read child.1).flip
    rw [reads, areRead]
    rfl
  · rw [reads] at isRead
    obtain ⟨others, areRead, returned⟩ := bind_eq_ok_iff.mp isRead
    cases returned
    have likewise := (alike_signedGroup_iff.mp alike).flip
    have reread := exists_mapM_eq_ok_and_forall₂_iff.mp ⟨others, areRead, likewise⟩
    have stable : List.Forall₂ (fun child _ => child.IsStable true) children parts :=
      restores.mp (fun child part childRestores ⟨other, isRead, alike⟩ =>
        childRestores.stable other isRead alike) reread
    intro child member
    obtain ⟨_, -, childStable⟩ := exists_of_mem_right stable.flip member
    exact childStable

/-- The children of a group that was read are written as texts that are read as them
exactly if their right-hand sides are stable. -/
theorem exists_childRestores
    {s : List Char}
    {filter : Filter}
    (isRead : readChild s = .ok filter)
    (populated : filter.IsPopulated)
    (separable : filter.IsSeparable) :
    ∃ part, ChildRestores filter part := by
  refine readChild_induction
    (motive := fun filter =>
      filter.IsPopulated → filter.IsSeparable → ∃ part, ChildRestores filter part)
    ?condition ?group isRead populated separable
  case condition =>
    intro column text filter noPoint noHead isRead _ _
    exact exists_childRestores_of_readLeaf noPoint noHead isRead
  case group =>
    intro negated connective children inductionHypothesis populated separable
    obtain ⟨someChildren, eachPopulated⟩ := (everywhere_signedGroup_iff fun _ => trivial).mp populated
    obtain ⟨separates, eachSeparable⟩ := (everywhere_signedGroup_iff fun _ => trivial).mp separable
    obtain ⟨body, restores⟩ := exists_bodyRestores connective someChildren
      (fun child member => inductionHypothesis child member (eachPopulated child member)
        (eachSeparable child member)) separates
    obtain ⟨rest, starts⟩ := restores.starts
    have reads : readChild ((signedGroup negated connective children).keyChars ++ body) =
        readGroup negated connective body := by
      rw [starts, readChild_eq, childHead?_signedGroup]
    refine ⟨(signedGroup negated connective children).keyChars ++ body, ?_, ?_, ?_, ?_, ?_⟩
    · rw [childChars_signedGroup, restores.written]
      rfl
    · rw [starts]
      simp
    · intro stable
      exact restores.alike (isStable_signedGroup_iff.mp stable) negated
    · intro stable
      rw [reads, restores.read (isStable_signedGroup_iff.mp stable)]
    · intro found foundRead alike
      rw [reads] at foundRead
      exact isStable_signedGroup_iff.mpr (restores.stable negated found foundRead alike)

end Body

/-! ## Parameters -/

/-- A parameter is read as a condition on the column that it names, or as a group of
what its parts are read as. -/
theorem readLeaf_or_group_of_ofParam
    {param : Param}
    {filter : Filter}
    (isRead : ofParam param = .ok filter) :
    (param.key ≠ "" ∧ param.key ∉ ["and", "or", "not.and", "not.or"] ∧
        readLeaf false param.key.toList param.value.toList = .ok filter) ∨
      ∃ negated connective children,
        filter = signedGroup negated connective children ∧
          ∀ child ∈ children, ∃ part, readChild part = .ok child := by
  rw [ofParam, Filter.read] at isRead
  cases key : groupKey? param.key.toList with
  | none =>
      simp only [key] at isRead
      split at isRead
      · cases isRead
      · next someKey =>
          refine .inl ⟨?_, fun listed => ?_, isRead⟩
          · rintro blank
            rw [blank] at someKey
            exact someKey rfl
          · obtain ⟨negated, connective, found⟩ := exists_groupKey?_of_mem listed
            rw [found] at key
            cases key
  | some found =>
      obtain ⟨negated, connective⟩ := found
      simp only [key] at isRead
      obtain ⟨inner, children, -, areRead, rfl⟩ := readGroup_eq_ok_iff.mp isRead
      refine .inr ⟨negated, connective, children, rfl, fun child member => ?_⟩
      obtain ⟨part, -, childRead⟩ := exists_of_mem_right (mapM_eq_ok_iff.mp areRead) member
      exact ⟨part, childRead⟩

/-- A condition that was read can be written. -/
theorem isWellFormed_of_readLeaf
    {column text : List Char}
    {filter : Filter}
    (isRead : readLeaf inGroup column text = .ok filter) :
    filter.IsWellFormed := by
  obtain ⟨value, restores⟩ := exists_valueRestores isRead
  exact (exists_valueChars_iff filter inGroup).mp ⟨value, restores.written⟩

/-- A condition has no groups in it. -/
theorem isPopulated_and_isSeparable_of_column?
    {filter : Filter}
    {column : String}
    (isCondition : filter.column? = some column) :
    filter.IsPopulated ∧ filter.IsSeparable :=
  ⟨everywhere_of_column? (fun _ => trivial) (fun _ _ _ => trivial) isCondition,
    everywhere_of_column? (fun _ => trivial) (fun _ _ _ => trivial) isCondition⟩

theorem isWellFormed_iff_isPopulated_signedGroup
    {negated : Bool}
    {connective : Connective}
    {children : List Filter}
    (each : ∀ child ∈ children, child.IsWellFormed ↔ child.IsPopulated) :
    IsWellFormed (signedGroup negated connective children) ↔
      IsPopulated (signedGroup negated connective children) := by
  rw [IsWellFormed, IsPopulated, everywhere_signedGroup_iff fun _ => trivial,
    everywhere_signedGroup_iff fun _ => trivial]
  exact and_congr_right fun _ => forall₂_congr each

/-- A child that was read can be written exactly if every group in it has
children. -/
theorem isWellFormed_iff_isPopulated_of_readChild
    {s : List Char}
    {filter : Filter}
    (isRead : readChild s = .ok filter) :
    filter.IsWellFormed ↔ filter.IsPopulated := by
  refine readChild_induction (motive := fun filter => filter.IsWellFormed ↔ filter.IsPopulated)
    ?condition ?group isRead
  case condition =>
    intro column text filter _ _ isRead
    have populated := (isPopulated_and_isSeparable_of_column? (column?_of_readLeaf isRead)).1
    exact iff_of_true (isWellFormed_of_readLeaf isRead) populated
  case group =>
    intro negated connective children inductionHypothesis
    exact isWellFormed_iff_isPopulated_signedGroup inductionHypothesis

/-- What was read from a parameter is written as a parameter that is read as the same
filter exactly if its right-hand sides are stable. -/
structure ParamRestores (inGroup : Bool) (filter : Filter) (param : Param) : Prop where
  written : filter.toParam = .ok param
  alike : filter.IsStable inGroup → Alike filter filter
  read : filter.IsStable inGroup → ofParam param = .ok filter
  stable : ∀ found, ofParam param = .ok found → Alike found filter → filter.IsStable inGroup

theorem exists_paramRestores_of_readLeaf
    {name : String}
    (named : name ≠ "")
    (noKey : name ∉ ["and", "or", "not.and", "not.or"])
    {text : List Char}
    {filter : Filter}
    (isRead : readLeaf false name.toList text = .ok filter) :
    ∃ param, ParamRestores false filter param := by
  obtain ⟨value, restores⟩ := exists_valueRestores isRead
  have isCondition : filter.column? = some name := by
    rw [column?_of_readLeaf isRead, String.ofList_toList]
  refine ⟨_, toParam_of_valueChars isCondition restores.written, restores.alike,
    fun stable => ?_, fun found foundRead => ?_⟩
  · rw [ofParam_eq_readLeaf named noKey, restores.read stable]
  · rw [ofParam_eq_readLeaf named noKey] at foundRead
    exact restores.stable found foundRead

theorem exists_paramRestores_signedGroup
    {negated : Bool}
    {connective : Connective}
    {children : List Filter}
    (areRead : ∀ child ∈ children, ∃ part, readChild part = .ok child)
    (populated : IsPopulated (signedGroup negated connective children))
    (separable : IsSeparable (signedGroup negated connective children)) :
    ∃ param, ParamRestores true (signedGroup negated connective children) param := by
  obtain ⟨someChildren, eachPopulated⟩ := (everywhere_signedGroup_iff fun _ => trivial).mp populated
  obtain ⟨separates, eachSeparable⟩ := (everywhere_signedGroup_iff fun _ => trivial).mp separable
  have each : ∀ child ∈ children, ∃ part, ChildRestores child part := by
    intro child member
    obtain ⟨part, childRead⟩ := areRead child member
    exact exists_childRestores childRead (eachPopulated child member) (eachSeparable child member)
  obtain ⟨body, restores⟩ := exists_bodyRestores connective someChildren each separates
  refine ⟨_, toParam_signedGroup negated connective children restores.written, fun stable => ?_,
    fun stable => ?_, fun found foundRead alike => ?_⟩
  · exact restores.alike (isStable_signedGroup_iff.mp stable) negated
  · rw [ofParam_signedGroup, restores.read (isStable_signedGroup_iff.mp stable)]
  · rw [ofParam_signedGroup] at foundRead
    exact isStable_signedGroup_iff.mpr (restores.stable negated found foundRead alike)

/-- What becomes of a filter when it is written and read again. -/
structure Reparses (filter : Filter) : Prop where
  written_iff : (∃ param, filter.toParam = .ok param) ↔ filter.IsPopulated
  comesBack_iff : filter.IsSeparable →
    (filter.ComesBack Alike ↔ filter.IsPopulated ∧ filter.IsStable filter.column?.isNone)
  exactly : filter.IsSeparable → filter.ComesBack Alike → filter.ComesBack Eq
  condition : ∀ column, filter.column? = some column → filter.IsPopulated ∧ filter.IsSeparable

theorem reparses_of_exists_paramRestores
    {filter : Filter}
    (written_iff : (∃ param, filter.toParam = .ok param) ↔ filter.IsPopulated)
    (restores : filter.IsPopulated → filter.IsSeparable →
      ∃ param, ParamRestores filter.column?.isNone filter param) :
    filter.Reparses := by
  have populated_of_comesBack (comesBack : filter.ComesBack Alike) : filter.IsPopulated := by
    obtain ⟨param, -, written, -⟩ := comesBack
    exact written_iff.mp ⟨param, written⟩
  have stable_of_comesBack (separable : filter.IsSeparable) (comesBack : filter.ComesBack Alike) :
      filter.IsStable filter.column?.isNone := by
    obtain ⟨again, restores⟩ := restores (populated_of_comesBack comesBack) separable
    obtain ⟨param, found, written, foundRead, alike⟩ := comesBack
    cases written.symm.trans restores.written
    exact restores.stable found foundRead alike
  refine ⟨written_iff, fun separable => ⟨fun comesBack => ?_, ?_⟩, fun separable comesBack => ?_,
    fun column => isPopulated_and_isSeparable_of_column?⟩
  · exact ⟨populated_of_comesBack comesBack, stable_of_comesBack separable comesBack⟩
  · rintro ⟨populated, stable⟩
    obtain ⟨param, restores⟩ := restores populated separable
    exact ⟨param, filter, restores.written, restores.read stable, restores.alike stable⟩
  · obtain ⟨param, restores⟩ := restores (populated_of_comesBack comesBack) separable
    have stable := stable_of_comesBack separable comesBack
    exact ⟨param, filter, restores.written, restores.read stable, rfl⟩

/-- A filter that was read can be written exactly if each of its groups has
children. If the children of its groups can be told apart as they are written, it
then comes back exactly if its right-hand sides are stable, and comes back
unchanged. In a condition there is nothing to be told apart. -/
theorem reparses_of_ofParam
    {param : Param}
    {filter : Filter}
    (isRead : ofParam param = .ok filter) :
    filter.Reparses := by
  rcases readLeaf_or_group_of_ofParam isRead with
    ⟨named, noKey, isRead⟩ | ⟨negated, connective, children, rfl, areRead⟩
  · have isCondition := column?_of_readLeaf isRead
    refine reparses_of_exists_paramRestores ?_ fun _ _ => ?_
    · rw [exists_toParam_iff]
      exact iff_of_true (isWellFormed_of_readLeaf isRead)
        (isPopulated_and_isSeparable_of_column? isCondition).1
    · rw [isCondition]
      exact exists_paramRestores_of_readLeaf named noKey isRead
  · refine reparses_of_exists_paramRestores ?_ fun populated separable => ?_
    · rw [exists_toParam_iff]
      refine isWellFormed_iff_isPopulated_signedGroup fun child member => ?_
      obtain ⟨part, childRead⟩ := areRead child member
      exact isWellFormed_iff_isPopulated_of_readChild childRead
    · rw [column?_signedGroup]
      exact exists_paramRestores_signedGroup areRead populated separable

/-- Two parameters are read as filters that do not come back: a number with a point
is written without it and read as an integer, and a group without children is not
written. -/
theorem not_comesBack_of_point_of_empty :
    (∃ value,
      ofParam ⟨"a", "eq.1.0"⟩ = .ok (comparison "a" .equal (.float value)) ∧
        toParam (comparison "a" .equal (.float value)) = .ok ⟨"a", "eq.1"⟩ ∧
        ¬ComesBack Alike (comparison "a" .equal (.float value))) ∧
      ofParam ⟨"and", "()"⟩ = .ok (and []) ∧ ¬∃ param, (and []).toParam = .ok param := by
  have isRead : ofParam ⟨"a", "eq.1.0"⟩ =
      .ok (comparison "a" .equal (.float (.ofDecimal false 10 (-1)))) := rfl
  have form : Scalar.floatChars (.ofDecimal false 10 (-1)) = "1".toList := by decide +kernel
  have emptyRead : ofParam ⟨"and", "()"⟩ = .ok (and []) := rfl
  refine ⟨⟨_, isRead, ?_, fun comesBack => ?_⟩, emptyRead, fun written => ?_⟩
  · refine toParam_of_valueChars rfl ?_
    show Except.ok ("eq".toList ++ '.' :: Scalar.floatChars (.ofDecimal false 10 (-1))) = _
    rw [form]
    rfl
  · have reparses := reparses_of_ofParam isRead
    have separable := (reparses.condition "a" rfl).2
    have stable := isStable_leaf_iff.mp ((reparses.comesBack_iff separable).mp comesBack).2
    rcases stable with isPattern | ⟨inGroup, -⟩ | ⟨stable, -⟩
    · cases isPattern
    · cases inGroup
    · have point := isStable_float_iff.mp stable
      rw [form] at point
      exact absurd point (by decide)
  · have populated := (reparses_of_ofParam emptyRead).written_iff.mp written
    exact (everywhere_group_iff.mp populated).1 rfl

end Filter
end RestQuery
