import RestQuery.Proofs.Filter.Standalone
import RestQuery.Proofs.Filter.Trees

/-!
# Negations come back from the query

The sign of a group goes into its key, any other sign in front of the value. Both
are taken off again by the reader, once for a group and as often as needed for a
condition. A second sign of a group goes in front of its parentheses, though,
where the reader does not look for one.
-/

namespace RestQuery
namespace Filter

open Sequence

/-! ## Filters that come back -/

/-- The filters are equal by their derived comparison. -/
def Alike (read filter : Filter) : Prop := read.same filter = true

/-- The filter is written as a parameter, and what is read from the parameter is
like it. -/
def ComesBack (alike : Filter → Filter → Prop) (filter : Filter) : Prop :=
  ∃ param read, filter.toParam = .ok param ∧ ofParam param = .ok read ∧ alike read filter

/-- A comparison of filters that looks through negations, and at the column of a
condition. -/
structure Comparison (alike : Filter → Filter → Prop) : Prop where
  not_iff : ∀ read filter, alike (.not read) (.not filter) ↔ alike read filter
  column : ∀ read filter, alike read filter → read.column? = filter.column?

theorem comparison_eq : Comparison Eq where
  not_iff read filter := by simp
  column read filter same := by rw [same]

theorem comparison_alike : Comparison Alike where
  not_iff read filter := by rw [Alike, same, Alike]
  column read filter alike := by
    induction read using induction generalizing filter with
    | leaf column operator criterion =>
        cases filter with
        | leaf => simp_all [Alike, same, column?]
        | not | group => simp [Alike, same] at alike
    | not inner inductionHypothesis =>
        cases filter with
        | not inner' =>
            rw [Alike, same] at alike
            exact inductionHypothesis inner' alike
        | leaf | group => simp [Alike, same] at alike
    | group connective children _ =>
        cases filter with
        | group => rfl
        | leaf | not => simp [Alike, same] at alike

/-! ## Groups -/

/-- The filter is the negation of a group. -/
def isNegatedGroup : Filter → Bool
  | not inner => inner.isGroup
  | _ => false

/-- The keys of groups name one. -/
theorem exists_groupKey?_of_mem
    {key : String}
    (listed : key ∈ ["and", "or", "not.and", "not.or"]) :
    ∃ negated connective, groupKey? key.toList = some (negated, connective) := by
  simp only [List.mem_cons, List.not_mem_nil, or_false] at listed
  rcases listed with rfl | rfl | rfl | rfl <;> exact ⟨_, _, rfl⟩

/-- A parameter under the key of a group is read as a group. -/
theorem ofParam_eq_readGroup
    {key : String}
    {negated : Bool}
    {connective : Connective}
    (found : groupKey? key.toList = some (negated, connective))
    (value : List Char) :
    ofParam ⟨key, String.ofList value⟩ = readGroup negated connective value := by
  rw [ofParam, Filter.read, found, String.toList_ofList]

/-- A group is read from anything that is in parentheses. -/
theorem readGroup_eq_ok_iff
    {negated : Bool}
    {connective : Connective}
    {body : List Char}
    {read : Filter} :
    readGroup negated connective body = .ok read ↔
      ∃ inner children,
        Text.enclosed? '(' ')' body = some inner ∧
          (Text.splitTopLevel inner).mapM readChild = .ok children ∧
          read = signedGroup negated connective children := by
  rw [readGroup]
  cases enclosed : Text.enclosed? '(' ')' body with
  | none => simp [orFail, bind, Except.bind]
  | some inner =>
      simp only [orFail, bind_eq_ok_iff, pure_eq_ok_iff, Option.some.injEq]
      constructor
      · rintro ⟨_, returned, children, isRead, rfl⟩
        cases returned
        exact ⟨_, children, rfl, isRead, rfl⟩
      · rintro ⟨_, children, rfl, isRead, rfl⟩
        exact ⟨_, rfl, children, isRead, rfl⟩

section SignedGroup

variable (negated : Bool) (connective : Connective) (children : List Filter)

theorem column?_signedGroup : (signedGroup negated connective children).column? = none := by
  cases negated <;> rfl

/-- A group is written as its children under its key. -/
theorem toParam_signedGroup
    {body : List Char}
    (written : bodyChars connective children = .ok body) :
    (signedGroup negated connective children).toParam =
      .ok ⟨String.ofList (signedGroup negated connective children).keyChars,
        String.ofList body⟩ := by
  rw [toParam, valueChars_signedGroup, written]
  rfl

/-- Under the key of a group, one with the same sign is read. -/
theorem ofParam_signedGroup (body : List Char) :
    ofParam ⟨String.ofList (signedGroup negated connective children).keyChars,
        String.ofList body⟩ =
      readGroup negated connective body := by
  simp only [ofParam, Filter.read, String.toList_ofList, groupKey?_signedGroup]

end SignedGroup

/-- A text that starts with a sign is not in parentheses. -/
theorem readGroup_sign
    (negated : Bool)
    (connective : Connective)
    (value : List Char) :
    readGroup negated connective ("not.".toList ++ value) =
      .error (malformed connective.token.toList ("not.".toList ++ value) .unparenthesized) :=
  rfl

/-- A group under more than one sign is written as a parameter that is refused. -/
theorem ofParam_of_sign
    {filter : Filter}
    {param : Param}
    (noCondition : filter.column? = none)
    (noSignedGroup : filter.isSignedGroup = false)
    (written : filter.toParam = .ok param) :
    ∃ connective : Connective,
      ofParam param =
        .error (malformed connective.token.toList param.value.toList .unparenthesized) := by
  obtain ⟨value, valueIs, returned⟩ := bind_eq_ok_iff.mp written
  cases returned
  obtain ⟨negated, connective, found⟩ :=
    exists_groupKey?_of_mem (keyChars_of_column?_eq_none noCondition)
  cases filter with
  | leaf => cases noCondition
  | group => cases noSignedGroup
  | not inner =>
      have noGroup : inner.isGroup = false := noSignedGroup
      rw [valueChars_not_eq, noGroup] at valueIs
      obtain ⟨innerValue, -, returned⟩ := bind_eq_ok_iff.mp valueIs
      cases returned
      refine ⟨connective, ?_⟩
      rw [ofParam_eq_readGroup found, readGroup_sign]
      simp only [String.toList_ofList]

/-! ## The negation of a filter that comes back -/

variable {alike : Filter → Filter → Prop} {filter : Filter}

/-- The negation of a filter is written if the filter is. -/
theorem exists_toParam_not {param : Param} (written : filter.toParam = .ok param) :
    ∃ negated, (Filter.not filter).toParam = .ok negated := by
  obtain ⟨value, valueIs, -⟩ := bind_eq_ok_iff.mp written
  rw [toParam, valueChars_not_eq, valueIs]
  split <;> exact ⟨_, rfl⟩

/-- A condition that comes back does so under a negation. -/
theorem ComesBack.not_of_column?
    (comparison : Comparison alike)
    {column : String}
    (isCondition : filter.column? = some column)
    (comesBack : filter.ComesBack alike) :
    (Filter.not filter).ComesBack alike := by
  obtain ⟨param, read, written, isRead, likewise⟩ := comesBack
  obtain ⟨value, valueIs, -⟩ := bind_eq_ok_iff.mp written
  cases written.symm.trans (toParam_of_valueChars isCondition valueIs)
  have noKey : column ∉ ["and", "or", "not.and", "not.or"] := by
    intro listed
    obtain ⟨negated, connective, found⟩ := exists_groupKey?_of_mem listed
    rw [ofParam_eq_readGroup found value] at isRead
    obtain ⟨-, children, -, -, rfl⟩ := readGroup_eq_ok_iff.mp isRead
    have same := comparison.column _ _ likewise
    rw [column?_signedGroup, isCondition] at same
    cases same
  have named : column ≠ "" := by
    rintro rfl
    cases isRead
  rw [ofParam_eq_readLeaf named noKey] at isRead
  have readsAs : ReadsAs filter column value read := ⟨isCondition, valueIs, isRead⟩
  obtain ⟨writtenNot, isReadNot⟩ := readsAs.not.toParam_ofParam named noKey
  exact ⟨_, _, writtenNot, isReadNot, (comparison.not_iff read filter).mpr likewise⟩

/-- A group that comes back does so under a negation. -/
theorem ComesBack.not_of_isGroup
    (comparison : Comparison alike)
    (isGroup : filter.isGroup = true)
    (comesBack : filter.ComesBack alike) :
    (Filter.not filter).ComesBack alike := by
  cases filter with
  | leaf | not => cases isGroup
  | group connective children =>
      obtain ⟨param, read, written, isRead, likewise⟩ := comesBack
      obtain ⟨body, bodyIs, returned⟩ := bind_eq_ok_iff.mp written
      cases returned
      have isGroupRead : readGroup false connective body = .ok read :=
        (ofParam_signedGroup false connective children body).symm.trans isRead
      obtain ⟨inner, found, enclosed, areRead, rfl⟩ := readGroup_eq_ok_iff.mp isGroupRead
      refine ⟨_, signedGroup true connective found,
        toParam_signedGroup true connective children bodyIs, ?_,
        (comparison.not_iff _ _).mpr likewise⟩
      rw [ofParam_signedGroup, readGroup_eq_ok_iff]
      exact ⟨inner, found, enclosed, areRead, rfl⟩

/-- What becomes of the negation of a filter that comes back: it is written, and
comes back as well, unless the filter is the negation of a group. -/
structure NegatesAs (alike : Filter → Filter → Prop) (filter : Filter) : Prop where
  written : ∃ param, (Filter.not filter).toParam = .ok param
  comesBack_iff : (Filter.not filter).ComesBack alike ↔ filter.isNegatedGroup = false
  refused : ∀ param, filter.isNegatedGroup = true → (Filter.not filter).toParam = .ok param →
    ∃ connective : Connective,
      ofParam param =
        .error (malformed connective.token.toList param.value.toList .unparenthesized)

theorem ComesBack.negatesAs
    (comparison : Comparison alike)
    (comesBack : filter.ComesBack alike) :
    NegatesAs alike filter := by
  have ⟨param, read, written, isRead, _⟩ := comesBack
  have refused (param : Param) (negatedGroup : filter.isNegatedGroup = true)
      (written : (Filter.not filter).toParam = .ok param) :
      ∃ connective : Connective,
        ofParam param =
          .error (malformed connective.token.toList param.value.toList .unparenthesized) := by
    cases filter with
    | leaf | group => cases negatedGroup
    | not inner =>
        cases inner with
        | leaf | not => cases negatedGroup
        | group => exact ofParam_of_sign rfl rfl written
  refine ⟨exists_toParam_not written, ⟨?_, fun noNegatedGroup => ?_⟩, refused⟩
  · rintro ⟨negated, readNot, writtenNot, isReadNot, -⟩
    refine Bool.eq_false_iff.mpr fun negatedGroup => ?_
    obtain ⟨connective, failure⟩ := refused negated negatedGroup writtenNot
    cases failure.symm.trans isReadNot
  · cases isCondition : filter.column? with
    | some column => exact comesBack.not_of_column? comparison isCondition
    | none =>
        cases isGroup : filter.isGroup with
        | true => exact comesBack.not_of_isGroup comparison isGroup
        | false =>
            -- A group under several signs is refused, so it did not come back.
            have noSignedGroup : filter.isSignedGroup = false := by
              cases filter with
              | leaf => rfl
              | not => exact noNegatedGroup
              | group => cases isGroup
            obtain ⟨connective, failure⟩ := ofParam_of_sign isCondition noSignedGroup written
            cases failure.symm.trans isRead

/-- A filter that comes back, exactly or up to the derived comparison, does so
under a negation if it is not itself the negation of a group. The negation of one
is written with a second sign in front of its parentheses, and refused. -/
theorem negatesAs_of_comesBack (filter : Filter) :
    (filter.ComesBack Alike → NegatesAs Alike filter) ∧
      (filter.ComesBack Eq → NegatesAs Eq filter) :=
  ⟨ComesBack.negatesAs comparison_alike, ComesBack.negatesAs comparison_eq⟩

/-- A negated group comes back, and is refused under another negation. -/
theorem not_comesBack_not_not_group :
    ComesBack Eq (.not (and [comparison "a" .equal (.int 1)])) ∧
      ¬ComesBack Eq (.not (.not (and [comparison "a" .equal (.int 1)]))) := by
  have plain : IsPlainColumn "a".toList := by decide
  have parts : Text.splitTopLevel "a.eq.1".toList = ["a".toList ++ '.' :: "eq.1".toList] := by
    decide
  have isRead : ofParam ⟨"not.and", "(a.eq.1)"⟩ =
      .ok (.not (and [comparison "a" .equal (.int 1)])) := by
    show readGroup true .and ('(' :: "a.eq.1".toList ++ [')']) = _
    rw [readGroup_enclose, parts, List.mapM_cons, readChild_column plain rfl]
    rfl
  have comesBack : ComesBack Eq (.not (and [comparison "a" .equal (.int 1)])) :=
    ⟨_, _, rfl, isRead, rfl⟩
  refine ⟨comesBack, fun again => ?_⟩
  have noNegatedGroup := ((negatesAs_of_comesBack _).2 comesBack).comesBack_iff.mp again
  cases noNegatedGroup

end Filter
end RestQuery
