import RestQuery.Proofs.Filter.Conditions
import RestQuery.Proofs.Text.Nesting

/-!
# Children of groups

A child of a group is folded into one text: a condition has its column and a
point in front of its value, a group its connective in front of its
parentheses. The sign of a group goes into its key, the sign of anything else
in front of its value. The reader tells the two apart by what stands in front
of the first point or parenthesis, so no condition is taken for a group.
-/

namespace RestQuery

namespace Operator

/-- Operators have different tokens. -/
theorem token_injective
    {operator operator' : Operator}
    (same : operator.token = operator'.token) :
    operator = operator' := by
  have found := ofToken?_token operator
  rw [same, ofToken?_token] at found
  exact (Option.some.inj found).symm

end Operator

namespace Filter

open Sequence
open Text (Closed)

/-! ## Groups and their negations -/

/-- The filter is a group. -/
def isGroup : Filter → Bool
  | group _ _ => true
  | _ => false

/-- The filter is a group or the negation of one. -/
def isSignedGroup : Filter → Bool
  | not inner => inner.isGroup
  | filter => filter.isGroup

theorem isSignedGroup_of_column?
    {filter : Filter}
    {column : String}
    (isCondition : filter.column? = some column) :
    filter.isSignedGroup = false ∧ filter.isGroup = false := by
  cases filter with
  | leaf => exact ⟨rfl, rfl⟩
  | not inner =>
      refine ⟨?_, rfl⟩
      cases inner with
      | leaf | not => rfl
      | group => cases isCondition
  | group => cases isCondition

/-! ## Writing -/

theorem childrenChars_eq_mapM (children : List Filter) :
    childrenChars children = children.mapM childChars := by
  induction children with
  | nil => rfl
  | cons child rest inductionHypothesis =>
      rw [childrenChars, inductionHypothesis, List.mapM_cons]

/-- Only the sign of a group goes into its key. -/
theorem keyChars_not (inner : Filter) :
    (Filter.not inner).keyChars =
      if inner.isGroup then "not.".toList ++ inner.keyChars else inner.keyChars := by
  cases inner <;> rfl

/-- The sign of anything but a group goes into its value. -/
theorem valueChars_not_eq (inner : Filter) (inGroup : Bool) :
    (Filter.not inner).valueChars inGroup =
      if inner.isGroup then inner.valueChars inGroup
      else inner.valueChars inGroup >>= fun value => pure ("not.".toList ++ value) := by
  cases inner <;> rfl

/-- The children of a group stand in parentheses, and a group without children is
not written. -/
theorem bodyChars_eq (connective : Connective) (children : List Filter) :
    bodyChars connective children =
      if children = [] then .error (.usage (.emptyGroup connective))
      else children.mapM childChars >>= fun parts =>
        pure ('(' :: Text.joinWith ',' parts ++ [')']) := by
  cases children with
  | nil => rfl
  | cons child rest =>
      simp only [bodyChars, childrenChars_eq_mapM, List.mapM_cons, reduceCtorEq, if_false,
        bind_assoc, pure_bind]

/-- A child is its key and its value, with a point between them unless it is a
group or the negation of one. -/
theorem childChars_eq (filter : Filter) :
    filter.childChars =
      filter.valueChars true >>= fun value =>
        pure (filter.keyChars ++ if filter.isSignedGroup then value else '.' :: value) := by
  cases filter with
  | leaf | group => rfl
  | not inner =>
      cases inner with
      | leaf => simp [childChars, valueChars, keyChars, isSignedGroup, isGroup]
      | not => simp [childChars, valueChars, keyChars_not, isSignedGroup, isGroup]
      | group => simp [childChars, valueChars, keyChars, isSignedGroup, isGroup]

/-- The texts of the children stand in parentheses, with commas between
them. -/
theorem bodyChars_eq_ok
    (connective : Connective)
    {children : List Filter}
    {parts : List (List Char)}
    (some : children ≠ [])
    (written : children.mapM childChars = .ok parts) :
    bodyChars connective children = .ok ('(' :: Text.joinWith ',' parts ++ [')']) := by
  rw [bodyChars_eq, if_neg some, written]
  rfl

/-- A condition under negations has its column as key. -/
theorem keyChars_of_column?
    {filter : Filter}
    {column : String}
    (isCondition : filter.column? = some column) :
    filter.keyChars = column.toList := by
  induction filter using column?.induct with
  | case1 leafColumn operator criterion =>
      cases isCondition
      rfl
  | case2 inner inductionHypothesis =>
      rw [column?] at isCondition
      cases inner with
      | leaf => exact inductionHypothesis isCondition
      | not => exact inductionHypothesis isCondition
      | group => cases isCondition
  | case3 => cases isCondition

/-- A negated condition has a negation in front of its value. -/
theorem valueChars_not
    {inner : Filter}
    {column : String}
    (isCondition : inner.column? = some column)
    (inGroup : Bool) :
    valueChars inGroup (.not inner) =
      inner.valueChars inGroup >>= fun value => pure ("not.".toList ++ value) := by
  rw [valueChars_not_eq, (isSignedGroup_of_column? isCondition).2]
  rfl

/-- A child that is a condition under negations is its column, a point and its
value. -/
theorem childChars_of_column?
    {filter : Filter}
    {column : String}
    (isCondition : filter.column? = some column) :
    filter.childChars =
      filter.valueChars true >>= fun value => pure (column.toList ++ '.' :: value) := by
  rw [childChars_eq, keyChars_of_column? isCondition, (isSignedGroup_of_column? isCondition).1]
  rfl

/-- The value of a group is its children in parentheses. -/
theorem valueChars_signedGroup
    (negated : Bool)
    (connective : Connective)
    (children : List Filter)
    (inGroup : Bool) :
    (signedGroup negated connective children).valueChars inGroup =
      bodyChars connective children := by
  cases negated <;> rfl

/-- A child that is a group is its key and its children in parentheses. -/
theorem childChars_signedGroup
    (negated : Bool)
    (connective : Connective)
    (children : List Filter) :
    (signedGroup negated connective children).childChars =
      bodyChars connective children >>= fun body =>
        pure ((signedGroup negated connective children).keyChars ++ body) := by
  cases negated <;> rfl

/-- A token has nothing in it that the splitter looks at. -/
theorem closed_token (operator : Operator) : Closed 0 operator.token.toList := by
  refine .of_all ?_
  cases operator <;> decide

/-- The key of a group has nothing in it that the splitter looks at. -/
theorem closed_keyChars_signedGroup
    (negated : Bool)
    (connective : Connective)
    (children : List Filter) :
    Closed 0 (signedGroup negated connective children).keyChars := by
  have token := closed_token connective.operator
  cases negated with
  | false => exact token
  | true => exact .append (.of_all (by decide)) token

/-! ## Telling children apart -/

/-- The column holds no point, no comma, no bracket and no double quote. -/
def IsPlainColumn (column : List Char) : Prop :=
  ∀ c ∈ column, c ≠ '.' ∧ c ≠ ',' ∧ Text.isMark c = false

instance isPlainColumnDecidable (column : List Char) : Decidable (IsPlainColumn column) :=
  List.decidableBAll _ column

theorem IsPlainColumn.point_not_mem
    {column : List Char}
    (plain : IsPlainColumn column) :
    '.' ∉ column :=
  fun member => (plain '.' member).1 rfl

theorem IsPlainColumn.endsToken_eq_false
    {column : List Char}
    (plain : IsPlainColumn column)
    {c : Char}
    (member : c ∈ column) :
    endsToken c = false := by
  obtain ⟨noPoint, -, noMark⟩ := plain c member
  have noParenthesis : c ≠ '(' := by
    rintro rfl
    cases noMark
  simp [endsToken, noPoint, noParenthesis]

/-- A column in front of a value closes what it opens as the value does. -/
theorem IsPlainColumn.closed_append
    {column value : List Char}
    (plain : IsPlainColumn column)
    (closed : Closed 0 value) :
    Closed 0 (column ++ '.' :: value) := by
  refine .append (.of_plain fun c member => ?_) (.cons rfl (by decide) closed)
  exact ⟨(plain c member).2.2, (plain c member).2.1⟩

/-- Only the text of a group starts with a connective and a parenthesis. -/
theorem groupHead?_eq_some
    {s body : List Char}
    {connective : Connective}
    (found : groupHead? s = some (connective, body)) :
    ∃ rest, body = '(' :: rest ∧ s = connective.token.toList ++ '(' :: rest := by
  unfold groupHead? at found
  split at found
  · cases found
    exact ⟨_, rfl, rfl⟩
  · cases found
    exact ⟨_, rfl, rfl⟩
  · cases found

/-- No group starts with the token of another operator. -/
theorem groupHead?_token
    {operator : Operator}
    {c : Char}
    (ends : endsToken c = true)
    (noConnective : ∀ connective : Connective, operator ≠ connective.operator)
    (rest : List Char) :
    groupHead? (operator.token.toList ++ c :: rest) = none := by
  refine Option.eq_none_iff_forall_not_mem.mpr ?_
  rintro ⟨connective, body⟩ found
  obtain ⟨inner, -, shape⟩ := groupHead?_eq_some found
  have tokens := congrArg (List.takeWhile fun d => !endsToken d) shape
  rw [takeWhile_token operator ends, Connective.token, takeWhile_token _ rfl] at tokens
  exact noConnective connective (Operator.token_injective (String.toList_inj.mp tokens))

/-- No group starts with the sign of a value. -/
theorem groupHead?_negation (value : List Char) : groupHead? ("not.".toList ++ value) = none := by
  show groupHead? (Operator.not.token.toList ++ '.' :: value) = none
  refine groupHead?_token rfl (fun connective => ?_) value
  cases connective <;> decide

theorem operandChars_eq_cons
    (inGroup : Bool)
    (operator : Operator)
    (criterion : Criterion) :
    ∃ c rest, operandChars inGroup operator criterion = c :: rest ∧ endsToken c = true := by
  cases criterion with
  | null => exact ⟨_, _, rfl, rfl⟩
  | scalar value => cases value <;> exact ⟨_, _, rfl, rfl⟩
  | list items =>
      rw [operandChars]
      split <;> exact ⟨_, _, rfl, rfl⟩
  | map values => exact ⟨_, _, rfl, rfl⟩
  | interval range => exact ⟨_, _, rfl, rfl⟩
  | fullText search => exact ⟨_, _, rfl, rfl⟩

/-- No group starts with the token of a fitting right-hand side. -/
theorem groupHead?_operandChars
    (inGroup : Bool)
    {operator : Operator}
    {criterion : Criterion}
    (fits : criterion.fits operator.operandKind = true) :
    groupHead? (operator.token.toList ++ operandChars inGroup operator criterion) = none := by
  have notLogical := (isNull_isLogical_of_fits fits).2
  obtain ⟨c, rest, operand, ends⟩ := operandChars_eq_cons inGroup operator criterion
  rw [operand]
  refine groupHead?_token ends (fun connective same => ?_) rest
  rw [same] at notLogical
  cases connective <;> cases notLogical

/-- No group starts like the value of a condition. -/
theorem groupHead?_of_conditionChars
    {inGroup : Bool}
    {column : String}
    {operator : Operator}
    {criterion : Criterion}
    {value : List Char}
    (written : conditionChars inGroup column operator criterion = .ok value) :
    groupHead? value = none := by
  unfold conditionChars conditionCharsBy at written
  split at written
  · split at written <;> cases written <;> rfl
  · obtain ⟨_, checked, returned⟩ := bind_eq_ok_iff.mp written
    cases returned
    exact groupHead?_operandChars inGroup (fits_of_checkOperand checked)

/-- No group starts with a column and a point. -/
theorem groupHead?_column
    {column : List Char}
    (plain : IsPlainColumn column)
    (value : List Char) :
    groupHead? (column ++ '.' :: value) = none := by
  have inColumn : ∀ c ∈ column, (!endsToken c) = true := fun c member => by
    rw [plain.endsToken_eq_false member, Bool.not_false]
  refine Option.eq_none_iff_forall_not_mem.mpr ?_
  rintro ⟨connective, body⟩ found
  obtain ⟨inner, -, shape⟩ := groupHead?_eq_some found
  have behind := congrArg (List.dropWhile fun d => !endsToken d) shape
  rw [List.dropWhile_append_of_pos inColumn, List.dropWhile_cons_of_neg (by decide),
    Connective.token, dropWhile_token _ rfl] at behind
  cases behind

/-- Whether a column in front of a value looks like a group is told by the column. -/
theorem groupHead?_column_of_eq_none
    {column value : List Char}
    (noHead : groupHead? (column ++ '.' :: value) = none)
    (other : List Char) :
    groupHead? (column ++ '.' :: other) = none := by
  refine Option.eq_none_iff_forall_not_mem.mpr ?_
  rintro ⟨connective, body⟩ found
  obtain ⟨rest, -, shape⟩ := groupHead?_eq_some found
  have lead : '.' ∉ connective.token.toList ++ ['('] := by cases connective <;> decide
  have shape : column ++ '.' :: other = (connective.token.toList ++ ['(']) ++ rest := by
    rw [shape, ← List.append_cons]
  rcases List.append_eq_append_iff.mp shape with ⟨more, lead_eq, behind⟩ | ⟨more, column_eq, -⟩
  · cases more with
    | nil =>
        rw [List.append_nil] at lead_eq
        rw [← lead_eq] at noHead
        cases connective <;> cases noHead
    | cons c more =>
        obtain ⟨rfl, -⟩ := List.cons.inj behind
        exact lead (by rw [lead_eq]; simp)
  · rw [column_eq] at noHead
    cases connective <;> cases noHead

/-- What follows the first point of a text is determined by the text. -/
theorem eq_of_append_point_eq
    {column column' value value' : List Char}
    (noPoint : '.' ∉ column)
    (noPoint' : '.' ∉ column')
    (same : column ++ '.' :: value = column' ++ '.' :: value') :
    value = value' := by
  have cut := congrArg (Text.cutAt '.') same
  rw [Text.cutAt_append _ noPoint, Text.cutAt_append _ noPoint'] at cut
  cases cut
  rfl

/-- A column and a value that does not look like a group are not taken for
one, even if the column is called like a negation. -/
theorem childHead?_column
    {column value : List Char}
    (noPoint : '.' ∉ column)
    (noHead : groupHead? (column ++ '.' :: value) = none)
    (noGroup : groupHead? value = none) :
    childHead? (column ++ '.' :: value) = none := by
  have noNegatedGroup :
      (Text.after? "not.".toList (column ++ '.' :: value)).bind groupHead? = none := by
    refine Option.bind_eq_none_iff.mpr fun rest found => ?_
    have shape := Text.eq_append_of_after? found
    change column ++ '.' :: value = "not".toList ++ '.' :: rest at shape
    rwa [← eq_of_append_point_eq noPoint (by decide) shape]
  rw [childHead?, noNegatedGroup, noHead]
  rfl

/-- A group is found by its key in front of its parentheses. -/
theorem childHead?_signedGroup
    (negated : Bool)
    (connective : Connective)
    (children : List Filter)
    (rest : List Char) :
    childHead? ((signedGroup negated connective children).keyChars ++ '(' :: rest) =
      some (negated, connective, '(' :: rest) := by
  cases negated <;> cases connective <;> rfl

/-- The key of a group names it. -/
theorem groupKey?_signedGroup
    (negated : Bool)
    (connective : Connective)
    (children : List Filter) :
    groupKey? (signedGroup negated connective children).keyChars =
      some (negated, connective) := by
  cases negated <;> cases connective <;> rfl

/-! ## Reading -/

/-- A child is a group if it starts like one, and a condition otherwise. -/
theorem readChild_eq (s : List Char) :
    readChild s =
      match childHead? s with
      | none => readFoldedLeaf s
      | some (negated, connective, body) => readGroup negated connective body := by
  rw [readChild]
  split
  · next noGroup => rw [noGroup]
  · next head =>
      rw [head]
      dsimp only
      split
      · next noBody => rw [readGroup, noBody]; rfl
      · next inside =>
          rw [readGroup, inside]
          simp [orFail, bind, Except.bind]

/-- The parts between the parentheses are read one by one. -/
theorem readGroup_enclose
    (negated : Bool)
    (connective : Connective)
    (inner : List Char) :
    readGroup negated connective ('(' :: inner ++ [')']) =
      (Text.splitTopLevel inner).mapM readChild >>= fun children =>
        pure (signedGroup negated connective children) := by
  rw [readGroup, Text.enclosed?_enclose]
  rfl

/-- A column in front of a value is read as a condition, unless the two look like a
group. -/
theorem readChild_of_groupHead?_eq_none
    {column value : List Char}
    (noPoint : '.' ∉ column)
    (noHead : groupHead? (column ++ '.' :: value) = none)
    (noGroup : groupHead? value = none) :
    readChild (column ++ '.' :: value) = readLeaf true column value := by
  rw [readChild_eq, childHead?_column noPoint noHead noGroup]
  simp only [readFoldedLeaf, Text.cutAt_append _ noPoint]

/-- A plain column in front of a value is read as a condition. -/
theorem readChild_column
    {column value : List Char}
    (plain : IsPlainColumn column)
    (noGroup : groupHead? value = none) :
    readChild (column ++ '.' :: value) = readLeaf true column value :=
  readChild_of_groupHead?_eq_none plain.point_not_mem (groupHead?_column plain value) noGroup

end Filter
end RestQuery
