import RestQuery.Proofs.Filter.Folding
import RestQuery.Proofs.Filter.Maps

/-!
# Groups come back from the query

A group of conditions is written as one parameter, and reading the parameter
gives the group back, however deep it is nested, if every condition in it has a
restorable right-hand side. Which right-hand sides are restorable depends on
how they are written: texts that are quoted inside groups, quoted lists and
maps come back whatever they hold, while a bare text must not look like a
number, a truth value or null, and must close the brackets it opens.

The proof gives every filter below a group one text that is an item of its own
and is read as the filter.
-/

namespace RestQuery

open Text (Closed)

/-- The right-hand sides that come back from a group, by the forms in which
they are written. -/
inductive Criterion.Restorable (operator : Operator) : Criterion → Prop
  | null
      (is : operator = .is) :
      Restorable operator .null
  | int
      (kind : operator.operandKind = .scalar)
      (value : Int64) :
      Restorable operator (.scalar (.int value))
  | bool
      (kind : operator.operandKind = .scalar)
      (value : Bool) :
      Restorable operator (.scalar (.bool value))
  | quotedText
      (kind : operator.operandKind = .scalar)
      (value : String)
      (reserved : value.toList.any Filter.isReserved = true) :
      Restorable operator (.scalar (.text value))
  | plainText
      (kind : operator.operandKind = .scalar)
      (value : String)
      (closed : Closed 0 value.toList)
      (isText : Filter.readScalar value.toList = .text value)
      (notNull : operator = .is → value ≠ "null") :
      Restorable operator (.scalar (.text value))
  | pattern
      (kind : operator.operandKind = .pattern)
      (value : String)
      (isSealed : Filter.Sealed value.toList)
      (noStar : '*' ∉ value.toList) :
      Restorable operator (.scalar (.text value))
  | texts
      (oneOf : operator = .oneOf)
      (texts : List String) :
      Restorable operator (.list (texts.map .text))
  | map
      (oneOf : operator = .oneOf)
      (values : SortedMap Scalar)
      (exact : ∀ entry ∈ values.entries, entry.2.IsExact) :
      Restorable operator (.map values)
  | bareItems
      (kind : operator.operandKind = .container)
      (items : List Scalar)
      (bare : ∀ item ∈ items, Filter.IsBare item)
      (notBlank : items ≠ [.text ""])
      (noDocument : (Filter.bareItems items).head? ≠ some '"') :
      Restorable operator (.list items)

namespace Filter

open Sequence

/-- The groups below a filter have children, its conditions have restorable
right-hand sides on plain columns, and no negated group is negated again. -/
inductive Restorable : Filter → Prop
  | leaf
      {column : String}
      {operator : Operator}
      {criterion : Criterion}
      (plain : IsPlainColumn column.toList)
      (restorable : criterion.Restorable operator) :
      Restorable (.leaf column operator criterion)
  | notCondition
      {inner : Filter}
      {column : String}
      (isCondition : inner.column? = some column)
      (restorable : Restorable inner) :
      Restorable (.not inner)
  | group
      {negated : Bool}
      {connective : Connective}
      {children : List Filter}
      (some : children ≠ [])
      (each : ∀ child ∈ children, Restorable child) :
      Restorable (signedGroup negated connective children)

/-! ## Conditions -/

/-- Behind the point, the right-hand side is written as an item of its own and
read as it was. -/
structure OperandReadsBack
    (operator : Operator)
    (criterion : Criterion)
    (s : List Char) : Prop where
  written : operandChars true operator criterion = '.' :: s
  closed : Closed 0 s
  read : ∀ column, readOperand true column operator s = .ok criterion

/-- A restorable right-hand side is null behind its operator, or fits it and is
no search. -/
theorem eq_null_or_fits_of_restorable
    {operator : Operator}
    {criterion : Criterion}
    (restorable : criterion.Restorable operator) :
    (operator = .is ∧ criterion = .null) ∨
      criterion.fits operator.operandKind = true ∧ operator.isFullText = false := by
  have fits_of_ne : criterion ≠ .null → criterion.fits operator.operandKind = true := by
    intro notNull
    cases restorable with
    | null is => exact absurd rfl notNull
    | int kind value => rw [kind]; rfl
    | bool kind value => rw [kind]; rfl
    | quotedText kind value reserved => rw [kind]; rfl
    | plainText kind value closed isText notNull => rw [kind]; rfl
    | pattern kind value isSealed noStar => rw [kind]; rfl
    | texts oneOf texts => rw [oneOf]; rfl
    | map oneOf values exact => rw [oneOf]; rfl
    | bareItems kind items bare notBlank noDocument => rw [kind]; rfl
  have noSearch : ∀ search, criterion ≠ .fullText search := by
    rintro search rfl
    cases restorable
  by_cases null : criterion = .null
  · subst null
    cases restorable with
    | null is => exact .inl ⟨is, rfl⟩
  · exact .inr ⟨fits_of_ne null, isFullText_of_fits (fits_of_ne null) noSearch⟩

/-- A text that is read as one, if it is not quoted, is read back. -/
theorem operandReadsBack_text
    {operator : Operator}
    (kind : operator.operandKind = .scalar)
    {value : String}
    (isSealed : Sealed value.toList)
    (readable :
      value.toList.any isReserved = true ∨
        readScalar value.toList = .text value ∧ (operator = .is → value ≠ "null")) :
    OperandReadsBack operator (.scalar (.text value)) (textChars true value.toList) where
  written := operandChars_text true kind value
  closed := isSealed.closed
  read column := readOperand_textChars column kind readable

/-- A restorable right-hand side is written as an item of its own and read
back. -/
theorem exists_operandReadsBack
    {operator : Operator}
    {criterion : Criterion}
    (restorable : criterion.Restorable operator) :
    ∃ s, OperandReadsBack operator criterion s := by
  cases restorable with
  | null is =>
      subst is
      exact ⟨"null".toList, rfl, .of_all (by decide), fun _ => rfl⟩
  | int kind value =>
      exact ⟨_, rfl, closed_intChars value.toInt,
        fun column => readOperand_int true column kind value⟩
  | bool kind value =>
      exact ⟨_, rfl, closed_bool value, fun column => readOperand_bool true column kind value⟩
  | quotedText kind value reserved =>
      exact ⟨_, operandReadsBack_text kind (.inl reserved) (.inl reserved)⟩
  | plainText kind value closed isText notNull =>
      exact ⟨_, operandReadsBack_text kind (.inr closed) (.inr ⟨isText, notNull⟩)⟩
  | pattern kind value isSealed noStar =>
      refine ⟨_, operandChars_pattern true kind value, isSealed.patternChars.closed, ?_⟩
      exact fun column => readOperand_pattern true column kind noStar
  | texts oneOf texts =>
      subst oneOf
      refine ⟨_, rfl, closed_quotedItems _, fun column => ?_⟩
      exact readQuotedList_quotedItems column texts
  | map oneOf values exact =>
      subst oneOf
      refine ⟨_, rfl, closed_mapJson exact, fun column => ?_⟩
      exact readMap_mapJson column fun entry member => scalarOfJson?_toJson (exact entry member)
  | bareItems kind items bare notBlank noDocument =>
      refine ⟨_, operandChars_bareItems true kind items, closed_bareItems bare, fun column => ?_⟩
      rw [readOperand_of_container true column kind]
      exact readContainer_bareItems column bare notBlank noDocument

/-- A restorable right-hand side is kept as it is, written behind the token of
its operator, and read behind it. -/
structure IsKept (column : String) (operator : Operator) (criterion : Criterion) : Prop where
  built : condition column operator criterion = .ok (.leaf column operator criterion)
  written :
    conditionChars true column operator criterion =
      .ok (operator.token.toList ++ operandChars true operator criterion)
  read :
    ∀ s,
      readLeaf true column.toList (operator.token.toList ++ '.' :: s) =
        readOperand true column.toList operator s >>= condition column operator

theorem isKept_of_restorable
    {operator : Operator}
    {criterion : Criterion}
    (restorable : criterion.Restorable operator)
    (column : String) :
    IsKept column operator criterion := by
  have read
      (notSearch : operator.isFullText = false)
      (notLogical : operator.isLogical = false)
      (s : List Char) :
      readLeaf true column.toList (operator.token.toList ++ '.' :: s) =
        readOperand true column.toList operator s >>= condition column operator := by
    rw [readLeaf_token notLogical, readCondition_point notSearch, String.ofList_toList]
  rcases eq_null_or_fits_of_restorable restorable with ⟨rfl, rfl⟩ | ⟨fits, notSearch⟩
  · exact ⟨rfl, rfl, read rfl rfl⟩
  · exact ⟨condition_of_fits fits column, conditionChars_of_fits fits column,
      read notSearch (isNull_isLogical_of_fits fits).2⟩

/-- The value of a condition under negations is an item of its own, starts
unlike any group, and is read as the filter. -/
structure ValueReadsBack
    (filter : Filter)
    (column : String)
    (value : List Char) : Prop where
  written : filter.valueChars true = .ok value
  closed : Closed 0 value
  noGroup : groupHead? value = none
  read : readLeaf true column.toList value = .ok filter

theorem exists_valueReadsBack_leaf
    (column : String)
    {operator : Operator}
    {criterion : Criterion}
    (restorable : criterion.Restorable operator) :
    ∃ value, ValueReadsBack (.leaf column operator criterion) column value := by
  obtain ⟨s, operand⟩ := exists_operandReadsBack restorable
  obtain ⟨built, written, read⟩ := isKept_of_restorable restorable column
  rw [operand.written] at written
  refine ⟨operator.token.toList ++ '.' :: s, written, ?_, ?_, ?_⟩
  · exact .append (closed_token operator) (.cons rfl (by decide) operand.closed)
  · exact groupHead?_of_conditionChars written
  · rw [read, operand.read]
    exact built

theorem ValueReadsBack.not
    {filter : Filter}
    {column : String}
    {value : List Char}
    (isCondition : filter.column? = some column)
    (inner : ValueReadsBack filter column value) :
    ValueReadsBack (.not filter) column ("not.".toList ++ value) where
  written := by
    rw [valueChars_not isCondition, inner.written]
    rfl
  closed := .append (.of_all (by decide)) inner.closed
  noGroup := groupHead?_negation value
  read := by
    rw [readLeaf_negation, inner.read]
    rfl

/-- A restorable condition under negations is read back from its value. -/
theorem exists_valueReadsBack
    {filter : Filter}
    (restorable : Restorable filter)
    {column : String}
    (isCondition : filter.column? = some column) :
    IsPlainColumn column.toList ∧ ∃ value, ValueReadsBack filter column value := by
  induction restorable with
  | leaf plain restorable =>
      cases isCondition
      exact ⟨plain, exists_valueReadsBack_leaf _ restorable⟩
  | notCondition _ _ inductionHypothesis =>
      obtain ⟨plain, value, inner⟩ := inductionHypothesis isCondition
      exact ⟨plain, _, inner.not isCondition⟩
  | @group negated _ _ _ _ _ => cases negated <;> cases isCondition

/-! ## Groups -/

/-- As a child of a group, the filter is an item of its own and read back. -/
structure ChildReadsBack
    (filter : Filter)
    (s : List Char) : Prop where
  written : filter.childChars = .ok s
  closed : Closed 0 s
  notBlank : s ≠ []
  read : readChild s = .ok filter

/-- A condition under negations is read back as a child. -/
theorem exists_childReadsBack_of_column?
    {filter : Filter}
    (restorable : Restorable filter)
    {column : String}
    (isCondition : filter.column? = some column) :
    ∃ s, ChildReadsBack filter s := by
  obtain ⟨plain, value, readsBack⟩ := exists_valueReadsBack restorable isCondition
  refine ⟨column.toList ++ '.' :: value, ?_, plain.closed_append readsBack.closed, by simp, ?_⟩
  · rw [childChars_of_column? isCondition, readsBack.written]
    rfl
  · rw [readChild_column plain readsBack.noGroup, readsBack.read]

/-- Children that are read back one by one are read back from the body of
their group. -/
theorem exists_bodyChars_readGroup
    (connective : Connective)
    {children : List Filter}
    (some : children ≠ [])
    (each : ∀ child ∈ children, ∃ s, ChildReadsBack child s) :
    ∃ inner,
      bodyChars connective children = .ok ('(' :: inner ++ [')']) ∧
        Closed 1 inner ∧
        ∀ negated,
          readGroup negated connective ('(' :: inner ++ [')']) =
            .ok (signedGroup negated connective children) := by
  obtain ⟨parts, readBack⟩ := exists_forall₂ each
  have written : children.mapM childChars = .ok parts :=
    mapM_eq_ok_iff.mpr (readBack.imp fun _ _ child => child.written)
  have read : parts.mapM readChild = .ok children :=
    mapM_eq_ok_iff.mpr (readBack.imp fun _ _ child => child.read).flip
  have closed : ∀ part ∈ parts, Closed 0 part := fun part member =>
    have ⟨_, _, child⟩ := exists_of_mem_right readBack member
    child.closed
  have notBlank : parts ≠ [[]] := by
    rintro rfl
    obtain ⟨_, _, child⟩ := exists_of_mem_right readBack List.mem_cons_self
    exact child.notBlank rfl
  refine ⟨Text.joinWith ',' parts, bodyChars_eq_ok connective some written, ?_, fun negated => ?_⟩
  · exact .joinWith fun part member => (closed part member).mono (by decide)
  · rw [readGroup_enclose,
      Text.splitTopLevel_joinWith notBlank fun part member => (closed part member).loops, read]
    rfl

/-- Every restorable filter is read back as a child. -/
theorem exists_childReadsBack
    {filter : Filter}
    (restorable : Restorable filter) :
    ∃ s, ChildReadsBack filter s := by
  induction restorable with
  | leaf plain restorable =>
      exact exists_childReadsBack_of_column? (.leaf plain restorable) rfl
  | notCondition isCondition restorable _ =>
      exact exists_childReadsBack_of_column? (.notCondition isCondition restorable) isCondition
  | @group negated connective children some _ inductionHypothesis =>
      obtain ⟨inner, written, closed, read⟩ :=
        exists_bodyChars_readGroup connective some inductionHypothesis
      refine ⟨(signedGroup negated connective children).keyChars ++ '(' :: inner ++ [')'],
        ?_, ?_, by simp, ?_⟩
      · rw [childChars_signedGroup, written, List.append_assoc]
        rfl
      · rw [List.append_assoc]
        exact .append (closed_keyChars_signedGroup negated connective children)
          (.enclose rfl rfl closed)
      · rw [List.append_assoc, List.cons_append, readChild_eq, childHead?_signedGroup]
        exact read negated

/-- A restorable filter that is a group or the negation of one is written as a
parameter, and the parameter is read as the filter. -/
theorem exists_toParam_ofParam_of_restorable
    {filter : Filter}
    (restorable : Restorable filter)
    (isGroup : filter.column? = none) :
    ∃ param, filter.toParam = .ok param ∧ ofParam param = .ok filter := by
  cases restorable with
  | leaf plain restorable => cases isGroup
  | notCondition isCondition restorable =>
      rw [column?, isCondition] at isGroup
      cases isGroup
  | @group negated connective children some each =>
      obtain ⟨inner, written, -, read⟩ := exists_bodyChars_readGroup connective some
        fun child member => exists_childReadsBack (each child member)
      refine ⟨⟨String.ofList (signedGroup negated connective children).keyChars,
        String.ofList ('(' :: inner ++ [')'])⟩, ?_, ?_⟩
      · rw [toParam, valueChars_signedGroup, written]
        rfl
      · simp only [ofParam, String.toList_ofList, Filter.read, groupKey?_signedGroup]
        exact read negated

/-- A group comes back that holds a text with a comma and a parenthesis, a pattern without
brackets and, under a negation, another group. -/
theorem exists_toParam_ofParam_nested :
    let tree := and [comparison "a" .equal (.text "x,(y"), comparison "d" .like (.text "x%"),
      .not (or [.not (.not (isNull "b")), .leaf "c" .oneOf (.list [.text "\""])])]
    ∃ param, tree.toParam = .ok param ∧ ofParam param = .ok tree := by
  intro tree
  have plain : ∀ column ∈ ["a", "b", "c", "d"], IsPlainColumn column.toList := by
    decide
  have text : Restorable (comparison "a" .equal (.text "x,(y")) :=
    .leaf (plain "a" (by decide)) (.quotedText rfl "x,(y" (by decide))
  have pattern : Restorable (comparison "d" .like (.text "x%")) :=
    .leaf (plain "d" (by decide)) (.pattern rfl "x%" (.of_no_bracket (by simp)) (by simp))
  have null : Restorable (isNull "b") := .leaf (plain "b" (by decide)) (.null rfl)
  have list : Restorable (.leaf "c" .oneOf (.list [.text "\""])) :=
    .leaf (plain "c" (by decide)) (.texts rfl ["\""])
  have negations : Restorable (.not (.not (isNull "b"))) :=
    .notCondition rfl (.notCondition rfl null)
  have inner : Restorable (signedGroup true .or
      [.not (.not (isNull "b")), .leaf "c" .oneOf (.list [.text "\""])]) := by
    refine .group (by simp) ?_
    simp only [List.forall_mem_cons]
    exact ⟨negations, list, by simp⟩
  have outer : Restorable (signedGroup false .and [comparison "a" .equal (.text "x,(y"),
      comparison "d" .like (.text "x%"),
      signedGroup true .or [.not (.not (isNull "b")), .leaf "c" .oneOf (.list [.text "\""])]]) := by
    refine .group (by simp) ?_
    simp only [List.forall_mem_cons]
    exact ⟨text, pattern, inner, by simp⟩
  exact exists_toParam_ofParam_of_restorable outer rfl

/-- A bare text that looks like a truth value is read as one. -/
theorem bare_text_read_as_bool :
    (∀ c ∈ "true".toList, c ≠ ',' ∧ c ≠ '(' ∧ c ≠ ')') ∧
      toParam (and [.leaf "a" .contains (.list [.text "true"])]) =
        .ok ⟨"and", "(a.cs.\x7btrue\x7d)"⟩ ∧
      ofParam ⟨"and", "(a.cs.\x7btrue\x7d)"⟩ ≠
        .ok (and [.leaf "a" .contains (.list [.text "true"])]) := by
  have plain : IsPlainColumn "a".toList := by decide
  have read :
      ofParam ⟨"and", "(a.cs.\x7btrue\x7d)"⟩ =
        .ok (and [.leaf "a" .contains (.list [.bool true])]) := by
    show readGroup false .and ('(' :: "a.cs.\x7btrue\x7d".toList ++ [')']) = _
    rw [readGroup_enclose]
    have parts : Text.splitTopLevel "a.cs.\x7btrue\x7d".toList =
        ["a".toList ++ '.' :: "cs.\x7btrue\x7d".toList] := by decide
    rw [parts, List.mapM_cons, readChild_column plain rfl]
    rfl
  refine ⟨by simp, rfl, ?_⟩
  rw [read]
  intro same
  cases same

end Filter
end RestQuery
