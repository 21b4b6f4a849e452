import RestQuery.Proofs.Filter.Folding
import RestQuery.Proofs.Filter.Operands

/-!
# Conditions that keep to their place in a group

A group keeps its children when what is read from it has as many children, on
the same columns. A condition is confined when its text inside a group is an
item of its own and can be read. Confined conditions are kept in every group;
a condition that is not confined is lost, alone or in front of a null test. The
texts that are not confined are those that need no quotes inside a group but
leave a bracket open or close one too many.
-/

namespace RestQuery
namespace Filter

open Sequence
open Text (Scan)

/-! ## Accepted conditions -/

/-- A condition on a plain column that the checked constructor accepts, as it
was given or as the constructor returns it. -/
def IsAccepted (filter : Filter) : Prop :=
  ∃ column operator criterion built,
    IsPlainColumn column.toList ∧
      condition column operator criterion = .ok built ∧
      (filter = .leaf column operator criterion ∨ filter = built)

/-- As a child of a group, a condition on a plain column is written as a column
in front of a value that starts unlike any group. -/
structure IsWritten
    (filter : Filter)
    (column : String)
    (value : List Char) : Prop where
  plain : IsPlainColumn column.toList
  isCondition : filter.column? = some column
  written : filter.valueChars true = .ok value
  noGroup : groupHead? value = none

namespace IsWritten

variable {filter : Filter} {column : String} {value : List Char}

theorem childChars_eq_ok
    (isWritten : IsWritten filter column value) :
    filter.childChars = .ok (column.toList ++ '.' :: value) := by
  rw [childChars_of_column? isWritten.isCondition, isWritten.written]
  rfl

theorem readChild_eq_readLeaf
    (isWritten : IsWritten filter column value) :
    readChild (column.toList ++ '.' :: value) = readLeaf true column.toList value :=
  readChild_column isWritten.plain isWritten.noGroup

/-- What is read from the text of a condition is one on its column. -/
theorem column?_of_readChild
    (isWritten : IsWritten filter column value)
    {read : Filter}
    (isRead : readChild (column.toList ++ '.' :: value) = .ok read) :
    read.column? = filter.column? := by
  rw [isWritten.readChild_eq_readLeaf] at isRead
  rw [column?_of_readLeaf isRead, isWritten.isCondition, String.ofList_toList]

end IsWritten

theorem IsAccepted.exists_isWritten
    {filter : Filter}
    (accepted : IsAccepted filter) :
    ∃ column value, IsWritten filter column value := by
  obtain ⟨column, operator, criterion, built, plain, isBuilt, same⟩ := accepted
  obtain ⟨value, given, returned⟩ := exists_valueChars_of_condition true isBuilt
  have noGroup := groupHead?_of_conditionChars given
  rcases same with rfl | rfl
  · exact ⟨column, value, plain, rfl, given, noGroup⟩
  · exact ⟨column, value, plain, column?_of_condition isBuilt, returned, noGroup⟩

/-! ## Confined conditions -/

/-- As a child of a group, the filter is an item of its own and can be read. -/
def IsConfined (filter : Filter) : Prop :=
  ∃ s,
    filter.childChars = .ok s ∧
      ({} : Scan).Loops s ∧
      ∃ read, readChild s = .ok read

/-- A column in front of a value does not matter to the splitter. -/
theorem IsPlainColumn.loops_append_iff
    {column : List Char}
    (plain : IsPlainColumn column)
    (value : List Char) :
    ({} : Scan).Loops (column ++ '.' :: value) ↔ ({} : Scan).Loops value := by
  have closed : Text.Closed 0 (column ++ ['.']) := plain.closed_append .nil
  rw [List.append_cons, closed.loops.loops_append_iff]

/-- A condition is confined exactly when its value is an item of its own that
can be read. -/
theorem IsWritten.isConfined_iff
    {filter : Filter}
    {column : String}
    {value : List Char}
    (isWritten : IsWritten filter column value) :
    IsConfined filter ↔
      ({} : Scan).Loops value ∧ ∃ read, readLeaf true column.toList value = .ok read := by
  rw [← isWritten.readChild_eq_readLeaf, ← isWritten.plain.loops_append_iff]
  constructor
  · rintro ⟨s, written, loops, isRead⟩
    rw [isWritten.childChars_eq_ok] at written
    cases written
    exact ⟨loops, isRead⟩
  · rintro ⟨loops, isRead⟩
    exact ⟨_, isWritten.childChars_eq_ok, loops, isRead⟩

/-- The operand of the condition looks like a document: it is a map, or a list
in braces that starts with a double quote. -/
def IsDocumentLike (operator : Operator) : Criterion → Prop
  | .map _ => True
  | .list items => operator ≠ .oneOf ∧ (bareItems items).head? = some '"'
  | _ => False

/-- What is read behind the point of an operator is a right-hand side for it. -/
def ReadsOperand (operator : Operator) (s : List Char) : Prop :=
  ∀ column, ∃ found,
    readOperand true column operator s = .ok found ∧
      (operator = .is ∧ found = .null ∨ found.fits operator.operandKind = true)

/-- A right-hand side for its operator is read as a condition. -/
theorem ReadsOperand.exists_readLeaf
    {operator : Operator}
    {s : List Char}
    (readsOperand : ReadsOperand operator s)
    {criterion : Criterion}
    (fits : criterion.fits operator.operandKind = true)
    (noSearch : ∀ search, criterion ≠ .fullText search)
    (column : List Char) :
    ∃ read, readLeaf true column (operator.token.toList ++ '.' :: s) = .ok read := by
  obtain ⟨found, isRead, foundFits⟩ := readsOperand column
  rw [readLeaf_token (isNull_isLogical_of_fits fits).2,
    readCondition_point (isFullText_of_fits fits noSearch), isRead]
  rcases foundFits with ⟨rfl, rfl⟩ | foundFits
  · exact ⟨_, rfl⟩
  · exact ⟨_, condition_of_fits foundFits (String.ofList column)⟩

/-- A single value can be read behind every operator that compares some. -/
theorem readsOperand_of_scalar
    {operator : Operator}
    (kind : operator.operandKind = .scalar)
    (s : List Char) :
    ReadsOperand operator s := by
  intro column
  by_cases null : operator = .is ∧ s = "null".toList
  · obtain ⟨rfl, rfl⟩ := null
    exact ⟨.null, rfl, .inl ⟨rfl, rfl⟩⟩
  · refine ⟨_, readOperand_of_scalar true column kind null, .inr ?_⟩
    rw [kind, readPlain]
    split <;> rfl

theorem readsOperand_of_pattern
    {operator : Operator}
    (kind : operator.operandKind = .pattern)
    (s : List Char) :
    ReadsOperand operator s := by
  intro column
  refine ⟨_, readOperand_of_pattern true column kind s, .inr ?_⟩
  rw [kind]
  rfl

/-- A written list can be read unless it looks like a document. -/
theorem exists_readsOperand_list
    {operator : Operator}
    {items : List Scalar}
    (fits : (Criterion.list items).fits operator.operandKind = true)
    (notDocument : ¬IsDocumentLike operator (.list items)) :
    ∃ s,
      operandChars true operator (.list items) = '.' :: s ∧
        ReadsOperand operator s := by
  by_cases oneOf : operator = .oneOf
  · subst oneOf
    refine ⟨'(' :: quotedItems items ++ [')'], rfl, fun column => ?_⟩
    exact ⟨_, readQuotedList_enclose column (quotedItems items), .inr rfl⟩
  · have kind : operator.operandKind = .container := by
      cases operator <;> first | exact absurd rfl oneOf | rfl | cases fits
    refine ⟨'\x7b' :: bareItems items ++ ['\x7d'], ?_, fun column => ?_⟩
    · rw [operandChars, if_neg oneOf]
      rfl
    · have isRead := readContainer_enclose column fun quoted => notDocument ⟨oneOf, quoted⟩
      rw [← readOperand_of_container true column kind] at isRead
      exact ⟨_, isRead, .inr (by rw [kind]; rfl)⟩

/-- A written interval can be read. -/
theorem readsOperand_interval
    {operator : Operator}
    {range : Interval}
    (fits : (Criterion.interval range).fits operator.operandKind = true) :
    ReadsOperand operator range.chars := by
  intro column
  obtain ⟨found, isRead⟩ := exists_readRange_chars column range
  cases kind : operator.operandKind with
  | container =>
      refine ⟨.interval found, ?_, .inr rfl⟩
      rw [readOperand_of_container true column kind, readContainer_chars, isRead]
  | interval =>
      refine ⟨.interval found, ?_, .inr rfl⟩
      rw [readOperand_of_interval true column kind, isRead]
  | _ =>
      rw [kind] at fits
      cases fits

/-- A written single value can be read. -/
theorem exists_readsOperand_scalar
    {operator : Operator}
    {value : Scalar}
    (fits : (Criterion.scalar value).fits operator.operandKind = true) :
    ∃ s,
      operandChars true operator (.scalar value) = '.' :: s ∧
        ReadsOperand operator s := by
  have point : ∃ s, operandChars true operator (.scalar value) = '.' :: s := by
    cases value <;> exact ⟨_, rfl⟩
  obtain ⟨s, written⟩ := point
  refine ⟨s, written, ?_⟩
  cases kind : operator.operandKind with
  | scalar => exact readsOperand_of_scalar kind s
  | pattern => exact readsOperand_of_pattern kind s
  | _ =>
      rw [kind] at fits
      cases fits

/-- A written search is read as a condition. -/
theorem exists_readLeaf_search
    (column : List Char)
    {operator : Operator}
    {search : FullTextSearch}
    (fits : (Criterion.fullText search).fits operator.operandKind = true) :
    ∃ read,
      readLeaf true column
          (operator.token.toList ++ operandChars true operator (.fullText search)) =
        .ok read := by
  have kind : operator.operandKind = .search := by
    cases operator <;> first | rfl | cases fits
  have isSearch : operator.isFullText = true := by rw [Operator.isFullText, kind]; rfl
  obtain ⟨found, isRead⟩ := exists_readSearch?_append true search.language.toList
    (textChars true search.query.toList)
  have foundFits : (Criterion.fullText found).fits operator.operandKind = true := by
    rw [kind]
    rfl
  refine ⟨.leaf (String.ofList column) operator (.fullText found), ?_⟩
  rw [readLeaf_token (isNull_isLogical_of_fits fits).2, operandChars, List.cons_append,
    List.cons_append, readCondition_search isSearch]
  rw [List.cons_append, List.cons_append] at isRead
  rw [isRead]
  exact condition_of_fits foundFits (String.ofList column)

/-- Every fitting right-hand side that does not look like a document can be
read. -/
theorem exists_readLeaf_operandChars
    (column : List Char)
    {operator : Operator}
    {criterion : Criterion}
    (fits : criterion.fits operator.operandKind = true)
    (notDocument : ¬IsDocumentLike operator criterion) :
    ∃ read,
      readLeaf true column (operator.token.toList ++ operandChars true operator criterion) =
        .ok read := by
  cases criterion with
  | null => cases kind : operator.operandKind <;> rw [kind] at fits <;> cases fits
  | scalar value =>
      obtain ⟨s, written, readsOperand⟩ := exists_readsOperand_scalar fits
      rw [written]
      exact readsOperand.exists_readLeaf fits (by simp) column
  | list items =>
      obtain ⟨s, written, readsOperand⟩ := exists_readsOperand_list fits notDocument
      rw [written]
      exact readsOperand.exists_readLeaf fits (by simp) column
  | map values => exact absurd trivial notDocument
  | interval range =>
      have readsOperand := readsOperand_interval fits
      exact readsOperand.exists_readLeaf fits (by simp) column
  | fullText search => exact exists_readLeaf_search column fits

/-- A condition whose right-hand side does not look like a document is confined
exactly when its operand closes what it opens and has no comma at the top. -/
theorem isConfined_leaf_iff
    {column : String}
    (plain : IsPlainColumn column.toList)
    {operator : Operator}
    {criterion : Criterion}
    (fits : criterion.fits operator.operandKind = true)
    (notDocument : ¬IsDocumentLike operator criterion) :
    IsConfined (.leaf column operator criterion) ↔
      ({} : Scan).Loops (operandChars true operator criterion) := by
  have isWritten : IsWritten (.leaf column operator criterion) column
      (operator.token.toList ++ operandChars true operator criterion) :=
    ⟨plain, rfl, conditionChars_of_fits fits column, groupHead?_operandChars true fits⟩
  have isRead := exists_readLeaf_operandChars column.toList fits notDocument
  rw [isWritten.isConfined_iff, and_iff_left isRead, (closed_token operator).loops.loops_append_iff]

/-- The comparison with a text is confined exactly when the text is quoted, or
closes what it opens. -/
theorem isConfined_comparison_text_iff
    {column : String}
    (plain : IsPlainColumn column.toList)
    {operator : Operator}
    (kind : operator.operandKind = .scalar)
    (value : String) :
    IsConfined (comparison column operator (.text value)) ↔
      value.toList.any isReserved = true ∨ ({} : Scan).Loops value.toList := by
  have written : operandChars true operator (.scalar (.text value)) =
      ['.'] ++ textChars true value.toList := operandChars_text true kind value
  have point : Text.Closed 0 ['.'] := .of_all (by decide)
  have fits : (Criterion.scalar (.text value)).fits operator.operandKind = true := by
    rw [kind]
    rfl
  have notDocument : ¬IsDocumentLike operator (.scalar (.text value)) := id
  rw [comparison, isConfined_leaf_iff plain fits notDocument, written,
    point.loops.loops_append_iff]
  by_cases reserved : value.toList.any isReserved = true
  · rw [textChars_of_reserved reserved]
    exact iff_of_true (Text.closed_quote 0 _).loops (.inl reserved)
  · rw [textChars_of_not_reserved true reserved, or_iff_right reserved]

/-! ## Keeping the children of a group -/

/-- The group is written as a parameter that is read as a group with the same
connective and as many children, on the same columns. -/
def KeepsChildren (connective : Connective) (children : List Filter) : Prop :=
  ∃ param read,
    toParam (.group connective children) = .ok param ∧
      ofParam param = .ok (.group connective read) ∧
      List.Forall₂ (fun child readChild => readChild.column? = child.column?) children read

/-- A text is read as a filter on the column of another one. -/
def ReadsOnColumnOf (filter : Filter) (s : List Char) : Prop :=
  ∃ read, readChild s = .ok read ∧ read.column? = filter.column?

/-- A group keeps its children exactly when the parts that the splitter makes
of it are, one by one, read on their columns. -/
theorem keepsChildren_iff_forall₂
    (connective : Connective)
    {children : List Filter}
    {parts : List (List Char)}
    (some : children ≠ [])
    (written : children.mapM childChars = .ok parts) :
    KeepsChildren connective children ↔
      List.Forall₂ ReadsOnColumnOf children (Text.splitTopLevel (Text.joinWith ',' parts)) := by
  have isWritten :
      toParam (.group connective children) =
        .ok ⟨String.ofList (signedGroup false connective children).keyChars,
          String.ofList ('(' :: Text.joinWith ',' parts ++ [')'])⟩ := by
    rw [toParam, valueChars, bodyChars_eq_ok connective some written]
    rfl
  have isRead :
      ofParam ⟨String.ofList (signedGroup false connective children).keyChars,
          String.ofList ('(' :: Text.joinWith ',' parts ++ [')'])⟩ =
        (Text.splitTopLevel (Text.joinWith ',' parts)).mapM readChild >>= fun read =>
          pure (.group connective read) := by
    simp only [ofParam, String.toList_ofList, Filter.read, groupKey?_signedGroup]
    exact readGroup_enclose false connective _
  refine Iff.trans ?_ exists_mapM_eq_ok_and_forall₂_iff
  constructor
  · rintro ⟨param, read, toParam, ofParam, columns⟩
    rw [isWritten] at toParam
    cases toParam
    rw [isRead] at ofParam
    obtain ⟨_, each, returned⟩ := bind_eq_ok_iff.mp ofParam
    cases returned
    exact ⟨read, each, columns⟩
  · rintro ⟨read, each, columns⟩
    refine ⟨_, read, isWritten, ?_, columns⟩
    rw [isRead, each]
    rfl

/-- A confined condition has a text that is an item of its own and is read on
its column. -/
theorem IsWritten.exists_of_isConfined
    {filter : Filter}
    {column : String}
    {value : List Char}
    (isWritten : IsWritten filter column value)
    (isConfined : IsConfined filter) :
    ∃ s,
      filter.childChars = .ok s ∧
        ({} : Scan).Loops s ∧
        s ≠ [] ∧
        ReadsOnColumnOf filter s := by
  obtain ⟨s, written, loops, read, isRead⟩ := isConfined
  have same := isWritten.childChars_eq_ok
  rw [written] at same
  cases same
  exact ⟨_, written, loops, by simp, read, isRead, isWritten.column?_of_readChild isRead⟩

/-- Confined conditions are kept in every group. -/
theorem keepsChildren_of_isConfined
    (connective : Connective)
    {children : List Filter}
    (some : children ≠ [])
    (accepted : ∀ child ∈ children, IsAccepted child)
    (isConfined : ∀ child ∈ children, IsConfined child) :
    KeepsChildren connective children := by
  obtain ⟨parts, each⟩ := exists_forall₂ fun child member =>
    have ⟨_, _, isWritten⟩ := (accepted child member).exists_isWritten
    isWritten.exists_of_isConfined (isConfined child member)
  have written : children.mapM childChars = .ok parts :=
    mapM_eq_ok_iff.mpr (each.imp fun _ _ child => child.1)
  have loops : ∀ part ∈ parts, ({} : Scan).Loops part := fun part member =>
    have ⟨_, _, child⟩ := exists_of_mem_right each member
    child.2.1
  have notBlank : parts ≠ [[]] := by
    rintro rfl
    obtain ⟨_, _, child⟩ := exists_of_mem_right each List.mem_cons_self
    exact child.2.2.1 rfl
  rw [keepsChildren_iff_forall₂ connective some written,
    Text.splitTopLevel_joinWith notBlank loops]
  exact each.imp fun _ _ child => child.2.2.2

/-- A condition that is kept in a group of its own has no comma at the top of
its text, and the text can be read. -/
theorem IsWritten.passes_of_keepsChildren
    {filter : Filter}
    {column : String}
    {value : List Char}
    (isWritten : IsWritten filter column value)
    {connective : Connective}
    (alone : KeepsChildren connective [filter]) :
    ({} : Scan).Passes (column.toList ++ '.' :: value) ∧
      ∃ read, readChild (column.toList ++ '.' :: value) = .ok read := by
  have written : [filter].mapM childChars = .ok [column.toList ++ '.' :: value] :=
    mapM_eq_ok_iff.mpr (.cons isWritten.childChars_eq_ok .nil)
  have kept := (keepsChildren_iff_forall₂ connective (by simp) written).mp alone
  rw [Text.joinWith, Text.splitTopLevel, if_neg (by simp)] at kept
  have passes := (Text.length_splitFrom_eq_one_iff {} _).mp kept.length_eq.symm
  rw [(Text.splitFrom_eq_singleton_iff {} _).mpr passes] at kept
  obtain ⟨⟨read, isRead, -⟩, -⟩ := List.forall₂_cons.mp kept
  exact ⟨passes, read, isRead⟩

/-- A condition that is kept alone and in front of a null test is confined: a
bracket or a quote that it left open would swallow the null test. -/
theorem IsWritten.isConfined_of_keepsChildren
    {filter : Filter}
    {column : String}
    {value : List Char}
    (isWritten : IsWritten filter column value)
    {nullColumn : String}
    (plain : IsPlainColumn nullColumn.toList)
    {connective : Connective}
    (alone : KeepsChildren connective [filter])
    (followed : KeepsChildren connective [filter, isNull nullColumn]) :
    IsConfined filter := by
  obtain ⟨passes, read, isRead⟩ := isWritten.passes_of_keepsChildren alone
  have nullTest : IsWritten (isNull nullColumn) nullColumn "is.null".toList :=
    ⟨plain, rfl, rfl, rfl⟩
  have written : [filter, isNull nullColumn].mapM childChars =
      .ok [column.toList ++ '.' :: value, nullColumn.toList ++ '.' :: "is.null".toList] :=
    mapM_eq_ok_iff.mpr (.cons isWritten.childChars_eq_ok (.cons nullTest.childChars_eq_ok .nil))
  have kept := (keepsChildren_iff_forall₂ connective (by simp) written).mp followed
  rw [Text.joinWith, Text.joinWith, Text.splitTopLevel, if_neg (by simp)] at kept
  refine ⟨_, isWritten.childChars_eq_ok, ⟨passes, ?_⟩, read, isRead⟩
  by_contra open'
  have noComma : ',' ∉ nullColumn.toList ++ '.' :: "is.null".toList := by
    rw [List.mem_append, not_or]
    exact ⟨fun member => (plain ',' member).2.1 rfl, by decide⟩
  have whole := (Scan.passes_append {} (column.toList ++ '.' :: value)
    (',' :: (nullColumn.toList ++ '.' :: "is.null".toList))).mpr
    ⟨passes, fun found => open' ((Scan.atTop_iff _).mp found.2), Scan.passes_of_not_mem noComma _⟩
  have one := (Text.length_splitFrom_eq_one_iff {} _).mpr whole
  have two := kept.length_eq
  rw [one] at two
  cases two

/-- A vocabulary of accepted conditions, a null test among them, can be grouped
at will exactly when every condition in it is confined. -/
theorem forall_keepsChildren_iff_forall_isConfined
    {allowed : Filter → Prop}
    (accepted : ∀ filter, allowed filter → IsAccepted filter)
    {nullColumn : String}
    (plain : IsPlainColumn nullColumn.toList)
    (nullTest : allowed (isNull nullColumn)) :
    (∀ connective children,
        children ≠ [] → (∀ child ∈ children, allowed child) →
          KeepsChildren connective children) ↔
      ∀ filter, allowed filter → IsConfined filter := by
  constructor
  · intro keeps filter isAllowed
    obtain ⟨column, value, isWritten⟩ := (accepted filter isAllowed).exists_isWritten
    refine isWritten.isConfined_of_keepsChildren plain (keeps .and [filter] (by simp) ?_)
      (keeps .and [filter, isNull nullColumn] (by simp) ?_)
    · simpa using isAllowed
    · simpa using ⟨isAllowed, nullTest⟩
  · intro isConfined connective children some isAllowed
    exact keepsChildren_of_isConfined connective some
      (fun child member => accepted child (isAllowed child member))
      (fun child member => isConfined child (isAllowed child member))

/-- A text with an opening bracket is not confined, so some group loses a
condition on it. -/
theorem not_forall_keepsChildren_bracket :
    ¬∀ connective children,
      children ≠ [] →
        (∀ child ∈ children,
          child = isNull "a" ∨ child = comparison "b" .equal (.text "[")) →
        KeepsChildren connective children := by
  have plain : ∀ column ∈ ["a", "b"], IsPlainColumn column.toList := by
    decide
  have accepted : ∀ filter, filter = isNull "a" ∨ filter = comparison "b" .equal (.text "[") →
      IsAccepted filter := by
    rintro filter (rfl | rfl)
    · exact ⟨"a", .is, .null, _, plain "a" (by decide), rfl, .inl rfl⟩
    · exact ⟨"b", .equal, .scalar (.text "["), _, plain "b" (by decide), rfl, .inl rfl⟩
  rw [forall_keepsChildren_iff_forall_isConfined accepted (plain "a" (by decide)) (.inl rfl)]
  intro isConfined
  have bracket := isConfined _ (.inr rfl)
  rw [isConfined_comparison_text_iff (plain "b" (by decide)) rfl] at bracket
  rcases bracket with reserved | loops
  · cases reserved
  · exact absurd loops.2 (by decide)

end Filter
end RestQuery
