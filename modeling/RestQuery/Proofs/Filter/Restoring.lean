import RestQuery.Proofs.Filter.Stability

/-!
# Right-hand sides are read back exactly if they are stable

Each notation of right-hand sides that are read is gone through: what it is
written as again, and when the text is read as the same right-hand side.
-/

namespace RestQuery
namespace Filter

open Sequence

variable {inGroup : Bool} {operator : Operator}

/-- A right-hand side is written behind a point as a text that is read as itself
exactly if it is stable. -/
structure Restores
    (inGroup : Bool)
    (operator : Operator)
    (criterion : Criterion)
    (s : List Char) : Prop where
  written : operandChars inGroup operator criterion = '.' :: s
  read : criterion.IsStable inGroup operator →
    ∀ column, readOperand inGroup column operator s = .ok criterion
  stable : ∀ column found, readOperand inGroup column operator s = .ok found →
    found.same criterion = true → criterion.IsStable inGroup operator

/-! ## Single values -/

/-- A value that is not quoted is written as it is. -/
theorem operandChars_of_not_isQuoted
    (kind : operator.operandKind = .scalar)
    {value : Scalar}
    (bare : ¬(inGroup = true ∧ value.IsQuoted)) :
    operandChars inGroup operator (.scalar value) = '.' :: value.chars := by
  cases value with
  | text value =>
      rw [operandChars_text inGroup kind, Scalar.chars]
      cases inGroup with
      | false => rfl
      | true => rw [textChars_of_not_reserved true fun reserved => bare ⟨rfl, reserved⟩]
  | int value | float value => rfl
  | bool value => cases value <;> rfl

/-- A value that is not quoted does not start with a double quote. -/
theorem readPlain_chars
    {value : Scalar}
    (bare : ¬(inGroup = true ∧ value.IsQuoted)) :
    readPlain inGroup value.chars = .scalar (readScalar value.chars) := by
  cases inGroup with
  | false => rfl
  | true =>
      refine readPlain_of_head?_ne true ?_
      cases value with
      | text value =>
          exact head?_ne_quote_of_not_reserved fun reserved => bare ⟨rfl, reserved⟩
      | int value => exact head?_intChars_ne_quote value.toInt
      | float value =>
          intro quoted
          exact absurd (isNumeral_of_mem_floatChars (List.mem_of_head? quoted)) (by decide)
      | bool value => cases value <;> decide

theorem restores_quoted
    (kind : operator.operandKind = .scalar)
    {value : String}
    (reserved : value.toList.any isReserved = true) :
    Restores true operator (.scalar (.text value)) (textChars true value.toList) where
  written := operandChars_text true kind value
  read _ column := readOperand_textChars column kind (.inl reserved)
  stable _ _ _ _ := .inr (.inl ⟨rfl, reserved⟩)

theorem restores_bare
    (kind : operator.operandKind = .scalar)
    {value : Scalar}
    (bare : ¬(inGroup = true ∧ value.IsQuoted)) :
    Restores inGroup operator (.scalar value) value.chars := by
  have notPattern : operator.operandKind ≠ .pattern := by
    rw [kind]
    decide
  refine ⟨operandChars_of_not_isQuoted kind bare, fun stable column => ?_,
    fun column found isRead alike => ?_⟩
  · obtain ⟨keeps, notNull⟩ := (stable.resolve_left notPattern).resolve_left bare
    rw [readOperand_of_scalar inGroup column kind notNull, readPlain_chars bare, keeps]
  · by_cases isNull : operator = .is ∧ value.chars = "null".toList
    · obtain ⟨rfl, isNull⟩ := isNull
      rw [isNull] at isRead
      cases isRead
      cases alike
    · rw [readOperand_of_scalar inGroup column kind isNull, readPlain_chars bare] at isRead
      cases isRead
      exact .inr (.inr ⟨isStable_of_same alike, isNull⟩)

theorem exists_restores_plain
    (kind : operator.operandKind = .scalar)
    (inGroup : Bool)
    (value : Scalar) :
    ∃ s, Restores inGroup operator (.scalar value) s := by
  by_cases quoted : inGroup = true ∧ value.IsQuoted
  · obtain ⟨rfl, reserved⟩ := quoted
    cases value with
    | text value => exact ⟨_, restores_quoted kind reserved⟩
    | int value | float value | bool value => exact reserved.elim
  · exact ⟨_, restores_bare kind quoted⟩

theorem restores_pattern
    (kind : operator.operandKind = .pattern)
    (inGroup : Bool)
    {value : String}
    (noStar : '*' ∉ value.toList) :
    Restores inGroup operator (.scalar (.text value))
      (textChars inGroup (patternChars value.toList)) where
  written := operandChars_pattern inGroup kind value
  read _ column := readOperand_pattern inGroup column kind noStar
  stable _ _ _ _ := .inl kind

/-! ## Lists -/

/-- Two lists of values are alike if their values are, one by one. -/
theorem sameItems_map_iff
    {f : Scalar → Scalar}
    {items : List Scalar} :
    Criterion.sameItems (items.map f) items = true ↔ ∀ item ∈ items, (f item).same item = true := by
  induction items with
  | nil => simp [Criterion.sameItems]
  | cons item rest inductionHypothesis =>
      simp [Criterion.sameItems, inductionHypothesis]

theorem restores_quotedList (inGroup : Bool) (items : List Scalar) :
    Restores inGroup .oneOf (.list items) ('(' :: quotedItems items ++ [')']) := by
  have read (column : List Char) :
      readOperand inGroup column .oneOf ('(' :: quotedItems items ++ [')']) =
        .ok (.list (items.map fun item => .text item.display)) := by
    have texts : (itemTexts items).map Scalar.text =
        items.map fun item => .text item.display := List.map_map
    rw [← texts, ← quotedItems_itemTexts]
    exact readQuotedList_quotedItems column (itemTexts items)
  refine ⟨rfl, fun stable column => ?_, fun column found isRead alike => ?_⟩
  · have isText : ∀ item ∈ items, item.IsText := by
      simpa [Criterion.IsStable] using stable
    have keeps : items.map (fun item => .text item.display) = items := by
      refine Eq.trans (List.map_congr_left fun item member => ?_) (List.map_id items)
      cases item with
      | text value => exact congrArg Scalar.text String.ofList_toList
      | int value | float value | bool value => exact (isText _ member).elim
    rw [read, keeps]
  · rw [read] at isRead
    cases isRead
    rw [Criterion.IsStable, if_pos rfl]
    intro item member
    have alike := sameItems_map_iff.mp alike item member
    cases item with
    | text value => trivial
    | int value | float value | bool value => cases alike

theorem restores_bareList
    (kind : operator.operandKind = .container)
    (inGroup : Bool)
    {inner : List Char}
    (noDocument : inner.head? ≠ some '"') :
    Restores inGroup operator (.list ((Text.splitTopLevel inner).map readScalar))
      ('\x7b' :: bareItems ((Text.splitTopLevel inner).map readScalar) ++ ['\x7d']) := by
  have notOneOf := ne_oneOf_of_kind kind
  have read (column : List Char) :
      readOperand inGroup column operator
          ('\x7b' :: bareItems ((Text.splitTopLevel inner).map readScalar) ++ ['\x7d']) =
        .ok (.list (((Text.splitTopLevel inner).map readScalar).map
          fun item => readScalar item.chars)) := by
    rw [readOperand_of_container inGroup column kind,
      readContainer_enclose column (head?_bareItems_map_readScalar noDocument),
      splitTopLevel_bareItems_map_readScalar, List.map_map, List.map_map]
    rfl
  refine ⟨operandChars_bareItems inGroup kind _, fun stable column => ?_,
    fun column found isRead alike => ?_⟩
  · rw [Criterion.IsStable, if_neg notOneOf] at stable
    have keeps := Eq.trans (List.map_congr_left stable) (List.map_id _)
    rw [read, keeps]
  · rw [read] at isRead
    cases isRead
    rw [Criterion.IsStable, if_neg notOneOf]
    exact fun item member => isStable_of_same (sameItems_map_iff.mp alike item member)

/-! ## Maps -/

/-- A value that is read from its document as one like it is read as itself. -/
theorem scalarOfJson?_of_same
    {value found : Scalar}
    (isRead : scalarOfJson? value.toJson = some found)
    (alike : found.same value = true) :
    scalarOfJson? value.toJson = some value := by
  cases value with
  | text value => rfl
  | bool value => rfl
  | int value => exact scalarOfJson?_toJson trivial
  | float value =>
      cases found with
      | text found | int found | bool found => cases alike
      | float found =>
          cases value with
          | nan => cases isRead
          | infinite negative => cases isRead
          | finite negative units representable =>
              cases found with
              | nan | infinite => cases alike
              | finite negative' units' representable' =>
                  simp only [Scalar.same, Number.Binary64.sameValue, Bool.and_eq_true,
                    Bool.or_eq_true, beq_iff_eq] at alike
                  obtain ⟨rfl, zero | rfl⟩ := alike
                  · -- The two zeros are alike, and each of them is read as itself.
                    subst zero
                    cases negative <;> rfl
                  · exact isRead

/-- A map that is read as one like it is read value by value as itself. -/
theorem scalarOfJson?_of_readMap_same
    {column : List Char}
    {values : SortedMap Scalar}
    {found : Criterion}
    (isRead : readMap column (mapJson values).chars = .ok found)
    (alike : found.same (.map values) = true) :
    ∀ entry ∈ values.entries, scalarOfJson? entry.2.toJson = some entry.2 := by
  have readable := scalarOfJson?_of_readMap isRead
  rw [readMap_of_isReadable column readable] at isRead
  cases isRead
  have each : (values.mapValues rereadValue).entries.map (·.2) =
      (values.entries.map (·.2)).map rereadValue := by
    simp [SortedMap.mapValues]
  simp only [Criterion.same, Bool.and_eq_true, each, sameItems_map_iff] at alike
  intro entry member
  obtain ⟨value, valueRead⟩ := readable entry member
  have same := alike.2 entry.2 (List.mem_map_of_mem member)
  rw [rereadValue, valueRead, Option.getD_some] at same
  exact scalarOfJson?_of_same valueRead same

theorem restores_map
    (kind : operator.operandKind = .collection ∨ operator.operandKind = .container)
    (inGroup : Bool)
    (values : SortedMap Scalar) :
    Restores inGroup operator (.map values) (mapJson values).chars := by
  have takesMap (told : operator = .oneOf ∨ values.entries ≠ []) :
      operator.operandKind = .collection ∨
        operator.operandKind = .container ∧ values.entries ≠ [] := by
    refine kind.imp_right fun isContainer => ⟨isContainer, told.resolve_left ?_⟩
    rintro rfl
    cases isContainer
  refine ⟨rfl, fun ⟨told, each⟩ column => ?_, fun column found isRead alike => ?_⟩
  · rw [readOperand_mapJson inGroup column (takesMap told)]
    exact readMap_mapJson column each
  · have told : operator = .oneOf ∨ values.entries ≠ [] := by
      refine kind.imp eq_oneOf_of_kind fun isContainer empty => ?_
      -- An empty map among containers is read as a list.
      have shape : mapJson values = .object (membersOf values.entries) := rfl
      rw [readOperand_of_container inGroup column isContainer, shape, empty] at isRead
      cases isRead
      cases alike
    rw [readOperand_mapJson inGroup column (takesMap told)] at isRead
    exact ⟨told, scalarOfJson?_of_readMap_same isRead alike⟩

/-! ## Intervals -/

theorem reread_eq_iff (bound : Bound) : bound.reread = bound ↔ bound.IsStable := by
  cases bound <;> simp [Bound.reread, Bound.IsStable, Scalar.IsStable]

theorem isStable_of_reread_same
    {bound : Bound}
    (alike : bound.reread.same bound = true) :
    bound.IsStable := by
  cases bound with
  | included value | excluded value => exact isStable_of_same alike
  | unbounded => trivial

theorem restores_interval
    (kind : operator.operandKind = .interval ∨ operator.operandKind = .container)
    (inGroup : Bool)
    {range : Interval}
    (lower : range.lower.HasText)
    (noComma : ',' ∉ Interval.lowerChars range.lower)
    (upper : range.upper.HasText) :
    Restores inGroup operator (.interval range) range.chars := by
  have read (column : List Char) :
      readOperand inGroup column operator range.chars =
        .ok (.interval ⟨range.lower.reread, range.upper.reread⟩) := by
    rcases kind with kind | kind
    · rw [readOperand_of_interval inGroup column kind, readRange_chars column lower noComma upper]
    · rw [readOperand_of_container inGroup column kind, readContainer_chars,
        readRange_chars column lower noComma upper]
  refine ⟨rfl, fun ⟨lowerStable, upperStable⟩ column => ?_, fun column found isRead alike => ?_⟩
  · rw [read, (reread_eq_iff _).mpr lowerStable, (reread_eq_iff _).mpr upperStable]
  · rw [read] at isRead
    cases isRead
    simp only [Criterion.same, Interval.same, Bool.and_eq_true] at alike
    exact ⟨isStable_of_reread_same alike.1, isStable_of_reread_same alike.2⟩

/-! ## All notations -/

/-- Every right-hand side but a search that is read is written behind a point, and
read as itself exactly if it is stable. -/
theorem exists_restores
    {criterion : Criterion}
    (isRead : criterion.IsRead operator)
    (noSearch : ∀ search, criterion ≠ .fullText search)
    (inGroup : Bool) :
    ∃ s, Restores inGroup operator criterion s := by
  cases isRead with
  | null is =>
      subst is
      exact ⟨"null".toList, rfl, fun _ _ => rfl, fun _ _ _ _ => trivial⟩
  | plain kind value => exact exists_restores_plain kind inGroup value
  | pattern kind value noStar => exact ⟨_, restores_pattern kind inGroup noStar⟩
  | quotedList oneOf items =>
      subst oneOf
      exact ⟨_, restores_quotedList inGroup items⟩
  | map kind values => exact ⟨_, restores_map kind inGroup values⟩
  | bareList kind inner noDocument => exact ⟨_, restores_bareList kind inGroup noDocument⟩
  | interval kind range lower noComma upper =>
      exact ⟨_, restores_interval kind inGroup lower noComma upper⟩
  | search kind search noMark => exact absurd rfl (noSearch search)

theorem sameItems_self
    {items : List Scalar}
    (each : ∀ item ∈ items, item.same item = true) :
    Criterion.sameItems items items = true := by
  have same : Criterion.sameItems (items.map id) items = true := sameItems_map_iff.mpr each
  rwa [List.map_id] at same

theorem bound_same_self {bound : Bound} (stable : bound.IsStable) : bound.same bound = true := by
  cases bound with
  | included value | excluded value => exact same_self_of_isStable stable
  | unbounded => rfl

/-- A stable right-hand side that is read is like itself. -/
theorem criterion_same_self
    {criterion : Criterion}
    (isRead : criterion.IsRead operator)
    (stable : criterion.IsStable inGroup operator) :
    criterion.same criterion = true := by
  have text (value : String) : (Scalar.text value).same (.text value) = true :=
    same_self_iff.mpr nofun
  cases isRead with
  | null => rfl
  | plain kind value =>
      rcases stable with isPattern | ⟨-, quoted⟩ | ⟨stable, -⟩
      · rw [kind] at isPattern
        cases isPattern
      · cases value with
        | text value => exact text value
        | int value | float value | bool value => exact quoted.elim
      · exact same_self_of_isStable stable
  | pattern kind value => exact text value
  | quotedList oneOf items =>
      rw [Criterion.IsStable, if_pos oneOf] at stable
      refine sameItems_self fun item member => ?_
      cases item with
      | text value => exact text value
      | int value | float value | bool value => exact (stable _ member).elim
  | map kind values =>
      have each : ∀ value ∈ values.entries.map (·.2), value.same value = true := by
        intro value member
        obtain ⟨entry, inMap, rfl⟩ := List.mem_map.mp member
        refine same_self_iff.mpr fun isNan => ?_
        have found := stable.2 entry inMap
        rw [isNan] at found
        cases found
      simp [Criterion.same, sameItems_self each]
  | bareList kind inner =>
      rw [Criterion.IsStable, if_neg (ne_oneOf_of_kind kind)] at stable
      exact sameItems_self fun item member => same_self_of_isStable (stable item member)
  | interval kind range =>
      simp [Criterion.same, Interval.same, bound_same_self stable.1, bound_same_self stable.2]
  | search kind search => simp [Criterion.same]

end Filter
end RestQuery
