import RestQuery.Proofs.Filter.Scalars
import RestQuery.Proofs.Filter.Standalone

/-!
# Written right-hand sides are read again

What a right-hand side was written as behind an operator is read as one of the
same kind, and that one is written the same exactly if the bare parts of the
text are written forms of values. The reader need not return the values that
were written: a text that looks like a number is read as the number, and an
empty map, which is written like an empty list, is read as the list.
-/

namespace RestQuery

namespace Criterion

/-- The kind of right-hand side that is read behind an operator. An empty map
among containers is read as a list, and what is written as `null` behind the
null test is read as null. -/
def shapeRead (operator : Operator) : Criterion → Shape
  | scalar value =>
      if operator = .is ∧ value.chars = "null".toList then .null else .scalar
  | map values =>
      if operator.operandKind = .container ∧ values.entries = [] then .list else .map
  | criterion => criterion.shape

/-- The right-hand side is not taken for another notation: a bare list does not
start like a document, and the values of a map are values in documents. -/
def IsReadable (operator : Operator) : Criterion → Prop
  | list items => operator = .oneOf ∨ (Filter.bareItems items).head? ≠ some '"'
  | map values =>
      ∀ entry ∈ values.entries, ∃ found, Filter.scalarOfJson? entry.2.toJson = some found
  | _ => True

end Criterion

/-- The interval is written as two canonical texts around the first comma; where
one of them is empty, the bracket beside it is round. -/
def Interval.IsCanonical (range : Interval) : Prop :=
  ∃ opening lower upper closing,
    range.chars = opening :: (lower ++ ',' :: upper) ++ [closing] ∧
      ',' ∉ lower ∧ Filter.IsCanonical lower ∧ Filter.IsCanonical upper ∧
      (lower = [] → opening = '(') ∧ (upper = [] → closing = ')')

/-- The bare parts of the written right-hand side are canonical, and the values of
a map are read from documents as values with the same documents. Patterns,
quoted lists and searches have no bare parts. -/
def Criterion.IsCanonical (operator : Operator) : Criterion → Prop
  | .scalar value => operator.operandKind = .pattern ∨ Filter.IsCanonical value.chars
  | .list items =>
      operator = .oneOf ∨ ∀ part ∈ Text.splitTopLevel (Filter.bareItems items),
        Filter.IsCanonical part
  | .map values =>
      ∀ entry ∈ values.entries, ∃ found,
        Filter.scalarOfJson? entry.2.toJson = some found ∧
          found.toJson.chars = entry.2.toJson.chars
  | .interval range => range.IsCanonical
  | _ => True

namespace Filter

open Sequence

variable {operator : Operator}

/-- The right-hand side is written behind a point, and another one is read there,
of the kind that is expected; it is written the same exactly if all is
canonical. -/
structure Rereads
    (operator : Operator)
    (criterion found : Criterion)
    (s : List Char) : Prop where
  written : operandChars false operator criterion = '.' :: s
  read : ∀ column, readOperand false column operator s = .ok found
  accepted : operator = .is ∧ found = .null ∨ found.fits operator.operandKind = true
  shape : found.shape = criterion.shapeRead operator
  rewritten : operandChars false operator found = '.' :: s ↔ criterion.IsCanonical operator

/-! ## Single values -/

theorem operandChars_scalar
    (kind : operator.operandKind = .scalar)
    (value : Scalar) :
    operandChars false operator (.scalar value) = '.' :: value.chars := by
  cases value with
  | text value => exact operandChars_text false kind value
  | int value => rfl
  | float value => rfl
  | bool value => cases value <;> rfl

theorem rereads_scalar
    (kind : operator.operandKind = .scalar)
    {value : Scalar}
    (notNull : ¬(operator = .is ∧ value.chars = "null".toList)) :
    Rereads operator (.scalar value) (.scalar (readScalar value.chars)) value.chars where
  written := operandChars_scalar kind value
  read column := by rw [readOperand_of_scalar false column kind notNull, readPlain_outside]
  accepted := .inr (by rw [kind]; rfl)
  shape := by rw [Criterion.shapeRead, if_neg notNull]; rfl
  rewritten := by
    have notPattern : operator.operandKind ≠ .pattern := by rw [kind]; decide
    have bare : (Criterion.scalar value).IsCanonical operator ↔ IsCanonical value.chars :=
      or_iff_right notPattern
    rw [operandChars_scalar kind, List.cons_inj_right, bare, isCanonical_iff]

/-- What is written as `null` behind the null test is read as null. -/
theorem rereads_null
    {value : Scalar}
    (isNullText : value.chars = "null".toList) :
    Rereads .is (.scalar value) .null "null".toList where
  written := by rw [operandChars_scalar rfl, isNullText]
  read _ := rfl
  accepted := .inl ⟨rfl, rfl⟩
  shape := by rw [Criterion.shapeRead, if_pos ⟨rfl, isNullText⟩]; rfl
  rewritten := by
    refine iff_of_true rfl (.inr ?_)
    rw [isNullText]
    exact isCanonical_iff.mpr rfl

theorem rereads_pattern
    (kind : operator.operandKind = .pattern)
    (value : String) :
    Rereads operator (.scalar (.text value)) (readPattern (patternChars value.toList))
      (patternChars value.toList) where
  written := operandChars_pattern false kind value
  read column := by
    rw [readOperand_of_pattern false column kind]
    rfl
  accepted := .inr (by rw [kind]; rfl)
  shape := by
    have notIs : ¬(operator = .is ∧ (Scalar.text value).chars = "null".toList) := by
      rintro ⟨rfl, -⟩
      cases kind
    rw [Criterion.shapeRead, if_neg notIs]
    rfl
  rewritten := by
    refine iff_of_true ?_ (.inl kind)
    rw [readPattern, operandChars_pattern false kind, String.toList_ofList, textChars_outside]
    have noWildcard : '%' ∉ patternChars value.toList := Text.not_mem_replaceChar (by decide) _
    exact congrArg ('.' :: ·) (Text.replaceChar_replaceChar noWildcard)

/-! ## Lists -/

/-- The texts that the items of a quoted list are read as. -/
def itemTexts (items : List Scalar) : List String := items.map Scalar.display

theorem quotedItems_itemTexts (items : List Scalar) :
    quotedItems ((itemTexts items).map .text) = quotedItems items := by
  have same (item : Scalar) : (Scalar.text item.display).chars = item.chars :=
    String.toList_ofList
  rw [quotedItems, quotedItems, itemTexts, List.map_map, List.map_map]
  congr 1
  exact List.map_congr_left fun item _ => congrArg Text.quote (same item)

theorem rereads_quotedList (items : List Scalar) :
    Rereads .oneOf (.list items) (.list ((itemTexts items).map .text))
      ('(' :: quotedItems items ++ [')']) where
  written := rfl
  read column := by
    rw [← quotedItems_itemTexts]
    exact readQuotedList_quotedItems column (itemTexts items)
  accepted := .inr rfl
  shape := rfl
  rewritten := by
    refine iff_of_true ?_ (.inl rfl)
    rw [operandChars, if_pos rfl, quotedItems_itemTexts]
    rfl

/-- The items that a text is read as make up the text exactly if each part of it is
canonical. -/
theorem bareItems_splitTopLevel_eq_iff (s : List Char) :
    bareItems ((Text.splitTopLevel s).map readScalar) = s ↔
      ∀ part ∈ Text.splitTopLevel s, IsCanonical part := by
  have whole : Text.joinWith ',' ((Text.splitTopLevel s).map id) = s := by
    rw [List.map_id, Text.joinWith_splitTopLevel]
  rw [bareItems, List.map_map]
  constructor
  · intro same
    have each := Text.forall_eq_of_joinWith_map_eq
      (fun part _ => differBehind_chars_readScalar part) (same.trans whole.symm)
    exact fun part member => isCanonical_iff.mpr (each part member)
  · intro canonical
    refine Eq.trans (congrArg _ (List.map_congr_left fun part member => ?_)) whole
    exact isCanonical_iff.mp (canonical part member)

theorem rereads_bareList
    (kind : operator.operandKind = .container)
    {items : List Scalar}
    (readable : (Criterion.list items).IsReadable operator) :
    Rereads operator (.list items)
      (.list ((Text.splitTopLevel (bareItems items)).map readScalar))
      ('\x7b' :: bareItems items ++ ['\x7d']) := by
  have notOneOf := ne_oneOf_of_kind kind
  refine ⟨operandChars_bareItems false kind items, fun column => ?_, .inr (by rw [kind]; rfl),
    rfl, ?_⟩
  · rw [readOperand_of_container false column kind]
    exact readContainer_enclose column (readable.resolve_left notOneOf)
  · have bare : (Criterion.list items).IsCanonical operator ↔
        ∀ part ∈ Text.splitTopLevel (bareItems items), IsCanonical part :=
      or_iff_right notOneOf
    rw [operandChars_bareItems false kind, List.cons_inj_right, List.append_left_inj,
      List.cons_inj_right, bareItems_splitTopLevel_eq_iff, bare]

/-! ## Maps -/

/-- The value that a value of a map is read as. -/
def rereadValue (value : Scalar) : Scalar := (scalarOfJson? value.toJson).getD value

theorem readMap_of_isReadable
    (column : List Char)
    {values : SortedMap Scalar}
    (readable : ∀ entry ∈ values.entries, ∃ found, scalarOfJson? entry.2.toJson = some found) :
    readMap column (mapJson values).chars = .ok (.map (values.mapValues rereadValue)) := by
  refine readMap_mapJson_mapValues column fun entry member => ?_
  obtain ⟨found, read⟩ := readable entry member
  rw [rereadValue, read, Option.getD_some]

/-- There is no comma in a document of a value that is no text. -/
theorem comma_not_mem_chars_toJson
    {value : Scalar}
    (noText : ∀ text, value ≠ .text text) :
    ',' ∉ value.toJson.chars := by
  cases value with
  | text value => exact absurd rfl (noText value)
  | int value => exact not_mem_intChars rfl (by decide) value.toInt
  | float value =>
      cases value with
      | nan => exact (by decide : ',' ∉ "null".toList)
      | infinite negative => exact (by decide : ',' ∉ "null".toList)
      | finite negative units representable =>
          intro comma
          have isLiteral := Json.isLiteral_signedChars representable negative
          exact absurd (isLiteral.2 ',' comma) (by decide)
  | bool value => cases value <;> decide

/-- No text is read from a number. -/
theorem readNumber_ne_text (literal : List Char) (text : String) :
    scalarOfJson? (.number literal) ≠ some (.text text) := by
  intro read
  rw [scalarOfJson?] at read
  split at read
  · cases read
  · obtain ⟨value, -, same⟩ := Option.map_eq_some_iff.mp read
    cases same

/-- A text is read from the document of a text only. -/
theorem rereadValue_ne_text
    {value : Scalar}
    (noText : ∀ text, value ≠ .text text)
    (text : String) :
    rereadValue value ≠ .text text := by
  intro isText
  cases read : scalarOfJson? value.toJson with
  | none =>
      rw [rereadValue, read] at isText
      exact noText text isText
  | some found =>
      rw [rereadValue, read] at isText
      cases isText
      cases value with
      | text value => exact noText value rfl
      | int value => exact readNumber_ne_text _ text read
      | float value =>
          cases value with
          | nan => cases read
          | infinite negative => cases read
          | finite negative units representable => exact readNumber_ne_text _ text read
      | bool value => cases read

/-- The entries of a map and what they are read as do not differ in front of a
comma. -/
theorem differBehind_rereadValue (entry : String × Scalar) :
    Text.DifferBehind ','
      (Json.textChars entry.1 ++ ':' :: (rereadValue entry.2).toJson.chars)
      (Json.textChars entry.1 ++ ':' :: entry.2.toJson.chars) := by
  by_cases noText : ∀ text, entry.2 ≠ .text text
  · refine ⟨Json.textChars entry.1 ++ [':'], _, _, List.append_cons .., List.append_cons ..,
      comma_not_mem_chars_toJson (rereadValue_ne_text noText), comma_not_mem_chars_toJson noText⟩
  · obtain ⟨text, isText⟩ := not_forall_not.mp noText
    rw [isText]
    exact .self ',' _

/-- A map is read as one with the same document exactly if each of its values is. -/
theorem chars_mapJson_mapValues_eq_iff (values : SortedMap Scalar) :
    (mapJson (values.mapValues rereadValue)).chars = (mapJson values).chars ↔
      ∀ entry ∈ values.entries, (rereadValue entry.2).toJson.chars = entry.2.toJson.chars := by
  have reread : (values.mapValues rereadValue).entries.map
        (fun entry => Json.textChars entry.1 ++ ':' :: entry.2.toJson.chars) =
      values.entries.map fun entry =>
        Json.textChars entry.1 ++ ':' :: (rereadValue entry.2).toJson.chars :=
    List.map_map
  rw [chars_mapJson, chars_mapJson, reread, List.append_left_inj, List.cons_inj_right]
  constructor
  · intro same entry member
    have same := Text.forall_eq_of_joinWith_map_eq
      (fun entry _ => differBehind_rereadValue entry) same entry member
    exact (List.cons.inj (List.append_cancel_left same)).2
  · intro each
    exact congrArg _ (List.map_congr_left fun entry member => by rw [each entry member])

theorem rereads_map
    {values : SortedMap Scalar}
    (kind : operator.operandKind = .collection ∨
      operator.operandKind = .container ∧ values.entries ≠ [])
    (readable : (Criterion.map values).IsReadable operator) :
    Rereads operator (.map values) (.map (values.mapValues rereadValue))
      (mapJson values).chars where
  written := rfl
  read column := by rw [readOperand_mapJson false column kind, readMap_of_isReadable column readable]
  accepted := .inr (by rcases kind with kind | ⟨kind, -⟩ <;> rw [kind] <;> rfl)
  shape := by
    have notEmpty : ¬(operator.operandKind = .container ∧ values.entries = []) := by
      rcases kind with kind | ⟨-, some⟩
      · rw [kind]
        simp
      · simp [some]
    rw [Criterion.shapeRead, if_neg notEmpty]
    rfl
  rewritten := by
    rw [operandChars, List.cons_inj_right, chars_mapJson_mapValues_eq_iff]
    refine forall₂_congr fun entry member => ?_
    obtain ⟨found, read⟩ := readable entry member
    simp [rereadValue, read]

/-- An empty map is read as the empty list, which is written the same. -/
theorem rereads_emptyMap
    (kind : operator.operandKind = .container)
    {values : SortedMap Scalar}
    (empty : values.entries = []) :
    Rereads operator (.map values) (.list []) "\x7b\x7d".toList := by
  have shape : mapJson values = .object (membersOf values.entries) := rfl
  refine ⟨?_, fun column => ?_, .inr (by rw [kind]; rfl), ?_, iff_of_true ?_ ?_⟩
  · rw [operandChars, shape, empty]
    rfl
  · rw [readOperand_of_container false column kind]
    rfl
  · rw [Criterion.shapeRead, if_pos ⟨kind, empty⟩]
    rfl
  · rw [operandChars_bareItems false kind]
    rfl
  · rintro entry member
    rw [empty] at member
    cases member

/-! ## Intervals -/

/-- The lower end that is read is written the same exactly if its text is canonical;
where there is none, the bracket is round. -/
theorem lowerChars_eq_iff
    {opening : Char}
    (isOpening : opening = '[' ∨ opening = '(')
    {lower : List Char}
    {bound : Bound}
    (isRead : readLower? opening lower = some bound) :
    Interval.lowerChars bound = opening :: lower ↔
      IsCanonical lower ∧ (lower = [] → opening = '(') := by
  cases lower with
  | nil =>
      cases isRead
      have blank : IsCanonical [] := isCanonical_iff.mpr rfl
      simp [Interval.lowerChars, blank, eq_comm]
  | cons c rest =>
      rcases isOpening with rfl | rfl <;> cases isRead <;>
        simp [Interval.lowerChars, isCanonical_iff]

theorem comma_not_mem_lowerChars
    {opening : Char}
    {lower : List Char}
    (absent : ',' ∉ lower)
    {bound : Bound}
    (isRead : readLower? opening lower = some bound) :
    ',' ∉ Interval.lowerChars bound := by
  have inside := comma_not_mem_chars_readScalar absent
  unfold readLower? at isRead
  split at isRead
  · cases isRead
    decide
  · split at isRead
    · cases isRead
      exact List.not_mem_cons_of_ne_of_not_mem (by decide) inside
    · split at isRead
      · cases isRead
        exact List.not_mem_cons_of_ne_of_not_mem (by decide) inside
      · cases isRead

/-- The upper end that is read is written the same exactly if its text is canonical;
where there is none, the bracket is round. -/
theorem upperChars_eq_iff
    {closing : Char}
    (isClosing : closing = ']' ∨ closing = ')')
    {upper : List Char}
    {bound : Bound}
    (isRead : readUpper? closing upper = some bound) :
    Interval.upperChars bound = upper ++ [closing] ↔
      IsCanonical upper ∧ (upper = [] → closing = ')') := by
  cases upper with
  | nil =>
      cases isRead
      have blank : IsCanonical [] := isCanonical_iff.mpr rfl
      simp [Interval.upperChars, blank, eq_comm]
  | cons c rest =>
      rcases isClosing with rfl | rfl <;> cases isRead <;>
        simp only [Interval.upperChars, List.append_left_inj, isCanonical_iff, reduceCtorEq,
          false_implies, and_true]

/-- A written interval stands between brackets. -/
theorem head?_getLast?_chars (range : Interval) :
    (range.chars.head? = some '[' ∨ range.chars.head? = some '(') ∧
      (range.chars.getLast? = some ']' ∨ range.chars.getLast? = some ')') := by
  rcases range with ⟨lower, upper⟩
  constructor
  · cases lower <;> simp [Interval.chars, Interval.lowerChars]
  · have last (s : List Char) (c : Char) :
        (Interval.lowerChars lower ++ ',' :: (s ++ [c])).getLast? = some c := by
      rw [← List.cons_append, ← List.append_assoc, List.getLast?_concat]
    cases upper with
    | included value => exact .inl (last value.chars ']')
    | excluded value => exact .inr (last value.chars ')')
    | unbounded => exact .inr (last [] ')')

/-- A written interval has a first comma. -/
theorem exists_chars_eq (range : Interval) :
    ∃ opening lower upper closing,
      range.chars = opening :: (lower ++ ',' :: upper) ++ [closing] ∧ ',' ∉ lower := by
  obtain ⟨opening, first, lowerShape, -⟩ := lowerChars_eq_cons range.lower
  obtain ⟨second, closing, upperShape, -⟩ := upperChars_eq_append range.upper
  have comma : ',' ∈ first ++ ',' :: second := by simp
  obtain ⟨lower, upper, halves, absent⟩ := List.eq_append_cons_of_mem comma
  refine ⟨opening, lower, upper, closing, ?_, absent⟩
  rw [← halves, Interval.chars, lowerShape, upperShape]
  simp

/-- An interval is read as one that is written the same exactly if both halves
around the first comma are canonical, and each empty one is beside a round
bracket. -/
theorem chars_eq_iff_of_readInterval?
    {range found : Interval}
    {opening closing : Char}
    {lower upper : List Char}
    (shape : range.chars = opening :: (lower ++ ',' :: upper) ++ [closing])
    (absent : ',' ∉ lower)
    (isRead : readInterval? range.chars = some found) :
    found.chars = range.chars ↔
      (IsCanonical lower ∧ (lower = [] → opening = '(')) ∧
        IsCanonical upper ∧ (upper = [] → closing = ')') := by
  obtain ⟨isOpening, isClosing⟩ := head?_getLast?_chars range
  rw [shape, List.getLast?_concat, Option.some.injEq, Option.some.injEq] at isClosing
  rw [shape, List.cons_append, List.head?_cons, Option.some.injEq, Option.some.injEq] at isOpening
  rw [shape, readInterval?_enclose opening closing absent] at isRead
  obtain ⟨low, readLow, isRead⟩ := Option.bind_eq_some_iff.mp isRead
  obtain ⟨high, readHigh, same⟩ := Option.map_eq_some_iff.mp isRead
  cases same
  have halves : opening :: (lower ++ ',' :: upper) ++ [closing] =
      (opening :: lower) ++ ',' :: (upper ++ [closing]) := by simp
  have noComma : ',' ∉ opening :: lower := by
    rcases isOpening with rfl | rfl <;>
      exact List.not_mem_cons_of_ne_of_not_mem (by decide) absent
  have differ : Text.DifferBehind ',' (Interval.lowerChars low) (opening :: lower) :=
    ⟨[], _, _, rfl, rfl, comma_not_mem_lowerChars absent readLow, noComma⟩
  rw [← lowerChars_eq_iff isOpening readLow, ← upperChars_eq_iff isClosing readHigh, shape, halves,
    Interval.chars]
  constructor
  · exact differ.eq_and_eq
  · rintro ⟨lowerSame, upperSame⟩
    rw [lowerSame, upperSame]

/-- An interval is read as one that is written the same exactly if it is
canonical. -/
theorem chars_eq_iff_isCanonical
    {range found : Interval}
    (isRead : readInterval? range.chars = some found) :
    found.chars = range.chars ↔ range.IsCanonical := by
  constructor
  · intro same
    obtain ⟨opening, lower, upper, closing, shape, absent⟩ := exists_chars_eq range
    obtain ⟨⟨lowerCanonical, lowerRound⟩, upperCanonical, upperRound⟩ :=
      (chars_eq_iff_of_readInterval? shape absent isRead).mp same
    exact ⟨opening, lower, upper, closing, shape, absent, lowerCanonical, upperCanonical,
      lowerRound, upperRound⟩
  · rintro ⟨opening, lower, upper, closing, shape, absent, lowerCanonical, upperCanonical,
      lowerRound, upperRound⟩
    exact (chars_eq_iff_of_readInterval? shape absent isRead).mpr
      ⟨⟨lowerCanonical, lowerRound⟩, upperCanonical, upperRound⟩

theorem rereads_interval
    (kind : operator.operandKind = .interval ∨ operator.operandKind = .container)
    (range : Interval) :
    ∃ found, Rereads operator (.interval range) (.interval found) range.chars := by
  obtain ⟨found, isRead⟩ := exists_readInterval?_chars range
  have read (column : List Char) : readRange column range.chars = .ok (.interval found) := by
    rw [readRange, isRead]
    rfl
  refine ⟨found, rfl, fun column => ?_, .inr ?_, rfl, ?_⟩
  · rcases kind with kind | kind
    · rw [readOperand_of_interval false column kind, read]
    · rw [readOperand_of_container false column kind, readContainer_chars, read]
  · rcases kind with kind | kind <;> rw [kind] <;> rfl
  · rw [operandChars, List.cons_inj_right, chars_eq_iff_isCanonical isRead]
    rfl

/-! ## All right-hand sides -/

theorem eq_oneOf_of_kind (kind : operator.operandKind = .collection) : operator = .oneOf := by
  cases operator <;> first | rfl | cases kind

/-- Every right-hand side for its operator that is written behind a point and is not
taken for another notation is read again. -/
theorem exists_rereads
    {criterion : Criterion}
    (fits : criterion.fits operator.operandKind = true)
    (readable : criterion.IsReadable operator)
    (noSearch : ∀ search, criterion ≠ .fullText search) :
    ∃ found s, Rereads operator criterion found s := by
  cases criterion with
  | null => cases kind : operator.operandKind <;> rw [kind] at fits <;> cases fits
  | scalar value =>
      cases kind : operator.operandKind <;> rw [kind] at fits
      case scalar =>
        by_cases isNullText : operator = .is ∧ value.chars = "null".toList
        · obtain ⟨rfl, isNullText⟩ := isNullText
          exact ⟨_, _, rereads_null isNullText⟩
        · exact ⟨_, _, rereads_scalar kind isNullText⟩
      case pattern =>
        cases value with
        | text value => exact ⟨_, _, rereads_pattern kind value⟩
        | int value => cases fits
        | float value => cases fits
        | bool value => cases fits
      all_goals cases fits
  | list items =>
      cases kind : operator.operandKind <;> rw [kind] at fits
      case collection =>
        obtain rfl := eq_oneOf_of_kind kind
        exact ⟨_, _, rereads_quotedList items⟩
      case container => exact ⟨_, _, rereads_bareList kind readable⟩
      all_goals cases fits
  | map values =>
      cases kind : operator.operandKind <;> rw [kind] at fits
      case collection => exact ⟨_, _, rereads_map (.inl kind) readable⟩
      case container =>
        by_cases empty : values.entries = []
        · exact ⟨_, _, rereads_emptyMap kind empty⟩
        · exact ⟨_, _, rereads_map (.inr ⟨kind, empty⟩) readable⟩
      all_goals cases fits
  | interval range =>
      have takesIntervals : operator.operandKind = .interval ∨ operator.operandKind = .container := by
        cases kind : operator.operandKind <;> rw [kind] at fits
        case interval => exact .inl rfl
        case container => exact .inr rfl
        all_goals cases fits
      obtain ⟨found, rereads⟩ := rereads_interval takesIntervals range
      exact ⟨_, _, rereads⟩
  | fullText search => exact absurd rfl (noSearch search)

/-! ## Right-hand sides that are taken for another notation -/

/-- What is read as a right-hand side of the expected kind is not taken for another
notation. -/
theorem isReadable_of_readOperand
    {column s : List Char}
    {criterion found : Criterion}
    (fits : criterion.fits operator.operandKind = true)
    (written : operandChars false operator criterion = '.' :: s)
    (isRead : readOperand false column operator s = .ok found)
    (shape : found.shape = criterion.shapeRead operator) :
    criterion.IsReadable operator := by
  cases criterion with
  | list items =>
      refine or_iff_not_imp_left.mpr fun notOneOf quoted => ?_
      have kind : operator.operandKind = .container := by
        cases operator <;> first | exact absurd rfl notOneOf | rfl | cases fits
      obtain ⟨rest, items_eq⟩ := List.head?_eq_some_iff.mp quoted
      rw [operandChars_bareItems false kind, items_eq] at written
      cases written
      rw [readOperand_of_container false column kind] at isRead
      have isMap : found.shape = .map := shape_of_readMap isRead
      rw [isMap] at shape
      cases shape
  | map values =>
      cases written
      intro entry member
      have kind : operator.operandKind = .collection ∨
          operator.operandKind = .container ∧ values.entries ≠ [] := by
        cases kind : operator.operandKind <;> rw [kind] at fits
        case collection => exact .inl rfl
        case container => exact .inr ⟨rfl, List.ne_nil_of_mem member⟩
        all_goals cases fits
      rw [readOperand_mapJson false column kind] at isRead
      exact scalarOfJson?_of_readMap isRead entry member
  | null => trivial
  | scalar value => trivial
  | interval range => trivial
  | fullText search => trivial

end Filter
end RestQuery
