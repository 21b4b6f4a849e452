import RestQuery.Proofs.Filter.Rereading

/-!
# Right-hand sides that survive another reading

A right-hand side that was read is written again, not always as the text that it
was read from: `1.0` is written as `1`, and a text is quoted inside a group only
if it needs to be. Whether the second text is read as the same right-hand side
depends on the right-hand side alone. The values that do not survive are
floating-point numbers without a fraction, texts that look like other values,
and items of quoted lists that were not quoted.
-/

namespace RestQuery

open Text (Closed)

/-- Written bare, the value is read as itself. -/
def Scalar.IsStable (value : Scalar) : Prop := Filter.readScalar value.chars = value

/-- The value is quoted inside a group: it is a text with a character that has a
meaning there. -/
def Scalar.IsQuoted : Scalar → Prop
  | text value => value.toList.any Filter.isReserved = true
  | _ => False

/-- The value is a text. -/
def Scalar.IsText : Scalar → Prop
  | text _ => True
  | _ => False

/-- Written bare, the end of an interval is read as itself. -/
def Bound.IsStable : Bound → Prop
  | included value => value.IsStable
  | excluded value => value.IsStable
  | unbounded => True

/-- Written behind its operator, the right-hand side is read as itself, if it was
read before. -/
def Criterion.IsStable (inGroup : Bool) (operator : Operator) : Criterion → Prop
  | null => True
  | scalar value =>
      operator.operandKind = .pattern ∨ (inGroup = true ∧ value.IsQuoted) ∨
        value.IsStable ∧ ¬(operator = .is ∧ value.chars = "null".toList)
  | list items =>
      if operator = .oneOf then ∀ item ∈ items, item.IsText else ∀ item ∈ items, item.IsStable
  | map values =>
      (operator = .oneOf ∨ values.entries ≠ []) ∧
        ∀ entry ∈ values.entries, Filter.scalarOfJson? entry.2.toJson = some entry.2
  | interval range => range.lower.IsStable ∧ range.upper.IsStable
  | fullText _ => True

/-- The right-hand sides that are read behind an operator, by the notations in which
they are found. -/
inductive Criterion.IsRead (operator : Operator) : Criterion → Prop
  | null
      (is : operator = .is) :
      IsRead operator .null
  | plain
      (kind : operator.operandKind = .scalar)
      (value : Scalar) :
      IsRead operator (.scalar value)
  | pattern
      (kind : operator.operandKind = .pattern)
      (value : String)
      (noStar : '*' ∉ value.toList) :
      IsRead operator (.scalar (.text value))
  | quotedList
      (oneOf : operator = .oneOf)
      (items : List Scalar) :
      IsRead operator (.list items)
  | map
      (kind : operator.operandKind = .collection ∨ operator.operandKind = .container)
      (values : SortedMap Scalar) :
      IsRead operator (.map values)
  | bareList
      (kind : operator.operandKind = .container)
      (inner : List Char)
      (noDocument : inner.head? ≠ some '"') :
      IsRead operator (.list ((Text.splitTopLevel inner).map Filter.readScalar))
  | interval
      (kind : operator.operandKind = .interval ∨ operator.operandKind = .container)
      (range : Interval)
      (lower : range.lower.HasText)
      (noComma : ',' ∉ Interval.lowerChars range.lower)
      (upper : range.upper.HasText) :
      IsRead operator (.interval range)
  | search
      (kind : operator.operandKind = .search)
      (search : FullTextSearch)
      (noMark : ¬[')', '.'] <:+: search.language.toList) :
      IsRead operator (.fullText search)

namespace Filter

open Sequence

variable {operator : Operator}

/-! ## Single values -/

/-- A floating-point number survives exactly if it is written with a point. -/
theorem isStable_float_iff {value : Number.Binary64} :
    (Scalar.float value).IsStable ↔ '.' ∈ Scalar.floatChars value :=
  ⟨point_mem_of_readScalar, readScalar_floatChars⟩

/-- A value that is read from its written form as one like it is read as itself. -/
theorem isStable_of_same
    {value : Scalar}
    (alike : (readScalar value.chars).same value = true) :
    value.IsStable := by
  cases isRead : readScalar value.chars with
  | float found =>
      rw [isRead] at alike
      cases value with
      | float value =>
          exact readScalar_floatChars (point_mem_of_readScalar isRead)
      | text value | int value | bool value => cases alike
  | text found | int found | bool found =>
      rw [isRead] at alike
      cases value <;> simp_all [Scalar.same, Scalar.IsStable]

/-- Only one value is not like itself. -/
theorem same_self_iff {value : Scalar} : value.same value = true ↔ value ≠ .float .nan := by
  cases value with
  | float value =>
      cases value <;> simp [Scalar.same, Number.Binary64.sameValue]
  | text value | int value | bool value => simp [Scalar.same]

theorem same_self_of_isStable
    {value : Scalar}
    (stable : value.IsStable) :
    value.same value = true := by
  refine same_self_iff.mpr ?_
  rintro rfl
  cases stable

/-! ## Respelling -/

/-- No number needs brackets, quotes or commas. -/
theorem closed_of_isNumeral
    {s : List Char}
    (numerals : ∀ c ∈ s, isNumeral c = true) :
    Closed 0 s := by
  apply Closed.of_avoids
  intro c marked member
  have noNumeral : ([',', '(', ')', '[', ']', '\x7b', '\x7d', '"'].all fun c => !isNumeral c) = true :=
    rfl
  have := List.all_eq_true.mp noNumeral c marked
  rw [numerals c member] at this
  cases this

theorem intChars_ne_nil (value : Int) : Text.intChars value ≠ [] := by
  cases value with
  | ofNat n => exact Text.digits_ne_nil n
  | negSucc n => exact List.cons_ne_nil _ _

theorem floatChars_ne_nil (value : Number.Binary64) : Scalar.floatChars value ≠ [] := by
  cases value with
  | nan => decide
  | infinite negative => cases negative <;> decide
  | finite negative n representable =>
      by_cases zero : n = 0
      · subst zero
        cases negative with
        | false => exact (by decide : "0".toList ≠ [])
        | true => exact (by decide : "-0".toList ≠ [])
      · rcases floatChars_form zero negative representable with ⟨point, -⟩ | ⟨whole, shape⟩
        · exact List.ne_nil_of_mem point
        · rw [shape]
          exact intChars_ne_nil whole

/-- A text that is spelled otherwise when it is written again is a number. -/
theorem chars_readScalar_eq_or (s : List Char) :
    (readScalar s).chars = s ∨
      (readScalar s).chars ≠ [] ∧ ∀ c ∈ (readScalar s).chars, isNumeral c = true := by
  rw [readScalar]
  split
  · exact .inr ⟨intChars_ne_nil _, fun c => isNumeral_of_mem_intChars⟩
  · split
    · exact .inr ⟨floatChars_ne_nil _, fun c => isNumeral_of_mem_floatChars⟩
    · split
      · next isTrue => exact .inl isTrue.symm
      · split
        · next isFalse => exact .inl isFalse.symm
        · exact .inl String.toList_ofList

/-- No text vanishes when it is written again. -/
theorem chars_readScalar_ne_nil
    {s : List Char}
    (someText : ¬s.isEmpty = true) :
    (readScalar s).chars ≠ [] := by
  rcases chars_readScalar_eq_or s with same | ⟨someChars, -⟩
  · rw [same]
    simpa using someText
  · exact someChars

/-- The items of a bare list that was read are the items of the list that they are
written as. -/
theorem splitTopLevel_bareItems_map_readScalar (s : List Char) :
    Text.splitTopLevel (bareItems ((Text.splitTopLevel s).map readScalar)) =
      (Text.splitTopLevel s).map fun part => (readScalar part).chars := by
  rw [bareItems, List.map_map]
  refine (Text.splitTopLevel_joinWith_iff ?_).mpr ?_
  · intro blank
    obtain ⟨part, single, noText⟩ := List.map_eq_singleton_iff.mp blank
    by_cases blankPart : part.isEmpty = true
    · rw [List.isEmpty_iff.mp blankPart] at single
      exact Text.splitTopLevel_ne_blank s single
    · exact chars_readScalar_ne_nil blankPart noText
  · refine .map (fun part _ => ?_) (Text.separable_splitTopLevel s)
    exact (chars_readScalar_eq_or part).imp id fun other => (closed_of_isNumeral other.2).loops

/-- A bare list that was read does not start like a document when it is written
again. -/
theorem head?_bareItems_map_readScalar
    {s : List Char}
    (noDocument : s.head? ≠ some '"') :
    (bareItems ((Text.splitTopLevel s).map readScalar)).head? ≠ some '"' := by
  have comma : '"' ≠ ',' := by decide
  rw [bareItems, List.map_map]
  rw [← Text.joinWith_splitTopLevel s] at noDocument
  cases parts : Text.splitTopLevel s with
  | nil => simp [Text.joinWith]
  | cons part rest =>
      rw [parts, ne_eq, Text.head?_joinWith_cons_iff comma] at noDocument
      rw [List.map_cons, ne_eq, Text.head?_joinWith_cons_iff comma]
      intro quoted
      rcases chars_readScalar_eq_or part with same | ⟨-, numerals⟩
      · exact noDocument (same ▸ quoted)
      · exact absurd (numerals '"' (List.mem_of_head? quoted)) (by decide)

/-! ## What is read -/

/-- Both ends of an interval are read in the same way, from brackets of their own. -/
theorem hasText_of_bracketed
    {inclusive exclusive : Bool}
    {value : List Char}
    {bound : Bound}
    (isRead :
      (if value.isEmpty then some .unbounded
      else if inclusive then some (.included (readScalar value))
      else if exclusive then some (.excluded (readScalar value))
      else none) = some bound) :
    bound.HasText := by
  split at isRead
  · cases isRead
    trivial
  · next someText =>
      have hasText := chars_readScalar_ne_nil someText
      split at isRead
      · cases isRead
        exact hasText
      · split at isRead <;> cases isRead
        exact hasText

theorem isRead_of_readRange
    (kind : operator.operandKind = .interval ∨ operator.operandKind = .container)
    {column s : List Char}
    {criterion : Criterion}
    (isRead : readRange column s = .ok criterion) :
    criterion.IsRead operator := by
  obtain ⟨range, found, returned⟩ := bind_eq_ok_iff.mp isRead
  cases returned
  replace found := eq_some_of_orFail found
  cases s with
  | nil => cases found
  | cons opening rest =>
      simp only [readInterval?, Option.bind_eq_bind, Option.bind_eq_some_iff] at found
      obtain ⟨closing, -, ⟨lower, upper⟩, cut, low, isLower, high, isUpper, returned⟩ := found
      cases returned
      have noComma := comma_not_mem_lowerChars (Text.eq_append_of_cutAt cut).2 isLower
      exact .interval kind _ (hasText_of_bracketed isLower) noComma (hasText_of_bracketed isUpper)

theorem isRead_of_readMap
    (kind : operator.operandKind = .collection ∨ operator.operandKind = .container)
    {column s : List Char}
    {criterion : Criterion}
    (isRead : readMap column s = .ok criterion) :
    criterion.IsRead operator := by
  obtain ⟨members, -, isRead⟩ := bind_eq_ok_iff.mp isRead
  obtain ⟨values, -, returned⟩ := bind_eq_ok_iff.mp isRead
  cases returned
  exact .map kind _

theorem isRead_of_readContainer
    (kind : operator.operandKind = .container)
    {column s : List Char}
    {criterion : Criterion}
    (isRead : readContainer column s = .ok criterion) :
    criterion.IsRead operator := by
  unfold readContainer at isRead
  split at isRead
  · exact isRead_of_readRange (.inr kind) isRead
  · exact isRead_of_readRange (.inr kind) isRead
  · exact isRead_of_readMap (.inr kind) isRead
  · next noDocument =>
      obtain ⟨inner, found, returned⟩ := bind_eq_ok_iff.mp isRead
      cases returned
      have whole := Text.eq_enclose_of_enclosed? (eq_some_of_orFail found)
      refine .bareList kind inner fun quoted => ?_
      obtain ⟨rest, starts⟩ := List.head?_eq_some_iff.mp quoted
      rw [starts] at whole
      exact noDocument _ whole

theorem isRead_of_readCollection
    (kind : operator.operandKind = .collection)
    {column s : List Char}
    {criterion : Criterion}
    (isRead : readCollection column s = .ok criterion) :
    criterion.IsRead operator := by
  unfold readCollection at isRead
  split at isRead
  · obtain ⟨inner, -, returned⟩ := bind_eq_ok_iff.mp isRead
    cases returned
    exact .quotedList (eq_oneOf_of_kind kind) _
  · exact isRead_of_readMap (.inl kind) isRead

/-- Every right-hand side behind a point has one of the notations. -/
theorem isRead_of_readOperand
    (notLogical : operator.isLogical = false)
    (notSearch : operator.isFullText = false)
    {inGroup : Bool}
    {column s : List Char}
    {criterion : Criterion}
    (isRead : readOperand inGroup column operator s = .ok criterion) :
    criterion.IsRead operator := by
  rw [readOperand] at isRead
  split at isRead
  · next null =>
      cases isRead
      simp only [Bool.and_eq_true, decide_eq_true_eq] at null
      exact .null null.1
  · cases kind : operator.operandKind <;> rw [kind] at isRead
    case scalar =>
      cases isRead
      rw [readPlain]
      split <;> exact .plain kind _
    case pattern =>
      cases isRead
      refine .pattern kind _ ?_
      rw [String.toList_ofList]
      exact Text.not_mem_replaceChar (by decide) _
    case collection => exact isRead_of_readCollection kind isRead
    case container => exact isRead_of_readContainer kind isRead
    case interval => exact isRead_of_readRange (.inl kind) isRead
    case search => simp [Operator.isFullText, kind] at notSearch
    case none => simp [Operator.isLogical, kind] at notLogical

/-- What is read is null behind the null test, or fits its operator. -/
theorem accepted_of_isRead
    {criterion : Criterion}
    (isRead : criterion.IsRead operator) :
    operator = .is ∧ criterion = .null ∨ criterion.fits operator.operandKind = true := by
  cases isRead with
  | null is => exact .inl ⟨is, rfl⟩
  | plain kind | pattern kind | bareList kind | search kind => exact .inr (by rw [kind]; rfl)
  | quotedList oneOf => exact .inr (by rw [oneOf]; rfl)
  | map kind | interval kind => exact .inr (by rcases kind with kind | kind <;> rw [kind] <;> rfl)

end Filter
end RestQuery
