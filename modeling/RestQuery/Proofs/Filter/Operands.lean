import RestQuery.Filter.Reading
import RestQuery.Proofs.Sequence
import RestQuery.Proofs.Text.Nesting
import RestQuery.Proofs.Text.Whole

/-!
# Operands inside a group

An operand is safe inside a group when it is an item of its own there and is
read as what it was written for. This module goes through the forms of
operands: numbers and truth values, texts and patterns, quoted and bare lists,
intervals and searches.
-/

namespace RestQuery

open Text (Closed)

namespace Scalar

/-- The value has a form that is read exactly. Floating-point numbers are left
out. -/
def IsExact : Scalar → Prop
  | float _ => False
  | _ => True

end Scalar

namespace Filter

variable {column : List Char} {operator : Operator}

/-! ## Single values -/

/-- An integer is read as one. -/
theorem readScalar_intChars (value : Int64) :
    readScalar (Text.intChars value.toInt) = .int value := by
  rw [readScalar, Text.readInt64?_intChars]

/-- A truth value is read as one. -/
theorem readScalar_bool (value : Bool) :
    readScalar (Scalar.bool value).chars = .bool value := by
  cases value <;> rfl

theorem head?_intChars_ne_quote (value : Int) : (Text.intChars value).head? ≠ some '"' := by
  intro quoted
  rcases Text.isDigit_or_eq_of_mem_intChars (List.mem_of_head? quoted) with digit | sign
  · cases digit
  · cases sign

/-- No integer needs brackets, quotes or commas. -/
theorem closed_intChars (value : Int) : Closed 0 (Text.intChars value) := by
  refine .of_plain fun c member => ?_
  rcases Text.isDigit_or_eq_of_mem_intChars member with digit | sign
  · have different : ∀ d : Char, d.isDigit = false → c ≠ d :=
      fun _ noDigit => Text.ne_of_isDigit digit noDigit
    simp [Text.isMark, Text.isOpening, Text.isClosing, different]
  · subst sign
    decide

theorem closed_bool (value : Bool) : Closed 0 (Scalar.bool value).chars := by
  refine .of_all ?_
  cases value <;> decide

/-- Behind an operator that compares single values, everything but the null
test is one. -/
theorem readOperand_of_scalar
    (inGroup : Bool)
    (column : List Char)
    (kind : operator.operandKind = .scalar)
    {s : List Char}
    (notNull : ¬(operator = .is ∧ s = "null".toList)) :
    readOperand inGroup column operator s = .ok (readPlain inGroup s) := by
  rw [readOperand, if_neg (by simpa using notNull), kind]

theorem not_is_null_of_kind
    (kind : operator.operandKind ≠ .scalar)
    (s : List Char) :
    ¬(operator = .is && s = "null".toList) = true := by
  have notIs : operator ≠ .is := by
    rintro rfl
    exact kind rfl
  simp [notIs]

theorem readOperand_of_pattern
    (inGroup : Bool)
    (column : List Char)
    (kind : operator.operandKind = .pattern)
    (s : List Char) :
    readOperand inGroup column operator s =
      .ok (readPattern ((unquoted? inGroup s).getD s)) := by
  rw [readOperand, if_neg (not_is_null_of_kind (by simp [kind]) s), kind]

theorem readOperand_of_container
    (inGroup : Bool)
    (column : List Char)
    (kind : operator.operandKind = .container)
    (s : List Char) :
    readOperand inGroup column operator s = readContainer column s := by
  rw [readOperand, if_neg (not_is_null_of_kind (by simp [kind]) s), kind]

/-- The operators for containers take no quoted list. -/
theorem ne_oneOf_of_kind (kind : operator.operandKind = .container) : operator ≠ .oneOf := by
  rintro rfl
  cases kind

/-- Behind an operator for containers, a list is written between braces. -/
theorem operandChars_bareItems
    (inGroup : Bool)
    (kind : operator.operandKind = .container)
    (items : List Scalar) :
    operandChars inGroup operator (.list items) =
      '.' :: ('\x7b' :: bareItems items ++ ['\x7d']) := by
  rw [operandChars, if_neg (ne_oneOf_of_kind kind)]
  rfl

theorem readOperand_of_interval
    (inGroup : Bool)
    (column : List Char)
    (kind : operator.operandKind = .interval)
    (s : List Char) :
    readOperand inGroup column operator s = readRange column s := by
  rw [readOperand, if_neg (not_is_null_of_kind (by simp [kind]) s), kind]

/-- A text that does not start with a double quote is read as it stands. -/
theorem readPlain_of_head?_ne
    (inGroup : Bool)
    {s : List Char}
    (unquoted : s.head? ≠ some '"') :
    readPlain inGroup s = .scalar (readScalar s) := by
  have noText : unquoted? inGroup s = none := by
    cases inGroup
    · rfl
    · exact Text.unquote?_of_head?_ne unquoted
  rw [readPlain, noText]

theorem readOperand_int
    (inGroup : Bool)
    (column : List Char)
    (kind : operator.operandKind = .scalar)
    (value : Int64) :
    readOperand inGroup column operator (Text.intChars value.toInt) =
      .ok (.scalar (.int value)) := by
  rw [readOperand_of_scalar inGroup column kind ?_,
    readPlain_of_head?_ne inGroup (head?_intChars_ne_quote value.toInt), readScalar_intChars]
  rintro ⟨-, same⟩
  have letter : 'n' ∈ Text.intChars value.toInt := by rw [same]; decide
  rcases Text.isDigit_or_eq_of_mem_intChars letter with digit | sign
  · cases digit
  · cases sign

theorem readOperand_bool
    (inGroup : Bool)
    (column : List Char)
    (kind : operator.operandKind = .scalar)
    (value : Bool) :
    readOperand inGroup column operator (Scalar.bool value).chars =
      .ok (.scalar (.bool value)) := by
  rw [readOperand_of_scalar inGroup column kind ?_, readPlain_of_head?_ne inGroup ?_,
    readScalar_bool]
  · cases value <;> decide
  · cases value <;> simp [Scalar.chars]

/-- Inside a group a quoted text is read as the text. -/
theorem readPlain_quote (s : List Char) :
    readPlain true (Text.quote s) = .scalar (.text (String.ofList s)) := by
  rw [readPlain, unquoted?, if_pos rfl, Text.unquote?_quote]

/-! ## Texts -/

/-- Written inside a group, the text is an item of its own: either it is quoted
there or it closes what it opens. -/
def Sealed (s : List Char) : Prop := s.any isReserved = true ∨ Closed 0 s

/-- A text that is not quoted and has no square or curly bracket is sealed. -/
theorem Sealed.of_no_bracket
    {s : List Char}
    (noBracket : ∀ c ∈ s, c ≠ '[' ∧ c ≠ ']' ∧ c ≠ '\x7b' ∧ c ≠ '\x7d') :
    Sealed s := by
  by_cases reserved : s.any isReserved = true
  · exact .inl reserved
  · refine .inr (.of_plain fun c member => ?_)
    have notReserved : isReserved c = false := by
      simpa using fun found => reserved (List.any_eq_true.mpr ⟨c, member, found⟩)
    simp only [isReserved, Bool.or_eq_false_iff, beq_eq_false_iff_ne] at notReserved
    simp [Text.isMark, Text.isOpening, Text.isClosing, noBracket c member, notReserved]

theorem textChars_of_reserved
    {s : List Char}
    (reserved : s.any isReserved = true) :
    textChars true s = Text.quote s := by
  rw [textChars, reserved]
  rfl

theorem textChars_of_not_reserved
    (inGroup : Bool)
    {s : List Char}
    (notReserved : ¬s.any isReserved = true) :
    textChars inGroup s = s := by
  rw [textChars, if_neg (by simp [notReserved])]

theorem Sealed.closed
    {s : List Char}
    (isSealed : Sealed s) :
    Closed 0 (textChars true s) := by
  by_cases reserved : s.any isReserved = true
  · rw [textChars_of_reserved reserved]
    exact Text.closed_quote 0 s
  · rw [textChars_of_not_reserved true reserved]
    exact isSealed.resolve_left reserved

/-- A text that is not quoted does not start with a double quote. -/
theorem head?_ne_quote_of_not_reserved
    {s : List Char}
    (notReserved : ¬s.any isReserved = true) :
    s.head? ≠ some '"' := by
  intro quoted
  exact notReserved (List.any_eq_true.mpr ⟨'"', List.mem_of_head? quoted, by decide⟩)

/-- The text that an operand stands for is the one it was written for. -/
theorem unquoted?_textChars (inGroup : Bool) (s : List Char) :
    (unquoted? inGroup (textChars inGroup s)).getD (textChars inGroup s) = s := by
  cases inGroup with
  | false => rfl
  | true =>
      by_cases reserved : s.any isReserved = true
      · rw [textChars_of_reserved reserved, unquoted?, if_pos rfl, Text.unquote?_quote,
          Option.getD_some]
      · rw [textChars_of_not_reserved true reserved, unquoted?, if_pos rfl,
          Text.unquote?_of_head?_ne (head?_ne_quote_of_not_reserved reserved), Option.getD_none]

/-- The wildcard and the star mean nothing inside a group, so a pattern is as
safe there as its text. -/
theorem Sealed.patternChars
    {s : List Char}
    (isSealed : Sealed s) :
    Sealed (patternChars s) := by
  rcases isSealed with reserved | closed
  · refine .inl ?_
    obtain ⟨c, member, cReserved⟩ := List.any_eq_true.mp reserved
    have kept : c ≠ '%' := by
      rintro rfl
      cases cReserved
    refine List.any_eq_true.mpr ⟨c, List.mem_map.mpr ⟨c, member, ?_⟩, cReserved⟩
    simp [kept]
  · refine .inr fun depth bound => (Text.Scan.loops_map_iff ?_ ?_ _ s).mpr (closed depth bound)
    · intro scan c
      by_cases wildcard : c = '%'
      · subst wildcard
        simp [Text.Scan.step]
      · simp [wildcard]
    · intro c
      by_cases wildcard : c = '%'
      · subst wildcard
        decide
      · simp [wildcard]

theorem operandChars_text
    (inGroup : Bool)
    (kind : operator.operandKind = .scalar)
    (value : String) :
    operandChars inGroup operator (.scalar (.text value)) =
      '.' :: textChars inGroup value.toList := by
  rw [operandChars, Operator.isPattern, kind]
  rfl

theorem operandChars_pattern
    (inGroup : Bool)
    (kind : operator.operandKind = .pattern)
    (value : String) :
    operandChars inGroup operator (.scalar (.text value)) =
      '.' :: textChars inGroup (patternChars value.toList) := by
  rw [operandChars, Operator.isPattern, kind]
  rfl

/-- A text is read back as a single value: a quoted one always, another one
unless it reads as a number, a truth value or null. -/
theorem readOperand_textChars
    (column : List Char)
    (kind : operator.operandKind = .scalar)
    {value : String}
    (readable :
      value.toList.any isReserved = true ∨
        readScalar value.toList = .text value ∧ (operator = .is → value ≠ "null")) :
    readOperand true column operator (textChars true value.toList) =
      .ok (.scalar (.text value)) := by
  by_cases reserved : value.toList.any isReserved = true
  · rw [textChars_of_reserved reserved, readOperand_of_scalar true column kind ?_,
      readPlain_quote, String.ofList_toList]
    rintro ⟨-, same⟩
    cases same
  · obtain ⟨isText, notNull⟩ := readable.resolve_left reserved
    rw [textChars_of_not_reserved true reserved, readOperand_of_scalar true column kind ?_,
      readPlain_of_head?_ne true (head?_ne_quote_of_not_reserved reserved), isText]
    rintro ⟨is, same⟩
    exact notNull is (String.toList_inj.mp same)

/-- A pattern is read back unless it holds a star itself. -/
theorem readOperand_pattern
    (inGroup : Bool)
    (column : List Char)
    (kind : operator.operandKind = .pattern)
    {value : String}
    (noStar : '*' ∉ value.toList) :
    readOperand inGroup column operator (textChars inGroup (patternChars value.toList)) =
      .ok (.scalar (.text value)) := by
  rw [readOperand_of_pattern inGroup column kind, unquoted?_textChars, readPattern, patternChars,
    Text.replaceChar_replaceChar noStar, String.ofList_toList]

/-! ## Quoted lists -/

/-- The texts of a list, each quoted. -/
def quotedTexts (texts : List String) : List (List Char) :=
  texts.map fun value => Text.quote value.toList

theorem quotedItems_map_text (texts : List String) :
    quotedItems (texts.map Scalar.text) = Text.joinWith ',' (quotedTexts texts) := by
  rw [quotedItems, List.map_map]
  rfl

theorem splitTopLevel_quotedTexts (texts : List String) :
    Text.splitTopLevel (Text.joinWith ',' (quotedTexts texts)) = quotedTexts texts := by
  have quoted : quotedTexts texts = (texts.map String.toList).map Text.quote := by
    rw [quotedTexts, List.map_map]
    rfl
  rw [quoted, Text.splitTopLevel_map_quote]

theorem readItem_quote (value : String) :
    readItem (Text.quote value.toList) = .text value := by
  simp only [readItem, Text.unquote?_quote, String.ofList_toList]

/-- A list in parentheses is read item by item. -/
theorem readQuotedList_enclose (column inner : List Char) :
    readQuotedList column ('(' :: inner ++ [')']) =
      .ok (.list ((Text.splitTopLevel inner).map readItem)) := by
  rw [readQuotedList, Text.enclosed?_enclose]
  rfl

/-- A list of texts is read back, whatever the texts hold. -/
theorem readQuotedList_quotedItems
    (column : List Char)
    (texts : List String) :
    readQuotedList column ('(' :: quotedItems (texts.map Scalar.text) ++ [')']) =
      .ok (.list (texts.map Scalar.text)) := by
  have items : (quotedTexts texts).map readItem = texts.map Scalar.text := by
    rw [quotedTexts, List.map_map]
    exact List.map_congr_left fun value _ => readItem_quote value
  rw [readQuotedList_enclose, quotedItems_map_text, splitTopLevel_quotedTexts, items]

/-- A quoted list closes what it opens, whatever its items are. -/
theorem closed_quotedItems (items : List Scalar) :
    Closed 0 ('(' :: quotedItems items ++ [')']) := by
  refine .enclose rfl rfl (.joinWith fun part member => ?_)
  obtain ⟨item, -, rfl⟩ := List.mem_map.mp member
  exact Text.closed_quote 1 item.chars

/-! ## Bare lists -/

/-- Among bare items the value is an item of its own and read as itself. -/
def IsBare : Scalar → Prop
  | .text value => Closed 0 value.toList ∧ readScalar value.toList = .text value
  | .int _ => True
  | .float _ => False
  | .bool _ => True

theorem IsBare.closed
    {item : Scalar}
    (bare : IsBare item) :
    Closed 0 item.chars := by
  cases item with
  | text value => exact bare.1
  | int value => exact closed_intChars value.toInt
  | float value => exact bare.elim
  | bool value => exact closed_bool value

theorem IsBare.readScalar_chars
    {item : Scalar}
    (bare : IsBare item) :
    readScalar item.chars = item := by
  cases item with
  | text value => exact bare.2
  | int value => exact readScalar_intChars value
  | float value => exact bare.elim
  | bool value => exact readScalar_bool value

/-- Only the empty text leaves no trace in a list. -/
theorem IsBare.eq_of_chars_eq_nil
    {item : Scalar}
    (bare : IsBare item)
    (noText : item.chars = []) :
    item = .text "" := by
  have read := bare.readScalar_chars
  rw [noText] at read
  rw [← read]
  rfl

/-- Bare items are the items of the list that they are joined into. -/
theorem splitTopLevel_bareItems
    {items : List Scalar}
    (each : ∀ item ∈ items, IsBare item)
    (notBlank : items ≠ [.text ""]) :
    Text.splitTopLevel (bareItems items) = items.map Scalar.chars := by
  refine Text.splitTopLevel_joinWith ?_ fun part member => ?_
  · intro same
    obtain ⟨item, rfl, noText⟩ := List.map_eq_singleton_iff.mp same
    have bare := each item List.mem_cons_self
    exact notBlank (by rw [bare.eq_of_chars_eq_nil noText])
  · obtain ⟨item, inList, rfl⟩ := List.mem_map.mp member
    exact (each item inList).closed.loops

/-- A list in braces is read item by item. -/
theorem readBareList_enclose (column inner : List Char) :
    readBareList column ('\x7b' :: inner ++ ['\x7d']) =
      .ok (.list ((Text.splitTopLevel inner).map readScalar)) := by
  rw [readBareList, Text.enclosed?_enclose]
  rfl

/-- Behind a brace everything but a double quote starts a list. -/
theorem readContainer_brace
    (column : List Char)
    {s : List Char}
    (noDocument : s.head? ≠ some '"') :
    readContainer column ('\x7b' :: s) = readBareList column ('\x7b' :: s) := by
  unfold readContainer
  split
  · next same => cases same
  · next same => cases same
  · next same =>
      cases same
      exact absurd rfl noDocument
  · rfl

/-- A list in braces that does not start with a double quote is read item by
item. -/
theorem readContainer_enclose
    (column : List Char)
    {inner : List Char}
    (noDocument : inner.head? ≠ some '"') :
    readContainer column ('\x7b' :: inner ++ ['\x7d']) =
      .ok (.list ((Text.splitTopLevel inner).map readScalar)) := by
  have start : (inner ++ ['\x7d']).head? ≠ some '"' := by
    cases inner with
    | nil => decide
    | cons first rest => exact noDocument
  rw [List.cons_append, readContainer_brace column start, ← List.cons_append,
    readBareList_enclose]

/-- A list of bare items is read back. -/
theorem readContainer_bareItems
    (column : List Char)
    {items : List Scalar}
    (each : ∀ item ∈ items, IsBare item)
    (notBlank : items ≠ [.text ""])
    (noDocument : (bareItems items).head? ≠ some '"') :
    readContainer column ('\x7b' :: bareItems items ++ ['\x7d']) = .ok (.list items) := by
  have same : (items.map Scalar.chars).map readScalar = items := by
    rw [List.map_map]
    refine Eq.trans (List.map_congr_left fun item member => ?_) (List.map_id items)
    exact (each item member).readScalar_chars
  rw [readContainer_enclose column noDocument, splitTopLevel_bareItems each notBlank, same]

/-- A list of bare items closes what it opens. -/
theorem closed_bareItems
    {items : List Scalar}
    (each : ∀ item ∈ items, IsBare item) :
    Closed 0 ('\x7b' :: bareItems items ++ ['\x7d']) := by
  refine .enclose rfl rfl (.joinWith fun part member => ?_)
  obtain ⟨item, inList, rfl⟩ := List.mem_map.mp member
  exact (each item inList).closed.mono (by decide)

/-! ## Intervals and searches -/

theorem lowerChars_eq_cons (lower : Bound) :
    ∃ opening value,
      Interval.lowerChars lower = opening :: value ∧
        ∀ found, ∃ bound, readLower? opening found = some bound := by
  cases lower with
  | included value => exact ⟨'[', _, rfl, fun found => by cases found <;> exact ⟨_, rfl⟩⟩
  | excluded value => exact ⟨'(', _, rfl, fun found => by cases found <;> exact ⟨_, rfl⟩⟩
  | unbounded => exact ⟨'(', _, rfl, fun found => by cases found <;> exact ⟨_, rfl⟩⟩

theorem upperChars_eq_append (upper : Bound) :
    ∃ value closing,
      Interval.upperChars upper = value ++ [closing] ∧
        ∀ found, ∃ bound, readUpper? closing found = some bound := by
  cases upper with
  | included value => exact ⟨_, ']', rfl, fun found => by cases found <;> exact ⟨_, rfl⟩⟩
  | excluded value => exact ⟨_, ')', rfl, fun found => by cases found <;> exact ⟨_, rfl⟩⟩
  | unbounded => exact ⟨[], ')', rfl, fun found => by cases found <;> exact ⟨_, rfl⟩⟩

/-- A written interval is read as some interval, though perhaps cut at a comma
inside its lower end. -/
theorem exists_readInterval?_chars (range : Interval) :
    ∃ found, readInterval? range.chars = some found := by
  obtain ⟨opening, lower, lowerShape, readLower⟩ := lowerChars_eq_cons range.lower
  obtain ⟨upper, closing, upperShape, readUpper⟩ := upperChars_eq_append range.upper
  have shape : range.chars = opening :: ((lower ++ ',' :: upper) ++ [closing]) := by
    rw [Interval.chars, lowerShape, upperShape]
    simp
  obtain ⟨parts, cut⟩ := Text.exists_cutAt_append ',' lower upper
  obtain ⟨lowerEnd, isLower⟩ := readLower parts.1
  obtain ⟨upperEnd, isUpper⟩ := readUpper parts.2
  refine ⟨⟨lowerEnd, upperEnd⟩, ?_⟩
  rw [shape]
  simp only [readInterval?, List.getLast?_concat, List.dropLast_concat, cut,
    Option.bind_eq_bind, Option.bind_some, isLower, isUpper]
  rfl

theorem exists_readRange_chars (column : List Char) (range : Interval) :
    ∃ found, readRange column range.chars = .ok (.interval found) := by
  obtain ⟨found, isRead⟩ := exists_readInterval?_chars range
  refine ⟨found, ?_⟩
  rw [readRange, isRead]
  rfl

/-- An interval among containers is read as an interval. -/
theorem readContainer_chars (column : List Char) (range : Interval) :
    readContainer column range.chars = readRange column range.chars := by
  rcases range with ⟨lower, upper⟩
  cases lower <;> rfl

/-- A written search is read as some search, though perhaps cut inside its
language. -/
theorem exists_readSearch?_append
    (inGroup : Bool)
    (language query : List Char) :
    ∃ found, readSearch? inGroup ('(' :: language ++ ").".toList ++ query) = some found := by
  obtain ⟨parts, cut⟩ := Text.exists_cutAtMark_append ").".toList language query
  rw [← List.append_assoc] at cut
  have behind := Text.after?_append ['('] (language ++ ").".toList ++ query)
  refine ⟨⟨String.ofList ((unquoted? inGroup parts.2).getD parts.2),
    String.ofList parts.1⟩, ?_⟩
  rw [readSearch?]
  show (Text.after? ['('] (['('] ++ (language ++ ").".toList ++ query))).bind _ = _
  rw [behind, Option.bind_some, cut]
  rfl

end Filter
end RestQuery
