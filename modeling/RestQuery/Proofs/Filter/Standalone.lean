import Mathlib.Logic.Function.Iterate
import RestQuery.Proofs.Filter.Folding
import RestQuery.Proofs.Filter.Maps

/-!
# Conditions come back from the query

A condition that stands by itself, under any number of negations, is written as
one parameter with its column as key. Outside of a group nothing but the items
of quoted lists is quoted, so less comes back than from inside of one: a bare
text must not look like a number, a truth value or null, and must not be cut
where the notation around it is cut.
-/

namespace RestQuery

open Text (Closed)

/-! ## Right-hand sides -/

/-- The value is an end of an interval that comes back. -/
def Scalar.IsBareEnd : Scalar → Prop
  | text value => value ≠ "" ∧ Filter.readScalar value.toList = .text value
  | int _ => True
  | float _ => False
  | bool _ => True

/-- The end of an interval comes back, or there is none. -/
def Bound.IsBareEnd : Bound → Prop
  | included value => value.IsBareEnd
  | excluded value => value.IsBareEnd
  | unbounded => True

/-- There is a text beside the bracket of the end, unless there is no end. -/
def Bound.HasText : Bound → Prop
  | included value => value.chars ≠ []
  | excluded value => value.chars ≠ []
  | unbounded => True

/-- The end that the written form of an end is read as. -/
def Bound.reread : Bound → Bound
  | included value => .included (Filter.readScalar value.chars)
  | excluded value => .excluded (Filter.readScalar value.chars)
  | unbounded => .unbounded

/-- The value is an item of a bare list that comes back: a text in it has no
character with a meaning there, and does not look like another value. -/
def Scalar.IsBareItem : Scalar → Prop
  | text value =>
      (∀ c ∈ [',', '(', ')', '[', ']', '\x7b', '\x7d', '"'], c ∉ value.toList) ∧
        Filter.readScalar value.toList = .text value
  | int _ => True
  | float _ => False
  | bool _ => True

/-- The right-hand sides that come back from outside of a group, by the forms in
which they are written. -/
inductive Criterion.Standalone (operator : Operator) : Criterion → Prop
  | null
      (is : operator = .is) :
      Standalone operator .null
  | int
      (kind : operator.operandKind = .scalar)
      (value : Int64) :
      Standalone operator (.scalar (.int value))
  | bool
      (kind : operator.operandKind = .scalar)
      (value : Bool) :
      Standalone operator (.scalar (.bool value))
  | text
      (kind : operator.operandKind = .scalar)
      (value : String)
      (isText : Filter.readScalar value.toList = .text value)
      (notNull : operator = .is → value ≠ "null") :
      Standalone operator (.scalar (.text value))
  | pattern
      (kind : operator.operandKind = .pattern)
      (value : String)
      (noStar : '*' ∉ value.toList) :
      Standalone operator (.scalar (.text value))
  | texts
      (oneOf : operator = .oneOf)
      (texts : List String) :
      Standalone operator (.list (texts.map .text))
  | map
      (oneOf : operator = .oneOf)
      (values : SortedMap Scalar)
      (exact : ∀ entry ∈ values.entries, entry.2.IsExact) :
      Standalone operator (.map values)
  | containedMap
      (kind : operator.operandKind = .container)
      (values : SortedMap Scalar)
      (some : values.entries ≠ [])
      (exact : ∀ entry ∈ values.entries, entry.2.IsExact) :
      Standalone operator (.map values)
  | containedList
      (kind : operator.operandKind = .container)
      (items : List Scalar)
      (each : ∀ item ∈ items, item.IsBareItem)
      (notBlank : items ≠ [.text ""]) :
      Standalone operator (.list items)
  | interval
      (kind : operator.operandKind = .interval ∨ operator.operandKind = .container)
      (range : Interval)
      (lower : range.lower.IsBareEnd)
      (noComma : ',' ∉ Interval.lowerChars range.lower)
      (upper : range.upper.IsBareEnd) :
      Standalone operator (.interval range)
  | search
      (kind : operator.operandKind = .search)
      (search : FullTextSearch)
      (noMark : ¬[')', '.'] <:+: search.language.toList) :
      Standalone operator (.fullText search)

namespace Filter

open Sequence

variable {column : List Char} {operator : Operator}

/-! ## Operands -/

/-- Outside of a group a text is written as it is. -/
theorem textChars_outside (s : List Char) : textChars false s = s := rfl

/-- Outside of a group a text is read as it stands. -/
theorem readPlain_outside (s : List Char) : readPlain false s = .scalar (readScalar s) := rfl

theorem readOperand_text
    (column : List Char)
    (kind : operator.operandKind = .scalar)
    {value : String}
    (isText : readScalar value.toList = .text value)
    (notNull : operator = .is → value ≠ "null") :
    readOperand false column operator value.toList = .ok (.scalar (.text value)) := by
  rw [readOperand_of_scalar false column kind ?_, readPlain_outside, isText]
  rintro ⟨is, same⟩
  exact notNull is (String.toList_inj.mp same)

/-! ## Bare items -/

theorem isBare_of_isBareItem
    {item : Scalar}
    (bare : item.IsBareItem) :
    IsBare item := by
  cases item with
  | text value =>
      exact ⟨.of_avoids bare.1, bare.2⟩
  | int value => trivial
  | float value => exact bare
  | bool value => trivial

theorem quote_not_mem_chars
    {item : Scalar}
    (bare : item.IsBareItem) :
    '"' ∉ item.chars := by
  cases item with
  | text value => exact bare.1 '"' (by decide)
  | int value =>
      intro member
      rcases Text.isDigit_or_eq_of_mem_intChars member with digit | sign
      · cases digit
      · cases sign
  | float value => exact bare.elim
  | bool value => cases value <;> simp [Scalar.chars]

/-- No list of such items starts with a double quote. -/
theorem head?_bareItems_ne_quote
    {items : List Scalar}
    (each : ∀ item ∈ items, item.IsBareItem) :
    (bareItems items).head? ≠ some '"' := by
  intro quoted
  rcases Text.eq_or_exists_of_mem_joinWith (List.mem_of_head? quoted) with
    comma | ⟨part, inList, member⟩
  · cases comma
  · obtain ⟨item, listed, rfl⟩ := List.mem_map.mp inList
    exact quote_not_mem_chars (each item listed) member

/-! ## Intervals -/

/-- Between its brackets an interval is cut at the first comma. -/
theorem readInterval?_enclose
    (opening closing : Char)
    {lower upper : List Char}
    (noComma : ',' ∉ lower) :
    readInterval? (opening :: (lower ++ ',' :: upper) ++ [closing]) =
      (readLower? opening lower).bind fun low =>
        (readUpper? closing upper).map fun high => ⟨low, high⟩ := by
  rw [List.cons_append, readInterval?]
  simp only [List.getLast?_concat, List.dropLast_concat, Text.cutAt_append upper noComma,
    Option.bind_eq_bind, Option.bind_some]
  cases readLower? opening lower <;> cases readUpper? closing upper <;> rfl

/-- A value that comes back as an end leaves a trace, and is read from it. -/
theorem chars_of_isBareEnd
    {value : Scalar}
    (bare : value.IsBareEnd) :
    value.chars ≠ [] ∧ readScalar value.chars = value := by
  have read : readScalar value.chars = value := by
    cases value with
    | text value => exact bare.2
    | int value => exact readScalar_intChars value
    | float value => exact bare.elim
    | bool value => exact readScalar_bool value
  refine ⟨fun noText => ?_, read⟩
  rw [noText] at read
  rw [← read] at bare
  exact absurd rfl bare.1

/-- An end that comes back is read as itself. -/
theorem hasText_and_reread_of_isBareEnd
    {bound : Bound}
    (bare : bound.IsBareEnd) :
    bound.HasText ∧ bound.reread = bound := by
  cases bound with
  | included value | excluded value =>
      obtain ⟨someText, read⟩ := chars_of_isBareEnd bare
      exact ⟨someText, by rw [Bound.reread, read]⟩
  | unbounded => exact ⟨trivial, rfl⟩

/-- The lower end of an interval is a bracket and a text that an end is read
from. -/
theorem exists_readLower?
    {lower : Bound}
    (hasText : lower.HasText) :
    ∃ opening value,
      Interval.lowerChars lower = opening :: value ∧
        readLower? opening value = some lower.reread := by
  cases lower with
  | included value => exact ⟨'[', _, rfl, if_neg (by simpa [Bound.HasText] using hasText)⟩
  | excluded value => exact ⟨'(', _, rfl, if_neg (by simpa [Bound.HasText] using hasText)⟩
  | unbounded => exact ⟨'(', [], rfl, rfl⟩

/-- The upper end of an interval is a text that an end is read from and a
bracket. -/
theorem exists_readUpper?
    {upper : Bound}
    (hasText : upper.HasText) :
    ∃ value closing,
      Interval.upperChars upper = value ++ [closing] ∧
        readUpper? closing value = some upper.reread := by
  cases upper with
  | included value => exact ⟨_, ']', rfl, if_neg (by simpa [Bound.HasText] using hasText)⟩
  | excluded value => exact ⟨_, ')', rfl, if_neg (by simpa [Bound.HasText] using hasText)⟩
  | unbounded => exact ⟨[], ')', rfl, rfl⟩

/-- A written interval is read end by end, unless there is a comma inside its lower
end. -/
theorem readRange_chars
    (column : List Char)
    {range : Interval}
    (lower : range.lower.HasText)
    (noComma : ',' ∉ Interval.lowerChars range.lower)
    (upper : range.upper.HasText) :
    readRange column range.chars =
      .ok (.interval ⟨range.lower.reread, range.upper.reread⟩) := by
  obtain ⟨opening, low, lowerShape, readLow⟩ := exists_readLower? lower
  obtain ⟨high, closing, upperShape, readHigh⟩ := exists_readUpper? upper
  have noComma : ',' ∉ low := fun member =>
    noComma (lowerShape ▸ List.mem_cons_of_mem opening member)
  have shape : range.chars = opening :: (low ++ ',' :: high) ++ [closing] := by
    rw [Interval.chars, lowerShape, upperShape]
    simp
  rw [readRange, shape, readInterval?_enclose opening closing noComma, readLow, readHigh]
  rfl

/-! ## Searches -/

/-- A search is cut at the first mark that ends a language. -/
theorem readSearch?_of_cutAtMark
    (inGroup : Bool)
    {s language query : List Char}
    (cut : Text.cutAtMark ").".toList s = some (language, query)) :
    readSearch? inGroup ('(' :: s) =
      some ⟨String.ofList ((unquoted? inGroup query).getD query), String.ofList language⟩ := by
  show (Text.cutAtMark ").".toList s).bind _ = _
  rw [cut]
  rfl

/-- A search is cut behind its language, if the language does not hold the mark
that ends it. -/
theorem readSearch?_chars
    (inGroup : Bool)
    {search : FullTextSearch}
    (noMark : ¬[')', '.'] <:+: search.language.toList) :
    readSearch? inGroup
        ('(' :: (search.language.toList ++
          (").".toList ++ textChars inGroup search.query.toList))) =
      some search := by
  have cut : Text.cutAtMark ").".toList
      (search.language.toList ++ (").".toList ++ textChars inGroup search.query.toList)) =
        some (search.language.toList, textChars inGroup search.query.toList) :=
    Text.cutAtMark_append (by decide) _ noMark
  rw [readSearch?_of_cutAtMark inGroup cut, unquoted?_textChars, String.ofList_toList,
    String.ofList_toList]

/-! ## Conditions -/

/-- A condition under negations is written as a value, and a filter is read from
it. -/
structure ReadsAs
    (filter : Filter)
    (column : String)
    (value : List Char)
    (read : Filter) : Prop where
  isCondition : filter.column? = some column
  written : filter.valueChars false = .ok value
  read_eq : readLeaf false column.toList value = .ok read

/-- The parameter of a condition is its column and its value. -/
theorem toParam_of_valueChars
    {filter : Filter}
    {name : String}
    {value : List Char}
    (isCondition : filter.column? = some name)
    (written : filter.valueChars false = .ok value) :
    filter.toParam = .ok ⟨name, String.ofList value⟩ := by
  rw [toParam, written, keyChars_of_column? isCondition, String.ofList_toList]
  rfl

/-- A parameter on a column whose name is no key of a group is read as a condition. -/
theorem ofParam_eq_readLeaf
    {name : String}
    (named : name ≠ "")
    (noKey : name ∉ ["and", "or", "not.and", "not.or"])
    (value : List Char) :
    ofParam ⟨name, String.ofList value⟩ = readLeaf false name.toList value := by
  have different : ∀ key ∈ ["and", "or", "not.and", "not.or"], name.toList ≠ key.toList :=
    fun key listed same => noKey (String.toList_inj.mp same ▸ listed)
  simp only [List.forall_mem_cons] at different
  have noGroup : groupKey? name.toList = none := by
    simp only [groupKey?, different, if_false]
  have someName : name.toList.isEmpty = false := by
    simpa using named
  rw [ofParam, Filter.read, noGroup, someName, String.toList_ofList]
  rfl

namespace ReadsAs

variable {filter read : Filter} {name : String} {value : List Char}

theorem not (inner : ReadsAs filter name value read) :
    ReadsAs (.not filter) name ("not.".toList ++ value) (.not read) where
  isCondition := inner.isCondition
  written := by
    rw [valueChars_not inner.isCondition, inner.written]
    rfl
  read_eq := by
    rw [readLeaf_negation, inner.read_eq]
    rfl

theorem iterate_not
    (inner : ReadsAs filter name value read)
    (n : Nat) :
    ∃ signed, ReadsAs (Nat.iterate .not n filter) name signed (Nat.iterate .not n read) := by
  induction n with
  | zero => exact ⟨value, inner⟩
  | succ n inductionHypothesis =>
      obtain ⟨signed, outer⟩ := inductionHypothesis
      refine ⟨"not.".toList ++ signed, ?_⟩
      rw [Function.iterate_succ_apply', Function.iterate_succ_apply']
      exact outer.not

/-- A condition on a column whose name is no key of a group is read from its
parameter. -/
theorem toParam_ofParam
    (readsAs : ReadsAs filter name value read)
    (named : name ≠ "")
    (noKey : name ∉ ["and", "or", "not.and", "not.or"]) :
    filter.toParam = .ok ⟨name, String.ofList value⟩ ∧
      ofParam ⟨name, String.ofList value⟩ = .ok read := by
  refine ⟨toParam_of_valueChars readsAs.isCondition readsAs.written, ?_⟩
  rw [ofParam_eq_readLeaf named noKey]
  exact readsAs.read_eq

end ReadsAs

/-- A right-hand side for an operator that is written behind a point and read as
another one makes a condition that is read as another one. -/
theorem readsAs_point
    {criterion found : Criterion}
    {name : String}
    {s : List Char}
    (fits : criterion.fits operator.operandKind = true)
    (notSearch : operator.isFullText = false)
    (written : operandChars false operator criterion = '.' :: s)
    (isRead : readOperand false name.toList operator s = .ok found)
    {read : Filter}
    (built : condition name operator found = .ok read) :
    ReadsAs (.leaf name operator criterion) name (operator.token.toList ++ '.' :: s) read where
  isCondition := rfl
  written := by
    rw [valueChars, conditionChars_of_fits fits, written]
  read_eq := by
    rw [readLeaf_token (isNull_isLogical_of_fits fits).2, readCondition_point notSearch, isRead,
      String.ofList_toList]
    exact built

/-- A right-hand side that is kept is read back if its operand is. -/
theorem readsAs_self
    {criterion : Criterion}
    {s : List Char}
    (fits : criterion.fits operator.operandKind = true)
    (notSearch : operator.isFullText = false)
    (written : operandChars false operator criterion = '.' :: s)
    (name : String)
    (isRead : readOperand false name.toList operator s = .ok criterion) :
    ∃ value,
      ReadsAs (.leaf name operator criterion) name value (.leaf name operator criterion) :=
  ⟨_, readsAs_point fits notSearch written isRead (condition_of_fits fits name)⟩

theorem isFullText_of_kind
    {kind : OperandKind}
    (isKind : operator.operandKind = kind)
    (noSearch : (kind == .search) = false) :
    operator.isFullText = false := by
  rw [Operator.isFullText, isKind, noSearch]

theorem valueChars_search
    (kind : operator.operandKind = .search)
    (search : FullTextSearch)
    (name : String) :
    valueChars false (.leaf name operator (.fullText search)) =
      .ok (operator.token.toList ++
        '(' :: (search.language.toList ++ (").".toList ++ search.query.toList))) := by
  have fits : (Criterion.fullText search).fits operator.operandKind = true := by
    rw [kind]
    rfl
  rw [valueChars, conditionChars_of_fits fits]
  simp [operandChars, textChars]

/-- A search is read back as whatever its language and its query are read as. -/
theorem readsAs_search
    (kind : operator.operandKind = .search)
    {search found : FullTextSearch}
    (isRead : readSearch? false
        ('(' :: (search.language.toList ++ (").".toList ++ search.query.toList))) =
      some found)
    (name : String) :
    ReadsAs (.leaf name operator (.fullText search)) name
      (operator.token.toList ++
        '(' :: (search.language.toList ++ (").".toList ++ search.query.toList)))
      (.leaf name operator (.fullText found)) where
  isCondition := rfl
  written := valueChars_search kind search name
  read_eq := by
    have fits : (Criterion.fullText found).fits operator.operandKind = true := by
      rw [kind]
      rfl
    have isSearch : operator.isFullText = true := by
      rw [Operator.isFullText, kind]
      rfl
    rw [readLeaf_token (isNull_isLogical_of_fits fits).2, readCondition_search isSearch, isRead,
      String.ofList_toList]
    exact condition_of_fits fits name

theorem readsAs_isNull (name : String) :
    ReadsAs (isNull name) name "is.null".toList (isNull name) := by
  refine ⟨rfl, rfl, ?_⟩
  show condition (String.ofList name.toList) .is .null = _
  rw [String.ofList_toList]
  rfl

/-- A condition with a right-hand side that comes back is read from its value. -/
theorem exists_readsAs_leaf
    {criterion : Criterion}
    (standalone : criterion.Standalone operator)
    (name : String) :
    ∃ value,
      ReadsAs (.leaf name operator criterion) name value (.leaf name operator criterion) := by
  cases standalone with
  | null is =>
      subst is
      exact ⟨_, readsAs_isNull name⟩
  | int kind value =>
      exact readsAs_self (by rw [kind]; rfl) (isFullText_of_kind kind rfl) rfl name
        (readOperand_int false name.toList kind value)
  | bool kind value =>
      exact readsAs_self (by rw [kind]; rfl) (isFullText_of_kind kind rfl) rfl name
        (readOperand_bool false name.toList kind value)
  | text kind value isText notNull =>
      exact readsAs_self (by rw [kind]; rfl) (isFullText_of_kind kind rfl)
        (operandChars_text false kind value) name (readOperand_text name.toList kind isText notNull)
  | pattern kind value noStar =>
      exact readsAs_self (by rw [kind]; rfl) (isFullText_of_kind kind rfl)
        (operandChars_pattern false kind value) name
        (readOperand_pattern false name.toList kind noStar)
  | texts oneOf texts =>
      subst oneOf
      refine readsAs_self rfl rfl rfl name ?_
      exact readQuotedList_quotedItems name.toList texts
  | map oneOf values exact =>
      subst oneOf
      refine readsAs_self rfl rfl rfl name ?_
      exact readMap_mapJson name.toList fun entry member => scalarOfJson?_toJson (exact entry member)
  | containedMap kind values some exact =>
      refine readsAs_self (by rw [kind]; rfl) (isFullText_of_kind kind rfl) rfl name ?_
      rw [readOperand_mapJson false name.toList (.inr ⟨kind, some⟩)]
      exact readMap_mapJson name.toList fun entry member => scalarOfJson?_toJson (exact entry member)
  | containedList kind items each notBlank =>
      refine readsAs_self (by rw [kind]; rfl) (isFullText_of_kind kind rfl)
        (operandChars_bareItems false kind items) name ?_
      rw [readOperand_of_container false name.toList kind]
      exact readContainer_bareItems name.toList
        (fun item member => isBare_of_isBareItem (each item member)) notBlank
        (head?_bareItems_ne_quote each)
  | interval kind range lower noComma upper =>
      obtain ⟨lowerText, lowerSame⟩ := hasText_and_reread_of_isBareEnd lower
      obtain ⟨upperText, upperSame⟩ := hasText_and_reread_of_isBareEnd upper
      have isRead := readRange_chars name.toList lowerText noComma upperText
      rw [lowerSame, upperSame] at isRead
      rcases kind with kind | kind
      · refine readsAs_self (by rw [kind]; rfl) (isFullText_of_kind kind rfl) rfl name ?_
        rw [readOperand_of_interval false name.toList kind, isRead]
      · refine readsAs_self (by rw [kind]; rfl) (isFullText_of_kind kind rfl) rfl name ?_
        rw [readOperand_of_container false name.toList kind, readContainer_chars, isRead]
  | search kind search noMark => exact ⟨_, readsAs_search kind (readSearch?_chars false noMark) name⟩

/-- A condition with a right-hand side that comes back, on a column whose name is
no key of a group, is written as a parameter under any number of negations, and
the parameter is read as the filter. -/
theorem exists_toParam_ofParam_iterate_not
    {criterion : Criterion}
    (standalone : criterion.Standalone operator)
    {name : String}
    (named : name ≠ "")
    (noKey : name ∉ ["and", "or", "not.and", "not.or"])
    (n : Nat) :
    ∃ param,
      toParam (Nat.iterate .not n (.leaf name operator criterion)) = .ok param ∧
        ofParam param = .ok (Nat.iterate .not n (.leaf name operator criterion)) := by
  obtain ⟨value, leaf⟩ := exists_readsAs_leaf standalone name
  obtain ⟨signed, readsAs⟩ := leaf.iterate_not n
  exact ⟨_, readsAs.toParam_ofParam named noKey⟩

/-- A search comes back whose query holds everything that has a meaning, on a
column with a point, under two negations. -/
theorem exists_toParam_ofParam_search :
    ∃ param,
      toParam (.not (.not (.leaf "a.b" .webFullText (.fullText ⟨").,(\"", "en(g)"⟩)))) =
        .ok param ∧
      ofParam param =
        .ok (.not (.not (.leaf "a.b" .webFullText (.fullText ⟨").,(\"", "en(g)"⟩)))) :=
  exists_toParam_ofParam_iterate_not (.search rfl _ (by decide)) (by decide) (by decide) 2

/-- A language that holds the mark behind it is cut there, and the rest of it goes
to the query. -/
theorem language_cut_at_mark :
    "a" ≠ "" ∧ "a" ∉ ["and", "or", "not.and", "not.or"] ∧
      toParam (.leaf "a" .fullText (.fullText ⟨"q", "x).y"⟩)) = .ok ⟨"a", "fts(x).y).q"⟩ ∧
      ofParam ⟨"a", "fts(x).y).q"⟩ ≠ .ok (.leaf "a" .fullText (.fullText ⟨"q", "x).y"⟩)) := by
  have read : ofParam ⟨"a", "fts(x).y).q"⟩ =
      .ok (.leaf "a" .fullText (.fullText ⟨"y).q", "x"⟩)) := rfl
  refine ⟨by decide, by decide, rfl, ?_⟩
  rw [read]
  simp

end Filter
end RestQuery
