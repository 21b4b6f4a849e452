import RestQuery.Proofs.Filter.Rewriting

/-!
# Texts between braces

The items of an array are written between braces without quotes, so a reader has
to go by what they look like. A comma outside of brackets cuts a text in two, a
bracket that is left open joins a text with the next one, a single empty text
cannot be told from no text at all, and what looks like a number is spelled like
one. The texts that come back are those to which none of this happens.
-/

namespace RestQuery
namespace Filter

/-! ## Splitting what was joined -/

/-- Joined texts are read as values that are written like them, one by one, exactly
if they can be told apart and none of them is spelled otherwise. -/
theorem map_chars_splitTopLevel_joinWith_eq_iff (written : List (List Char)) :
    ((Text.splitTopLevel (Text.joinWith ',' written)).map fun part => (readScalar part).chars) =
        written ↔
      written ≠ [[]] ∧ Text.Separable written ∧ ∀ part ∈ written, IsCanonical part := by
  set parts := Text.splitTopLevel (Text.joinWith ',' written) with split
  have keeps (each : ∀ part ∈ parts, IsCanonical part) :
      (parts.map fun part => (readScalar part).chars) = parts :=
    (List.map_congr_left fun part member => isCanonical_iff.mp (each part member)).trans
      (List.map_id parts)
  constructor
  · intro kept
    -- The values make up the whole text again, so no part of it was spelled otherwise.
    have whole : bareItems (parts.map readScalar) = Text.joinWith ',' written := by
      rw [bareItems, List.map_map]
      exact congrArg _ kept
    have canonical := (bareItems_splitTopLevel_eq_iff _).mp whole
    have same : parts = written := (keeps canonical).symm.trans kept
    have notBlank : written ≠ [[]] := same ▸ Text.splitTopLevel_ne_blank _
    exact ⟨notBlank, (Text.splitTopLevel_joinWith_iff notBlank).mp same, same ▸ canonical⟩
  · rintro ⟨notBlank, separable, canonical⟩
    have same : parts = written := (Text.splitTopLevel_joinWith_iff notBlank).mpr separable
    exact (keeps (same ▸ canonical)).trans same

theorem map_toList_eq_iff {first second : List String} :
    first.map String.toList = second.map String.toList ↔ first = second :=
  (List.map_injective_iff.mpr fun _ _ => String.toList_inj.mp).eq_iff

/-- Written one behind the other without quotes, the texts can be told apart, and
each of them is spelled like the value that it is read as. -/
structure AreBare (texts : List String) : Prop where
  notBlank : texts ≠ [""]
  separable : Text.Separable (texts.map String.toList)
  canonical : ∀ text ∈ texts, IsCanonical text.toList

theorem bareItems_texts (texts : List String) :
    bareItems (texts.map .text) = Text.joinWith ',' (texts.map String.toList) := by
  rw [bareItems, List.map_map]
  rfl

/-- What is read is displayed as the texts that were written exactly if these are
bare. -/
theorem map_display_splitTopLevel_eq_iff (texts : List String) :
    ((Text.splitTopLevel (bareItems (texts.map .text))).map readScalar).map Scalar.display =
        texts ↔
      AreBare texts := by
  have blank : texts.map String.toList = [[]] ↔ texts = [""] := @map_toList_eq_iff texts [""]
  have displayed (parts : List (List Char)) :
      ((parts.map readScalar).map Scalar.display).map String.toList =
        parts.map fun part => (readScalar part).chars := by
    rw [List.map_map, List.map_map]
    exact List.map_congr_left fun part _ => String.toList_ofList
  rw [← map_toList_eq_iff, displayed, bareItems_texts, map_chars_splitTopLevel_joinWith_eq_iff,
    ne_eq, blank, List.forall_mem_map]
  constructor
  · rintro ⟨notBlank, separable, canonical⟩
    exact ⟨notBlank, separable, canonical⟩
  · intro bare
    exact ⟨bare.notBlank, bare.separable, bare.canonical⟩

/-- What is written does not start like a document exactly if the first text does
not. -/
theorem head?_bareItems_texts_ne_iff (texts : List String) :
    (bareItems (texts.map .text)).head? ≠ some '"' ↔
      ∀ text ∈ texts.head?, text.toList.head? ≠ some '"' := by
  have comma : '"' ≠ ',' := by decide
  rw [bareItems_texts]
  cases texts with
  | nil => simp [Text.joinWith]
  | cons text rest =>
      rw [List.map_cons, ne_eq, Text.head?_joinWith_cons_iff comma]
      simp

/-! ## Arrays of texts -/

variable {operator : Operator} {name : String}

/-- A list that does not start like a document is read as what its parts look like. -/
theorem ofParam_bareList
    (kind : operator.operandKind = .container)
    (named : name ≠ "")
    (noKey : name ∉ ["and", "or", "not.and", "not.or"])
    {items : List Scalar}
    (noDocument : (bareItems items).head? ≠ some '"')
    {param : Param}
    (written : toParam (.leaf name operator (.list items)) = .ok param) :
    ofParam param =
      .ok (.leaf name operator (.list ((Text.splitTopLevel (bareItems items)).map readScalar))) := by
  have fits : (Criterion.list items).fits operator.operandKind = true := by
    rw [kind]
    rfl
  have notSearch := isFullText_of_kind kind rfl
  have reread := (rereads_bareList kind (.inr noDocument)).isReread fits notSearch name
  obtain ⟨sameParam, isRead⟩ := reread.readsAs.toParam_ofParam named noKey
  cases Except.ok.inj (written.symm.trans sameParam)
  exact isRead

/-- The parameter is read as the condition with a list of items. -/
def ReadsItems (param : Param) (name : String) (operator : Operator) (items : List Scalar) : Prop :=
  ofParam param = .ok (.leaf name operator (.list items))

/-- The parameter of an array of texts is read as a list exactly if the first text
does not start with a double quote, and the items are displayed as the texts
exactly if these are bare, too. -/
structure KeepsTexts
    (name : String)
    (operator : Operator)
    (texts : List String)
    (param : Param) : Prop where
  list_iff : (∃ items, ReadsItems param name operator items) ↔
    ∀ text ∈ texts.head?, text.toList.head? ≠ some '"'
  texts_iff : (∃ items, ReadsItems param name operator items ∧ items.map Scalar.display = texts) ↔
    (∀ text ∈ texts.head?, text.toList.head? ≠ some '"') ∧ AreBare texts

/-- Every array of texts on a column whose name is no key of a group is written as a
parameter, and the parameter tells the texts exactly if they are bare and the
first of them does not start like a document. -/
theorem exists_keepsTexts
    (kind : operator.operandKind = .container)
    (named : name ≠ "")
    (noKey : name ∉ ["and", "or", "not.and", "not.or"])
    (texts : List String) :
    ∃ param,
      toParam (.leaf name operator (.list (texts.map .text))) = .ok param ∧
        KeepsTexts name operator texts param := by
  have fits : (Criterion.list (texts.map .text)).fits operator.operandKind = true := by
    rw [kind]
    rfl
  obtain ⟨param, written, exactly⟩ := exists_rereadsExactly_leaf fits named noKey
  have noDocument_of_isRead {items : List Scalar} (isRead : ReadsItems param name operator items) :
      (bareItems (texts.map .text)).head? ≠ some '"' :=
    (exactly.read.mp ⟨.list items, isRead, rfl⟩).resolve_left (ne_oneOf_of_kind kind)
  refine ⟨param, written, ?list, ?texts⟩
  case list =>
    rw [← head?_bareItems_texts_ne_iff]
    constructor
    · rintro ⟨items, isRead⟩
      exact noDocument_of_isRead isRead
    · intro noDocument
      exact ⟨_, ofParam_bareList kind named noKey noDocument written⟩
  case texts =>
    rw [← head?_bareItems_texts_ne_iff, ← map_display_splitTopLevel_eq_iff]
    constructor
    · rintro ⟨items, isRead, kept⟩
      have noDocument := noDocument_of_isRead isRead
      have same := isRead.symm.trans (ofParam_bareList kind named noKey noDocument written)
      cases same
      exact ⟨noDocument, kept⟩
    · rintro ⟨noDocument, kept⟩
      exact ⟨_, ofParam_bareList kind named noKey noDocument written, kept⟩

/-- Texts with commas inside of brackets come back. -/
theorem exists_keepsTexts_brackets :
    Operator.overlaps.operandKind = .container ∧
      AreBare ["(a,b)", "c d", ""] ∧
      ∃ param,
        toParam (.leaf "tags" .overlaps (.list (["(a,b)", "c d", ""].map .text))) = .ok param ∧
          KeepsTexts "tags" .overlaps ["(a,b)", "c d", ""] param := by
  have bare : AreBare ["(a,b)", "c d", ""] := (map_display_splitTopLevel_eq_iff _).mp rfl
  exact ⟨rfl, bare, exists_keepsTexts rfl (by decide) (by decide) _⟩

/-- Not every text comes back: one with a comma is cut in two, one with an open
bracket is joined with the next one, a single empty text is lost, one that looks
like a number is displayed without its plus sign, and one that starts with a
double quote is not read at all. -/
theorem texts_otherwise :
    (toParam (.leaf "a" .contains (.list [.text "a,b"])) = .ok ⟨"a", "cs.\x7ba,b\x7d"⟩ ∧
      ReadsItems ⟨"a", "cs.\x7ba,b\x7d"⟩ "a" .contains [.text "a", .text "b"] ∧
      [Scalar.text "a", .text "b"].map Scalar.display ≠ ["a,b"]) ∧
    (toParam (.leaf "a" .contains (.list [.text "(a", .text "b"])) =
        .ok ⟨"a", "cs.\x7b(a,b\x7d"⟩ ∧
      ReadsItems ⟨"a", "cs.\x7b(a,b\x7d"⟩ "a" .contains [.text "(a,b"] ∧
      [Scalar.text "(a,b"].map Scalar.display ≠ ["(a", "b"]) ∧
    (toParam (.leaf "a" .contains (.list [.text ""])) = .ok ⟨"a", "cs.\x7b\x7d"⟩ ∧
      ReadsItems ⟨"a", "cs.\x7b\x7d"⟩ "a" .contains []) ∧
    (toParam (.leaf "a" .contains (.list [.text "+5"])) = .ok ⟨"a", "cs.\x7b+5\x7d"⟩ ∧
      ReadsItems ⟨"a", "cs.\x7b+5\x7d"⟩ "a" .contains [.int 5] ∧
      [Scalar.int 5].map Scalar.display ≠ ["+5"]) ∧
    (toParam (.leaf "a" .contains (.list [.text "\""])) = .ok ⟨"a", "cs.\x7b\"\x7d"⟩ ∧
      ∃ fault, ofParam ⟨"a", "cs.\x7b\"\x7d"⟩ = .error fault) := by
  refine ⟨⟨rfl, rfl, by decide⟩, ⟨rfl, rfl, by decide⟩, ⟨rfl, rfl⟩, ⟨rfl, rfl, by decide⟩, rfl, ?_⟩
  exact ⟨_, rfl⟩

end Filter
end RestQuery
