import Mathlib.Data.List.Forall2
import RestQuery.Proofs.Sequence
import RestQuery.Record.Declaration

/-!
# What a declaration declares

A declaration is read clause by clause, and reading stops at the first fault. What
comes of it can be said without reading: the clauses are those that a type and its
fields may have, a column stands only where the primary key does, and one field is the
primary key. Of repeated clauses the last one counts, and it does not matter to which
attributes they belong.
-/

namespace RestQuery
namespace Declaration

open Sequence

/-! ## Clauses -/

/-- The clause that marks the primary key. -/
def keyMark : Clause := ⟨"primary_key", none⟩

/-- The clause that sets a path to a text. -/
def assigning (path text : String) : Clause := ⟨path, some (.text text)⟩

/-- The text that a clause sets a path to. -/
def Clause.textOf? (path : String) (clause : Clause) : Option String :=
  if clause.path = path then
    match clause.value with
    | some (.text value) => some value
    | _ => none
  else none

/-- The last text that clauses set a path to. -/
def lastText? (path : String) (clauses : List Clause) : Option String :=
  (clauses.filterMap (Clause.textOf? path)).getLast?

/-- The clauses of an attribute, if it is one of records. -/
def Attribute.recordClauses (entry : Attribute) : List Clause :=
  if entry.name = "record" then
    match entry.arguments with
    | .clauses items => items
    | _ => []
  else []

/-- The clauses of all attributes of records, in order. -/
def recordClauses (attributes : List Attribute) : List Clause :=
  attributes.flatMap Attribute.recordClauses

/-- All attributes of records have parentheses. -/
def AreParenthesized (attributes : List Attribute) : Prop :=
  ∀ entry ∈ attributes, entry.name = "record" → ∃ items, entry.arguments = .clauses items

/-! ## Reading clauses -/

theorem readAttribute_eq_ok_iff
    {σ : Type}
    {readClause : σ → Clause → Except Fault σ}
    {state final : σ}
    {entry : Attribute} :
    readAttribute readClause state entry = .ok final ↔
      (entry.name = "record" → ∃ items, entry.arguments = .clauses items) ∧
        entry.recordClauses.foldlM readClause state = .ok final := by
  unfold readAttribute Attribute.recordClauses
  by_cases isRecord : entry.name = "record"
  · cases entry.arguments <;> simp [isRecord, Arguments.items, bind_eq_ok_iff]
  · simp [isRecord, pure_eq_ok_iff]

/-- Attributes are read as the clauses of those that are ones of records, if these have
parentheses. -/
theorem readAttributes_eq_ok_iff
    {σ : Type}
    {readClause : σ → Clause → Except Fault σ}
    {state final : σ}
    {attributes : List Attribute} :
    readAttributes readClause state attributes = .ok final ↔
      AreParenthesized attributes ∧
        (recordClauses attributes).foldlM readClause state = .ok final := by
  induction attributes generalizing state with
  | nil => simp [readAttributes, AreParenthesized, recordClauses]
  | cons entry rest inductionHypothesis =>
      have split : readAttributes readClause state (entry :: rest) =
          readAttribute readClause state entry >>= fun next =>
            readAttributes readClause next rest :=
        List.foldlM_cons
      rw [split, bind_eq_ok_iff, recordClauses, List.flatMap_cons, List.foldlM_append,
        bind_eq_ok_iff, AreParenthesized, List.forall_mem_cons]
      simp only [readAttribute_eq_ok_iff, inductionHypothesis]
      constructor
      · rintro ⟨next, ⟨first, readFirst⟩, others, readOthers⟩
        exact ⟨⟨first, others⟩, next, readFirst, readOthers⟩
      · rintro ⟨⟨first, others⟩, next, readFirst, readOthers⟩
        exact ⟨next, ⟨first, readFirst⟩, others, readOthers⟩

/-- What is made of the text of a clause is made of it if there is one. -/
theorem map_text_eq_ok_iff
    {σ : Type}
    {make : String → σ}
    {final : σ}
    {clause : Clause} :
    clause.text.map make = .ok final ↔
      ∃ text, clause = assigning clause.path text ∧ final = make text := by
  obtain ⟨path, value⟩ := clause
  cases value with
  | none => simp [Clause.text, assigning, Except.map]
  | some literal =>
      cases literal with
      | other => simp [Clause.text, assigning, Except.map]
      | text value => simp [Clause.text, assigning, Except.map, eq_comm]

/-- A clause that sets the path is the last one to do so, unless there is one behind
it. -/
theorem lastText?_assigning (path text : String) (clauses : List Clause) :
    lastText? path (assigning path text :: clauses) =
      some ((lastText? path clauses).getD text) := by
  have own : (assigning path text).textOf? path = some text := if_pos rfl
  rw [lastText?, List.filterMap_cons_some own, List.getLast?_cons, lastText?]

theorem lastText?_keyMark (clauses : List Clause) :
    lastText? "column" (keyMark :: clauses) = lastText? "column" clauses :=
  rfl

/-! ## The clauses of a type -/

theorem readTypeClause_eq_ok_iff {state final : Option String} {clause : Clause} :
    readTypeClause state clause = .ok final ↔
      ∃ text, clause = assigning "table" text ∧ final = some text := by
  unfold readTypeClause
  split
  · next isTable => rw [map_text_eq_ok_iff, isTable]
  · next differs =>
      constructor
      · intro read
        cases read
      · rintro ⟨text, rfl, -⟩
        exact absurd rfl differs

/-- The clauses of a type are read if all of them name the table, and the last one
counts. -/
theorem foldlM_readTypeClause_eq_ok_iff
    {state final : Option String}
    {clauses : List Clause} :
    clauses.foldlM readTypeClause state = .ok final ↔
      (∀ clause ∈ clauses, ∃ text, clause = assigning "table" text) ∧
        final = (lastText? "table" clauses).or state := by
  induction clauses generalizing state with
  | nil => simp [pure_eq_ok_iff, lastText?, eq_comm (a := final)]
  | cons clause rest inductionHypothesis =>
      rw [List.foldlM_cons, bind_eq_ok_iff, List.forall_mem_cons]
      simp only [readTypeClause_eq_ok_iff, inductionHypothesis]
      constructor
      · rintro ⟨_, ⟨text, rfl, rfl⟩, others, rfl⟩
        refine ⟨⟨⟨text, rfl⟩, others⟩, ?_⟩
        rw [lastText?_assigning]
        cases lastText? "table" rest <;> rfl
      · rintro ⟨⟨⟨text, rfl⟩, others⟩, rfl⟩
        refine ⟨some text, ⟨text, rfl, rfl⟩, others, ?_⟩
        rw [lastText?_assigning]
        cases lastText? "table" rest <;> rfl

/-! ## The clauses of a field -/

/-- A field may have the clause: it marks the primary key, or sets the column to a
text. -/
def Clause.IsOfField (clause : Clause) : Prop :=
  clause = keyMark ∨ ∃ text, clause = assigning "column" text

theorem readFieldClause_eq_ok_iff {marks final : FieldMarks} {clause : Clause} :
    readFieldClause marks clause = .ok final ↔
      (clause = keyMark ∧ final = { marks with isKey := true }) ∨
        ∃ text,
          clause = assigning "column" text ∧ final = { marks with column := some text } := by
  unfold readFieldClause
  by_cases isMark : clause.path = "primary_key"
  · have noColumn : ∀ text, clause ≠ assigning "column" text := by
      rintro text rfl
      have differ : "column" ≠ "primary_key" := by decide
      exact differ isMark
    obtain ⟨path, value⟩ := clause
    cases value <;> simp_all [keyMark, eq_comm]
  · have noMark : clause ≠ keyMark := by
      rintro rfl
      exact isMark rfl
    rw [if_neg isMark]
    split
    · next isColumn =>
        rw [map_text_eq_ok_iff, isColumn]
        simp [noMark]
    · next differs =>
        have noColumn : ∀ text, clause ≠ assigning "column" text := by
          rintro text rfl
          exact differs rfl
        simp [noMark, noColumn]

/-- The clauses of a field are read if it may have all of them. They mark it as the
primary key if one of them does, and the last column counts. -/
theorem foldlM_readFieldClause_eq_ok_iff
    {marks final : FieldMarks}
    {clauses : List Clause} :
    clauses.foldlM readFieldClause marks = .ok final ↔
      (∀ clause ∈ clauses, clause.IsOfField) ∧
        final =
          ⟨marks.isKey || clauses.any (·.path == "primary_key"),
            (lastText? "column" clauses).or marks.column⟩ := by
  induction clauses generalizing marks with
  | nil => simp [pure_eq_ok_iff, lastText?, eq_comm (a := final)]
  | cons clause rest inductionHypothesis =>
      rw [List.foldlM_cons, bind_eq_ok_iff, List.forall_mem_cons]
      simp only [readFieldClause_eq_ok_iff, inductionHypothesis]
      constructor
      · rintro ⟨_, ⟨rfl, rfl⟩ | ⟨text, rfl, rfl⟩, others, rfl⟩
        · refine ⟨⟨.inl rfl, others⟩, ?_⟩
          rw [lastText?_keyMark]
          simp [keyMark]
        · refine ⟨⟨.inr ⟨text, rfl⟩, others⟩, ?_⟩
          rw [lastText?_assigning]
          cases lastText? "column" rest <;> simp [assigning]
      · rintro ⟨⟨rfl | ⟨text, rfl⟩, others⟩, rfl⟩
        · refine ⟨_, .inl ⟨rfl, rfl⟩, others, ?_⟩
          rw [lastText?_keyMark]
          simp [keyMark]
        · refine ⟨_, .inr ⟨text, rfl, rfl⟩, others, ?_⟩
          rw [lastText?_assigning]
          cases lastText? "column" rest <;> simp [assigning]

/-! ## Fields -/

/-- Among the clauses that a field may have, those of the column are the ones with a
text. -/
theorem any_column_eq_isSome
    {clauses : List Clause}
    (ofField : ∀ clause ∈ clauses, clause.IsOfField) :
    clauses.any (·.path == "column") = (lastText? "column" clauses).isSome := by
  induction clauses with
  | nil => rfl
  | cons clause rest inductionHypothesis =>
      obtain ⟨first, others⟩ := List.forall_mem_cons.mp ofField
      rw [List.any_cons, inductionHypothesis others]
      rcases first with rfl | ⟨text, rfl⟩
      · rw [lastText?_keyMark]
        simp [keyMark]
      · rw [lastText?_assigning]
        simp [assigning]

/-- Marks make a primary key of a field, or no key; a column without the mark is a
fault. -/
theorem keyOf_eq_ok_iff {name : String} {marks : FieldMarks} {key : Option KeyField} :
    keyOf name marks = .ok key ↔
      (marks.column.isSome = true → marks.isKey = true) ∧
        key =
          if marks.isKey then some ⟨name, marks.column.getD (bareName name)⟩ else none := by
  unfold keyOf
  cases marks.isKey with
  | true => simp [eq_comm (a := key)]
  | false => cases marks.column <;> simp [eq_comm (a := key)]

namespace Field

/-- The clauses of a field. -/
def clauses (field : Field) : List Clause := recordClauses field.attributes

/-- The field carries a clause with a path. -/
def carries (path : String) (field : Field) : Bool := field.clauses.any (·.path == path)

/-- The primary key that a field is if it is marked as one: its column is the last one
that its clauses name, or else its name. -/
def toKey (field : Field) : KeyField :=
  ⟨field.name, (lastText? "column" field.clauses).getD (bareName field.name)⟩

/-- Nothing is wrong with a field: its attributes of records have parentheses, it may
have its clauses, and a column stands only where the primary key does. -/
structure IsWellFormed (field : Field) : Prop where
  parenthesized : AreParenthesized field.attributes
  clauses : ∀ clause ∈ field.clauses, clause.IsOfField
  column : field.carries "column" → field.carries "primary_key"

/-- A field without faults is the primary key if it is marked as one, and no key
otherwise. -/
theorem key?_eq_ok_iff {field : Field} {key : Option KeyField} :
    field.key? = .ok key ↔
      field.IsWellFormed ∧
        key = if field.carries "primary_key" then some field.toKey else none := by
  unfold key?
  simp only [bind_eq_ok_iff, readAttributes_eq_ok_iff, foldlM_readFieldClause_eq_ok_iff,
    keyOf_eq_ok_iff, Bool.false_or, Option.or_none]
  constructor
  · rintro ⟨_, ⟨parenthesized, ofField, rfl⟩, columnMarked, isKey⟩
    refine ⟨⟨parenthesized, ofField, ?_⟩, isKey⟩
    intro hasColumn
    apply columnMarked
    rwa [← any_column_eq_isSome ofField]
  · rintro ⟨wellFormed, isKey⟩
    refine ⟨_, ⟨wellFormed.parenthesized, wellFormed.clauses, rfl⟩, ?_, isKey⟩
    intro hasColumn
    apply wellFormed.column
    exact (any_column_eq_isSome wellFormed.clauses).trans hasColumn

end Field

/-- The fields of a declaration are read if none of them has a fault, and those that
are marked make up the keys. -/
theorem keysOf_eq_ok_iff {fields : List Field} {keys : List KeyField} :
    keysOf fields = .ok keys ↔
      (∀ field ∈ fields, field.IsWellFormed) ∧
        keys = (fields.filter (·.carries "primary_key")).map Field.toKey := by
  let keyIfMarked := fun field : Field =>
    if field.carries "primary_key" then some field.toKey else none
  have marked : (fields.map keyIfMarked).filterMap id =
      (fields.filter (·.carries "primary_key")).map Field.toKey := by
    rw [List.filterMap_map, ← List.filterMap_eq_filter, List.map_filterMap]
    apply List.filterMap_congr
    intro field _
    cases isMarked : field.carries "primary_key" <;> simp [keyIfMarked, isMarked, Option.guard]
  unfold keysOf
  simp only [bind_eq_ok_iff, mapM_eq_ok_iff, pure_eq_ok_iff, Field.key?_eq_ok_iff,
    List.forall₂_and_left, forall₂_eq_map_iff]
  constructor
  · rintro ⟨_, ⟨wellFormed, rfl⟩, rfl⟩
    exact ⟨wellFormed, marked⟩
  · rintro ⟨wellFormed, rfl⟩
    exact ⟨_, ⟨wellFormed, rfl⟩, marked⟩

theorem onlyKey_eq_ok_iff {keys : List KeyField} {key : KeyField} :
    onlyKey keys = .ok key ↔ keys = [key] := by
  unfold onlyKey
  split <;> simp

theorem checkKind_eq_ok_iff {kind : TypeKind} : checkKind kind = .ok () ↔ kind = .named := by
  cases kind <;> simp [checkKind]

/-! ## Names -/

/-- What a type or a field is called in the database: what a clause says, or else its
identifier, without the mark in front of a raw one. -/
inductive IsCalled (identifier : String) : Option String → String → Prop
  | given (text : String) : IsCalled identifier (some text) text
  | raw
      {rest : String}
      (marked : identifier = "r#" ++ rest) :
      IsCalled identifier none rest
  | plain
      (unmarked : ∀ rest, identifier ≠ "r#" ++ rest) :
      IsCalled identifier none identifier

theorem bareName_append (rest : String) : bareName ("r#" ++ rest) = rest := by
  rw [bareName, String.toList_append, Text.after?_append]
  exact String.ofList_toList

/-- An identifier without the mark is kept. -/
theorem bareName_of_unmarked
    {identifier : String}
    (unmarked : ∀ rest, identifier ≠ "r#" ++ rest) :
    bareName identifier = identifier := by
  rw [bareName]
  split
  · next rest found =>
      have whole : identifier = "r#" ++ String.ofList rest := by
        apply String.toList_inj.mp
        rw [Text.eq_append_of_after? found, String.toList_append]
        exact congrArg ("r#".toList ++ ·) String.toList_ofList.symm
      exact absurd whole (unmarked _)
  · rfl

/-- The mark is dropped exactly where no clause says otherwise. -/
theorem isCalled_iff {identifier name : String} {given : Option String} :
    IsCalled identifier given name ↔ name = given.getD (bareName identifier) := by
  constructor
  · intro called
    cases called with
    | given text => rfl
    | raw marked => rw [marked, Option.getD_none, bareName_append]
    | plain unmarked => rw [Option.getD_none, bareName_of_unmarked unmarked]
  · rintro rfl
    cases given with
    | some text => exact .given text
    | none =>
        by_cases marked : ∃ rest, identifier = "r#" ++ rest
        · obtain ⟨rest, rfl⟩ := marked
          rw [Option.getD_none, bareName_append]
          exact .raw rfl
        · have unmarked := not_exists.mp marked
          rw [Option.getD_none, bareName_of_unmarked unmarked]
          exact .plain unmarked

/-! ## Types -/

/-- The record type of a declaration whose key is a field: the table is the last one
that its clauses name, or else its name. -/
def toDeclared (declaration : Declaration) (key : Field) : Declared :=
  ⟨declaration.name,
    (lastText? "table" (recordClauses declaration.attributes)).getD
      (bareName declaration.name),
    key.toKey⟩

/-- What a declaration says of a record type whose key is a field. The table is called what
the last text for it says, or else what the type is called; the column is called what the
last text for it says, or else what the field is called. -/
structure Declares (declaration : Declaration) (key : Field) (result : Declared) : Prop where
  name : result.name = declaration.name
  table :
    IsCalled declaration.name (lastText? "table" (recordClauses declaration.attributes))
      result.table
  field : result.key.field = key.name
  column : IsCalled key.name (lastText? "column" key.clauses) result.key.column

theorem declares_toDeclared (declaration : Declaration) (key : Field) :
    declaration.Declares key (declaration.toDeclared key) :=
  ⟨rfl, isCalled_iff.mpr rfl, rfl, isCalled_iff.mpr rfl⟩

/-- A declaration of a type with named fields makes a record type: all attributes of
records have parentheses, the clauses of the type set the table to texts, nothing is
wrong with the fields, and exactly one of them carries the mark of the primary key. -/
structure IsAccepted (declaration : Declaration) : Prop where
  kind : declaration.kind = .named
  parenthesized : AreParenthesized declaration.attributes
  clauses :
    ∀ clause ∈ recordClauses declaration.attributes,
      ∃ text, clause = assigning "table" text
  fields : ∀ field ∈ declaration.fields, field.IsWellFormed
  key : ∃ key, declaration.fields.filter (·.carries "primary_key") = [key]

/-- A declaration makes a record type exactly if it is accepted, and then the one of
its only key. -/
theorem declared_eq_ok_iff {declaration : Declaration} {result : Declared} :
    declaration.declared = .ok result ↔
      declaration.IsAccepted ∧
        ∃ key,
          declaration.fields.filter (·.carries "primary_key") = [key] ∧
            result = declaration.toDeclared key := by
  unfold declared
  simp only [bind_eq_ok_iff, pure_eq_ok_iff, readAttributes_eq_ok_iff,
    foldlM_readTypeClause_eq_ok_iff, Option.or_none, keysOf_eq_ok_iff, onlyKey_eq_ok_iff]
  constructor
  · rintro ⟨_, ⟨parenthesized, clauses, rfl⟩, _, isNamed, _, ⟨fields, rfl⟩, key, only, rfl⟩
    obtain ⟨field, isField, rfl⟩ := List.map_eq_singleton_iff.mp only
    have kind := checkKind_eq_ok_iff.mp isNamed
    exact ⟨⟨kind, parenthesized, clauses, fields, field, isField⟩, field, isField, rfl⟩
  · rintro ⟨accepted, key, isKey, rfl⟩
    refine ⟨_, ⟨accepted.parenthesized, accepted.clauses, rfl⟩, (),
      checkKind_eq_ok_iff.mpr accepted.kind, _, ⟨accepted.fields, rfl⟩, key.toKey, ?_, rfl⟩
    rw [isKey, List.map_singleton]

/-! ## Rearrangements -/

/-- Clauses of a field are rearranged: the mark of the primary key is repeated, or it
changes places with a clause of the column. -/
inductive Rearranged : List Clause → List Clause → Prop
  | refl (clauses : List Clause) : Rearranged clauses clauses
  | again (before after : List Clause) :
      keyMark ∈ before ++ after →
      Rearranged (before ++ after) (before ++ keyMark :: after)
  | swap (before after : List Clause) (column : Clause) :
      column.path = "column" →
      Rearranged (before ++ keyMark :: column :: after) (before ++ column :: keyMark :: after)
  | symm {left right : List Clause} : Rearranged left right → Rearranged right left
  | trans {left middle right : List Clause} :
      Rearranged left middle → Rearranged middle right → Rearranged left right

namespace Rearranged

variable {left right : List Clause}

/-- Rearranged clauses are the same ones. -/
theorem mem_iff (rearranged : Rearranged left right) (clause : Clause) :
    clause ∈ left ↔ clause ∈ right := by
  induction rearranged with
  | refl clauses => rfl
  | again before after present =>
      simp only [List.mem_append, List.mem_cons] at present ⊢
      constructor
      · tauto
      · rintro (inBefore | rfl | inAfter)
        · exact .inl inBefore
        · exact present
        · exact .inr inAfter
  | swap before after column isColumn =>
      simp only [List.mem_append, List.mem_cons]
      tauto
  | symm _ inductionHypothesis => exact inductionHypothesis.symm
  | trans _ _ first second => exact first.trans second

/-- Rearranged clauses set the column to the same texts, in the same order. -/
theorem lastText?_eq (rearranged : Rearranged left right) :
    lastText? "column" left = lastText? "column" right := by
  have texts : left.filterMap (Clause.textOf? "column") =
      right.filterMap (Clause.textOf? "column") := by
    have noText : keyMark.textOf? "column" = none := by decide
    induction rearranged with
    | refl clauses => rfl
    | again before after present => simp [List.filterMap_append, List.filterMap_cons_none noText]
    | swap before after column isColumn =>
        simp [List.filterMap_append, List.filterMap_cons, noText]
    | symm _ inductionHypothesis => exact inductionHypothesis.symm
    | trans _ _ first second => exact first.trans second
  rw [lastText?, texts, lastText?]

end Rearranged

/-- A field is written in another way: its clauses are rearranged and distributed over
other attributes. -/
structure Field.IsRewritten (left right : Field) : Prop where
  name : left.name = right.name
  parenthesized : AreParenthesized left.attributes ↔ AreParenthesized right.attributes
  clauses : Rearranged left.clauses right.clauses

/-- A declaration is written in another way: its clauses are distributed over other
attributes, and its fields are rewritten. -/
structure IsRewritten (left right : Declaration) : Prop where
  kind : left.kind = right.kind
  name : left.name = right.name
  parenthesized : AreParenthesized left.attributes ↔ AreParenthesized right.attributes
  clauses : recordClauses left.attributes = recordClauses right.attributes
  fields : List.Forall₂ Field.IsRewritten left.fields right.fields

namespace Field.IsRewritten

variable {left right : Field}

theorem carries_eq (rewritten : left.IsRewritten right) (path : String) :
    left.carries path = right.carries path := by
  rw [Bool.eq_iff_iff]
  simp only [carries, List.any_eq_true, rewritten.clauses.mem_iff]

theorem toKey_eq (rewritten : left.IsRewritten right) : left.toKey = right.toKey := by
  rw [toKey, rewritten.name, rewritten.clauses.lastText?_eq, toKey]

theorem isWellFormed (rewritten : left.IsRewritten right) (wellFormed : left.IsWellFormed) :
    right.IsWellFormed where
  parenthesized := rewritten.parenthesized.mp wellFormed.parenthesized
  clauses := by
    intro clause member
    exact wellFormed.clauses clause ((rewritten.clauses.mem_iff clause).mpr member)
  column := by
    rw [← rewritten.carries_eq, ← rewritten.carries_eq]
    exact wellFormed.column

theorem symm (rewritten : left.IsRewritten right) : right.IsRewritten left :=
  ⟨rewritten.name.symm, rewritten.parenthesized.symm, rewritten.clauses.symm⟩

end Field.IsRewritten

namespace IsRewritten

variable {left right : Declaration}

theorem symm (rewritten : left.IsRewritten right) : right.IsRewritten left where
  kind := rewritten.kind.symm
  name := rewritten.name.symm
  parenthesized := rewritten.parenthesized.symm
  clauses := rewritten.clauses.symm
  fields := (rewritten.fields.imp fun _ _ => Field.IsRewritten.symm).flip

/-- The fields that are marked in one way of writing are marked in the other. -/
theorem filter_fields (rewritten : left.IsRewritten right) :
    List.Forall₂ Field.IsRewritten
      (left.fields.filter (·.carries "primary_key"))
      (right.fields.filter (·.carries "primary_key")) := by
  apply List.rel_filter _ rewritten.fields
  intro field other fieldRewritten
  simp only [fieldRewritten.carries_eq]

/-- If one way of writing has one marked field, so has the other. -/
theorem exists_filter_fields_eq
    (rewritten : left.IsRewritten right)
    {key : Field}
    (only : left.fields.filter (·.carries "primary_key") = [key]) :
    ∃ other,
      right.fields.filter (·.carries "primary_key") = [other] ∧ key.IsRewritten other := by
  have marked := rewritten.filter_fields
  rw [only] at marked
  obtain ⟨other, rest, keyRewritten, none, shape⟩ := List.forall₂_cons_left_iff.mp marked
  cases none
  exact ⟨other, shape, keyRewritten⟩

theorem isAccepted
    (rewritten : left.IsRewritten right)
    (accepted : left.IsAccepted) :
    right.IsAccepted where
  kind := rewritten.kind.symm.trans accepted.kind
  parenthesized := rewritten.parenthesized.mp accepted.parenthesized
  clauses := by
    rw [← rewritten.clauses]
    exact accepted.clauses
  fields := by
    intro field member
    obtain ⟨other, isField, fieldRewritten⟩ := exists_of_mem_right rewritten.fields member
    exact fieldRewritten.isWellFormed (accepted.fields other isField)
  key := by
    obtain ⟨key, only⟩ := accepted.key
    obtain ⟨other, otherOnly, -⟩ := rewritten.exists_filter_fields_eq only
    exact ⟨other, otherOnly⟩

theorem toDeclared_eq
    (rewritten : left.IsRewritten right)
    {key other : Field}
    (keyRewritten : key.IsRewritten other) :
    left.toDeclared key = right.toDeclared other := by
  rw [toDeclared, rewritten.name, rewritten.clauses, keyRewritten.toKey_eq, toDeclared]

/-- Rewriting keeps the record type of a declaration that makes one. -/
theorem declared_eq_ok
    (rewritten : left.IsRewritten right)
    {result : Declared}
    (success : left.declared = .ok result) :
    right.declared = .ok result := by
  obtain ⟨accepted, key, only, rfl⟩ := declared_eq_ok_iff.mp success
  obtain ⟨other, otherOnly, keyRewritten⟩ := rewritten.exists_filter_fields_eq only
  apply declared_eq_ok_iff.mpr
  exact ⟨rewritten.isAccepted accepted, other, otherOnly, rewritten.toDeclared_eq keyRewritten⟩

end IsRewritten

/-- A declaration makes a record type exactly if it is accepted. What it declares is
then the type of its only marked field: the table is the last one that the clauses of
the type name, or else the bare name of the type, and the column is the last one that
the clauses of the field name, or else the bare name of the field. Writing the
declaration in another way, with its clauses in fewer or more attributes, the mark
repeated on its field, or the mark and the column exchanged, changes neither whether it
makes a record type nor which one. -/
theorem declared_iff_and_rewritten (declaration : Declaration) :
    ((∃ result, declaration.declared = .ok result) ↔ declaration.IsAccepted) ∧
      (∀ result,
        declaration.declared = .ok result →
          ∃ key,
            declaration.fields.filter (·.carries "primary_key") = [key] ∧
              declaration.Declares key result) ∧
      ∀ other,
        declaration.IsRewritten other →
          other.declared.toOption = declaration.declared.toOption := by
  refine ⟨?_, ?_, ?_⟩
  · constructor
    · rintro ⟨result, success⟩
      exact (declared_eq_ok_iff.mp success).1
    · intro accepted
      obtain ⟨key, only⟩ := accepted.key
      exact ⟨_, declared_eq_ok_iff.mpr ⟨accepted, key, only, rfl⟩⟩
  · intro result success
    obtain ⟨-, key, only, rfl⟩ := declared_eq_ok_iff.mp success
    exact ⟨key, only, declares_toDeclared declaration key⟩
  · intro other rewritten
    cases made : declaration.declared with
    | ok result => rw [rewritten.declared_eq_ok made]
    | error fault =>
        cases otherMade : other.declared with
        | ok result =>
            rw [rewritten.symm.declared_eq_ok otherMade] at made
            cases made
        | error otherFault => rfl

/-- A type whose table is set twice and whose key has a column: it declares the same
with its clauses in other attributes, with the mark repeated, and with the mark behind
the column. A type and a key with raw identifiers lend their bare names. -/
theorem declared_iff_and_rewritten_items :
    let label : Field := ⟨"label", []⟩
    let left : Declaration :=
      ⟨.named, "Item",
        [⟨"record", .clauses [assigning "table" "old"]⟩, ⟨"doc", .assigned⟩,
          ⟨"record", .clauses [assigning "table" "items"]⟩],
        [⟨"id", [⟨"record", .clauses [keyMark, assigning "column" "Id"]⟩]⟩, label]⟩
    let right : Declaration :=
      ⟨.named, "Item",
        [⟨"record", .clauses [assigning "table" "old", assigning "table" "items"]⟩],
        [⟨"id",
          [⟨"record", .clauses [assigning "column" "Id"]⟩,
            ⟨"record", .clauses [keyMark, keyMark]⟩]⟩, label]⟩
    let raw : Declaration :=
      ⟨.named, "r#Type", [], [⟨"r#fn", [⟨"record", .clauses [keyMark]⟩]⟩, label]⟩
    let result : Declared := ⟨"Item", "items", ⟨"id", "Id"⟩⟩
    let bare : Declared := ⟨"r#Type", "Type", ⟨"r#fn", "fn"⟩⟩
    left.declared = .ok result ∧
      left.IsAccepted ∧
      (∃ key,
        left.fields.filter (·.carries "primary_key") = [key] ∧ left.Declares key result) ∧
      right.declared.toOption = some result ∧
      raw.declared = .ok bare ∧
      ∃ key, raw.fields.filter (·.carries "primary_key") = [key] ∧ raw.Declares key bare := by
  intro label left right raw result bare
  have made : left.declared = .ok result := by decide
  have madeRaw : raw.declared = .ok bare := by decide
  have rearranged : Rearranged [keyMark, assigning "column" "Id"]
      [assigning "column" "Id", keyMark, keyMark] :=
    .trans (.swap [] [] (assigning "column" "Id") rfl)
      (.again [assigning "column" "Id"] [keyMark] (by simp))
  have rewritten : left.IsRewritten right := by
    refine ⟨rfl, rfl, ?_, rfl, ?_⟩
    · simp [left, right, AreParenthesized]
    · refine .cons ⟨rfl, ?_, rearranged⟩ (.cons ⟨rfl, Iff.rfl, .refl _⟩ .nil)
      simp [AreParenthesized]
  obtain ⟨accepts, declares, keeps⟩ := declared_iff_and_rewritten left
  refine ⟨made, accepts.mp ⟨result, made⟩, declares result made, ?_, madeRaw,
    (declared_iff_and_rewritten raw).2.1 bare madeRaw⟩
  rw [keeps right rewritten, made]
  rfl

end Declaration
end RestQuery
