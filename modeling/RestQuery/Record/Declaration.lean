import RestQuery.Text.Cut

/-!
# Record declarations

A record type is declared by a type with named fields. Attributes of the name
`record` say what differs from the defaults: on the type the table, on one
field that it is the primary key, and there the column. Clauses may be spread
over several attributes, of repeated clauses the last one counts, and the first
fault in reading order is reported.
-/

namespace RestQuery
namespace Declaration

/-- What a clause is set to. -/
inductive Literal
  | text (value : String)
  | other
  deriving DecidableEq

/-- A clause of an attribute: a path, alone or set to something. -/
structure Clause where
  path : String
  value : Option Literal
  deriving DecidableEq

/-- What an attribute carries: nothing, a value behind an equals sign, or
clauses in parentheses. -/
inductive Arguments
  | missing
  | assigned
  | clauses (items : List Clause)
  deriving DecidableEq

/-- An attribute. -/
structure Attribute where
  name : String
  arguments : Arguments
  deriving DecidableEq

/-- A field with its attributes. -/
structure Field where
  name : String
  attributes : List Attribute
  deriving DecidableEq

/-- The kinds of types that carry attributes. -/
inductive TypeKind
  | named
  | tuple
  | unit
  | enumeration
  | union
  deriving DecidableEq, Repr

/-- Why a declaration makes no record type. -/
inductive Fault
  | missingArguments
  | assignedArguments
  | missingValue
  | unfitLiteral
  | valuedMark
  | unknownTypeClause
  | unknownFieldClause
  | unnamedFields
  | unfitType
  | columnWithoutKey
  | noKey
  | severalKeys
  deriving DecidableEq, Repr

namespace Fault

/-- The fault in words. -/
def message : Fault → String
  | missingArguments => "expected attribute arguments in parentheses: #[record(...)]"
  | assignedArguments => "expected parentheses: #[record(...)]"
  | missingValue => "expected `=`"
  | unfitLiteral => "expected string literal"
  | valuedMark => "expected `,`"
  | unknownTypeClause => "expected `table = \"...\"`"
  | unknownFieldClause => "expected `primary_key` or `column = \"...\"`"
  | unnamedFields => "Record can only be derived for structs with named fields"
  | unfitType => "Record can only be derived for structs"
  | columnWithoutKey => "`column` is only meaningful on the #[record(primary_key)] field"
  | noKey => "Record needs exactly one field marked #[record(primary_key)]"
  | severalKeys =>
      "Record supports a single primary key; found more than one #[record(primary_key)]"

end Fault

/-- The text that a clause is set to. -/
def Clause.text (clause : Clause) : Except Fault String :=
  match clause.value with
  | some (.text value) => .ok value
  | some .other => .error .unfitLiteral
  | none => .error .missingValue

/-! ## Reading clauses -/

/-- The clauses of an attribute in parentheses. -/
def Arguments.items : Arguments → Except Fault (List Clause)
  | missing => .error .missingArguments
  | assigned => .error .assignedArguments
  | clauses items => .ok items

/-- Read the clauses of an attribute one after the other, if it is one of
records. -/
def readAttribute
    {σ : Type}
    (readClause : σ → Clause → Except Fault σ)
    (state : σ)
    (entry : Attribute) :
    Except Fault σ :=
  if entry.name = "record" then do
    (← entry.arguments.items).foldlM readClause state
  else .ok state

/-- Read the clauses of some attributes one after the other. -/
def readAttributes
    {σ : Type}
    (readClause : σ → Clause → Except Fault σ)
    (state : σ)
    (attributes : List Attribute) :
    Except Fault σ :=
  attributes.foldlM (readAttribute readClause) state

/-- Read a clause of a type: it names the table. -/
def readTypeClause (_ : Option String) (clause : Clause) : Except Fault (Option String) :=
  if clause.path = "table" then clause.text.map some
  else .error .unknownTypeClause

/-- What the clauses of a field say. -/
structure FieldMarks where
  isKey : Bool := false
  column : Option String := none
  deriving DecidableEq, Inhabited

/-- Read a clause of a field: it marks the primary key or names the column. -/
def readFieldClause (marks : FieldMarks) (clause : Clause) : Except Fault FieldMarks :=
  if clause.path = "primary_key" then
    match clause.value with
    | none => .ok { marks with isKey := true }
    | some _ => .error .valuedMark
  else if clause.path = "column" then
    clause.text.map fun column => { marks with column := some column }
  else .error .unknownFieldClause

/-! ## Deciding -/

/-- An identifier without the mark that lets it be a reserved word. -/
def bareName (identifier : String) : String :=
  match Text.after? "r#".toList identifier.toList with
  | some rest => String.ofList rest
  | none => identifier

/-- The field of a primary key and its column. -/
structure KeyField where
  field : String
  column : String
  deriving DecidableEq

/-- What marks make of a field: a primary key, or none. -/
def keyOf (field : String) (marks : FieldMarks) : Except Fault (Option KeyField) :=
  if marks.isKey then .ok (some ⟨field, marks.column.getD (bareName field)⟩)
  else if marks.column.isSome then .error .columnWithoutKey
  else .ok none

/-- The primary key that a field is, if it is one. -/
def Field.key? (field : Field) : Except Fault (Option KeyField) := do
  keyOf field.name (← readAttributes readFieldClause {} field.attributes)

/-- The primary keys among some fields. -/
def keysOf (fields : List Field) : Except Fault (List KeyField) := do
  return (← fields.mapM Field.key?).filterMap id

/-- The only primary key. -/
def onlyKey : List KeyField → Except Fault KeyField
  | [] => .error .noKey
  | [key] => .ok key
  | _ :: _ :: _ => .error .severalKeys

/-- Refuse a type without named fields. -/
def checkKind : TypeKind → Except Fault Unit
  | .named => .ok ()
  | .tuple => .error .unnamedFields
  | .unit => .error .unnamedFields
  | .enumeration => .error .unfitType
  | .union => .error .unfitType

end Declaration

/-- A type with its attributes and its fields. -/
structure Declaration where
  kind : Declaration.TypeKind
  name : String
  attributes : List Declaration.Attribute
  fields : List Declaration.Field
  deriving DecidableEq

/-- What a declaration says of a record type. -/
structure Declared where
  name : String
  table : String
  key : Declaration.KeyField
  deriving DecidableEq

namespace Declaration

/-- The record type of a declaration: its attributes are read first, then its
kind is looked at, then its fields are read, and last the keys are counted. -/
def declared (declaration : Declaration) : Except Fault Declared := do
  let table ← readAttributes readTypeClause none declaration.attributes
  checkKind declaration.kind
  let keys ← keysOf declaration.fields
  let key ← onlyKey keys
  return ⟨declaration.name, table.getD (bareName declaration.name), key⟩

end Declaration
end RestQuery
