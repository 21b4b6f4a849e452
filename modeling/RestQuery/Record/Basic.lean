import RestQuery.Filter.Basic
import RestQuery.Json.Reading

/-!
# Records

A record type belongs to one table, in which one column is the primary key. Its
values are written as documents and read from them; writing may be refused.
-/

namespace RestQuery

/-- A type of rows of one table. -/
class Record (ρ : Type) where
  /-- The name of the table. -/
  table : String
  /-- The column of the primary key. -/
  primaryKey : String
  /-- The primary key of a record. -/
  key : ρ → Criterion
  /-- The document that a record is written as, or why it is not written. -/
  document : ρ → Except String Json
  /-- The record that a document is read as. -/
  decode? : Json.Reader ρ

namespace Record

/-- The document of a record; a record that is not written fails. -/
def encode {ρ : Type} [Record ρ] (record : ρ) : Except Error Json :=
  Error.ofWriting (document record)

/-- The filter that the primary key is the one of a record. -/
def keyFilter {ρ : Type} [Record ρ] (record : ρ) : Except Error Filter :=
  match key record with
  | .null => .error (.missingPrimaryKey (table ρ))
  | value => Filter.condition (primaryKey ρ) .equal value

end Record
end RestQuery
