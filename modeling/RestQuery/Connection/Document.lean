import RestQuery.Connection.Config
import RestQuery.Toml.Document

/-!
# Configurations in documents

Settings and configurations are read from TOML documents. What is missing keeps
its default, and entries that are not known are skipped, as long as they are
readable. Settings may also be given as an array of schema, headers and
parameters, in this order, of which the last ones may be missing. Items of an
array that come behind those that are needed are not looked at.
-/

namespace RestQuery
namespace Toml

/-- The key under which a timestamp is the only entry of a table. -/
def timestampKey : String := "$__toml_private_datetime"

/-- The entries of a table; a timestamp counts as a table of its text. -/
def entries? : Toml → Option (List (String × Toml))
  | table entries => some entries
  | timestamp value => some [(timestampKey, text (String.ofList value.chars))]
  | _ => none

/-- The text that a value is. -/
def asText? : Toml → Option String
  | text value => some value
  | _ => none

/-- The items of an array. -/
def items? : Toml → Option (List Toml)
  | array items => some items
  | _ => none

/-- The value under a key. -/
def entry? (key : String) (entries : List (String × Toml)) : Option Toml :=
  (entries.find? fun entry => entry.1 == key).map (·.2)

/-- The entries under keys that are not known are readable. -/
def othersReadable (known : List String) (entries : List (String × Toml)) : Bool :=
  entries.all fun (key, value) => known.contains key || value.isReadable

/-- Read a value that may be missing. -/
def readOr {α : Type} (default : α) (read? : Toml → Option α) : Option Toml → Option α
  | some value => read? value
  | none => some default

end Toml

namespace Settings

/-- Read the headers of a table. -/
def readHeaders? (value : Toml) : Option Headers := do
  let pairs ← (← value.entries?).mapM fun (name, content) => do
    return (name, ← content.asText?)
  return SortedMap.ofList pairs

/-- Read a parameter: the first two items of an array, both texts. -/
def readParam? (value : Toml) : Option Param :=
  match value with
  | .array (.text key :: .text content :: _) => some ⟨key, content⟩
  | _ => none

/-- Read the parameters of an array. -/
def readParams? (value : Toml) : Option (List Param) := do
  (← value.items?).mapM readParam?

/-- Read settings from what may be missing of them. -/
def readParts? (schema headers params : Option Toml) : Option Settings := do
  return {
    schema := ← Toml.readOr "public" Toml.asText? schema
    headers := ← Toml.readOr .empty readHeaders? headers
    params := ← Toml.readOr [] readParams? params }

/-- Read settings from the entries of a table. -/
def ofEntries? (entries : List (String × Toml)) : Option Settings :=
  if Toml.othersReadable ["schema", "headers", "query_params"] entries then
    readParts? (Toml.entry? "schema" entries) (Toml.entry? "headers" entries)
      (Toml.entry? "query_params" entries)
  else none

/-- Read settings. -/
def ofToml? (value : Toml) : Option Settings :=
  match value.entries?, value.items? with
  | some entries, _ => ofEntries? entries
  | none, some items => readParts? items[0]? items[1]? items[2]?
  | none, none => none

/-- The settings that a document describes. -/
def ofDocument (source : String) : Except Error Settings :=
  match (Toml.read? source.toList).bind ofToml? with
  | some settings => .ok settings
  | none => .error (.config .invalidDocument)

end Settings

namespace Config

/-- Read a configuration without looking at its address. -/
def ofToml? (value : Toml) : Option Config := do
  let entries ← value.entries?
  guard (Toml.othersReadable ["url", "options"] entries)
  let url ← (← Toml.entry? "url" entries).asText?
  return ⟨url, ← Toml.readOr {} Settings.ofToml? (Toml.entry? "options" entries)⟩

/-- The configuration that a document describes. -/
def ofDocument (source : String) : Except Error Config :=
  match (Toml.read? source.toList).bind ofToml? with
  | some config => config.checked
  | none => .error (.config .invalidDocument)

end Config
end RestQuery
