import RestQuery.Toml.Basic

/-!
# Documents under construction

While a document is read, each of its tables remembers how it came about, since
that decides what may still be added to it. A header opens a table once, also
one that other headers have implied before. Keys with dots make tables of their
own and put values into these only; no header opens them. A series holds tables
that are opened by headers of their own; all ways lead to the last of them.
Values are never added to.
-/

namespace RestQuery
namespace Toml

/-- How a table came about: its header was read, a longer header implied it, or
a key with dots did. -/
inductive Origin
  | opened
  | implied
  | dotted
  deriving DecidableEq, Repr

/-- A part of a document under construction. -/
inductive Draft
  | value (content : Toml)
  | table (origin : Origin) (entries : List (String × Draft))
  | series (before : List (List (String × Draft))) (last : List (String × Draft))

/-- The entries of a table under construction. -/
abbrev Entries := List (String × Draft)

namespace Entries

/-- Change what is under a key, or put something there. -/
def alter?
    (key : String)
    (change? : Option Draft → Option Draft) :
    Entries → Option Entries
  | [] => (change? none).map fun draft => [(key, draft)]
  | (name, draft) :: rest =>
      if name = key then (change? (some draft)).map fun changed => (name, changed) :: rest
      else (alter? key change? rest).map ((name, draft) :: ·)

/-- Change the table to which a path of headers leads. -/
def within? (change? : Entries → Option Entries) : List String → Entries → Option Entries
  | [], entries => change? entries
  | key :: path, entries =>
      entries.alter? key fun
        | none => (within? change? path []).map (.table .implied)
        | some (.table origin inner) => (within? change? path inner).map (.table origin)
        | some (.series before last) => (within? change? path last).map (.series before)
        | some (.value _) => none

/-- Open a table that no header has opened and no key with dots has made. -/
def openTable? (key : String) (entries : Entries) : Option Entries :=
  entries.alter? key fun
    | none => some (.table .opened [])
    | some (.table .implied inner) => some (.table .opened inner)
    | some _ => none

/-- Open one more table of a series. -/
def openSeries? (key : String) (entries : Entries) : Option Entries :=
  entries.alter? key fun
    | none => some (.series [] [])
    | some (.series before last) => some (.series (before ++ [last]) [])
    | some _ => none

/-- Put a value under a key that is not taken. -/
def put? (key : String) (value : Toml) (entries : Entries) : Option Entries :=
  entries.alter? key fun
    | none => some (.value value)
    | some _ => none

/-- Put a value under a key with dots. All but the last of its names lead
through tables that no header has opened and through series, the one before the
last to a table that keys with dots have made. -/
def assign? (value : Toml) : List String → Entries → Option Entries
  | [], _ => none
  | [key], entries => entries.put? key value
  | key :: next :: path, entries =>
      entries.alter? key fun
        | none => (assign? value (next :: path) []).map (.table .dotted)
        | some (.table .dotted inner) =>
            (assign? value (next :: path) inner).map (.table .dotted)
        | some (.table .implied inner) =>
            if path.isEmpty then none
            else (assign? value (next :: path) inner).map (.table .implied)
        | some (.series before last) =>
            if path.isEmpty then none
            else (assign? value (next :: path) last).map (.series before)
        | some _ => none

end Entries

mutual

/-- The value that a draft amounts to. -/
def Draft.finish : Draft → Toml
  | .value content => content
  | .table _ entries => .table (finishEntries entries)
  | .series before last =>
      .array (finishTables before ++ [.table (finishEntries last)])

/-- The entries that drafts amount to. -/
def finishEntries : List (String × Draft) → List (String × Toml)
  | [] => []
  | (key, draft) :: rest => (key, draft.finish) :: finishEntries rest

/-- The tables that drafts amount to. -/
def finishTables : List (List (String × Draft)) → List Toml
  | [] => []
  | entries :: rest => .table (finishEntries entries) :: finishTables rest

end

/-- A document under construction: its entries, and the path of the header that
was read last. -/
structure Outline where
  entries : Entries := []
  header : List String := []

namespace Outline

/-- Read the header of a table. -/
def openTable? (outline : Outline) (path : List String) (key : String) : Option Outline :=
  (Entries.within? (Entries.openTable? key) path outline.entries).map fun entries =>
    ⟨entries, path ++ [key]⟩

/-- Read the header of one more table of a series. -/
def openSeries? (outline : Outline) (path : List String) (key : String) : Option Outline :=
  (Entries.within? (Entries.openSeries? key) path outline.entries).map fun entries =>
    ⟨entries, path ++ [key]⟩

/-- Read a value under a key of the table whose header was read last. -/
def assign? (outline : Outline) (path : List String) (value : Toml) : Option Outline :=
  (Entries.within? (Entries.assign? value path) outline.header outline.entries).map
    fun entries => { outline with entries }

end Outline
end Toml
end RestQuery
