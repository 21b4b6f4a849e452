import RestQuery.Http.Headers

/-!
# Preferences

What a single call asks for beside its query: which representation comes back,
how duplicates are resolved, and how rows are counted. All of it travels in one
`Prefer` header.
-/

namespace RestQuery

/-- Whether a change answers with the changed rows. -/
inductive Returning
  | minimal
  | representation
  deriving DecidableEq, Repr

/-- The name of a representation. -/
def Returning.name : Returning → String
  | minimal => "minimal"
  | representation => "representation"

/-- What happens to a row that is there already. -/
inductive DuplicateResolution
  | merge
  | ignore
  deriving DecidableEq, Repr

/-- The name of a resolution. -/
def DuplicateResolution.name : DuplicateResolution → String
  | merge => "merge-duplicates"
  | ignore => "ignore-duplicates"

/-- How the rows of a result are counted. -/
inductive CountStrategy
  | none
  | exact
  | planned
  | estimated
  deriving DecidableEq, Repr

/-- The name of a strategy. -/
def CountStrategy.name : CountStrategy → String
  | none => "none"
  | exact => "exact"
  | planned => "planned"
  | estimated => "estimated"

/-- The preferences of one call. The resolution matters to upserts only. -/
structure Preferences where
  returning : Returning := .representation
  resolution : DuplicateResolution := .merge
  count : CountStrategy := .none
  upsert : Bool := false
  conflictColumn : Option String := none
  deriving DecidableEq, Inhabited

namespace Preferences

/-- The parts of the `Prefer` header: the resolution of an upsert, what comes
back, and the count if one is asked for. -/
def segments (preferences : Preferences) : List String :=
  (if preferences.upsert then ["resolution=" ++ preferences.resolution.name] else [])
    ++ ["return=" ++ preferences.returning.name]
    ++ if preferences.count = .none then [] else ["count=" ++ preferences.count.name]

/-- The value of the `Prefer` header. -/
def prefer (preferences : Preferences) : String := ",".intercalate preferences.segments

/-- The headers of a call; one that wants nothing back accepts anything. -/
def toHeaders (preferences : Preferences) : Headers :=
  let headers : Headers := SortedMap.empty.insert Headers.prefer preferences.prefer
  if preferences.returning = .minimal then headers.insert Headers.accept Headers.anyType
  else headers

end Preferences
end RestQuery
