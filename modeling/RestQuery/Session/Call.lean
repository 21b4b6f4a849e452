import RestQuery.Query.Preferences
import RestQuery.Query.Refinement
import RestQuery.Record.Body
import RestQuery.Session.Client

/-!
# Calls

A call turns the query of a table into one request and reads the reply to it.
What can fail before anything is sent fails in a fixed order: first the query
is adjusted to the call, then the body is written, then the request is put
together.
-/

namespace RestQuery

/-- A call on a table of records, with the type of its answer. -/
inductive Call (ρ : Type) : Type → Type
  | get : Call ρ (Modeled ρ)
  | single : Call ρ (Option ρ)
  | insert (payload : Payload ρ) (preferences : Preferences) : Call ρ (Modeled ρ)
  | update (record : ρ) (preferences : Preferences) : Call ρ (Modeled ρ)
  | delete (preferences : Preferences) : Call ρ (Modeled ρ)
  | deleteRecord (record : ρ) (preferences : Preferences) : Call ρ (Modeled ρ)
  | count (strategy : CountStrategy) : Call ρ UInt64

namespace Call

variable {ρ α : Type}

/-- Insert, or change what is there already. -/
def upsert (payload : Payload ρ) (preferences : Preferences) : Call ρ (Modeled ρ) :=
  insert payload { preferences with upsert := true }

/-- The method of a call. -/
def method : Call ρ α → Method
  | get => .get
  | single => .get
  | insert .. => .post
  | update .. => .patch
  | delete _ => .delete
  | deleteRecord .. => .delete
  | count _ => .head

/-- The headers that ask for a single row. -/
def singleHeaders : Headers :=
  (SortedMap.empty.insert Headers.accept Headers.objectJson).insert Headers.prefer
    "return=representation"

/-- The headers that ask for a count. -/
def countHeaders (strategy : CountStrategy) : Headers :=
  SortedMap.empty.insert Headers.prefer ("count=" ++ strategy.name)

/-- The headers that a call adds to all others. -/
def headers : Call ρ α → Headers
  | get => .empty
  | single => singleHeaders
  | insert _ preferences => preferences.toHeaders
  | update _ preferences => preferences.toHeaders
  | delete preferences => preferences.toHeaders
  | deleteRecord _ preferences => preferences.toHeaders
  | count strategy => countHeaders strategy

/-- The query of a call. An update is confined to the key of its record, and the
deletion of a record looks at nothing else; the conflict column of a call wins
over the one of the query; and rows are counted by some strategy. -/
def adjust [Record ρ] (query : Query) : Call ρ α → Except Error Query
  | get => .ok query
  | single => .ok query
  | insert _ preferences =>
      .ok { query with
        conflictColumn := preferences.conflictColumn <|> query.conflictColumn }
  | update record _ => do return query.keep (← Record.keyFilter record)
  | delete _ => .ok query
  | deleteRecord record _ => do
      return { query with filters := [← Record.keyFilter record] }
  | count strategy =>
      if strategy = .none then .error (.usage .uncountable) else .ok query

/-- The body of a call. -/
def body [Record ρ] : Call ρ α → Except Error (Option String)
  | get => .ok none
  | single => .ok none
  | insert payload _ => do return some (← payload.text)
  | update record _ => do return some (← (Payload.one record).text)
  | delete _ => .ok none
  | deleteRecord .. => .ok none
  | count _ => .ok none

/-- The request of a call. -/
def request
    [Record ρ]
    (client : Client)
    (query : Query)
    (call : Call ρ α) :
    Except Error Request := do
  let query ← call.adjust query
  let body ← call.body
  query.request client.url (Record.table ρ) client.settings call.method body call.headers

/-- The answer to a call for a single row: the first row, and none where the
server finds none or several. -/
def readSingle [Record ρ] : Except Error Response → Except Error (Option ρ)
  | .ok response => do return (← readModels ρ response.content).head?
  | .error error => if error.isNotAcceptable then .ok none else .error error

/-- The answer that the outcome of the exchange amounts to. -/
def read [Record ρ] : Call ρ α → Except Error Response → Except Error α
  | get, outcome => do Modeled.ofResponse (← outcome)
  | single, outcome => readSingle outcome
  | insert .., outcome => do Modeled.ofResponse (← outcome)
  | update .., outcome => do Modeled.ofResponse (← outcome)
  | delete _, outcome => do Modeled.ofResponse (← outcome)
  | deleteRecord .., outcome => do Modeled.ofResponse (← outcome)
  | count _, outcome => do (← outcome).total

end Call
end RestQuery
