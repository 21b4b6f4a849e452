import RestQuery.Session.Call

/-!
# Tables

A table gathers the refinements of a query. Every call takes the query that was
gathered, whatever comes of the call; after it the table starts over.
-/

namespace RestQuery

/-- The rows of a type, at a server, with a query under way. -/
structure Table (ρ : Type) where
  client : Client
  query : Query := .empty

/-- What a call leaves: its answer, the table, and the conversation. -/
structure Outcome (ρ α : Type) where
  answer : Except Error α
  table : Table ρ
  session : Session

namespace Table

variable {ρ α : Type}

/-- The table with nothing gathered. -/
def fresh (table : Table ρ) : Table ρ := { table with query := .empty }

/-- Refine the query under way; what is refused leaves a cause. -/
def refine (table : Table ρ) (refinement : Refinement) : Table ρ × Except Error Unit :=
  let (query, outcome) := table.query.refine refinement
  ({ table with query }, outcome)

/-- Drop what was gathered. -/
def clear [Record ρ] (table : Table ρ) (session : Session) : Table ρ × Session :=
  (table.fresh, session.report (.cleared (Record.table ρ)))

/-- The address that reading the rows would request now. -/
def currentUrl [Record ρ] (table : Table ρ) : Except Error String :=
  table.query.url table.client.url (Record.table ρ) table.client.settings

/-- Run a call. -/
def run
    [Record ρ]
    (table : Table ρ)
    (call : Call ρ α)
    (session : Session) :
    Outcome ρ α :=
  let (next, reported) := table.clear session
  match call.request table.client table.query with
  | .error error => ⟨.error error, next, reported⟩
  | .ok request =>
      let (outcome, after) := reported.roundTrip request
      ⟨call.read outcome, next, after⟩

end Table

/-- The rows of a type at the server of a client. -/
def Client.table (ρ : Type) (client : Client) : Table ρ := { client }

end RestQuery
