import Mathlib.Data.List.Induction
import Mathlib.Logic.Function.Basic
import RestQuery.Proofs.Session.Exchange

/-!
# Tables that share a conversation

A program may use any number of tables of one client at a time: it refines
them, clears them and calls them in any order, calls procedures in between, and
gets whatever replies the server has for it. What a call sends is decided by
the refinements that its own table got since the last call or clearing of that
table. It is what a new table with the same refinements would send.

The invariant of a run is that every table is a new table with its pending
refinements.
-/

namespace RestQuery

/-- A step of a program with tables of several types of records. -/
inductive Step {ι : Type} (ρ : ι → Type) : Type 1
  | refine (table : ι) (refinement : Refinement)
  | clear (table : ι)
  | call (table : ι) {α : Type} (call : Call (ρ table) α)
  | invoke (procedure : String) (arguments : Json)
  | prepare (reply : Reply)

namespace Step

variable {ι : Type} [DecidableEq ι] {ρ : ι → Type}

/-- The step clears or calls a table, so that the table starts over. -/
def restarts (table : ι) : Step ρ → Bool
  | clear other => other = table
  | call other _ => other = table
  | _ => false

/-- The refinement that a table gets in the step. -/
def refinement? (table : ι) : Step ρ → Option Refinement
  | refine other refinement => if other = table then some refinement else none
  | _ => none

end Step

/-- The refinements that a table got since it was last cleared or called. -/
def pending
    {ι : Type}
    [DecidableEq ι]
    {ρ : ι → Type}
    (table : ι)
    (history : List (Step ρ)) :
    List Refinement :=
  (history.reverse.takeWhile fun step => !step.restarts table).reverse.filterMap
    (Step.refinement? table)

theorem pending_append_singleton
    {ι : Type}
    [DecidableEq ι]
    {ρ : ι → Type}
    (table : ι)
    (history : List (Step ρ))
    (next : Step ρ) :
    pending table (history ++ [next]) =
      if next.restarts table then []
      else pending table history ++ (next.refinement? table).toList := by
  rw [pending, List.reverse_append, List.reverse_singleton, List.singleton_append,
    List.takeWhile_cons]
  cases next.restarts table with
  | false =>
      cases refinement : next.refinement? table <;>
        simp [pending, List.filterMap_append, refinement]
  | true => rfl

/-- A table with refinements made one after the other, whether or not they are
refused. -/
def Table.replay
    {α : Type}
    (table : Table α)
    (refinements : List Refinement) :
    Table α :=
  refinements.foldl (fun table refinement => (table.refine refinement).1) table

theorem Table.replay_append_singleton
    {α : Type}
    (table : Table α)
    (refinements : List Refinement)
    (next : Refinement) :
    table.replay (refinements ++ [next]) = ((table.replay refinements).refine next).1 := by
  rw [replay, List.foldl_append]
  rfl

/-- Refinements do not change the client of a table. -/
theorem Table.client_replay
    {α : Type}
    (table : Table α)
    (refinements : List Refinement) :
    (table.replay refinements).client = table.client := by
  induction refinements using List.reverseRecOn with
  | nil => rfl
  | append_singleton refinements next inductionHypothesis =>
      rw [replay_append_singleton]
      exact inductionHypothesis

/-- The tables of a client, and the conversation that they share. -/
structure Workspace {ι : Type} (ρ : ι → Type) where
  client : Client
  tables : ∀ table, Table (ρ table)
  session : Session

namespace Workspace

variable {ι : Type} [DecidableEq ι] {ρ : ι → Type}

/-- The new tables of a client. -/
def start (client : Client) (session : Session) : Workspace ρ where
  client
  tables := fun table => client.table (ρ table)
  session

/-- The workspace with one table replaced. -/
def setTable
    (workspace : Workspace ρ)
    (table : ι)
    (value : Table (ρ table))
    (session : Session) :
    Workspace ρ :=
  { workspace with tables := Function.update workspace.tables table value, session }

@[simp] theorem tables_setTable_self
    (workspace : Workspace ρ)
    (table : ι)
    (value : Table (ρ table))
    (session : Session) :
    (workspace.setTable table value session).tables table = value := by
  simp [setTable]

theorem tables_setTable_of_ne
    (workspace : Workspace ρ)
    {concerned table : ι}
    (different : table ≠ concerned)
    (value : Table (ρ concerned))
    (session : Session) :
    (workspace.setTable concerned value session).tables table = workspace.tables table := by
  simp [setTable, different]

/-- Take a step. -/
def step
    [∀ table, Record (ρ table)]
    (workspace : Workspace ρ) :
    Step ρ → Workspace ρ
  | .refine table refinement =>
      workspace.setTable table ((workspace.tables table).refine refinement).1
        workspace.session
  | .clear table =>
      let (cleared, session) := (workspace.tables table).clear workspace.session
      workspace.setTable table cleared session
  | .call table call =>
      let outcome := (workspace.tables table).run call workspace.session
      workspace.setTable table outcome.table outcome.session
  | .invoke procedure arguments =>
      { workspace with
        session := (workspace.client.invoke procedure arguments workspace.session).2 }
  | .prepare reply => { workspace with session := workspace.session.prepare reply }

/-- Take several steps. -/
def run
    [∀ table, Record (ρ table)]
    (workspace : Workspace ρ)
    (history : List (Step ρ)) :
    Workspace ρ :=
  history.foldl step workspace

theorem run_append_singleton
    [∀ table, Record (ρ table)]
    (workspace : Workspace ρ)
    (history : List (Step ρ))
    (next : Step ρ) :
    workspace.run (history ++ [next]) = (workspace.run history).step next := by
  rw [run, List.foldl_append]
  rfl

/-! ## The invariant of a run -/

/-- Every table is a new table of the client with its pending refinements. -/
structure Tracks
    (workspace : Workspace ρ)
    (client : Client)
    (history : List (Step ρ)) : Prop where
  client_eq : workspace.client = client
  tables_eq :
    ∀ table, workspace.tables table = (client.table (ρ table)).replay (pending table history)

namespace Tracks

variable {workspace : Workspace ρ} {client : Client} {history : List (Step ρ)}

/-- Starting over gives a new table of the client. -/
theorem fresh_eq
    (tracks : Tracks workspace client history)
    (table : ι) :
    (workspace.tables table).fresh = client.table (ρ table) := by
  have same : (workspace.tables table).client = client := by
    rw [tracks.tables_eq, Table.client_replay]
    rfl
  rw [Table.fresh, same]
  rfl

/-- A step that does not concern a table leaves its pending refinements as they
are. -/
theorem tables_eq_of_not_concerned
    (tracks : Tracks workspace client history)
    {table : ι}
    {next : Step ρ}
    (noRestart : next.restarts table = false)
    (noRefinement : next.refinement? table = none) :
    workspace.tables table =
      (client.table (ρ table)).replay (pending table (history ++ [next])) := by
  rw [pending_append_singleton, noRestart, noRefinement, tracks.tables_eq]
  simp

/-- A table that starts over has no refinements pending. -/
theorem pending_of_restarts
    {table : ι}
    {next : Step ρ}
    (restarts : next.restarts table = true) :
    pending table (history ++ [next]) = [] := by
  rw [pending_append_singleton, if_pos restarts]

/-- Replacing the table that a step concerns by what the step makes of it keeps
track of all tables. -/
theorem setTable
    (tracks : Tracks workspace client history)
    {next : Step ρ}
    {concerned : ι}
    {value : Table (ρ concerned)}
    (session : Session)
    (value_eq :
      value = (client.table (ρ concerned)).replay (pending concerned (history ++ [next])))
    (others : ∀ table, table ≠ concerned →
      next.restarts table = false ∧ next.refinement? table = none) :
    Tracks (workspace.setTable concerned value session) client (history ++ [next]) := by
  refine ⟨tracks.client_eq, fun table => ?_⟩
  by_cases same : table = concerned
  · subst same
    rw [tables_setTable_self, value_eq]
  · obtain ⟨noRestart, noRefinement⟩ := others table same
    rw [tables_setTable_of_ne workspace same]
    exact tracks.tables_eq_of_not_concerned noRestart noRefinement

/-- One step keeps track of all tables. -/
theorem step
    [∀ table, Record (ρ table)]
    (tracks : Tracks workspace client history)
    (next : Step ρ) :
    Tracks (workspace.step next) client (history ++ [next]) := by
  cases next with
  | refine concerned refinement =>
      refine tracks.setTable _ ?_ fun table different => ?_
      · rw [tracks.tables_eq, pending_append_singleton, Step.refinement?, if_pos rfl]
        exact (Table.replay_append_singleton _ _ refinement).symm
      · simp [Step.restarts, Step.refinement?, different.symm]
  | clear concerned =>
      refine tracks.setTable _ ?_ fun table different => ?_
      · rw [pending_of_restarts (by simp [Step.restarts])]
        exact tracks.fresh_eq concerned
      · simp [Step.restarts, Step.refinement?, different.symm]
  | call concerned call =>
      refine tracks.setTable _ ?_ fun table different => ?_
      · rw [pending_of_restarts (by simp [Step.restarts]), Table.table_run]
        exact tracks.fresh_eq concerned
      · simp [Step.restarts, Step.refinement?, different.symm]
  | invoke procedure arguments =>
      exact ⟨tracks.client_eq, fun table => tracks.tables_eq_of_not_concerned rfl rfl⟩
  | prepare reply =>
      exact ⟨tracks.client_eq, fun table => tracks.tables_eq_of_not_concerned rfl rfl⟩

end Tracks

/-- A run keeps track of all tables. -/
theorem tracks_run
    [∀ table, Record (ρ table)]
    (client : Client)
    (session : Session)
    (history : List (Step ρ)) :
    Tracks ((start client session).run history) client history := by
  induction history using List.reverseRecOn with
  | nil => exact ⟨rfl, fun _ => rfl⟩
  | append_singleton history next inductionHypothesis =>
      rw [run_append_singleton]
      exact inductionHypothesis.step next

/-- Whatever happened before, a call does what it would do at a new table with
the refinements that its own table got since it last started over, and every
call and every clearing leaves its table with nothing gathered. -/
theorem callsAlike_replay_pending
    [∀ table, Record (ρ table)]
    (client : Client)
    (session : Session)
    (history : List (Step ρ))
    (table : ι) :
    let workspace := (start client session).run history
    (∀ {α : Type} (call : Call (ρ table) α) (session' : Session),
      Table.CallsAlike call (workspace.tables table) workspace.session
        ((client.table (ρ table)).replay (pending table history)) session') ∧
    (∀ {α : Type} (call : Call (ρ table) α),
      ((workspace.step (.call table call)).tables table).query = .empty) ∧
    ((workspace.step (.clear table)).tables table).query = .empty := by
  intro workspace
  have tracks : Tracks workspace client history := tracks_run client session history
  refine ⟨fun call session' => ?_, fun call => ?_, ?_⟩
  · rw [← tracks.tables_eq table]
    exact Table.callsAlike_self call _ _ _
  · rw [step, tables_setTable_self, Table.table_run]
    rfl
  · rw [step, tables_setTable_self]
    rfl

end Workspace
end RestQuery
