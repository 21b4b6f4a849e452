import RestQuery.Proofs.Session.Interleaving
import RestQuery.Record.Catalog

/-!
# The order of refinements

A query has seven parts, and every refinement concerns one of them. Filters and
orderings add up; in every other part a refinement takes the place of the one
before. What a table has gathered therefore depends, part by part, on the
refinements that count there, and not on the order in which refinements of
different parts are mixed.

The invariant of a run of refinements is that each part of the query is made by
the refinements that count in it so far.
-/

namespace RestQuery

/-- A part of a query. -/
inductive Query.Part
  | filters
  | orderings
  | projection
  | limit
  | offset
  | window
  | conflictColumn
  deriving DecidableEq

/-- The refinements of the part add up, instead of replacing one another. -/
def Query.Part.addsUp : Query.Part → Bool
  | filters | orderings => true
  | projection | limit | offset | window | conflictColumn => false

namespace Refinement

/-! ## What counts -/

/-- The part of a query that a refinement concerns. -/
def part : Refinement → Query.Part
  | keep _ | condition .. | exclusion .. | equalities _ => .filters
  | order _ => .orderings
  | project _ => .projection
  | limit _ => .limit
  | offset _ => .offset
  | window _ => .window
  | conflictColumn _ => .conflictColumn

/-- The refinements of a part that count: all of them, in order, where they add
up, and otherwise the last one. -/
def counting (refinements : List Refinement) (part : Query.Part) : List Refinement :=
  let concerned := refinements.filter fun refinement => refinement.part = part
  if part.addsUp then concerned else concerned.getLast?.toList

/-- One more refinement counts in its own part, where it either joins the others
or takes their place. -/
theorem counting_append_singleton
    (refinements : List Refinement)
    (next : Refinement)
    (part : Query.Part) :
    counting (refinements ++ [next]) part =
      if next.part = part then
        (if part.addsUp then counting refinements part ++ [next] else [next])
      else counting refinements part := by
  by_cases concerned : next.part = part
  · cases adds : part.addsUp <;> simp [counting, concerned, adds]
  · cases adds : part.addsUp <;> simp [counting, concerned, adds]

/-! ## What a refinement brings -/

/-- The equalities of pairs, up to the first that is refused. -/
def acceptedEqualities : List (String × Criterion) → List Filter
  | [] => []
  | (column, value) :: rest =>
      match Filter.condition column .equal value with
      | .ok filter => filter :: acceptedEqualities rest
      | .error _ => []

/-- The filters that a refinement adds. -/
def addedFilters : Refinement → List Filter
  | keep filter => [filter]
  | condition column operator criterion =>
      (Filter.condition column operator criterion).toOption.toList
  | exclusion column operator criterion =>
      ((Filter.condition column operator criterion).map .not).toOption.toList
  | equalities pairs => acceptedEqualities pairs
  | _ => []

/-- The ordering that a refinement adds. -/
def ordering? : Refinement → Option RowOrdering
  | order ordering => some ordering
  | _ => none

/-- The projection that a refinement sets. -/
def projection? : Refinement → Option String
  | project columns => some columns
  | _ => none

/-- The limit that a refinement sets. -/
def limit? : Refinement → Option PageBound
  | limit bound => some bound
  | _ => none

/-- The offset that a refinement sets. -/
def offset? : Refinement → Option PageBound
  | offset bound => some bound
  | _ => none

/-- The window that a refinement sets. -/
def window? : Refinement → Option RowWindow
  | window rows => some rows
  | _ => none

/-- The conflict column that a refinement sets. -/
def conflictColumn? : Refinement → Option String
  | conflictColumn column => some column
  | _ => none

end Refinement

namespace Query

open Refinement

/-- The query with each part made by the refinements that count in it: what they
add stands behind what was there, and what they set takes its place. -/
def refinedBy (query : Query) (counted : Part → List Refinement) : Query where
  filters := query.filters ++ (counted .filters).flatMap addedFilters
  orderings := query.orderings ++ (counted .orderings).filterMap ordering?
  projection := ((counted .projection).findSome? projection?).or query.projection
  limit := ((counted .limit).findSome? limit?).or query.limit
  offset := ((counted .offset).findSome? offset?).or query.offset
  window := ((counted .window).findSome? window?).or query.window
  conflictColumn := ((counted .conflictColumn).findSome? conflictColumn?).or query.conflictColumn

theorem keepEqualities_fst
    (query : Query)
    (pairs : List (String × Criterion)) :
    (query.keepEqualities pairs).1 =
      { query with filters := query.filters ++ acceptedEqualities pairs } := by
  induction pairs generalizing query with
  | nil => simp [keepEqualities, acceptedEqualities]
  | cons pair rest inductionHypothesis =>
      rw [keepEqualities, acceptedEqualities]
      cases Filter.condition pair.1 .equal pair.2 with
      | error error => simp
      | ok filter =>
          show ((query.keep filter).keepEqualities rest).1 = _
          rw [inductionHypothesis, keep]
          simp

theorem keepBuilt_fst
    (query : Query)
    (built : Except Error Filter) :
    (query.keepBuilt built).1 =
      { query with filters := query.filters ++ built.toOption.toList } := by
  cases built with
  | error error => simp [keepBuilt, Except.toOption]
  | ok filter => rfl

/-- A refinement of the filters adds its filters and changes nothing else. -/
theorem refine_fst_of_part_eq_filters
    (query : Query)
    {refinement : Refinement}
    (concerned : refinement.part = .filters) :
    (query.refine refinement).1 =
      { query with filters := query.filters ++ refinement.addedFilters } := by
  cases refinement with
  | keep filter => rfl
  | condition column operator criterion => exact query.keepBuilt_fst _
  | exclusion column operator criterion => exact query.keepBuilt_fst _
  | equalities pairs => exact query.keepEqualities_fst pairs
  | order | project | limit | offset | window | conflictColumn => cases concerned

/-- One more refinement keeps each part made by what counts in it. -/
theorem refine_refinedBy
    (query : Query)
    (refinements : List Refinement)
    (next : Refinement) :
    ((query.refinedBy (counting refinements)).refine next).1 =
      query.refinedBy (counting (refinements ++ [next])) := by
  by_cases concerned : next.part = .filters
  · rw [refine_fst_of_part_eq_filters _ concerned]
    simp [refinedBy, counting_append_singleton, concerned, Part.addsUp]
  · cases next with
    | keep | condition | exclusion | equalities => exact absurd rfl concerned
    | order | project | limit | offset | window | conflictColumn =>
        simp [refinedBy, counting_append_singleton, part, Part.addsUp, Query.refine, orderBy,
          ordering?, projection?, limit?, offset?, window?, conflictColumn?]

end Query

namespace Table

variable {ρ : Type}

/-- Each part of what a table has gathered is made by the refinements that count
in it, and refinements change nothing else. -/
theorem replay_eq
    (table : Table ρ)
    (refinements : List Refinement) :
    table.replay refinements =
      { table with query := table.query.refinedBy (Refinement.counting refinements) } := by
  induction refinements using List.reverseRecOn with
  | nil => simp [replay, Query.refinedBy, Refinement.counting]
  | append_singleton refinements next inductionHypothesis =>
      rw [replay_append_singleton, inductionHypothesis, ← Query.refine_refinedBy]
      rfl

/-- Refinements of which the same count in every part leave the same table,
however they are mixed and whether or not some are refused; so every call sends
the same request, or fails in the same way. -/
theorem replay_eq_and_callsAlike
    [Record ρ]
    (table : Table ρ)
    {first second : List Refinement}
    (alike : ∀ part, Refinement.counting first part = Refinement.counting second part) :
    table.replay first = table.replay second ∧
      ∀ {α : Type} (call : Call ρ α) (session session' : Session),
        CallsAlike call (table.replay first) session (table.replay second) session' := by
  have same : table.replay first = table.replay second := by
    rw [replay_eq, replay_eq, funext alike]
  refine ⟨same, fun call session session' => ?_⟩
  rw [same]
  exact callsAlike_self call _ session session'

/-- Two ways to ask for the same rows; a projection and a limit that were replaced
later do not count. -/
theorem replay_eq_and_callsAlike_users :
    let table := (Client.connect "http://localhost" {}).table Catalog.User
    let byName : RowOrdering := ⟨none, "username", .ascending, .last⟩
    let first : List Refinement :=
      [.limit ⟨10, none⟩, .project "status", .isNull "status", .order byName,
        .condition "age_range" .equal (.scalar (.text "young")), .project "username",
        .limit ⟨5, some "messages"⟩]
    let second : List Refinement :=
      [.project "username", .limit ⟨5, some "messages"⟩, .order byName, .isNull "status",
        .condition "age_range" .equal (.scalar (.text "young"))]
    (∀ part, Refinement.counting first part = Refinement.counting second part) ∧
      table.replay first = table.replay second := by
  intro table byName first second
  have alike : ∀ part, Refinement.counting first part = Refinement.counting second part := by
    intro part
    cases part <;> rfl
  exact ⟨alike, (replay_eq_and_callsAlike table alike).1⟩

end Table
end RestQuery
