import RestQuery.Proofs.Sequence
import RestQuery.Query.Assembly

/-!
# The parameters of a query

Which parameters a query amounts to, section by section, and which filter is
reported when one of them cannot be written.
-/

namespace RestQuery
namespace Query

open Sequence

/-- The projection without white space, if anything is left of it. -/
def bareProjection? (query : Query) : Option String := do
  let columns ← query.projection
  let bare := Text.withoutBlanks columns.toList
  if bare = [] then none else some (String.ofList bare)

/-- The parameter of a limit or an offset. -/
def boundParam (name : String) (bound : PageBound) : Param :=
  ⟨scopedKey bound.embedded name, String.ofList (Text.digits bound.value.toNat)⟩

/-- Parameters in the order of a request: those of the settings, the API key,
those of the filters, the orderings, the projection, the conflict column, the
limit and the offset. -/
def arrangedParams
    (settings : Settings)
    (filters : List Param)
    (query : Query) :
    List Param :=
  settings.params
    ++ (settings.apiKey?.map fun key => ⟨"apikey", key⟩).toList
    ++ filters
    ++ orderParams query.orderings
    ++ (query.bareProjection?.map fun columns => ⟨"select", columns⟩).toList
    ++ (query.conflictColumn.map fun column => ⟨"on_conflict", column⟩).toList
    ++ (query.limit.map (boundParam "limit")).toList
    ++ (query.offset.map (boundParam "offset")).toList

theorem apiKeyParams_eq (settings : Settings) :
    apiKeyParams settings = (settings.apiKey?.map fun key => ⟨"apikey", key⟩).toList := by
  rw [apiKeyParams]
  cases settings.apiKey? <;> rfl

theorem projectionParams_eq (query : Query) :
    projectionParams query.projection =
      (query.bareProjection?.map fun columns => ⟨"select", columns⟩).toList := by
  rw [bareProjection?]
  cases query.projection with
  | none => rfl
  | some columns =>
      rw [projectionParams]
      cases bare : Text.withoutBlanks columns.toList <;> simp [bare]

theorem conflictParams_eq (column : Option String) :
    conflictParams column = (column.map fun column => ⟨"on_conflict", column⟩).toList := by
  cases column <;> rfl

theorem boundParams_eq (name : String) (bound : Option PageBound) :
    boundParams name bound = (bound.map (boundParam name)).toList := by
  cases bound <;> rfl

/-- The parameters of filters stand in their place among all others. -/
theorem append_trailingParams
    (settings : Settings)
    (filters : List Param)
    (query : Query) :
    settings.params ++ apiKeyParams settings ++ filters ++ query.trailingParams =
      arrangedParams settings filters query := by
  rw [trailingParams, apiKeyParams_eq, projectionParams_eq, conflictParams_eq, boundParams_eq,
    boundParams_eq, arrangedParams]
  simp only [List.append_assoc]

/-- A query has parameters exactly when all of its filters can be written: one
for each filter, in order, in their place among all others. -/
theorem params_eq_ok_iff
    {settings : Settings}
    {query : Query}
    {params : List Param} :
    query.params settings = .ok params ↔
      ∃ filters,
        List.Forall₂ (fun filter param => filter.toParam = .ok param) query.filters filters ∧
          params = arrangedParams settings filters query := by
  rw [Query.params, bind_eq_ok_iff]
  simp only [mapM_eq_ok_iff, pure_eq_ok_iff, append_trailingParams]
  constructor
  · rintro ⟨filters, each, same⟩
    exact ⟨filters, each, same.symm⟩
  · rintro ⟨filters, each, same⟩
    exact ⟨filters, each, same.symm⟩

/-- The first of some filters that cannot be written fails with an error. -/
def FirstFault (filters : List Filter) (error : Error) : Prop :=
  ∃ before filter after,
    filters = before ++ filter :: after ∧
      (∀ other ∈ before, ∃ param, other.toParam = .ok param) ∧
      filter.toParam = .error error

theorem FirstFault.append
    {filters : List Filter}
    {error : Error}
    (fault : FirstFault filters error)
    (further : List Filter) :
    FirstFault (filters ++ further) error := by
  obtain ⟨before, filter, after, rfl, writable, fails⟩ := fault
  exact ⟨before, filter, after ++ further, by simp, writable, fails⟩

/-- A query without parameters reports the first filter that cannot be
written. -/
theorem params_eq_error_iff
    {settings : Settings}
    {query : Query}
    {error : Error} :
    query.params settings = .error error ↔ FirstFault query.filters error := by
  rw [Query.params, bind_eq_error_iff]
  simp only [pure_ne_error, and_false, exists_false, or_false, mapM_eq_error_iff, FirstFault]

/-- The request for a query goes to the address with its parameters. -/
theorem request_eq_ok_iff
    {base path : String}
    {settings : Settings}
    {method : Method}
    {query : Query}
    {body : Option String}
    {overrides : Headers}
    {request : Request} :
    query.request base path settings method body overrides = .ok request ↔
      ∃ params,
        query.params settings = .ok params ∧
          request =
            { method
              url := String.ofList (urlChars base.toList path.toList params)
              headers := query.headers settings method body.isSome overrides
              body } := by
  rw [Query.request, bind_eq_ok_iff, url]
  simp only [bind_eq_ok_iff, pure_eq_ok_iff]
  constructor
  · rintro ⟨_, ⟨params, written, rfl⟩, rfl⟩
    exact ⟨params, written, rfl⟩
  · rintro ⟨params, written, rfl⟩
    exact ⟨_, ⟨params, written, rfl⟩, rfl⟩

/-- A query without parameters has no request. -/
theorem request_eq_error_iff
    {base path : String}
    {settings : Settings}
    {method : Method}
    {query : Query}
    {body : Option String}
    {overrides : Headers}
    {error : Error} :
    query.request base path settings method body overrides = .error error ↔
      query.params settings = .error error := by
  rw [Query.request, bind_eq_error_iff, url, bind_eq_error_iff]
  simp only [pure_ne_error, and_false, exists_false, or_false]

end Query
end RestQuery
