import RestQuery.Query.State

/-!
# Refining queries

A query grows by refinements: filters and orderings are added, everything else
is set anew. A refinement with a condition may be refused; several conditions
at once are added one by one, up to the first that is refused.
-/

namespace RestQuery

/-- A step that asks for more, or for something else. -/
inductive Refinement
  | keep (filter : Filter)
  | condition (column : String) (operator : Operator) (criterion : Criterion)
  | exclusion (column : String) (operator : Operator) (criterion : Criterion)
  | equalities (pairs : List (String × Criterion))
  | order (ordering : RowOrdering)
  | project (columns : String)
  | limit (bound : PageBound)
  | offset (bound : PageBound)
  | window (rows : RowWindow)
  | conflictColumn (column : String)

namespace Refinement

/-! ## Further refinements -/

/-- Drop the rows that a filter keeps. -/
def drop (filter : Filter) : Refinement := keep (.not filter)

/-- Keep the rows that all of some filters keep. -/
def allOf (filters : List Filter) : Refinement := keep (.and filters)

/-- Keep the rows that one of some filters keeps. -/
def anyOf (filters : List Filter) : Refinement := keep (.or filters)

/-- Keep the rows in which a column compares to a value. -/
def comparison (column : String) (operator : Operator) (value : Scalar) : Refinement :=
  keep (.comparison column operator value)

/-- Keep the rows in which a column matches a pattern. -/
def like (column pattern : String) : Refinement :=
  comparison column .like (.text pattern)

/-- Keep the rows in which a column matches a pattern in any case. -/
def caselessLike (column pattern : String) : Refinement :=
  comparison column .caselessLike (.text pattern)

/-- Keep the rows without a value in a column. -/
def isNull (column : String) : Refinement := keep (.isNull column)

/-- Keep the rows with a value in a column. -/
def notNull (column : String) : Refinement := drop (.isNull column)

/-- Keep the rows in which a column has one of some values. -/
def oneOf (column : String) (values : List Scalar) : Refinement :=
  keep (.leaf column .oneOf (.list values))

/-- Keep the rows in which a column contains what is given. -/
def contains (column : String) (criterion : Criterion) : Refinement :=
  condition column .contains criterion

/-- Keep the rows in which a column is contained in what is given. -/
def containedIn (column : String) (criterion : Criterion) : Refinement :=
  condition column .containedIn criterion

/-- Keep the rows in which a column overlaps with what is given. -/
def overlaps (column : String) (criterion : Criterion) : Refinement :=
  condition column .overlaps criterion

/-- Keep the rows in which a text search finds something in a column. -/
def search (column : String) (operator : Operator) (search : FullTextSearch) : Refinement :=
  condition column operator (.fullText search)

end Refinement

namespace Query

/-- The query with one more filter, at the end. -/
def keep (query : Query) (filter : Filter) : Query :=
  { query with filters := query.filters ++ [filter] }

/-- The query with one more ordering, at the end. -/
def orderBy (query : Query) (ordering : RowOrdering) : Query :=
  { query with orderings := query.orderings ++ [ordering] }

/-- The query with a filter that may have been refused. -/
def keepBuilt (query : Query) : Except Error Filter → Query × Except Error Unit
  | .ok filter => (query.keep filter, .ok ())
  | .error error => (query, .error error)

/-- The query with the conditions that columns equal what is given, up to the
first that is refused. -/
def keepEqualities (query : Query) : List (String × Criterion) → Query × Except Error Unit
  | [] => (query, .ok ())
  | (column, value) :: rest =>
      match Filter.condition column .equal value with
      | .ok filter => (query.keep filter).keepEqualities rest
      | .error error => (query, .error error)

/-- Refine a query; the outcome tells whether something was refused. -/
def refine (query : Query) : Refinement → Query × Except Error Unit
  | .keep filter => (query.keep filter, .ok ())
  | .condition column operator criterion =>
      query.keepBuilt (Filter.condition column operator criterion)
  | .exclusion column operator criterion =>
      query.keepBuilt ((Filter.condition column operator criterion).map .not)
  | .equalities pairs => query.keepEqualities pairs
  | .order ordering => (query.orderBy ordering, .ok ())
  | .project columns => ({ query with projection := some columns }, .ok ())
  | .limit bound => ({ query with limit := some bound }, .ok ())
  | .offset bound => ({ query with offset := some bound }, .ok ())
  | .window rows => ({ query with window := some rows }, .ok ())
  | .conflictColumn column => ({ query with conflictColumn := some column }, .ok ())

end Query
end RestQuery
