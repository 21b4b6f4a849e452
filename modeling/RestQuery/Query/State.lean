import RestQuery.Filter.Reading
import RestQuery.Query.Ordering

/-!
# Queries

What has been asked for so far: filters, orderings, a projection, paging, and
the column on which an upsert looks for conflicts.
-/

namespace RestQuery

/-- A limit or an offset, of the queried table or of an embedded one. -/
structure PageBound where
  value : UInt64
  embedded : Option String
  deriving DecidableEq

/-- A window of rows, open at its end unless a last row is given. -/
structure RowWindow where
  first : UInt64
  last : Option UInt64
  deriving DecidableEq

/-- The value of the `Range` header. -/
def RowWindow.headerValue (window : RowWindow) : String :=
  String.ofList
    (Text.digits window.first.toNat ++ '-' ::
      match window.last with
      | some last => Text.digits last.toNat
      | none => [])

/-- A query. The method of a request is none of its parts: a call brings its own when it
takes the query. -/
structure Query where
  filters : List Filter := []
  orderings : List RowOrdering := []
  projection : Option String := none
  limit : Option PageBound := none
  offset : Option PageBound := none
  window : Option RowWindow := none
  conflictColumn : Option String := none
  deriving Inhabited

namespace Query

/-- The query that asks for nothing in particular. -/
def empty : Query := {}

/-- Nothing in particular has been asked for. -/
def isEmpty (query : Query) : Bool :=
  query.filters.isEmpty && query.orderings.isEmpty && query.projection.isNone
    && query.limit.isNone && query.offset.isNone && query.window.isNone
    && query.conflictColumn.isNone

end Query
end RestQuery
