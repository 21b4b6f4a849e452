import RestQuery.Filter.Writing

/-!
# Orderings

An ordering sorts rows, or the rows of an embedded table, by a column. Each
table has one parameter for it.
-/

namespace RestQuery

/-- The direction of an ordering. -/
inductive Direction
  | ascending
  | descending
  deriving DecidableEq, Repr, Inhabited

/-- The token of a direction. -/
def Direction.token : Direction → String
  | ascending => "asc"
  | descending => "desc"

/-- Where rows without a value go. -/
inductive NullPlacement
  | first
  | last
  deriving DecidableEq, Repr, Inhabited

/-- The token of a placement. -/
def NullPlacement.token : NullPlacement → String
  | first => "nullsfirst"
  | last => "nullslast"

/-- One ordering, of the queried table or of an embedded one. -/
structure RowOrdering where
  embedded : Option String
  column : String
  direction : Direction
  nulls : NullPlacement
  deriving DecidableEq

/-- The name of a parameter, which may concern an embedded table. -/
def scopedKey (embedded : Option String) (name : String) : String :=
  match embedded with
  | some table => table ++ "." ++ name
  | none => name

namespace RowOrdering

/-- The name of the parameter that carries the ordering. -/
def key (ordering : RowOrdering) : String := scopedKey ordering.embedded "order"

/-- The column, the direction and the placement of nulls. -/
def value (ordering : RowOrdering) : String :=
  ordering.column ++ "." ++ ordering.direction.token ++ "." ++ ordering.nulls.token

/-- The parameter of an ordering. -/
def toParam (ordering : RowOrdering) : Param := ⟨ordering.key, ordering.value⟩

end RowOrdering
end RestQuery
