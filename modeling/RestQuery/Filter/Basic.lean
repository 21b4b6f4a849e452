import RestQuery.Error

/-!
# Filters

A filter is a condition on a column, the negation of a filter, or a group of
filters. A condition built here takes a right-hand side of the kind that its
operator needs; null stands only with the operators that can say "is null".
-/

namespace RestQuery

/-- A filter on the rows of a table. -/
inductive Filter
  | leaf (column : String) (operator : Operator) (criterion : Criterion)
  | not (inner : Filter)
  | group (connective : Connective) (children : List Filter)

/-- The operator with a token; other tokens are refused. -/
def Operator.named (token : String) : Except Error Operator :=
  match ofToken? token with
  | some operator => .ok operator
  | none => .error (.usage (.unknownOperator token))

namespace Filter

/-- Refuse a right-hand side that is not of the operator's kind. -/
def checkOperand
    (column : String)
    (operator : Operator)
    (criterion : Criterion) :
    Except Error Unit :=
  if operator.isLogical then .error (.usage (.logicalOperator operator column))
  else if criterion.fits operator.operandKind then .ok ()
  else .error (.usage (.unfitOperand operator column criterion.shape))

/-- The filter that a column is null. -/
def isNull (column : String) : Filter := .leaf column .is .null

instance : Inhabited Filter := ⟨isNull ""⟩

/-- The condition of a column, an operator and a right-hand side. Being equal
to null and not being equal to it become the two null tests. -/
def condition
    (column : String)
    (operator : Operator)
    (criterion : Criterion) :
    Except Error Filter :=
  if criterion.isNull then
    match operator with
    | .equal | .is => .ok (isNull column)
    | .not | .notEqual => .ok (.not (isNull column))
    | _ => .error (.usage (.nullOperand operator column))
  else do
    checkOperand column operator criterion
    return .leaf column operator criterion

/-- The condition that compares a column with a single value. -/
def comparison (column : String) (operator : Operator) (value : Scalar) : Filter :=
  .leaf column operator (.scalar value)

/-- The filter that all of some filters hold. -/
def and (children : List Filter) : Filter := .group .and children

/-- The filter that one of some filters holds. -/
def or (children : List Filter) : Filter := .group .or children

/-- The column of a condition under any number of negations. -/
def column? : Filter → Option String
  | leaf column _ _ => some column
  | not inner => inner.column?
  | group _ _ => none

mutual

/-- The filters are built alike from the same values. -/
def same : Filter → Filter → Bool
  | leaf column operator criterion, leaf column' operator' criterion' =>
      column == column' && operator == operator' && criterion.same criterion'
  | not inner, not inner' => same inner inner'
  | group connective children, group connective' children' =>
      connective == connective' && sameAll children children'
  | _, _ => false

/-- Two lists hold the same filters in order. -/
def sameAll : List Filter → List Filter → Bool
  | [], [] => true
  | filter :: filters, filter' :: filters' =>
      same filter filter' && sameAll filters filters'
  | _, _ => false

end

end Filter
end RestQuery
