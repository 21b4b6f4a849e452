import RestQuery.Filter.Basic
import RestQuery.Text.Quoted

/-!
# Writing filters

A filter is written as one parameter of a query. A condition has its column as
key and operator and right-hand side as value; a negation puts `not.` before the
value; a group has its connective as key and its children, folded into one text
each, in parentheses. Inside a group a text that holds a character with a
meaning there is quoted, so that it cannot end the child it belongs to.
-/

namespace RestQuery

/-- A parameter of a query. -/
structure Param where
  key : String
  value : String
  deriving DecidableEq, Inhabited

namespace Filter

/-- The character has a meaning inside a group. -/
def isReserved (c : Char) : Bool :=
  c == ',' || c == '.' || c == ':' || c == '(' || c == ')' || c == '"' || c == '\\'

/-- A text as it is written, inside a group or outside of one. -/
def textChars (inGroup : Bool) (s : List Char) : List Char :=
  if inGroup && s.any isReserved then Text.quote s else s

/-- The wildcard of patterns is written as a star. -/
def patternChars (s : List Char) : List Char := Text.replaceChar '%' '*' s

/-- Values with commas between them, each quoted. -/
def quotedItems (items : List Scalar) : List Char :=
  Text.joinWith ',' (items.map fun item => Text.quote item.chars)

/-- Values with commas between them. -/
def bareItems (items : List Scalar) : List Char :=
  Text.joinWith ',' (items.map Scalar.chars)

/-- A map as a document. -/
def mapJson (values : SortedMap Scalar) : Json :=
  .object (values.mapValues Scalar.toJson).entries

/-- A right-hand side as it is written behind its operator. -/
def operandChars
    (inGroup : Bool)
    (operator : Operator) :
    Criterion → List Char
  | .null => ".null".toList
  | .scalar (.text value) =>
      '.' :: textChars inGroup
        (if operator.isPattern then patternChars value.toList else value.toList)
  | .scalar value => '.' :: value.chars
  | .list items =>
      if operator = .oneOf then ".(".toList ++ quotedItems items ++ [')']
      else ".\x7b".toList ++ bareItems items ++ ['\x7d']
  | .map values => '.' :: (mapJson values).chars
  | .interval range => '.' :: range.chars
  | .fullText search =>
      '(' :: search.language.toList ++ ").".toList
        ++ textChars inGroup search.query.toList

/-- The value of a condition, given what writes a right-hand side. The null tests write
none, and one that does not fit the operator is never handed to the writer. -/
def conditionCharsBy
    (write : Criterion → Except Error (List Char))
    (column : String)
    (operator : Operator)
    (criterion : Criterion) :
    Except Error (List Char) :=
  if criterion.isNull then
    match operator with
    | .equal | .is => .ok "is.null".toList
    | .not | .notEqual => .ok "not.is.null".toList
    | _ => .error (.usage (.nullOperand operator column))
  else do
    checkOperand column operator criterion
    return operator.token.toList ++ (← write criterion)

/-- The value of a condition. -/
def conditionChars
    (inGroup : Bool)
    (column : String)
    (operator : Operator)
    (criterion : Criterion) :
    Except Error (List Char) :=
  conditionCharsBy (fun criterion => .ok (operandChars inGroup operator criterion)) column
    operator criterion

/-- The key of a filter. -/
def keyChars : Filter → List Char
  | leaf column _ _ => column.toList
  | not (group connective _) => "not.".toList ++ connective.token.toList
  | not inner => inner.keyChars
  | group connective _ => connective.token.toList

mutual

/-- The value of a filter. -/
def valueChars (inGroup : Bool) : Filter → Except Error (List Char)
  | leaf column operator criterion => conditionChars inGroup column operator criterion
  | not (group connective children) => bodyChars connective children
  | not inner => do return "not.".toList ++ (← inner.valueChars inGroup)
  | group connective children => bodyChars connective children

/-- The children of a group, in parentheses. -/
def bodyChars
    (connective : Connective) :
    List Filter → Except Error (List Char)
  | [] => .error (.usage (.emptyGroup connective))
  | first :: rest => do
      let firstPart ← first.childChars
      let parts ← childrenChars rest
      return '(' :: Text.joinWith ',' (firstPart :: parts) ++ [')']

/-- A child of a group as one text. -/
def childChars : Filter → Except Error (List Char)
  | leaf column operator criterion => do
      return column.toList ++ '.' :: (← conditionChars true column operator criterion)
  | not (group connective children) => do
      return "not.".toList ++ connective.token.toList ++ (← bodyChars connective children)
  | not inner => do
      return inner.keyChars ++ ".not.".toList ++ (← inner.valueChars true)
  | group connective children => do
      return connective.token.toList ++ (← bodyChars connective children)

/-- The children of a group, each as one text. -/
def childrenChars : List Filter → Except Error (List (List Char))
  | [] => .ok []
  | child :: children => do return (← child.childChars) :: (← childrenChars children)

end

/-- The parameter of a filter. -/
def toParam (filter : Filter) : Except Error Param := do
  return {
    key := String.ofList filter.keyChars
    value := String.ofList (← filter.valueChars false) }

end Filter
end RestQuery
