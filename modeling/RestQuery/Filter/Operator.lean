/-!
# Operators

The comparison, pattern, set, range and full-text operators of a condition, and
the three logical ones, each with the token that stands for it in a query. What
an operator takes on its right-hand side is its operand kind.
-/

namespace RestQuery

/-- An operator of a query. -/
inductive Operator
  | equal
  | notEqual
  | greater
  | greaterOrEqual
  | less
  | lessOrEqual
  | is
  | like
  | caselessLike
  | oneOf
  | contains
  | containedIn
  | overlaps
  | strictlyLeft
  | strictlyRight
  | notRightOf
  | notLeftOf
  | adjacent
  | fullText
  | plainFullText
  | phraseFullText
  | webFullText
  | and
  | or
  | not
  deriving DecidableEq, Repr

/-- The kinds of right-hand sides. A logical operator has none. -/
inductive OperandKind
  | scalar
  | pattern
  | collection
  | container
  | interval
  | search
  | none
  deriving DecidableEq, Repr

namespace Operator

/-- Every operator. -/
def all : List Operator :=
  [equal, notEqual, greater, greaterOrEqual, less, lessOrEqual, is, like,
    caselessLike, oneOf, contains, containedIn, overlaps, strictlyLeft,
    strictlyRight, notRightOf, notLeftOf, adjacent, fullText, plainFullText,
    phraseFullText, webFullText, and, or, not]

/-- The token of an operator in a query. -/
def token : Operator → String
  | equal => "eq"
  | notEqual => "neq"
  | greater => "gt"
  | greaterOrEqual => "gte"
  | less => "lt"
  | lessOrEqual => "lte"
  | is => "is"
  | like => "like"
  | caselessLike => "ilike"
  | oneOf => "in"
  | contains => "cs"
  | containedIn => "cd"
  | overlaps => "ov"
  | strictlyLeft => "sl"
  | strictlyRight => "sr"
  | notRightOf => "nxr"
  | notLeftOf => "nxl"
  | adjacent => "adj"
  | fullText => "fts"
  | plainFullText => "plfts"
  | phraseFullText => "phfts"
  | webFullText => "wfts"
  | and => "and"
  | or => "or"
  | not => "not"

/-- The operator with a token. -/
def ofToken? (token : String) : Option Operator :=
  all.find? fun operator => operator.token == token

theorem ofToken?_token (operator : Operator) :
    ofToken? operator.token = some operator := by
  cases operator <;> rfl

/-- What an operator takes on its right-hand side. -/
def operandKind : Operator → OperandKind
  | like | caselessLike => .pattern
  | oneOf => .collection
  | contains | containedIn | overlaps => .container
  | strictlyLeft | strictlyRight | notRightOf | notLeftOf | adjacent => .interval
  | fullText | plainFullText | phraseFullText | webFullText => .search
  | and | or | not => .none
  | equal | notEqual | greater | greaterOrEqual | less | lessOrEqual | is => .scalar

/-- The operator combines filters and is none of a condition. -/
def isLogical (operator : Operator) : Bool := operator.operandKind == .none

/-- The operator compares the positions of two ranges. -/
def isRange (operator : Operator) : Bool := operator.operandKind == .interval

/-- The operator searches documents. -/
def isFullText (operator : Operator) : Bool := operator.operandKind == .search

/-- The operator compares what two collections hold. -/
def isContainment (operator : Operator) : Bool := operator.operandKind == .container

/-- The operator matches a text pattern. -/
def isPattern (operator : Operator) : Bool := operator.operandKind == .pattern

end Operator

namespace OperandKind

/-- The right-hand side that is expected, in words. -/
def description : OperandKind → String
  | scalar => "a scalar"
  | pattern => "a text pattern"
  | collection => "a list or a map"
  | container => "a list, a map or an interval"
  | interval => "an interval"
  | search => "a full-text config (query text + language)"
  | none => "nothing"

end OperandKind

/-- How the filters of a group are connected. -/
inductive Connective
  | and
  | or
  deriving DecidableEq, Repr

namespace Connective

/-- The logical operator of a connective. -/
def operator : Connective → Operator
  | and => .and
  | or => .or

/-- The token of a connective in a query. -/
def token (connective : Connective) : String := connective.operator.token

end Connective
end RestQuery
