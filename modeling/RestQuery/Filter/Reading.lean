import RestQuery.Filter.Writing
import RestQuery.Text.TopLevel

/-!
# Reading filters

The reader of parameters takes back what the writer of filters puts out. The
first characters of an operand decide how it is read; a plain text that looks
like a number or a truth value is read as one. Every condition is built by the
checked constructor, so a filter that is read is always well formed.
-/

namespace RestQuery
namespace Filter

/-- The failure to read a filter. -/
def malformed
    (key value : List Char)
    (reason : Malformation) :
    Error :=
  .usage (.malformedFilter (String.ofList key) (String.ofList value) reason)

/-- A result, or a failure in its absence. -/
def orFail {α : Type} (error : Error) : Option α → Except Error α
  | some value => .ok value
  | none => .error error

/-! ## Operands -/

/-- A single value: an integer, a number with a point, a truth value, and any
other text for itself. -/
def readScalar (s : List Char) : Scalar :=
  match Text.readInt64? s with
  | some value => .int value
  | none =>
      match if s.contains '.' then Number.readBinary64? s else none with
      | some value => .float value
      | none =>
          if s = "true".toList then .bool true
          else if s = "false".toList then .bool false
          else .text (String.ofList s)

/-- A lower end of an interval. -/
def readLower? (opening : Char) (value : List Char) : Option Bound :=
  if value.isEmpty then some .unbounded
  else if opening == '[' then some (.included (readScalar value))
  else if opening == '(' then some (.excluded (readScalar value))
  else none

/-- An upper end of an interval. -/
def readUpper? (closing : Char) (value : List Char) : Option Bound :=
  if value.isEmpty then some .unbounded
  else if closing == ']' then some (.included (readScalar value))
  else if closing == ')' then some (.excluded (readScalar value))
  else none

/-- An interval: a bracket, two values around the first comma, a bracket. -/
def readInterval? : List Char → Option Interval
  | [] => none
  | opening :: rest => do
      let closing ← rest.getLast?
      let (lower, upper) ← Text.cutAt ',' rest.dropLast
      return { lower := ← readLower? opening lower, upper := ← readUpper? closing upper }

/-- A value of a map. -/
def scalarOfJson? : Json → Option Scalar
  | .text value => some (.text value)
  | .bool value => some (.bool value)
  | .number literal =>
      match Json.asInt64? (.number literal) with
      | some value => some (.int value)
      | none => (Json.asBinary64? (.number literal)).map .float
  | _ => none

/-- The values of a map, in the order of their keys. A value that is none is
reported in its one form. -/
def readMapValues
    (column s : List Char) :
    List (String × Json) → Except Error (List (String × Scalar))
  | [] => .ok []
  | (key, value) :: members => do
      let fault := malformed column s (.nestedValue (value.normal?.getD value))
      let scalar ← orFail fault (scalarOfJson? value)
      return (key, scalar) :: (← readMapValues column s members)

/-- The members of an object, sorted, with the last one of each key; `none`
unless the document can be read. -/
def sortedMembers? (json : Json) : Option (List (String × Json)) :=
  match json, Json.any? json with
  | .object members, some _ => some (SortedMap.ofList members).entries
  | _, _ => none

/-- A map, which is written as a document. -/
def readMap (column s : List Char) : Except Error Criterion := do
  let members ← orFail (malformed column s .noObject) ((Json.read? s).bind sortedMembers?)
  return .map (SortedMap.ofList (← readMapValues column s members))

/-- An item of a quoted list. -/
def readItem (s : List Char) : Scalar :=
  match Text.unquote? s with
  | some value => .text (String.ofList value)
  | none => readScalar s

/-- A list of quoted items in parentheses. -/
def readQuotedList (column s : List Char) : Except Error Criterion := do
  let inner ← orFail (malformed column s .noList) (Text.enclosed? '(' ')' s)
  return .list ((Text.splitTopLevel inner).map readItem)

/-- A list of bare items in braces. -/
def readBareList (column s : List Char) : Except Error Criterion := do
  let inner ←
    orFail (malformed column s .noContainer) (Text.enclosed? '\x7b' '\x7d' s)
  return .list ((Text.splitTopLevel inner).map readScalar)

/-- An interval as a right-hand side. -/
def readRange (column s : List Char) : Except Error Criterion := do
  return .interval (← orFail (malformed column s .noInterval) (readInterval? s))

/-- A list, a map or an interval, told apart by their first characters. -/
def readContainer (column s : List Char) : Except Error Criterion :=
  match s with
  | '[' :: _ => readRange column s
  | '(' :: _ => readRange column s
  | '\x7b' :: '"' :: _ => readMap column s
  | _ => readBareList column s

/-- A quoted list or a map. -/
def readCollection (column s : List Char) : Except Error Criterion :=
  match s with
  | '(' :: _ => readQuotedList column s
  | _ => readMap column s

/-- The text that a quoted text inside a group stands for. -/
def unquoted? (inGroup : Bool) (s : List Char) : Option (List Char) :=
  if inGroup then Text.unquote? s else none

/-- The star of patterns is read as the wildcard. -/
def readPattern (s : List Char) : Criterion :=
  .scalar (.text (String.ofList (Text.replaceChar '*' '%' s)))

/-- A single value, or the text that a quoted text stands for. -/
def readPlain (inGroup : Bool) (s : List Char) : Criterion :=
  match unquoted? inGroup s with
  | some value => .scalar (.text (String.ofList value))
  | none => .scalar (readScalar s)

/-- The right-hand side behind the point of an operator. -/
def readOperand
    (inGroup : Bool)
    (column : List Char)
    (operator : Operator)
    (s : List Char) :
    Except Error Criterion :=
  if operator = .is && s = "null".toList then .ok .null
  else
    match operator.operandKind with
    | .pattern => .ok (readPattern ((unquoted? inGroup s).getD s))
    | .collection => readCollection column s
    | .container => readContainer column s
    | .interval => readRange column s
    | _ => .ok (readPlain inGroup s)

/-! ## Conditions -/

/-- The language in parentheses and the query behind the point. -/
def readSearch? (inGroup : Bool) (s : List Char) : Option FullTextSearch := do
  let rest ← Text.after? ['('] s
  let (language, query) ← Text.cutAtMark ").".toList rest
  return {
    query := String.ofList ((unquoted? inGroup query).getD query)
    language := String.ofList language }

/-- The character ends the token of an operator. -/
def endsToken (c : Char) : Bool := c == '.' || c == '('

/-- A condition: the token of an operator, which ends before the first point or
parenthesis, and a right-hand side. -/
def readCondition
    (inGroup : Bool)
    (column value : List Char) :
    Except Error Filter := do
  let token := value.takeWhile fun c => !endsToken c
  let rest := value.dropWhile fun c => !endsToken c
  if rest.isEmpty then .error (malformed column value .missingOperator)
  let operator ← Operator.named (String.ofList token)
  if operator.isFullText then
    let search ← orFail (malformed column value .incompleteSearch) (readSearch? inGroup rest)
    condition (String.ofList column) operator (.fullText search)
  else
    let operand ← orFail (malformed column value .missingPoint) (Text.after? ['.'] rest)
    condition (String.ofList column) operator (← readOperand inGroup column operator operand)

/-- A condition under as many negations as its value says. -/
def readLeaf
    (inGroup : Bool)
    (column : List Char) :
    List Char → Except Error Filter
  | 'n' :: 'o' :: 't' :: '.' :: rest => do return .not (← readLeaf inGroup column rest)
  | value => readCondition inGroup column value

/-! ## Groups -/

/-- The connective of a group, and the parentheses behind it. -/
def groupHead? : List Char → Option (Connective × List Char)
  | 'a' :: 'n' :: 'd' :: '(' :: rest => some (.and, '(' :: rest)
  | 'o' :: 'r' :: '(' :: rest => some (.or, '(' :: rest)
  | _ => none

/-- Whether a child that is a group is negated, its connective, and the
parentheses behind it. -/
def childHead? (s : List Char) : Option (Bool × Connective × List Char) :=
  match (Text.after? "not.".toList s).bind groupHead? with
  | some (connective, body) => some (true, connective, body)
  | none => (groupHead? s).map fun (connective, body) => (false, connective, body)

/-- Whether a key names a negated group, and its connective. -/
def groupKey? (key : List Char) : Option (Bool × Connective) :=
  if key = "and".toList then some (false, .and)
  else if key = "or".toList then some (false, .or)
  else if key = "not.and".toList then some (true, .and)
  else if key = "not.or".toList then some (true, .or)
  else none

/-- A group, or its negation. -/
def signedGroup
    (negated : Bool)
    (connective : Connective)
    (children : List Filter) :
    Filter :=
  if negated then .not (.group connective children) else .group connective children

/-- A child of a group that is a condition: its column ends before the first
point. -/
def readFoldedLeaf (s : List Char) : Except Error Filter :=
  match Text.cutAt '.' s with
  | some (column, value) => readLeaf true column value
  | none => .error (malformed [] s .incompleteChild)

theorem length_of_groupHead?
    {s body : List Char}
    {connective : Connective}
    (found : groupHead? s = some (connective, body)) :
    body.length < s.length := by
  unfold groupHead? at found
  split at found
  · cases found
    simp only [List.length_cons]
    omega
  · cases found
    simp only [List.length_cons]
    omega
  · cases found

theorem length_of_childHead?
    {s body : List Char}
    {negated : Bool}
    {connective : Connective}
    (found : childHead? s = some (negated, connective, body)) :
    body.length < s.length := by
  unfold childHead? at found
  split at found
  · next head =>
      cases found
      obtain ⟨rest, behind, head⟩ := Option.bind_eq_some_iff.mp head
      exact Nat.lt_of_lt_of_le (length_of_groupHead? head) (Text.length_le_of_after? behind)
  · obtain ⟨head, plain, same⟩ := Option.map_eq_some_iff.mp found
    cases same
    exact length_of_groupHead? plain

/-- A child of a group: a group, a negated group, or a condition. -/
def readChild (s : List Char) : Except Error Filter :=
  match _head : childHead? s with
  | none => readFoldedLeaf s
  | some (negated, connective, body) =>
      match _inside : Text.enclosed? '(' ')' body with
      | none => .error (malformed connective.token.toList body .unparenthesized)
      | some inner => do
          let children ← (Text.splitTopLevel inner).attach.mapM fun part => readChild part.1
          return signedGroup negated connective children
termination_by s.length
decreasing_by
  have := length_of_childHead? _head
  have := Text.length_of_enclosed? _inside
  have := Text.length_le_of_mem_splitTopLevel part.2
  omega

/-- The filters of a group, in parentheses. -/
def readGroup
    (negated : Bool)
    (connective : Connective)
    (body : List Char) :
    Except Error Filter := do
  let inner ←
    orFail (malformed connective.token.toList body .unparenthesized)
      (Text.enclosed? '(' ')' body)
  return signedGroup negated connective (← (Text.splitTopLevel inner).mapM readChild)

/-- The filter that a key and a value stand for. -/
def read (key value : List Char) : Except Error Filter :=
  match groupKey? key with
  | some (negated, connective) => readGroup negated connective value
  | none =>
      if key.isEmpty then .error (malformed key value .emptyColumn)
      else readLeaf false key value

/-- The filter that a parameter stands for. -/
def ofParam (param : Param) : Except Error Filter :=
  read param.key.toList param.value.toList

end Filter
end RestQuery
