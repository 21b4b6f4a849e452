import RestQuery.Error
import RestQuery.Text.Blank

/-!
# Content ranges

The value of a `Content-Range` header tells which rows a response holds and how
many there are: `from-to/total`, or `*/total` without rows.
-/

namespace RestQuery
namespace ContentRange

/-- The part before the slash is a star or two row numbers. -/
def isRowRange (s : List Char) : Bool :=
  s == ['*'] ||
    match Text.cutAt '-' s with
    | some (first, last) => (Text.readUInt64? first).isSome && (Text.readUInt64? last).isSome
    | none => false

/-- The total behind the slash. -/
def readTotal? (s : List Char) : Option UInt64 := do
  let (rows, total) ← Text.cutAt '/' (Text.trim s)
  if isRowRange rows then Text.readUInt64? total else none

/-- The total number of rows that a header value tells. -/
def total (value : String) : Except Error UInt64 :=
  match readTotal? value.toList with
  | some count => .ok count
  | none => .error (.invalidContentRange (.invalid value))

end ContentRange
end RestQuery
