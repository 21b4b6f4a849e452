import RestQuery.Filter.Operator
import RestQuery.Json.Reading

/-!
# Criteria

The right-hand side of a condition: a single value, several values, an
interval, a text search, or null. Values are written plainly, without quotes;
floating-point numbers positionally with the fewest digits.
-/

namespace RestQuery

/-- A single value. -/
inductive Scalar
  | text (value : String)
  | int (value : Int64)
  | float (value : Number.Binary64)
  | bool (value : Bool)
  deriving DecidableEq

namespace Scalar

/-- Floating-point numbers among values: never with an exponent, whole ones
without a point, and of two equally near digits the larger one. -/
def numberNotation : Number.Notation where
  tie := .up
  positional := fun _ => true
  wholePoint := false

/-- A floating-point number as a value is written. -/
def floatChars : Number.Binary64 → List Char
  | .nan => "NaN".toList
  | .infinite negative => if negative then "-inf".toList else "inf".toList
  | .finite negative units _ => numberNotation.signedChars negative units

/-- The written form of a value. -/
def chars : Scalar → List Char
  | text value => value.toList
  | int value => Text.intChars value.toInt
  | float value => floatChars value
  | bool true => "true".toList
  | bool false => "false".toList

/-- The written form of a value, as a string. -/
def display (scalar : Scalar) : String := String.ofList scalar.chars

/-- The value as a document. -/
def toJson : Scalar → Json
  | text value => .text value
  | int value => Json.ofInt value.toInt
  | float value => Json.ofBinary64 value
  | bool value => .bool value

/-- The values are of one kind and equal, floating-point numbers numerically. -/
def same : Scalar → Scalar → Bool
  | text left, text right => left == right
  | int left, int right => left == right
  | float left, float right => left.sameValue right
  | bool left, bool right => left == right
  | _, _ => false

end Scalar

/-- An end of an interval. -/
inductive Bound
  | included (value : Scalar)
  | excluded (value : Scalar)
  | unbounded
  deriving DecidableEq

namespace Bound

/-- The ends are of one kind and at the same value. -/
def same : Bound → Bound → Bool
  | included left, included right => left.same right
  | excluded left, excluded right => left.same right
  | unbounded, unbounded => true
  | _, _ => false

end Bound

/-- The values between two ends. -/
structure Interval where
  lower : Bound
  upper : Bound
  deriving DecidableEq

namespace Interval

/-- The interval with both ends. -/
def closed (lower upper : Scalar) : Interval := ⟨.included lower, .included upper⟩

/-- The interval with its lower end and without its upper one. -/
def halfOpen (lower upper : Scalar) : Interval := ⟨.included lower, .excluded upper⟩

/-- The interval of all values from its lower end on. -/
def startingAt (lower : Scalar) : Interval := ⟨.included lower, .unbounded⟩

/-- The opening bracket and the value of a lower end. -/
def lowerChars : Bound → List Char
  | .included value => '[' :: value.chars
  | .excluded value => '(' :: value.chars
  | .unbounded => ['(']

/-- The value and the closing bracket of an upper end. -/
def upperChars : Bound → List Char
  | .included value => value.chars ++ [']']
  | .excluded value => value.chars ++ [')']
  | .unbounded => [')']

/-- The written form of an interval: square brackets at included ends, round
ones at all others. -/
def chars (interval : Interval) : List Char :=
  lowerChars interval.lower ++ ',' :: upperChars interval.upper

/-- The written form of an interval, as a string. -/
def display (interval : Interval) : String := String.ofList interval.chars

/-- The intervals have the same ends. -/
def same (left right : Interval) : Bool :=
  left.lower.same right.lower && left.upper.same right.upper

end Interval

/-- The text to search for, and the language whose rules apply. -/
structure FullTextSearch where
  query : String
  language : String
  deriving DecidableEq

/-- The right-hand side of a condition. -/
inductive Criterion
  | null
  | scalar (value : Scalar)
  | list (items : List Scalar)
  | map (values : SortedMap Scalar)
  | interval (range : Interval)
  | fullText (search : FullTextSearch)
  deriving DecidableEq

/-- The shapes of criteria. -/
inductive Shape
  | null
  | scalar
  | list
  | map
  | interval
  | fullText
  deriving DecidableEq, Repr

namespace Shape

/-- The shape in words. -/
def name : Shape → String
  | null => "null"
  | scalar => "scalar"
  | list => "list"
  | map => "map"
  | interval => "interval"
  | fullText => "full-text config"

end Shape

namespace Criterion

/-- The shape of a criterion. -/
def shape : Criterion → Shape
  | null => .null
  | scalar _ => .scalar
  | list _ => .list
  | map _ => .map
  | interval _ => .interval
  | fullText _ => .fullText

/-- The criterion is null. -/
def isNull (criterion : Criterion) : Bool := criterion.shape == .null

/-- A criterion that may be missing; a missing one is null. -/
def ofOption : Option Criterion → Criterion
  | some criterion => criterion
  | none => null

/-- The criterion is a right-hand side of the kind. Null is none of any. -/
def fits : OperandKind → Criterion → Bool
  | .scalar, scalar _ => true
  | .pattern, scalar (.text _) => true
  | .collection, list _ => true
  | .collection, map _ => true
  | .container, list _ => true
  | .container, map _ => true
  | .container, interval _ => true
  | .interval, interval _ => true
  | .search, fullText _ => true
  | _, _ => false

/-- The texts of a criterion that is a single value, an interval or a list. -/
def displays : Criterion → Option (String ⊕ List String)
  | scalar value => some (.inl value.display)
  | interval range => some (.inl range.display)
  | list items => some (.inr (items.map Scalar.display))
  | _ => none

/-- Two lists hold the same values in order. -/
def sameItems : List Scalar → List Scalar → Bool
  | [], [] => true
  | left :: lefts, right :: rights => left.same right && sameItems lefts rights
  | _, _ => false

/-- The criteria are of one shape and hold the same values. -/
def same : Criterion → Criterion → Bool
  | null, null => true
  | scalar left, scalar right => left.same right
  | list left, list right => sameItems left right
  | map left, map right =>
      left.entries.map (·.1) == right.entries.map (·.1)
        && sameItems (left.entries.map (·.2)) (right.entries.map (·.2))
  | interval left, interval right => left.same right
  | fullText left, fullText right => left == right
  | _, _ => false

end Criterion
end RestQuery
