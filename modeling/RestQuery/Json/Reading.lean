import RestQuery.Json.Number
import RestQuery.SortedMap

/-!
# Reading values from JSON documents

A reader takes a document to a value of one type and refuses every other
document. A document of arbitrary shape is read by normalising it: its numbers
are in range and in their one written form, its texts have values, and its
objects are sorted with one member for each key, the last one.
-/

namespace RestQuery
namespace Json

/-- A way to read values of one type. -/
abbrev Reader (α : Type) := Json → Option α

mutual

/-- The document with every number, text and object in its one form. -/
def normal? : Json → Option Json
  | .null => some .null
  | .bool value => some (.bool value)
  | .number literal => (quantity? literal).map ofQuantity
  | .text value => some (.text value)
  | .unreadable => none
  | .array items => (normalItems? items).map .array
  | .object members =>
      (normalMembers? members).map fun values => .object (SortedMap.ofList values).entries

/-- The items of an array, each in its one form. -/
def normalItems? : List Json → Option (List Json)
  | [] => some []
  | item :: items => do return (← item.normal?) :: (← normalItems? items)

/-- The members of an object, each value in its one form. -/
def normalMembers? : List (String × Json) → Option (List (String × Json))
  | [] => some []
  | (key, value) :: members => do
      return (key, ← value.normal?) :: (← normalMembers? members)

end

/-- The greatest depth of a document of arbitrary shape. -/
def depthBound : Nat := 127

/-- Read a document of arbitrary shape. -/
def any? : Reader Json := fun json =>
  if json.depth ≤ depthBound then json.normal? else none

/-- Read a truth value. -/
def asBool? : Reader Bool
  | .bool value => some value
  | _ => none

/-- Read a text. -/
def asText? : Reader String
  | .text value => some value
  | _ => none

/-- Read an integer from `least` up to `greatest`. -/
def asWhole? (least greatest : Int) : Reader Int
  | .number literal =>
      match quantity? literal with
      | some (.whole value) => if least ≤ value && value ≤ greatest then some value else none
      | _ => none
  | _ => none

/-- Read a signed integer of sixty-four bits. -/
def asInt64? : Reader Int64 := fun json =>
  (asWhole? Int64.minValue.toInt Int64.maxValue.toInt json).map Int64.ofInt

/-- Read a signed integer of thirty-two bits. -/
def asInt32? : Reader Int32 := fun json =>
  (asWhole? Int32.minValue.toInt Int32.maxValue.toInt json).map Int32.ofInt

/-- Read an unsigned integer of thirty-two bits. -/
def asUInt32? : Reader UInt32 := fun json =>
  (asWhole? 0 4294967295 json).map fun value => UInt32.ofNat value.toNat

/-- Read any number as a floating-point number. -/
def asBinary64? : Reader Number.Binary64
  | .number literal =>
      match quantity? literal with
      | some (.whole value) => some (.ofNat (value < 0) value.natAbs)
      | some (.real value) => some value
      | none => none
  | _ => none

/-- Read an array of values. -/
def asList? {α : Type} (item? : Reader α) : Reader (List α)
  | .array items => items.mapM item?
  | _ => none

/-- The members with a key. -/
def membersAt (key : String) (members : List (String × Json)) : List Json :=
  (members.filter fun member => member.1 == key).map (·.2)

/-- The value of a field in an object, if it is there; a repeated field is
refused. -/
def fieldValue? (members : List (String × Json)) (name : String) : Option (Option Json) :=
  match membersAt name members with
  | [] => some none
  | [value] => some (some value)
  | _ => none

/-- The values of the named fields: of an object, in which other members are
skipped, or of an array that holds exactly these fields in order. -/
def fields? (names : List String) : Reader (List (Option Json))
  | .object members => names.mapM (fieldValue? members)
  | .array items =>
      if items.length = names.length then some (items.map some) else none
  | _ => none

/-- Read a field that must be there. -/
def required? {α : Type} (value? : Reader α) : Option Json → Option α
  | some json => value? json
  | none => none

/-- Read a field that may be absent or null. -/
def optional? {α : Type} (value? : Reader α) : Option Json → Option (Option α)
  | some .null => some none
  | some json => (value? json).map some
  | none => some none

end Json
end RestQuery
