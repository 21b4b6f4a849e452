import RestQuery.Record.Basic

/-!
# A catalogue of record types

Rows of some tables, with every kind of field: texts, whole and floating-point
numbers, truth values, lists, and fields that may be missing.
-/

namespace RestQuery
namespace Catalog

/-! ## Fields -/

/-- A text field. -/
def textJson (value : String) : Json := .text value

/-- A field that may be missing. -/
def optionalJson {α : Type} (toJson : α → Json) : Option α → Json
  | some value => toJson value
  | none => .null

/-- A field of sixty-four bits. -/
def int64Json (value : Int64) : Json := Json.ofInt value.toInt

/-- A field of thirty-two bits. -/
def int32Json (value : Int32) : Json := Json.ofInt value.toInt

/-- A key that may be missing. -/
def optionalKey {α : Type} (toScalar : α → Scalar) (value : Option α) : Criterion :=
  .ofOption (value.map fun present => .scalar (toScalar present))

/-! ## Users -/

/-- A user of a chat. -/
structure User where
  username : String
  status : Option String
  catchphrase : Option String
  ageRange : Option String
  deriving DecidableEq

instance : Record User where
  table := "users"
  primaryKey := "username"
  key user := .scalar (.text user.username)
  document user :=
    .ok (.object [("username", .text user.username),
      ("status", optionalJson textJson user.status),
      ("catchphrase", optionalJson textJson user.catchphrase),
      ("age_range", optionalJson textJson user.ageRange)])
  decode? json := do
    match ← Json.fields? ["username", "status", "catchphrase", "age_range"] json with
    | [username, status, catchphrase, ageRange] =>
        return {
          username := ← Json.required? Json.asText? username
          status := ← Json.optional? Json.asText? status
          catchphrase := ← Json.optional? Json.asText? catchphrase
          ageRange := ← Json.optional? Json.asText? ageRange }
    | _ => none

/-! ## Messages -/

/-- A message in a channel; its number is given by the table. -/
structure Message where
  id : Option Int64
  username : String
  message : String
  channelId : Int64
  deriving DecidableEq

instance : Record Message where
  table := "messages"
  primaryKey := "id"
  key message := optionalKey .int message.id
  document message :=
    .ok (.object [("id", optionalJson int64Json message.id),
      ("username", .text message.username),
      ("message", .text message.message),
      ("channel_id", int64Json message.channelId)])
  decode? json := do
    match ← Json.fields? ["id", "username", "message", "channel_id"] json with
    | [id, username, message, channelId] =>
        return {
          id := ← Json.optional? Json.asInt64? id
          username := ← Json.required? Json.asText? username
          message := ← Json.required? Json.asText? message
          channelId := ← Json.required? Json.asInt64? channelId }
    | _ => none

/-! ## Kitchen sink -/

/-- A row with a field of each common kind. -/
structure KitchenSink where
  id : Int32
  stringValue : Option String
  intValue : Option Int32
  deriving DecidableEq

instance : Record KitchenSink where
  table := "kitchen_sink"
  primaryKey := "id"
  key row := .scalar (.int row.id.toInt64)
  document row :=
    .ok (.object [("id", int32Json row.id),
      ("string_value", optionalJson textJson row.stringValue),
      ("int_value", optionalJson int32Json row.intValue)])
  decode? json := do
    match ← Json.fields? ["id", "string_value", "int_value"] json with
    | [id, stringValue, intValue] =>
        return {
          id := ← Json.required? Json.asInt32? id
          stringValue := ← Json.optional? Json.asText? stringValue
          intValue := ← Json.optional? Json.asInt32? intValue }
    | _ => none

/-! ## Items -/

/-- A number of things of one type, which is the key. -/
structure Item where
  count : UInt32
  type : String
  deriving DecidableEq

instance : Record Item where
  table := "Item"
  primaryKey := "type"
  key item := .scalar (.text item.type)
  document item :=
    .ok (.object [("count", Json.ofInt item.count.toNat), ("type", .text item.type)])
  decode? json := do
    match ← Json.fields? ["count", "type"] json with
    | [count, type] =>
        return {
          count := ← Json.required? Json.asUInt32? count
          type := ← Json.required? Json.asText? type }
    | _ => none

/-! ## Readings -/

/-- A measured level, which is the key, with tags. -/
structure Reading where
  level : Number.Binary64
  tags : List String
  deriving DecidableEq

instance : Record Reading where
  table := "readings"
  primaryKey := "level"
  key reading := .scalar (.float reading.level)
  document reading :=
    .ok (.object [("level", Json.ofBinary64 reading.level),
      ("tags", .array (reading.tags.map textJson))])
  decode? json := do
    match ← Json.fields? ["level", "tags"] json with
    | [level, tags] =>
        return {
          level := ← Json.required? Json.asBinary64? level
          tags := ← Json.required? (Json.asList? Json.asText?) tags }
    | _ => none

/-! ## Flags -/

/-- A truth value in a column with a point in its name. -/
structure Flag where
  on : Bool
  deriving DecidableEq

instance : Record Flag where
  table := "flags"
  primaryKey := "is.on"
  key flag := .scalar (.bool flag.on)
  document flag := .ok (.object [("on", .bool flag.on)])
  decode? json := do
    match ← Json.fields? ["on"] json with
    | [on] => return { on := ← Json.required? Json.asBool? on }
    | _ => none

/-! ## Notes -/

/-- A note in a table with a slash and a blank in its name. -/
structure Note where
  slug : Option String
  deriving DecidableEq

instance : Record Note where
  table := "notes/x y"
  primaryKey := "slug"
  key note := optionalKey .text note.slug
  document note := .ok (.object [("slug", optionalJson textJson note.slug)])
  decode? json := do
    match ← Json.fields? ["slug"] json with
    | [slug] => return { slug := ← Json.optional? Json.asText? slug }
    | _ => none

/-! ## Lists -/

/-- A row whose key is a list, which no equality takes. -/
structure Listing where
  id : List String
  deriving DecidableEq

instance : Record Listing where
  table := "lists"
  primaryKey := "id"
  key listing := .list (listing.id.map .text)
  document listing := .ok (.object [("id", .array (listing.id.map textJson))])
  decode? json := do
    match ← Json.fields? ["id"] json with
    | [id] => return { id := ← Json.required? (Json.asList? Json.asText?) id }
    | _ => none

/-! ## Fragile rows -/

/-- A row that cannot be written once it is broken. -/
structure Fragile where
  id : Int64
  broken : Bool
  deriving DecidableEq

instance : Record Fragile where
  table := "fragile"
  primaryKey := "id"
  key row := .scalar (.int row.id)
  document row :=
    if row.broken then .error "refused"
    else .ok (.object [("id", int64Json row.id), ("broken", .bool row.broken)])
  decode? json := do
    match ← Json.fields? ["id", "broken"] json with
    | [id, broken] =>
        return {
          id := ← Json.required? Json.asInt64? id
          broken := ← Json.required? Json.asBool? broken }
    | _ => none

/-! ## The types -/

/-- The record types of the catalogue. -/
inductive Kind
  | users
  | messages
  | kitchenSink
  | item
  | readings
  | flags
  | notes
  | lists
  | fragile
  deriving DecidableEq, Repr

namespace Kind

/-- Every record type. -/
def all : List Kind :=
  [users, messages, kitchenSink, item, readings, flags, notes, lists, fragile]

/-- The name of a record type. -/
def name : Kind → String
  | users => "users"
  | messages => "messages"
  | kitchenSink => "kitchen_sink"
  | item => "item"
  | readings => "readings"
  | flags => "flags"
  | notes => "notes"
  | lists => "lists"
  | fragile => "fragile"

/-- The record type with a name. -/
def ofName? (name : String) : Option Kind := all.find? fun kind => kind.name == name

/-- The rows of a record type. -/
def Row : Kind → Type
  | users => User
  | messages => Message
  | kitchenSink => KitchenSink
  | item => Item
  | readings => Reading
  | flags => Flag
  | notes => Note
  | lists => Listing
  | fragile => Fragile

instance : (kind : Kind) → Record kind.Row
  | users => inferInstanceAs (Record User)
  | messages => inferInstanceAs (Record Message)
  | kitchenSink => inferInstanceAs (Record KitchenSink)
  | item => inferInstanceAs (Record Item)
  | readings => inferInstanceAs (Record Reading)
  | flags => inferInstanceAs (Record Flag)
  | notes => inferInstanceAs (Record Note)
  | lists => inferInstanceAs (Record Listing)
  | fragile => inferInstanceAs (Record Fragile)

end Kind
end Catalog
end RestQuery
