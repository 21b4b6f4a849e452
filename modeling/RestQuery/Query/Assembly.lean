import RestQuery.Connection.Settings
import RestQuery.Http.Message
import RestQuery.Query.Encoding
import RestQuery.Query.State

/-!
# Assembling requests

A query becomes a request: its parameters in a fixed order behind the address
of a table, and the headers that settings, method, window and body call for.
Headers of the single call win over all of these.
-/

namespace RestQuery
namespace Query

/-! ## Parameters -/

/-- Set the value of a key: of the parameter that has it, or of a new one at
the end. -/
def setParam (key value : String) : List Param → List Param
  | [] => [⟨key, value⟩]
  | param :: rest =>
      if param.key = key then ⟨key, value⟩ :: rest else param :: setParam key value rest

/-- One parameter for each table that is sorted, in the order in which the
tables first occur; the last ordering of a table counts. -/
def orderParams (orderings : List RowOrdering) : List Param :=
  orderings.foldl (fun params ordering => setParam ordering.key ordering.value params) []

/-- The API key, repeated as a parameter. -/
def apiKeyParams (settings : Settings) : List Param :=
  match settings.apiKey? with
  | some key => [⟨Headers.apiKey, key⟩]
  | none => []

/-- The projection without white space, unless nothing is left of it. -/
def projectionParams : Option String → List Param
  | none => []
  | some columns =>
      let bare := Text.withoutBlanks columns.toList
      if bare.isEmpty then [] else [⟨"select", String.ofList bare⟩]

/-- The column on which conflicts are looked for. -/
def conflictParams : Option String → List Param
  | none => []
  | some column => [⟨"on_conflict", column⟩]

/-- A limit or an offset. -/
def boundParams (name : String) : Option PageBound → List Param
  | none => []
  | some bound =>
      [⟨scopedKey bound.embedded name, String.ofList (Text.digits bound.value.toNat)⟩]

/-- Everything behind the filters. -/
def trailingParams (query : Query) : List Param :=
  orderParams query.orderings ++ projectionParams query.projection
    ++ conflictParams query.conflictColumn ++ boundParams "limit" query.limit
    ++ boundParams "offset" query.offset

/-- The parameters of a query: those of the settings, the API key, the filters,
the orderings, the projection, the conflict column, the limit and the offset.
The first filter that cannot be written fails. -/
def params (settings : Settings) (query : Query) : Except Error (List Param) := do
  let filters ← query.filters.mapM Filter.toParam
  return settings.params ++ apiKeyParams settings ++ filters ++ query.trailingParams

/-! ## Addresses -/

/-- An address without slashes at its end. -/
def trimSlashes (url : List Char) : List Char := Text.dropEndWhile (· == '/') url

/-- The address of a path with parameters. -/
def urlChars (base path : List Char) (params : List Param) : List Char :=
  trimSlashes base ++ '/' :: path ++ queryString params

/-- The address that a query requests. -/
def url
    (base path : String)
    (settings : Settings)
    (query : Query) :
    Except Error String := do
  return String.ofList (urlChars base.toList path.toList (← query.params settings))

/-! ## Headers -/

/-- What the library calls itself. -/
def clientInfo : String := "pgrest-rs/0.1.5"

/-- Name the library, unless the settings name something in its place. -/
def withClientInfo (headers : Headers) : Headers :=
  match headers.find? Headers.clientInfo with
  | some _ => headers
  | none => headers.insert Headers.clientInfo clientInfo

/-- The header that carries the schema. -/
def profileName (method : Method) : String :=
  if method.isRead then Headers.acceptProfile else Headers.contentProfile

/-- Name the schema, if there is one. -/
def withProfile (method : Method) (schema : String) (headers : Headers) : Headers :=
  if schema.isEmpty then headers else headers.insert (profileName method) schema

/-- Ask for a window of rows. -/
def withWindow (window : Option RowWindow) (headers : Headers) : Headers :=
  match window with
  | some rows =>
      (headers.insert Headers.rangeUnit "items").insert Headers.range rows.headerValue
  | none => headers

/-- Name the type of a body. -/
def withContentType (hasBody : Bool) (headers : Headers) : Headers :=
  if hasBody then headers.insert Headers.contentType Headers.json else headers

/-- The headers of a request. -/
def headers
    (settings : Settings)
    (method : Method)
    (query : Query)
    (hasBody : Bool)
    (overrides : Headers) :
    Headers :=
  (withContentType hasBody
    (withWindow query.window
      (withProfile method settings.schema
        (withClientInfo settings.headers)))).merge overrides

/-- The request for a query. -/
def request
    (base path : String)
    (settings : Settings)
    (method : Method)
    (query : Query)
    (body : Option String)
    (overrides : Headers) :
    Except Error Request := do
  return {
    method
    url := ← query.url base path settings
    headers := query.headers settings method body.isSome overrides
    body }

end Query
end RestQuery
