import RestQuery.Http.ContentRange
import RestQuery.Http.Headers
import RestQuery.Http.Method
import RestQuery.Json.Reading

/-!
# Requests and responses

A request is complete: method, address, headers and body. A response that
arrives has its header names in lower case.
-/

namespace RestQuery

/-- A request. -/
structure Request where
  method : Method
  url : String
  headers : Headers
  body : Option String
  deriving DecidableEq

/-- A response. -/
structure Response where
  status : UInt16
  headers : Headers
  content : String
  deriving DecidableEq

namespace Response

/-- The response with a status and a body and without headers. -/
def plain (status : UInt16) (content : String) : Response := ⟨status, .empty, content⟩

/-- The response with a header set, its name in lower case. -/
def withHeader (response : Response) (name value : String) : Response :=
  { response with headers := response.headers.insert (Headers.foldName name) value }

/-- The status tells success. -/
def isSuccess (response : Response) : Bool :=
  200 ≤ response.status && response.status < 300

/-- The value of a header in any spelling. -/
def header? (response : Response) (name : String) : Option String :=
  response.headers.find? name

/-- The total number of rows that the response tells. -/
def total (response : Response) : Except Error UInt64 :=
  match response.header? Headers.contentRange with
  | some value => ContentRange.total value
  | none => .error (.invalidContentRange .missingHeader)

/-- The value that a text is read as. -/
def decodeText {α : Type} (read? : Json.Reader α) (s : List Char) : Except Error α :=
  match (Json.read? s).bind read? with
  | some value => .ok value
  | none => .error (.decode .unfitDocument)

/-- The value that the body is read as. -/
def decode {α : Type} (read? : Json.Reader α) (response : Response) : Except Error α :=
  decodeText read? response.content.toList

end Response
end RestQuery
