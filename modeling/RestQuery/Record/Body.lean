import RestQuery.Http.Message
import RestQuery.Record.Basic
import RestQuery.Text.Blank

/-!
# Records in bodies

A request carries one record as an object or several as an array. A response
body is empty, an array, or a single object; anything else is refused by its
first character.
-/

namespace RestQuery

/-- What a call writes: one record or several. -/
inductive Payload (ρ : Type)
  | one (record : ρ)
  | many (records : List ρ)

namespace Payload

/-- The document of a payload. -/
def encode {ρ : Type} [Record ρ] : Payload ρ → Except Error Json
  | one record => Record.encode record
  | many records => do return .array (← records.mapM Record.encode)

/-- The text of a payload. -/
def text {ρ : Type} [Record ρ] (payload : Payload ρ) : Except Error String := do
  return (← payload.encode).compact

end Payload

/-- The records in a body. -/
def readModels (ρ : Type) [Record ρ] (body : String) : Except Error (List ρ) :=
  let s := Text.trimStart body.toList
  match s with
  | [] => .ok []
  | '[' :: _ => Response.decodeText (Json.asList? Record.decode?) s
  | '\x7b' :: _ => do return [← Response.decodeText Record.decode? s]
  | found :: _ => .error (.decode (.unexpectedStart found))

/-- A response with the records in its body. -/
structure Modeled (ρ : Type) where
  response : Response
  models : List ρ

namespace Modeled

variable {ρ : Type}

/-- Read the records in the body of a response. -/
def ofResponse [Record ρ] (response : Response) : Except Error (Modeled ρ) := do
  return { response, models := ← readModels ρ response.content }

/-- The first record. -/
def model? (modeled : Modeled ρ) : Option ρ := modeled.models.head?

/-- The value of a header in any spelling. -/
def header? (modeled : Modeled ρ) (name : String) : Option String :=
  modeled.response.header? name

end Modeled
end RestQuery
