import RestQuery.Filter.Writing
import RestQuery.Http.Headers

/-!
# Connection settings

What every request of a connection carries: the schema, some headers, and some
parameters in front of all others. The API key is a header that is repeated as
a parameter.
-/

namespace RestQuery

/-- The settings of a connection. -/
structure Settings where
  schema : String := "public"
  headers : Headers := .empty
  params : List Param := []
  deriving DecidableEq, Inhabited

namespace Settings

/-- Set the schema. -/
def withSchema (settings : Settings) (schema : String) : Settings :=
  { settings with schema }

/-- Set a header; other spellings of its name stay. -/
def withHeader (settings : Settings) (name value : String) : Settings :=
  { settings with headers := settings.headers.insert name value }

/-- Append a parameter. -/
def withParam (settings : Settings) (key value : String) : Settings :=
  { settings with params := settings.params ++ [⟨key, value⟩] }

/-- Set the API key. -/
def withApiKey (settings : Settings) (key : String) : Settings :=
  settings.withHeader Headers.apiKey key

/-- Authorize requests by a token. -/
def withBearer (settings : Settings) (token : String) : Settings :=
  settings.withHeader Headers.authorization ("Bearer " ++ token)

/-- The API key. -/
def apiKey? (settings : Settings) : Option String :=
  settings.headers.find? Headers.apiKey

end Settings
end RestQuery
