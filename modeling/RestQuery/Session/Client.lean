import RestQuery.Connection.Config
import RestQuery.Query.Assembly
import RestQuery.Session.Basic
import RestQuery.Text.Visible

/-!
# Clients

A client knows the address of a server, without slashes at its end, and the
settings of the connection. It calls procedures; tables are queried through it.
-/

namespace RestQuery

/-- A client of one server. -/
structure Client where
  url : String
  settings : Settings
  deriving DecidableEq, Inhabited

namespace Client

/-- The client of the server at an address. -/
def connect (url : String) (settings : Settings) : Client :=
  ⟨String.ofList (Query.trimSlashes url.toList), settings⟩

/-- The client that a configuration describes. -/
def ofConfig (config : Config) : Client := connect config.url config.settings

/-- A client in words, for people. -/
def summary (client : Client) : String :=
  "Client \x7b url: " ++ String.ofList (Text.visible client.url.toList) ++ ", schema: "
    ++ String.ofList (Text.visible client.settings.schema.toList) ++ ", .. \x7d"

/-- The request that calls a procedure with a document as its arguments, unless
they refuse to be written. -/
def procedureRequest
    (client : Client)
    (procedure : String)
    (arguments : Except String Json) :
    Except Error Request := do
  let document ← Error.ofWriting arguments
  Query.empty.request client.url ("rpc/" ++ procedure) client.settings .post
    (some document.compact) .empty

/-- Call a procedure with arguments that may refuse to be written. -/
def call
    (client : Client)
    (procedure : String)
    (arguments : Except String Json)
    (session : Session) :
    Except Error Response × Session :=
  match client.procedureRequest procedure arguments with
  | .ok request => session.roundTrip request
  | .error error => (.error error, session)

/-- Call a procedure with a document as its arguments. -/
def invoke
    (client : Client)
    (procedure : String)
    (arguments : Json)
    (session : Session) :
    Except Error Response × Session :=
  client.call procedure (.ok arguments) session

end Client
end RestQuery
