import RestQuery.Http.Message

/-!
# Sessions

A session is one side of a conversation with a server, seen from the client:
the requests that were sent, the replies that wait for their requests, and the
events that were reported on the way. One exchange sends one request and takes
one reply.
-/

namespace RestQuery

/-- What becomes of a request on its way. -/
inductive Reply
  | response (response : Response)
  | failure (cause : String)

/-- How much an event matters. -/
inductive Level
  | trace
  | debug
  | warn
  deriving DecidableEq, Repr

/-- The name of a level. -/
def Level.name : Level → String
  | trace => "TRACE"
  | debug => "DEBUG"
  | warn => "WARN"

/-- Something that is reported while a call runs. -/
inductive Event
  | cleared (table : String)
  | requested (method : Method) (url : String) (headers : Nat)
  | responded (status : UInt16) (bytes : Nat)
  | rejected (status : UInt16) (body : String)
  deriving DecidableEq

namespace Event

/-- How much an event matters. -/
def level : Event → Level
  | cleared _ => .trace
  | requested .. => .debug
  | responded .. => .debug
  | rejected .. => .warn

/-- What an event is called. -/
def message : Event → String
  | cleared _ => "pgrest.state"
  | requested .. => "pgrest.request"
  | responded .. => "pgrest.response"
  | rejected .. => "pgrest.rejected"

/-- The event that a request is sent. -/
def ofRequest (request : Request) : Event :=
  requested request.method request.url request.headers.size

/-- The events of a response; one that does not tell success is rejected. -/
def ofResponse (response : Response) : List Event :=
  responded response.status response.content.utf8ByteSize ::
    if response.isSuccess then [] else [rejected response.status response.content]

/-- The events of a reply; a failure has none. -/
def ofReply : Reply → List Event
  | .response response => ofResponse response
  | .failure _ => []

end Event

namespace Reply

/-- The reply where none waits: success without rows. -/
def unprepared : Reply := .response (.plain 200 "[]")

/-- The response of a reply, unless it failed or was rejected. -/
def accepted : Reply → Except Error Response
  | .response arrived =>
      if arrived.isSuccess then .ok arrived
      else .error (.rejected arrived.status arrived.content)
  | .failure cause => .error (.transport cause)

end Reply

/-- The state of a conversation. -/
structure Session where
  waiting : List Reply := []
  sent : List Request := []
  events : List Event := []
  deriving Inhabited

namespace Session

/-- Let a reply wait behind all others. -/
def prepare (session : Session) (reply : Reply) : Session :=
  { session with waiting := session.waiting ++ [reply] }

/-- Report an event. -/
def report (session : Session) (event : Event) : Session :=
  { session with events := session.events ++ [event] }

/-- The reply that the next request gets. -/
def nextReply (session : Session) : Reply := session.waiting.headD .unprepared

/-- Send a request and take its reply. -/
def exchange (session : Session) (request : Request) : Session where
  waiting := session.waiting.tail
  sent := session.sent ++ [request]
  events := session.events ++ Event.ofRequest request :: Event.ofReply session.nextReply

/-- Send a request and take the response, unless it failed or was rejected. -/
def roundTrip (session : Session) (request : Request) : Except Error Response × Session :=
  (session.nextReply.accepted, session.exchange request)

end Session
end RestQuery
