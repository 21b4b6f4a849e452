/-!
# Request methods

The methods of requests, and which of them only read.
-/

namespace RestQuery

/-- The method of a request. -/
inductive Method
  | get
  | post
  | patch
  | delete
  | head
  deriving DecidableEq, Repr

namespace Method

/-- Every method. -/
def all : List Method := [get, post, patch, delete, head]

/-- The name of a method on the wire. -/
def name : Method → String
  | get => "GET"
  | post => "POST"
  | patch => "PATCH"
  | delete => "DELETE"
  | head => "HEAD"

/-- A request with the method changes nothing on the server. -/
def isRead : Method → Bool
  | get | head => true
  | post | patch | delete => false

end Method
end RestQuery
