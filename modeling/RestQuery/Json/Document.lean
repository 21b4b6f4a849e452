import RestQuery.Json.Token

/-!
# Reading JSON documents

Tokens are put together by a machine with a stack of open arrays and objects,
one token at a time. Nothing may follow the document, and nesting is not
bounded here.
-/

namespace RestQuery
namespace Json

/-- An array or object that is still open: what it holds so far, in reverse,
and for an object the key whose value comes next. -/
inductive Frame
  | array (before : List Json)
  | object (before : List (Option String × Json)) (key : Option String)

/-- Where the machine stands: before a value; just behind an opening bracket;
before a key; behind a key; behind a value inside a frame; or at the end. -/
inductive Progress
  | beforeValue (stack : List Frame)
  | inArray (stack : List Frame)
  | inObject (stack : List Frame)
  | beforeKey (before : List (Option String × Json)) (stack : List Frame)
  | beforeColon
      (before : List (Option String × Json))
      (key : Option String)
      (stack : List Frame)
  | behindValue (frame : Frame) (stack : List Frame)
  | done (document : Json)

namespace Progress

/-- A value is complete. -/
def complete (value : Json) : List Frame → Progress
  | [] => .done value
  | .array before :: stack => .behindValue (.array (value :: before)) stack
  | .object before key :: stack =>
      .behindValue (.object ((key, value) :: before) none) stack

/-- The members of an object, unless a key is no text. -/
def members? : List (Option String × Json) → Option (List (String × Json))
  | [] => some []
  | (none, _) :: _ => none
  | (some key, value) :: rest => (members? rest).map ((key, value) :: ·)

/-- An object is complete. -/
def completeObject
    (before : List (Option String × Json))
    (stack : List Frame) :
    Progress :=
  match members? before.reverse with
  | some members => complete (.object members) stack
  | none => complete .unreadable stack

/-- A value starts, or is already complete. -/
def begin? (stack : List Frame) : Token → Option Progress
  | .null => some (complete .null stack)
  | .bool value => some (complete (.bool value) stack)
  | .number literal => some (complete (.number literal) stack)
  | .text (some value) => some (complete (.text value) stack)
  | .text none => some (complete .unreadable stack)
  | .openArray => some (.inArray stack)
  | .openObject => some (.inObject stack)
  | _ => none

/-- Read one token. -/
def step? (progress : Progress) (token : Token) : Option Progress :=
  match progress, token with
  | .beforeValue stack, token => begin? stack token
  | .inArray stack, .closeArray => some (complete (.array []) stack)
  | .inArray stack, token => begin? (.array [] :: stack) token
  | .inObject stack, .closeObject => some (complete (.object []) stack)
  | .inObject stack, .text key => some (.beforeColon [] key stack)
  | .beforeKey before stack, .text key => some (.beforeColon before key stack)
  | .beforeColon before key stack, .colon => some (.beforeValue (.object before key :: stack))
  | .behindValue (.array before) stack, .comma => some (.beforeValue (.array before :: stack))
  | .behindValue (.array before) stack, .closeArray =>
      some (complete (.array before.reverse) stack)
  | .behindValue (.object before _) stack, .comma => some (.beforeKey before stack)
  | .behindValue (.object before _) stack, .closeObject => some (completeObject before stack)
  | _, _ => none

end Progress

/-- The document that tokens form. -/
def ofTokens? (tokens : List Token) : Option Json :=
  match tokens.foldlM Progress.step? (.beforeValue []) with
  | some (.done document) => some document
  | _ => none

/-- The document that a text is. -/
def read? (s : List Char) : Option Json := (tokens? s).bind ofTokens?

end Json
end RestQuery
