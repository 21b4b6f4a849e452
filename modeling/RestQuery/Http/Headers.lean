import RestQuery.SortedMap

/-!
# Headers

Headers are kept under the spelling of their names, sorted. Two names are the
same header when they agree but for the case of ASCII letters; looking up and
merging respect that, storing does not.
-/

namespace RestQuery

/-- The headers of a request or a response. -/
abbrev Headers := SortedMap String

namespace Headers

/-- A name with its ASCII letters in lower case. -/
def foldName (name : String) : String := String.ofList (name.toList.map Char.toLower)

/-- The names denote the same header. -/
def sameName (left right : String) : Bool := foldName left == foldName right

/-- The value of a header in any spelling; of several spellings the first in
the order counts. -/
def find? (headers : Headers) (name : String) : Option String :=
  (headers.findKey? fun key => sameName key name).map (·.2)

/-- Set a header and drop its other spellings. -/
def override (headers : Headers) (name value : String) : Headers :=
  (headers.filterKeys fun key => !sameName key name).insert name value

/-- Set the headers of `overrides`, in their order. -/
def merge (base overrides : Headers) : Headers :=
  overrides.entries.foldl (fun headers entry => headers.override entry.1 entry.2) base

/-! ## Names and values -/

def prefer : String := "Prefer"
def accept : String := "Accept"
def range : String := "Range"
def rangeUnit : String := "Range-Unit"
def contentRange : String := "Content-Range"
def acceptProfile : String := "Accept-Profile"
def contentProfile : String := "Content-Profile"
def clientInfo : String := "X-Client-Info"
def contentType : String := "Content-Type"
def authorization : String := "Authorization"
def apiKey : String := "apikey"

/-- The media type of a single object, in place of an array. -/
def objectJson : String := "application/vnd.pgrst.object+json"

/-- The media type of JSON documents. -/
def json : String := "application/json"

/-- Any media type. -/
def anyType : String := "*/*"

end Headers
end RestQuery
