import RestQuery.Filter.Writing

/-!
# Query strings

Parameters are written behind the address of a request: a question mark, then
keys and values with equals signs, and ampersands between the parameters.
Characters with a meaning there, control characters, blanks and everything
beyond ASCII are written as percent signs with the hexadecimal digits of their
bytes; the punctuation of filters stays readable.
-/

namespace RestQuery
namespace Query

/-- The ASCII characters, beside the control characters, that are not written
plainly. -/
def escapedChars : List Char :=
  [' ', '"', '#', '%', '&', '\'', '+', '<', '=', '>', '?', '\\', '^', '\x60',
    '\x7b', '|', '\x7d']

/-- The character is written with its bytes. -/
def isEscaped (c : Char) : Bool :=
  c.toNat < 0x20 || 0x7F ≤ c.toNat || escapedChars.contains c

/-- The hexadecimal digit of a number below sixteen, in upper case. -/
def hexDigit (n : Nat) : Char := (Nat.digitChar n).toUpper

/-- A byte behind a percent sign. -/
def byteChars (byte : UInt8) : List Char :=
  ['%', hexDigit (byte.toNat / 16), hexDigit (byte.toNat % 16)]

/-- A character of a key or a value. -/
def charChars (c : Char) : List Char :=
  if isEscaped c then (String.utf8EncodeChar c).flatMap byteChars else [c]

/-- A key or a value. -/
def encode (s : List Char) : List Char := s.flatMap charChars

/-- A parameter. -/
def paramChars (param : Param) : List Char :=
  encode param.key.toList ++ '=' :: encode param.value.toList

/-- The query string of some parameters; without parameters there is none. -/
def queryString : List Param → List Char
  | [] => []
  | params => '?' :: Text.joinWith '&' (params.map paramChars)

end Query
end RestQuery
