import RestQuery.Text.Cut

/-!
# JSON documents

A document is kept as it is written: numbers as their literals, the members of
an object in order and with repeated keys. What a literal counts as, and which
member of a repeated key counts, is decided by whoever reads the document.

Documents are written compactly; inside a text only the double quote, the
backslash and control characters are escaped.
-/

namespace RestQuery

/-- A JSON document. An `unreadable` part is grammatical but stands for no
text: a text with an unpaired surrogate escape, or an object with such a key.
It can be skipped but not read. -/
inductive Json
  | null
  | bool (value : Bool)
  | number (literal : List Char)
  | text (value : String)
  | unreadable
  | array (items : List Json)
  | object (members : List (String × Json))
  deriving Inhabited

namespace Json

/-- The hexadecimal digit of a number below sixteen, in lower case. -/
def hexDigit (n : Nat) : Char := Nat.digitChar n

/-- The letter that stands for a character behind a backslash. -/
def escapeLetter? (c : Char) : Option Char :=
  if c == '"' then some '"'
  else if c == '\\' then some '\\'
  else if c == '\x08' then some 'b'
  else if c == '\x0c' then some 'f'
  else if c == '\n' then some 'n'
  else if c == '\r' then some 'r'
  else if c == '\t' then some 't'
  else none

/-- A character inside a text. -/
def charChars (c : Char) : List Char :=
  match escapeLetter? c with
  | some letter => ['\\', letter]
  | none =>
      if c.toNat < 0x20 then
        ['\\', 'u', '0', '0', hexDigit (c.toNat / 16), hexDigit (c.toNat % 16)]
      else [c]

/-- A text between double quotes. -/
def textChars (value : String) : List Char :=
  '"' :: value.toList.flatMap charChars ++ ['"']

mutual

/-- The compact form of a document; an unreadable part is written as null. -/
def chars : Json → List Char
  | null => "null".toList
  | bool true => "true".toList
  | bool false => "false".toList
  | number literal => literal
  | text value => textChars value
  | unreadable => "null".toList
  | array items => '[' :: Text.joinWith ',' (itemsChars items) ++ [']']
  | object members => '\x7b' :: Text.joinWith ',' (membersChars members) ++ ['\x7d']

/-- The compact forms of the items of an array. -/
def itemsChars : List Json → List (List Char)
  | [] => []
  | item :: items => item.chars :: itemsChars items

/-- The compact forms of the members of an object. -/
def membersChars : List (String × Json) → List (List Char)
  | [] => []
  | (key, value) :: members =>
      (textChars key ++ ':' :: value.chars) :: membersChars members

end

/-- The compact form of a document, as a string. -/
def compact (json : Json) : String := String.ofList json.chars

mutual

/-- The greatest number of arrays and objects around one point. -/
def depth : Json → Nat
  | array items => itemsDepth items + 1
  | object members => membersDepth members + 1
  | _ => 0

/-- The greatest depth among items. -/
def itemsDepth : List Json → Nat
  | [] => 0
  | item :: items => max item.depth (itemsDepth items)

/-- The greatest depth among the values of members. -/
def membersDepth : List (String × Json) → Nat
  | [] => 0
  | (_, value) :: members => max value.depth (membersDepth members)

end

end Json
end RestQuery
