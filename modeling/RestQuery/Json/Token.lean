import RestQuery.Json.Basic

/-!
# Tokens of JSON documents

One pass over the characters of a document cuts it into punctuation, texts and
words. A word is a run of other characters: one of three names or a number.
Texts are resolved here; an escape of an unpaired surrogate leaves a text
without value.
-/

namespace RestQuery
namespace Json

/-- A token of a document. -/
inductive Token
  | openArray
  | closeArray
  | openObject
  | closeObject
  | comma
  | colon
  | null
  | bool (value : Bool)
  | number (literal : List Char)
  | text (value : Option String)
  deriving DecidableEq

/-! ## Numbers -/

/-- The text behind the integral digits of a number: a single zero, or digits
that do not start with one. -/
def afterIntegral? : List Char → Option (List Char)
  | '0' :: rest => some rest
  | c :: rest => if c.isDigit then some (rest.dropWhile Char.isDigit) else none
  | [] => none

/-- The text behind one or more digits. -/
def afterDigits? : List Char → Option (List Char)
  | c :: rest => if c.isDigit then some (rest.dropWhile Char.isDigit) else none
  | [] => none

/-- The text behind a fraction, if there is one. -/
def afterFraction? : List Char → Option (List Char)
  | '.' :: rest => afterDigits? rest
  | s => some s

/-- The text behind an exponent, if there is one. -/
def afterExponent? : List Char → Option (List Char)
  | c :: rest =>
      if c == 'e' || c == 'E' then
        match rest with
        | '+' :: digits => afterDigits? digits
        | '-' :: digits => afterDigits? digits
        | digits => afterDigits? digits
      else some (c :: rest)
  | [] => some []

/-- A literal without the minus sign of a negative number. -/
def magnitude : List Char → List Char
  | '-' :: rest => rest
  | s => s

/-- The word is a number. -/
def isNumber (s : List Char) : Bool :=
  (((afterIntegral? (magnitude s)).bind afterFraction?).bind afterExponent?) == some []

/-- The token of a word. -/
def wordToken? (s : List Char) : Option Token :=
  if s = "null".toList then some .null
  else if s = "true".toList then some (.bool true)
  else if s = "false".toList then some (.bool false)
  else if isNumber s then some (.number s)
  else none

/-! ## Texts -/

/-- A character of a text, or the number behind a `\u` escape. -/
inductive Piece
  | char (c : Char)
  | code (n : Nat)
  deriving DecidableEq

/-- The number is the first half of a surrogate pair. -/
def isLeading (n : Nat) : Bool := 0xD800 ≤ n && n < 0xDC00

/-- The number is the second half of a surrogate pair. -/
def isTrailing (n : Nat) : Bool := 0xDC00 ≤ n && n < 0xE000

/-- The character that a surrogate pair stands for. -/
def pairChar (leading trailing : Nat) : Char :=
  Char.ofNat (0x10000 + (leading - 0xD800) * 0x400 + (trailing - 0xDC00))

/-- The characters of a text; `none` for an unpaired surrogate. -/
def resolvePieces? : List Piece → Option (List Char)
  | [] => some []
  | .char c :: rest => (resolvePieces? rest).map (c :: ·)
  | .code n :: rest =>
      if isLeading n then
        match rest with
        | .code m :: more =>
            if isTrailing m then (resolvePieces? more).map (pairChar n m :: ·) else none
        | _ => none
      else if isTrailing n then none
      else (resolvePieces? rest).map (Char.ofNat n :: ·)

/-- The character that a letter behind a backslash stands for. -/
def unescapeLetter? (c : Char) : Option Char :=
  if c == '"' then some '"'
  else if c == '\\' then some '\\'
  else if c == '/' then some '/'
  else if c == 'b' then some '\x08'
  else if c == 'f' then some '\x0c'
  else if c == 'n' then some '\n'
  else if c == 'r' then some '\r'
  else if c == 't' then some '\t'
  else none

/-- The value of a hexadecimal digit in either case. -/
def hexValue? (c : Char) : Option Nat :=
  if c.isDigit then some (c.toNat - '0'.toNat)
  else if 'a' ≤ c && c ≤ 'f' then some (c.toNat - 'a'.toNat + 10)
  else if 'A' ≤ c && c ≤ 'F' then some (c.toNat - 'A'.toNat + 10)
  else none

/-! ## The pass -/

/-- Where the pass stands inside a text: before a character, behind a
backslash, or behind some hexadecimal digits of a `\u` escape. -/
inductive Escape
  | none
  | letter
  | hex (count value : Nat)
  deriving DecidableEq

/-- Where the pass stands. What has been read of a word or of a text is kept in
reverse. -/
inductive Mode
  | between
  | word (before : List Char)
  | text (before : List Piece) (escape : Escape)
  deriving DecidableEq

/-- White space between tokens. -/
def isSpace (c : Char) : Bool := c == ' ' || c == '\t' || c == '\n' || c == '\r'

/-- The token that a punctuation character is. -/
def punctuation? (c : Char) : Option Token :=
  if c == '[' then some .openArray
  else if c == ']' then some .closeArray
  else if c == '\x7b' then some .openObject
  else if c == '\x7d' then some .closeObject
  else if c == ',' then some .comma
  else if c == ':' then some .colon
  else none

/-- Read one character inside a text: the tokens it completes and the next
mode. -/
def textStep?
    (before : List Piece)
    (c : Char) :
    Escape → Option (List Token × Mode)
  | .none =>
      if c == '"' then
        some ([.text ((resolvePieces? before.reverse).map String.ofList)], .between)
      else if c == '\\' then some ([], .text before .letter)
      else if c.toNat < 0x20 then none
      else some ([], .text (.char c :: before) .none)
  | .letter =>
      if c == 'u' then some ([], .text before (.hex 0 0))
      else (unescapeLetter? c).map fun d => ([], .text (.char d :: before) .none)
  | .hex count value =>
      (hexValue? c).map fun digit =>
        if count = 3 then ([], .text (.code (value * 16 + digit) :: before) .none)
        else ([], .text before (.hex (count + 1) (value * 16 + digit)))

/-- Read one character outside texts. -/
def openStep (c : Char) : List Token × Mode :=
  match punctuation? c with
  | some token => ([token], .between)
  | none =>
      if isSpace c then ([], .between)
      else if c == '"' then ([], .text [] .none)
      else ([], .word [c])

/-- Read one character: the tokens it completes and the next mode. -/
def Mode.step? (c : Char) : Mode → Option (List Token × Mode)
  | .between => some (openStep c)
  | .word before =>
      match openStep c with
      | (_, .word _) => some ([], .word (c :: before))
      | (tokens, mode) =>
          (wordToken? before.reverse).map fun word => (word :: tokens, mode)
  | .text before escape => textStep? before c escape

/-- The tokens that the end of the document completes. -/
def Mode.finish? : Mode → Option (List Token)
  | .between => some []
  | .word before => (wordToken? before.reverse).map ([·])
  | .text _ _ => none

/-- The tokens of a text read from a mode on. -/
def tokensFrom? (mode : Mode) : List Char → Option (List Token)
  | [] => mode.finish?
  | c :: rest =>
      match mode.step? c with
      | none => none
      | some (tokens, next) => (tokensFrom? next rest).map (tokens ++ ·)

/-- The tokens of a document. -/
def tokens? (s : List Char) : Option (List Token) := tokensFrom? .between s

end Json
end RestQuery
