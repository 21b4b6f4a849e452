import RestQuery.Toml.Basic

/-!
# Tokens of TOML documents

One pass over the characters of a document cuts it into punctuation, blanks,
texts and words; comments are dropped. A text stands between quotes: double
ones, behind which a backslash escapes, or single ones, behind which nothing
does. Three quotes on each side make a text of several lines, in which a line
break right at the start is dropped. A quote that follows a word without a gap
belongs to the word.
-/

namespace RestQuery
namespace Toml

/-- A token of a document. -/
inductive Token
  | newline
  | blank (c : Char)
  | dot
  | equals
  | comma
  | openBracket
  | closeBracket
  | openBrace
  | closeBrace
  | word (s : List Char)
  | text (s : List Char)
  | block (s : List Char)
  deriving DecidableEq

/-- Where the pass stands inside a text. What has been read of a line break, of
an escape or of the closing quotes waits here. -/
inductive Spot
  | plain
  | start
  | startReturn
  | carriageReturn
  | quotes (count : Nat)
  | escape
  | hex (left value : Nat)
  | gap
  | gapReturn
  | skip
  | skipReturn
  deriving DecidableEq

/-- Where the pass stands. What has been read of a word or of a text is kept in
reverse. -/
inductive Mode
  | between
  | carriageReturn
  | comment
  | word (before : List Char)
  | opened (quote : Char)
  | openedTwice (quote : Char)
  | line (quote : Char) (before : List Char) (spot : Spot)
  | block (quote : Char) (before : List Char) (spot : Spot)
  deriving DecidableEq

/-! ## Characters -/

/-- The character may be in comments and texts: it is no control character
other than a tab. -/
def isContent (c : Char) : Bool := c == '\t' || (0x20 ≤ c.toNat && c.toNat ≠ 0x7F)

/-- The token that a punctuation character is. -/
def punctuation? (c : Char) : Option Token :=
  if c == '\n' then some .newline
  else if c == ' ' || c == '\t' then some (.blank c)
  else if c == '.' then some .dot
  else if c == '=' then some .equals
  else if c == ',' then some .comma
  else if c == '[' then some .openBracket
  else if c == ']' then some .closeBracket
  else if c == '\x7b' then some .openBrace
  else if c == '\x7d' then some .closeBrace
  else none

/-- The character that a letter behind a backslash stands for. -/
def unescapeLetter? (c : Char) : Option Char :=
  if c == '"' then some '"'
  else if c == '\\' then some '\\'
  else if c == 'b' then some '\x08'
  else if c == 'e' then some '\x1b'
  else if c == 'f' then some '\x0c'
  else if c == 'n' then some '\n'
  else if c == 'r' then some '\r'
  else if c == 't' then some '\t'
  else none

/-- The number of hexadecimal digits behind a letter that calls for some. -/
def hexCount? (c : Char) : Option Nat :=
  if c == 'x' then some 2
  else if c == 'u' then some 4
  else if c == 'U' then some 8
  else none

/-- The character with a code point. -/
def charOf? (n : Nat) : Option Char :=
  if n.isValidChar then some (Char.ofNat n) else none

/-! ## Escapes -/

/-- The place behind the character that follows a backslash, and the character
that is complete with it. -/
def escapeStep? (c : Char) : Option (Option Char × Spot) :=
  match unescapeLetter? c with
  | some d => some (some d, .plain)
  | none => (hexCount? c).map fun count => (none, .hex count 0)

/-- The place behind one more hexadecimal digit, and the character that is
complete with it. -/
def hexStep? (left value : Nat) (c : Char) : Option (Option Char × Spot) := do
  let digit ← hexValue? c
  let value := value * 16 + digit
  if left ≤ 1 then return (some (← charOf? value), .plain)
  else return (none, .hex (left - 1) value)

/-- What has been read, with one more character if it is complete. -/
def extend (before : List Char) : Option Char → List Char
  | some c => c :: before
  | none => before

/-! ## The pass -/

/-- Read one character outside words and texts. -/
def openStep (c : Char) : List Token × Mode :=
  match punctuation? c with
  | some token => ([token], .between)
  | none =>
      if c == '\r' then ([], .carriageReturn)
      else if c == '#' then ([], .comment)
      else if c == '"' || c == '\'' then ([], .opened c)
      else ([], .word [c])

/-- Read one character that is none of an escape inside a text of one line. -/
def linePlainStep? (quote : Char) (before : List Char) (c : Char) : Option (List Token × Mode) :=
  if c == quote then some ([.text before.reverse], .between)
  else if quote == '"' && c == '\\' then some ([], .line quote before .escape)
  else if isContent c then some ([], .line quote (c :: before) .plain)
  else none

/-- Read one character inside a text of one line. -/
def lineStep?
    (quote : Char)
    (before : List Char)
    (c : Char) :
    Spot → Option (List Token × Mode)
  | .plain => linePlainStep? quote before c
  | .escape =>
      (escapeStep? c).map fun (done, spot) => ([], .line quote (extend before done) spot)
  | .hex left value =>
      (hexStep? left value c).map fun (done, spot) =>
        ([], .line quote (extend before done) spot)
  | _ => none

/-- Read one character that is none of an escape inside a text of several
lines. -/
def blockPlainStep? (quote : Char) (before : List Char) (c : Char) : Option (List Token × Mode) :=
  if c == quote then some ([], .block quote before (.quotes 1))
  else if quote == '"' && c == '\\' then some ([], .block quote before .escape)
  else if c == '\n' then some ([], .block quote (c :: before) .plain)
  else if c == '\r' then some ([], .block quote (c :: before) .carriageReturn)
  else if isContent c then some ([], .block quote (c :: before) .plain)
  else none

/-- Read one character behind some quotes: up to two of five belong to the
text, fewer than three do not close it. -/
def quotesStep?
    (quote : Char)
    (before : List Char)
    (count : Nat)
    (c : Char) :
    Option (List Token × Mode) :=
  if c == quote then
    if count = 4 then some ([.block (quote :: quote :: before).reverse], .between)
    else some ([], .block quote before (.quotes (count + 1)))
  else if 3 ≤ count then
    let (tokens, mode) := openStep c
    some (.block (List.replicate (count - 3) quote ++ before).reverse :: tokens, mode)
  else blockPlainStep? quote (List.replicate count quote ++ before) c

/-- Read one character inside a text of several lines. -/
def blockStep?
    (quote : Char)
    (before : List Char)
    (c : Char) :
    Spot → Option (List Token × Mode)
  | .plain => blockPlainStep? quote before c
  | .start =>
      if c == '\n' then some ([], .block quote before .plain)
      else if c == '\r' then some ([], .block quote before .startReturn)
      else blockPlainStep? quote before c
  | .startReturn => if c == '\n' then some ([], .block quote before .plain) else none
  | .carriageReturn => if c == '\n' then some ([], .block quote (c :: before) .plain) else none
  | .quotes count => quotesStep? quote before count c
  | .escape =>
      if c == '\n' then some ([], .block quote before .skip)
      else if c == '\r' then some ([], .block quote before .gapReturn)
      else if c == ' ' || c == '\t' then some ([], .block quote before .gap)
      else
        (escapeStep? c).map fun (done, spot) =>
          ([], .block quote (extend before done) spot)
  | .hex left value =>
      (hexStep? left value c).map fun (done, spot) =>
        ([], .block quote (extend before done) spot)
  | .gap =>
      if c == '\n' then some ([], .block quote before .skip)
      else if c == '\r' then some ([], .block quote before .gapReturn)
      else if c == ' ' || c == '\t' then some ([], .block quote before .gap)
      else none
  | .gapReturn => if c == '\n' then some ([], .block quote before .skip) else none
  | .skip =>
      if c == '\n' || c == ' ' || c == '\t' then some ([], .block quote before .skip)
      else if c == '\r' then some ([], .block quote before .skipReturn)
      else blockPlainStep? quote before c
  | .skipReturn => if c == '\n' then some ([], .block quote before .skip) else none

/-- Read one character: the tokens it completes and the next mode. -/
def Mode.step? (c : Char) : Mode → Option (List Token × Mode)
  | .between => some (openStep c)
  | .carriageReturn => if c == '\n' then some ([.newline], .between) else none
  | .comment =>
      if c == '\n' then some ([.newline], .between)
      else if c == '\r' then some ([], .carriageReturn)
      else if isContent c then some ([], .comment)
      else none
  | .word before =>
      if c == '"' || c == '\'' then some ([], .word (c :: before))
      else
        match openStep c with
        | (_, .word _) => some ([], .word (c :: before))
        | (tokens, mode) => some (.word before.reverse :: tokens, mode)
  | .opened quote =>
      if c == quote then some ([], .openedTwice quote)
      else linePlainStep? quote [] c
  | .openedTwice quote =>
      if c == quote then some ([], .block quote [] .start)
      else
        let (tokens, mode) := openStep c
        some (.text [] :: tokens, mode)
  | .line quote before spot => lineStep? quote before c spot
  | .block quote before spot => blockStep? quote before c spot

/-- The tokens that the end of the document completes. -/
def Mode.finish? : Mode → Option (List Token)
  | .between => some []
  | .comment => some []
  | .word before => some [.word before.reverse]
  | .openedTwice _ => some [.text []]
  | .block quote before (.quotes count) =>
      if 3 ≤ count then
        some [.block (List.replicate (count - 3) quote ++ before).reverse]
      else none
  | _ => none

/-- The tokens of a text read from a mode on. -/
def tokensFrom? (mode : Mode) : List Char → Option (List Token)
  | [] => mode.finish?
  | c :: rest =>
      match mode.step? c with
      | none => none
      | some (tokens, next) => (tokensFrom? next rest).map (tokens ++ ·)

/-- The text without the mark that may stand at the start of a document. -/
def withoutMark : List Char → List Char
  | [] => []
  | c :: rest => if c.toNat = 0xFEFF then rest else c :: rest

/-- The tokens of a document. -/
def tokens? (s : List Char) : Option (List Token) := tokensFrom? .between (withoutMark s)

end Toml
end RestQuery
