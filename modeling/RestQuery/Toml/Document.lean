import RestQuery.Toml.Draft
import RestQuery.Toml.Token

/-!
# Reading TOML documents

Tokens are put together by a machine with a stack of open arrays and tables,
one token at a time. Headers and keys with their values stand on lines of their
own. Inside brackets lines may be broken between the items, inside braces also
on both sides of an equals sign; never inside a key.
-/

namespace RestQuery
namespace Toml

/-- What is open around a value: the line of its key, an array with what it
holds so far, in reverse, or a table between braces with the key whose value
comes next. -/
inductive Frame
  | line (path : List String)
  | array (before : List Toml)
  | braces (entries : Entries) (path : List String)

/-- What a key is read for. -/
inductive Purpose
  | header
  | series
  | assignment
  | member (entries : Entries) (stack : List Frame)

/-- Where the machine stands. The names of a key are kept in reverse. -/
inductive Progress
  | lineStart
  | lineEnd
  | headerStart
  | beforeName (purpose : Purpose) (names : List String)
  | behindName (purpose : Purpose) (names : List String) (last : String)
  | seriesEnd (names : List String) (last : String)
  | beforeEquals (entries : Entries) (path : List String) (stack : List Frame)
  | beforeValue (stack : List Frame)
  | inWord (s : List Char) (stack : List Frame)
  | behindWord (s : List Char) (gap : List Char) (stack : List Frame)
  | inArray (before : List Toml) (stack : List Frame)
  | behindItem (before : List Toml) (stack : List Frame)
  | inBraces (entries : Entries) (stack : List Frame)
  | behindMember (entries : Entries) (stack : List Frame)

/-- The machine: what has been read, and where it stands. -/
structure Machine where
  outline : Outline := {}
  progress : Progress := .lineStart

namespace Machine

/-- The greatest number of arrays and braces around one another. -/
def depthBound : Nat := 80

/-- The greatest number of names in a key. -/
def nameBound : Nat := 80

/-- The character may stand in a name without quotes. -/
def isNameChar (c : Char) : Bool :=
  c.isAlpha || c.isDigit || c == '_' || c == '-'

/-- The name that a token is. -/
def name? : Token → Option String
  | .word s => if s.all isNameChar then some (String.ofList s) else none
  | .text s => some (String.ofList s)
  | _ => none

/-- A value is complete. -/
def complete? (outline : Outline) (value : Toml) : List Frame → Option Machine
  | [] => none
  | .line path :: _ => (outline.assign? path value).map fun outline => ⟨outline, .lineEnd⟩
  | .array before :: stack => some ⟨outline, .behindItem (value :: before) stack⟩
  | .braces entries path :: stack =>
      (entries.assign? value path).map fun entries => ⟨outline, .behindMember entries stack⟩

/-- A value starts, or is already complete. -/
def begin? (outline : Outline) (stack : List Frame) : Token → Option Machine
  | .word s => some ⟨outline, .inWord s stack⟩
  | .text s => complete? outline (.text (String.ofList s)) stack
  | .block s => complete? outline (.text (String.ofList s)) stack
  | .openBracket =>
      if stack.length ≤ depthBound then some ⟨outline, .inArray [] stack⟩ else none
  | .openBrace =>
      if stack.length ≤ depthBound then some ⟨outline, .inBraces [] stack⟩ else none
  | _ => none

/-- Read a token where a name must come. -/
def nameStep?
    (outline : Outline)
    (purpose : Purpose)
    (names : List String) :
    Token → Option Machine
  | .blank _ => some ⟨outline, .beforeName purpose names⟩
  | token => (name? token).map fun last => ⟨outline, .behindName purpose names last⟩

/-- Read a token behind a name. -/
def behindNameStep?
    (outline : Outline)
    (purpose : Purpose)
    (names : List String)
    (last : String) :
    Token → Option Machine
  | .blank _ => some ⟨outline, .behindName purpose names last⟩
  | .dot =>
      if names.length + 1 < nameBound then
        some ⟨outline, .beforeName purpose (last :: names)⟩
      else none
  | .newline =>
      match purpose with
      | .member entries stack =>
          some ⟨outline, .beforeEquals entries (last :: names).reverse stack⟩
      | _ => none
  | .equals =>
      match purpose with
      | .assignment => some ⟨outline, .beforeValue [.line (last :: names).reverse]⟩
      | .member entries stack =>
          some ⟨outline, .beforeValue (.braces entries (last :: names).reverse :: stack)⟩
      | _ => none
  | .closeBracket =>
      match purpose with
      | .header => (outline.openTable? names.reverse last).map fun outline => ⟨outline, .lineEnd⟩
      | .series => some ⟨outline, .seriesEnd names last⟩
      | _ => none
  | _ => none

/-- Read a token inside braces behind a key and the end of its line. -/
def beforeEqualsStep?
    (outline : Outline)
    (entries : Entries)
    (path : List String)
    (stack : List Frame) :
    Token → Option Machine
  | .newline => some ⟨outline, .beforeEquals entries path stack⟩
  | .blank _ => some ⟨outline, .beforeEquals entries path stack⟩
  | .equals => some ⟨outline, .beforeValue (.braces entries path :: stack)⟩
  | _ => none

/-- Read a token behind an equals sign. -/
def beforeValueStep? (outline : Outline) : List Frame → Token → Option Machine
  | stack, .blank _ => some ⟨outline, .beforeValue stack⟩
  | .braces entries path :: stack, .newline =>
      some ⟨outline, .beforeValue (.braces entries path :: stack)⟩
  | stack, token => begin? outline stack token

/-- Read a token at the start of a line. -/
def lineStartStep? (outline : Outline) : Token → Option Machine
  | .newline => some ⟨outline, .lineStart⟩
  | .blank _ => some ⟨outline, .lineStart⟩
  | .openBracket => some ⟨outline, .headerStart⟩
  | token => nameStep? outline .assignment [] token

/-- Read a token behind an opening bracket at the start of a line. -/
def headerStartStep? (outline : Outline) : Token → Option Machine
  | .openBracket => some ⟨outline, .beforeName .series []⟩
  | token => nameStep? outline .header [] token

/-- Read a token inside brackets, where an item or the end comes. -/
def arrayStep?
    (outline : Outline)
    (before : List Toml)
    (stack : List Frame) :
    Token → Option Machine
  | .newline => some ⟨outline, .inArray before stack⟩
  | .blank _ => some ⟨outline, .inArray before stack⟩
  | .closeBracket => complete? outline (.array before.reverse) stack
  | token => begin? outline (.array before :: stack) token

/-- Read a token inside braces, where a key or the end comes. -/
def bracesStep?
    (outline : Outline)
    (entries : Entries)
    (stack : List Frame) :
    Token → Option Machine
  | .newline => some ⟨outline, .inBraces entries stack⟩
  | .blank _ => some ⟨outline, .inBraces entries stack⟩
  | .closeBrace => complete? outline (.table (finishEntries entries)) stack
  | token => nameStep? outline (.member entries stack) [] token

/-- Read a token behind a value. -/
def behindValueStep? (outline : Outline) : Progress → Token → Option Machine
  | .lineEnd, .newline => some ⟨outline, .lineStart⟩
  | .lineEnd, .blank _ => some ⟨outline, .lineEnd⟩
  | .behindItem before stack, .newline => some ⟨outline, .behindItem before stack⟩
  | .behindItem before stack, .blank _ => some ⟨outline, .behindItem before stack⟩
  | .behindItem before stack, .comma => some ⟨outline, .inArray before stack⟩
  | .behindItem before stack, .closeBracket => complete? outline (.array before.reverse) stack
  | .behindMember entries stack, .newline => some ⟨outline, .behindMember entries stack⟩
  | .behindMember entries stack, .blank _ => some ⟨outline, .behindMember entries stack⟩
  | .behindMember entries stack, .comma => some ⟨outline, .inBraces entries stack⟩
  | .behindMember entries stack, .closeBrace =>
      complete? outline (.table (finishEntries entries)) stack
  | _, _ => none

/-- Read a token behind a value without quotes, which is complete. -/
def behindPlainStep?
    (outline : Outline)
    (s : List Char)
    (stack : List Frame)
    (token : Token) :
    Option Machine := do
  let machine ← complete? outline (← readPlain? s) stack
  behindValueStep? machine.outline machine.progress token

/-- Read one token. A value without quotes may have points in it, and blanks
between its words; whether there is such a value shows when it is complete. -/
def step? (machine : Machine) (token : Token) : Option Machine :=
  let outline := machine.outline
  match machine.progress, token with
  | .lineStart, token => lineStartStep? outline token
  | .headerStart, token => headerStartStep? outline token
  | .beforeName purpose names, token => nameStep? outline purpose names token
  | .behindName purpose names last, token => behindNameStep? outline purpose names last token
  | .seriesEnd names last, .closeBracket =>
      (outline.openSeries? names.reverse last).map fun outline => ⟨outline, .lineEnd⟩
  | .seriesEnd _ _, _ => none
  | .beforeEquals entries path stack, token => beforeEqualsStep? outline entries path stack token
  | .beforeValue stack, token => beforeValueStep? outline stack token
  | .inWord s stack, .word more => some ⟨outline, .inWord (s ++ more) stack⟩
  | .inWord s stack, .dot => some ⟨outline, .inWord (s ++ ['.']) stack⟩
  | .inWord s stack, .blank c => some ⟨outline, .behindWord s [c] stack⟩
  | .inWord s stack, token => behindPlainStep? outline s stack token
  | .behindWord s gap stack, .blank c => some ⟨outline, .behindWord s (gap ++ [c]) stack⟩
  | .behindWord s gap stack, .word more => some ⟨outline, .inWord (s ++ gap ++ more) stack⟩
  | .behindWord s _ stack, token => behindPlainStep? outline s stack token
  | .inArray before stack, token => arrayStep? outline before stack token
  | .inBraces entries stack, token => bracesStep? outline entries stack token
  | progress, token => behindValueStep? outline progress token

end Machine

/-- The document that tokens form; the last line need not be ended. -/
def ofTokens? (tokens : List Token) : Option Toml :=
  match (tokens ++ [Token.newline]).foldlM Machine.step? {} with
  | some ⟨outline, .lineStart⟩ => some (.table (finishEntries outline.entries))
  | _ => none

/-- The document that a text is. -/
def read? (s : List Char) : Option Toml := (tokens? s).bind ofTokens?

end Toml
end RestQuery
