import RestQuery.Number.Literal
import RestQuery.Toml.Timestamp

/-!
# TOML documents

A document is a table of values under keys. Beside texts, numbers, truth values
and timestamps, values are arrays and further tables. Single values without
quotes are read here.

Whether a text has the form of a number is one question, and which number it is
another. A document may hold numbers that are formed well and stand for none;
that matters only to those who ask for the value.
-/

namespace RestQuery

/-- A value in a TOML document. What is unreadable has the form of a number. -/
inductive Toml
  | text (value : String)
  | integer (value : Int)
  | float (value : Number.Binary64)
  | unreadable
  | bool (value : Bool)
  | timestamp (value : Toml.Timestamp)
  | array (items : List Toml)
  | table (entries : List (String × Toml))

namespace Toml

mutual

/-- There is no unreadable number in a value. -/
def isReadable : Toml → Bool
  | text _ => true
  | integer _ => true
  | float _ => true
  | unreadable => false
  | bool _ => true
  | timestamp _ => true
  | array items => areReadable items
  | table entries => areReadableEntries entries

/-- There is no unreadable number among items. -/
def areReadable : List Toml → Bool
  | [] => true
  | item :: rest => item.isReadable && areReadable rest

/-- There is no unreadable number among the values of entries. -/
def areReadableEntries : List (String × Toml) → Bool
  | [] => true
  | (_, value) :: rest => value.isReadable && areReadableEntries rest

end

/-! ## Digits -/

/-- Digits in groups: underscores stand between two digits and are dropped. -/
def ungroup? (isDigit : Char → Bool) : List Char → Option (List Char)
  | [] => none
  | [c] => if isDigit c then some [c] else none
  | c :: '_' :: rest =>
      if isDigit c then (ungroup? isDigit rest).map (c :: ·) else none
  | c :: next :: rest =>
      if isDigit c then (ungroup? isDigit (next :: rest)).map (c :: ·) else none

/-- Decimal digits that do not start with a needless zero. -/
def readDecimalDigits? (s : List Char) : Option (List Char) :=
  match ungroup? Char.isDigit s with
  | some ('0' :: _ :: _) => none
  | digits => digits

/-- The value of a hexadecimal digit in either case. -/
def hexValue? (c : Char) : Option Nat :=
  if c.isDigit then some (c.toNat - '0'.toNat)
  else if 'a' ≤ c && c ≤ 'f' then some (c.toNat - 'a'.toNat + 10)
  else if 'A' ≤ c && c ≤ 'F' then some (c.toNat - 'A'.toNat + 10)
  else none

/-- The number that grouped digits of a base are. -/
def readInBase? (base : Nat) (s : List Char) : Option Nat := do
  let digits ← ungroup? (fun c => (hexValue? c).any (· < base)) s
  return digits.foldl (fun value c => value * base + (hexValue? c).getD 0) 0

/-! ## Integers -/

/-- Integers below this one are out of range. -/
def leastInteger : Int := -170141183460469231731687303715884105728

/-- Integers above this one are out of range. -/
def greatestInteger : Int := 340282366920938463463374607431768211455

/-- An integer, unless it is out of range. -/
def ofInteger (value : Int) : Toml :=
  if leastInteger ≤ value && value ≤ greatestInteger then integer value else unreadable

/-- An integer in the digits of a base; its mark alone is unreadable. -/
def readBased? (base : Nat) : List Char → Option Toml
  | [] => some unreadable
  | digits => (readInBase? base digits).map fun value => ofInteger value

/-- The character is a digit of the greatest base. -/
def isHexDigit (c : Char) : Bool := (hexValue? c).isSome

/-- Behind the first character, underscores stand between two hexadecimal digits
only. -/
def isGrouped : List Char → Bool
  | c :: '_' :: rest => isHexDigit c && rest.head?.any isHexDigit && isGrouped rest
  | _ :: rest => isGrouped rest
  | [] => true

/-- The character tells that a text is no integer: it is a space, or a mark of a
floating-point number. -/
def isForeign (c : Char) : Bool := c == ' ' || c == '.' || c == 'e' || c == 'E'

/-- The text has the form of a decimal integer: digits, the first of several no
zero. Behind an underscore it is not looked at closely, only that all is in
groups and nothing foreign is among it. -/
def hasDecimalForm (s : List Char) : Bool :=
  s.head?.any Char.isDigit && (s.head? != some '0' || s.length = 1)
    && match s.dropWhile Char.isDigit with
      | [] => true
      | '_' :: rest => isGrouped s && !rest.any isForeign
      | _ :: _ => false

/-- A decimal integer behind its sign. -/
def readDecimal? (negative : Bool) (s : List Char) : Option Toml :=
  if hasDecimalForm s then
    match readDecimalDigits? s with
    | some digits =>
        let magnitude : Int := (Nat.ofDigitChars 10 digits 0 : Nat)
        some (ofInteger (if negative then -magnitude else magnitude))
    | none => some unreadable
  else none

/-- An integer: in one of three bases behind their marks, or in decimal digits,
and only these may have a sign. -/
def readInteger? : List Char → Option Toml
  | '0' :: 'x' :: rest => readBased? 16 rest
  | '0' :: 'o' :: rest => readBased? 8 rest
  | '0' :: 'b' :: rest => readBased? 2 rest
  | '+' :: rest => readDecimal? false rest
  | '-' :: rest => readDecimal? true rest
  | s => readDecimal? false s

/-! ## Floating-point numbers -/

/-- The parts of a text before and from the first character satisfying `p`. -/
def breakAt (p : Char → Bool) (s : List Char) : List Char × List Char :=
  (s.takeWhile fun c => !p c, s.dropWhile fun c => !p c)

/-- A fraction with its point, if there is one, as it is counted. -/
def plainFraction? : List Char → Option (List Char)
  | [] => some []
  | _ :: digits => (ungroup? Char.isDigit digits).map ('.' :: ·)

/-- An exponent with its mark, if there is one, as it is counted. -/
def plainExponent? : List Char → Option (List Char)
  | [] => some []
  | _ :: '+' :: digits => (ungroup? Char.isDigit digits).map ('e' :: ·)
  | _ :: '-' :: digits => (ungroup? Char.isDigit digits).map fun plain => 'e' :: '-' :: plain
  | _ :: digits => (ungroup? Char.isDigit digits).map ('e' :: ·)

/-- The digits of a floating-point number without underscores. It has a
fraction or an exponent. -/
def plainFloat? (s : List Char) : Option (List Char) := do
  let (mantissa, exponent) := breakAt (fun c => c == 'e' || c == 'E') s
  let (whole, fraction) := breakAt (· == '.') mantissa
  if fraction.isEmpty && exponent.isEmpty then none
  else
    return (← readDecimalDigits? whole) ++ (← plainFraction? fraction)
      ++ (← plainExponent? exponent)

/-- The floating-point number is not the infinity that stands for all numbers
that are too large. -/
def isBounded : Number.Binary64 → Bool
  | .infinite _ => false
  | _ => true

/-- The magnitude of a floating-point number: digits, or one of two names. -/
def readFloatMagnitude? (negative : Bool) (s : List Char) : Option Toml :=
  if s = "inf".toList then some (float (.infinite negative))
  else if s = "nan".toList then some (float .nan)
  else do
    let digits ← plainFloat? s
    let literal ← Number.readLiteral? digits
    let value := Number.Binary64.ofDecimal negative literal.significand literal.scale
    return if isBounded value then float value else unreadable

/-- A floating-point number. -/
def readFloat? (s : List Char) : Option Toml :=
  let (negative, magnitude) := Number.splitSign s
  readFloatMagnitude? negative magnitude

/-! ## Values without quotes -/

/-- The value of a text without quotes. -/
def readPlain? (s : List Char) : Option Toml :=
  if s = "true".toList then some (bool true)
  else if s = "false".toList then some (bool false)
  else
    match readInteger? s, readFloat? s with
    | some value, _ => some value
    | none, some value => some value
    | none, none => (Timestamp.read? s).map timestamp

end Toml
end RestQuery
