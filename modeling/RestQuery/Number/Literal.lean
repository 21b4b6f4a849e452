import RestQuery.Number.Binary64

/-!
# Decimal literals

Reading numbers written in decimal: digits with an optional point, at least one
digit on either side of it, and an optional exponent.
-/

namespace RestQuery
namespace Number

/-- A literal without its sign: the digits before and after the point, and the
exponent. -/
structure Literal where
  whole : List Char
  fraction : List Char
  exponent : Int
  deriving DecidableEq

namespace Literal

/-- All digits, as one number. -/
def significand (literal : Literal) : Nat :=
  Nat.ofDigitChars 10 (literal.whole ++ literal.fraction) 0

/-- The power of ten by which the significand is multiplied. -/
def scale (literal : Literal) : Int :=
  literal.exponent - literal.fraction.length

end Literal

/-- The digits behind the exponent mark, with an optional sign; nothing at all
stands for zero. -/
def readExponent? : List Char → Option Int
  | [] => some 0
  | mark :: rest =>
      if mark == 'e' || mark == 'E' then
        match rest with
        | '-' :: digits =>
            if !digits.isEmpty && digits.all Char.isDigit then
              some (-(Nat.ofDigitChars 10 digits 0 : Nat))
            else none
        | '+' :: digits =>
            if !digits.isEmpty && digits.all Char.isDigit then
              some (Nat.ofDigitChars 10 digits 0 : Nat)
            else none
        | digits =>
            if !digits.isEmpty && digits.all Char.isDigit then
              some (Nat.ofDigitChars 10 digits 0 : Nat)
            else none
      else none

/-- A literal that takes up the whole text. -/
def readLiteral? (s : List Char) : Option Literal :=
  let whole := s.takeWhile Char.isDigit
  let behind := s.dropWhile Char.isDigit
  let (fraction, tail) :=
    match behind with
    | '.' :: rest => (rest.takeWhile Char.isDigit, rest.dropWhile Char.isDigit)
    | rest => ([], rest)
  if whole.isEmpty && fraction.isEmpty then none
  else (readExponent? tail).map fun exponent => ⟨whole, fraction, exponent⟩

/-- The sign of a text, and the text behind it. -/
def splitSign : List Char → Bool × List Char
  | '-' :: rest => (true, rest)
  | '+' :: rest => (false, rest)
  | s => (false, s)

/-- The names of the numbers that have no digits, in any case of letters. -/
def readNamed? (negative : Bool) (s : List Char) : Option Binary64 :=
  match String.ofList (s.map Char.toLower) with
  | "nan" => some .nan
  | "inf" => some (.infinite negative)
  | "infinity" => some (.infinite negative)
  | _ => none

/-- A number with `round` applied to its digits. -/
def readRounded?
    (round : Bool → Nat → Int → Binary64)
    (s : List Char) :
    Option Binary64 :=
  let (negative, magnitude) := splitSign s
  match readLiteral? magnitude with
  | some literal => some (round negative literal.significand literal.scale)
  | none => readNamed? negative magnitude

/-- The number of fifty-three significant bits that a text stands for. -/
def readBinary64? : List Char → Option Binary64 := readRounded? Binary64.ofDecimal

/-- The number of twenty-four significant bits that a text stands for. -/
def readBinary32? : List Char → Option Binary64 := readRounded? Binary64.ofShortDecimal

end Number
end RestQuery
