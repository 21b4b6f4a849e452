import RestQuery.Number.Shortest
import RestQuery.Text.Whole

/-!
# Notations for decimals

How a decimal is laid out is decided by a record: which way ties of the digits
go, which magnitudes are written positionally, and whether a whole number keeps
a point and a zero. All other magnitudes get a digit, a point and the further
digits, and an exponent with its sign.
-/

namespace RestQuery
namespace Number

/-- The decisions of a number format. `positional` is asked about the exponent
of the leading digit. -/
structure Notation where
  tie : Tie
  positional : Int → Bool
  wholePoint : Bool

namespace Notation

/-- Digits with the point `places` places to the left of their end. -/
def pointed (digits : List Char) (places : Nat) : List Char :=
  if places < digits.length then
    digits.take (digits.length - places) ++ '.' :: digits.drop (digits.length - places)
  else '0' :: '.' :: List.replicate (places - digits.length) '0' ++ digits

/-- A decimal written without an exponent. -/
def positionalChars (notation_ : Notation) (decimal : Decimal) : List Char :=
  let digits := Text.digits decimal.digits
  if decimal.exponent < 0 then pointed digits decimal.exponent.natAbs
  else
    digits ++ List.replicate decimal.exponent.toNat '0'
      ++ if notation_.wholePoint then ['.', '0'] else []

/-- The sign and the digits of an exponent. -/
def exponentChars (exponent : Int) : List Char :=
  (if exponent < 0 then '-' else '+') :: Text.digits exponent.natAbs

/-- A decimal written with one digit before the point and an exponent. -/
def scientificChars (decimal : Decimal) (leading : Int) : List Char :=
  match Text.digits decimal.digits with
  | [] => []
  | first :: [] => first :: 'e' :: exponentChars leading
  | first :: more => first :: '.' :: more ++ 'e' :: exponentChars leading

/-- The exponent of the leading digit. -/
def leadingExponent (decimal : Decimal) : Int :=
  decimal.exponent + (Text.digits decimal.digits).length - 1

/-- A decimal in the notation. -/
def decimalChars (notation_ : Notation) (decimal : Decimal) : List Char :=
  let leading := leadingExponent decimal
  if notation_.positional leading then positionalChars notation_ decimal
  else scientificChars decimal leading

/-- The shortest decimal of `n` units in the notation; zero is positional. -/
def magnitudeChars (notation_ : Notation) (n : Nat) : List Char :=
  if n = 0 then positionalChars notation_ ⟨0, 0⟩
  else decimalChars notation_ (Decimal.shortest notation_.tie n)

/-- A magnitude behind the minus sign of a negative number. -/
def signedChars (notation_ : Notation) (negative : Bool) (n : Nat) : List Char :=
  if negative then '-' :: magnitudeChars notation_ n else magnitudeChars notation_ n

end Notation

end Number
end RestQuery
