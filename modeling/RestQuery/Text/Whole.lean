/-!
# Whole numbers in text

Whole numbers are written in decimal without leading zeros, negative ones with
a minus sign. Reading takes one or more ASCII digits behind an optional sign
and refuses a number that does not fit sixty-four bits.
-/

namespace RestQuery
namespace Text

/-- The decimal digits of a natural number. -/
def digits (n : Nat) : List Char := Nat.toDigits 10 n

/-- The number that one or more ASCII digits stand for. -/
def readDigits? (s : List Char) : Option Nat :=
  if !s.isEmpty && s.all Char.isDigit then some (Nat.ofDigitChars 10 s 0) else none

/-- The decimal form of an integer. -/
def intChars : Int → List Char
  | .ofNat n => digits n
  | .negSucc n => '-' :: digits (n + 1)

/-- The integer that digits behind an optional sign stand for. -/
def readInt? : List Char → Option Int
  | '+' :: rest => (readDigits? rest).map Int.ofNat
  | '-' :: rest => (readDigits? rest).map fun n => -Int.ofNat n
  | s => (readDigits? s).map Int.ofNat

/-- A signed number of sixty-four bits behind an optional sign. -/
def readInt64? (s : List Char) : Option Int64 := do
  let value ← readInt? s
  if Int64.minValue.toInt ≤ value && value ≤ Int64.maxValue.toInt then
    some (Int64.ofInt value)
  else none

/-- The digits behind an optional plus sign. -/
def unsignedDigits : List Char → List Char
  | '+' :: rest => rest
  | s => s

/-- A natural number of sixty-four bits behind an optional plus sign. -/
def readUInt64? (s : List Char) : Option UInt64 := do
  let value ← readDigits? (unsignedDigits s)
  if value < UInt64.size then some (UInt64.ofNat value) else none

end Text
end RestQuery
