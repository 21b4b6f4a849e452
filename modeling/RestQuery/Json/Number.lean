import RestQuery.Json.Document
import RestQuery.Number.Literal
import RestQuery.Number.Notation

/-!
# Numbers in JSON documents

A literal without point and exponent is a whole number when it fits sixty-four
bits, signed or unsigned; minus zero and every other literal are floating-point
numbers. These are computed with two roundings: the leading digits, as many as
fit sixty-four bits, are rounded, and the result is multiplied or divided by a
rounded power of ten. A number beyond the range is refused.

Floating-point numbers are written with the fewest digits, positionally from
`1e-5` up to `1e16`.
-/

namespace RestQuery
namespace Json

open Number (Binary64 Literal)

/-- What a number literal counts as. -/
inductive Quantity
  | whole (value : Int)
  | real (value : Binary64)

/-- The leading digits of a number, and the power of ten that stands for the
digits left out. -/
structure Significand where
  value : Nat
  exponent : Int

/-- The value of a digit. -/
def digitValue (c : Char) : Nat := c.toNat - '0'.toNat

namespace Significand

/-- Append a digit if the result fits sixty-four bits. -/
def push? (significand : Significand) (digit : Char) : Option Significand :=
  let value := significand.value * 10 + digitValue digit
  if value < UInt64.size then some { significand with value } else none

/-- Read the digits before the point. From the first one that does not fit on,
each digit counts as a zero. -/
def integral (significand : Significand) : List Char → Significand
  | [] => significand
  | digit :: rest =>
      match significand.push? digit with
      | some longer => integral longer rest
      | none =>
          { significand with exponent := significand.exponent + (rest.length + 1) }

/-- Read the digits behind the point. From the first one that does not fit on,
they are left out. -/
def fraction (significand : Significand) : List Char → Significand
  | [] => significand
  | digit :: rest =>
      match significand.push? digit with
      | some longer => fraction { longer with exponent := longer.exponent - 1 } rest
      | none => significand

/-- The leading digits of a literal. -/
def ofLiteral (literal : Literal) : Significand :=
  let digits := (integral ⟨0, 0⟩ literal.whole).fraction literal.fraction
  { digits with exponent := digits.exponent + literal.exponent }

end Significand

/-- The greatest exponent of a power of ten that is a number. -/
def tableBound : Nat := 308

/-- The number nearest to a power of ten, in units. -/
def powerUnits (exponent : Nat) : Nat :=
  Number.binary64.nearest (Number.power 10 exponent * Binary64.one) 1

/-- A magnitude divided by a power of ten, in steps of the greatest power
there is. -/
def scaleDown (units places : Nat) : Nat :=
  if places ≤ tableBound then
    Number.binary64.nearest (units * Binary64.one) (powerUnits places)
  else if units = 0 then 0
  else
    scaleDown
      (Number.binary64.nearest (units * Binary64.one) (powerUnits tableBound))
      (places - tableBound)
termination_by places
decreasing_by
  simp only [tableBound] at *
  omega

/-- The floating-point number that a literal stands for; `none` beyond the
range. -/
def realOf? (negative : Bool) (literal : Literal) : Option Binary64 :=
  let significand := Significand.ofLiteral literal
  let units := Number.binary64.nearest (significand.value * Binary64.one) 1
  if significand.value = 0 then some (.zero negative)
  else if significand.exponent < 0 then
    some
      (.ofUnits negative (scaleDown units significand.exponent.natAbs) 1 Nat.one_pos)
  else if tableBound < significand.exponent then none
  else
    match Binary64.product negative units (powerUnits significand.exponent.toNat) with
    | .infinite _ => none
    | value => some value

/-- The least integer of sixty-four bits, without its sign. -/
def leastMagnitude : Nat := 9223372036854775808

/-- What a number literal counts as; `none` beyond the range. -/
def quantity? (literal : List Char) : Option Quantity := do
  let negative := literal.head? == some '-'
  let digits := magnitude literal
  let parts ← Number.readLiteral? digits
  if digits.all Char.isDigit then
    let value := parts.significand
    if negative then
      if 0 < value && value ≤ leastMagnitude then return .whole (-value)
    else if value < UInt64.size then return .whole value
  return .real (← realOf? negative parts)

/-- Floating-point numbers in documents. -/
def numberNotation : Number.Notation where
  tie := .even
  positional := fun exponent => -5 ≤ exponent && exponent < 16
  wholePoint := true

/-- A floating-point number as a document; null unless finite. -/
def ofBinary64 : Binary64 → Json
  | .finite negative units _ => .number (numberNotation.signedChars negative units)
  | _ => .null

/-- The floating-point number that a literal written here stands for; `none`
for integers. Unlike other literals it is read with one rounding, so that the
number is the one that was written. -/
def written? (literal : List Char) : Option Binary64 :=
  if (magnitude literal).all Char.isDigit then none else Number.readBinary64? literal

/-- An integer as a document. -/
def ofInt (value : Int) : Json := .number (Text.intChars value)

/-- A number as a document. -/
def ofQuantity : Quantity → Json
  | .whole value => ofInt value
  | .real value => ofBinary64 value

end Json
end RestQuery
