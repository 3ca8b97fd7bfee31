import Dialogue.Json

/-!
# The values of JSON numbers

A number without point and exponent is an integer; any number is a double. The double is computed
from the leading digits that fit into 64 bits and a power of ten, with one multiplication or
division of doubles, so it may differ from the nearest one in the last place.

## Main definitions

* `Json.natOfNumber?`, `Json.int64OfNumber?`: the integer that a number is, if it fits
* `Json.floatOfNumber?`: the double that a number is, unless it is too large
-/

namespace Dialogue

namespace Json

/-- The parts of a number: its sign, the digits before and after the point, and the exponent with
its sign. -/
structure NumberParts where
  negative : Bool
  whole : List Char
  fraction : List Char
  exponentNegative : Bool
  exponent : List Char

/-- Takes the parts of a number apart. -/
def numberParts (written : List Char) : NumberParts :=
  let (negative, body) := Decimal.splitSign written
  let rest := body.dropWhile Char.isDigit
  let (fraction, rest) :=
    match rest with
    | '.' :: rest => (rest.takeWhile Char.isDigit, rest.dropWhile Char.isDigit)
    | rest => ([], rest)
  let (exponentNegative, exponent) := Decimal.splitSign (rest.drop 1)
  ⟨negative, body.takeWhile Char.isDigit, fraction, exponentNegative, exponent⟩

/-- The largest number that 64 bits hold. -/
def maxWord : Nat := 0xFFFFFFFFFFFFFFFF

/-- The natural number of 64 bits that a number is: digits only. -/
def natOfNumber? (written : List Char) : Option Nat :=
  if written ≠ [] && written.all Char.isDigit && Decimal.natOfDigits written ≤ maxWord then
    some (Decimal.natOfDigits written)
  else none

/-- The integer of 64 bits with sign that a number is: digits after a minus sign or none. A
negative zero is no integer. -/
def int64OfNumber? (written : List Char) : Option Int64 :=
  match written with
  | '-' :: digits =>
    if digits ≠ [] && digits.all Char.isDigit && Decimal.natOfDigits digits ≠ 0 &&
        Decimal.natOfDigits digits ≤ 0x8000000000000000 then
      some (Int64.ofInt (-(Decimal.natOfDigits digits : Int)))
    else none
  | digits =>
    if digits ≠ [] && digits.all Char.isDigit &&
        Decimal.natOfDigits digits < 0x8000000000000000 then
      some (Int64.ofInt (Decimal.natOfDigits digits))
    else none

/-- A number of 64 bits and the power of ten that goes with it. -/
structure Scaled where
  significand : Nat
  exponent : Int

/-- The leading digits before the point that fit into 64 bits. From the first digit on that does
not fit, digits only raise the exponent. -/
def takeWhole (significand : Nat) : List Char → Scaled
  | [] => ⟨significand, 0⟩
  | c :: digits =>
    let wider := significand * 10 + Decimal.digitValue c
    if wider ≤ maxWord then takeWhole wider digits
    else ⟨significand, (digits.length : Int) + 1⟩

/-- Adds digits after the point. From the first digit on that does not fit, digits are dropped. -/
def takeFraction (scaled : Scaled) : List Char → Scaled
  | [] => scaled
  | c :: digits =>
    let wider := scaled.significand * 10 + Decimal.digitValue c
    if wider ≤ maxWord then takeFraction ⟨wider, scaled.exponent - 1⟩ digits else scaled

/-- The double of a power of ten. -/
def powerOfTen (exponent : Nat) : Float :=
  Decimal.toFloat ⟨false, 1, exponent⟩

/-- Multiplies or divides by a power of ten; nothing if the result is too large. Powers below the
smallest are divided off in steps; after `steps` of them nothing but zero is left. -/
def applyExponent (value : Float) (exponent : Int) : Nat → Option Float
  | 0 => some value
  | steps + 1 =>
    if exponent.natAbs ≤ 308 then
      if 0 ≤ exponent then
        let product := value * powerOfTen exponent.natAbs
        if product.isInf then none else some product
      else some (value / powerOfTen exponent.natAbs)
    else if value == 0 then some value
    else if 0 ≤ exponent then none
    -- The intermediate value may already have lost digits; that is part of the result.
    else applyExponent (value / powerOfTen 308) (exponent + 308) steps

/-- Written exponents larger than this stand for zero or for a number that is too large. -/
def maxExponent : Nat := 0x7FFFFFFF

/-- The double that a number is; nothing if it is too large. -/
def floatOfNumber? (written : List Char) : Option Float :=
  let parts := numberParts written
  let scaled := takeFraction (takeWhole 0 parts.whole) parts.fraction
  let exponent := Decimal.natOfDigits parts.exponent
  let signed (value : Float) : Float := if parts.negative then -value else value
  if maxExponent < exponent then
    if scaled.significand = 0 || parts.exponentNegative then some (signed 0) else none
  else
    let total := scaled.exponent + (if parts.exponentNegative then -(exponent : Int) else exponent)
    (applyExponent (UInt64.ofNat scaled.significand).toFloat total 4).map signed

end Json

end Dialogue
