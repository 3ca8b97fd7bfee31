/-!
# Decimals to binary

The double nearest to a decimal, found with exact integers: the quotient is scaled until it has
53 binary digits, or as many as the smallest exponent allows, and rounded once, a half to the even
neighbour.

## Main definitions

* `roundHalfEven num den`: a quotient rounded to the nearest integer
* `nearestBits num den`: the bits of the double nearest to a quotient
* `Decimal.toFloat`: the double nearest to a decimal
* `Decimal.ofText? text`: reads a decimal, an infinity or a number that is none
-/

namespace Dialogue

namespace Decimal

/-- The integer nearest to `num / den`; a half goes to the even neighbour. -/
def roundHalfEven (num den : Nat) : Nat :=
  let quotient := num / den
  let twice := 2 * (num % den)
  if den < twice || (twice == den && quotient % 2 == 1) then quotient + 1 else quotient

/-- The bit before the 52 bits of a mantissa, which is not stored. -/
def leadingBit : Nat := 0x10000000000000

/-- The bit of the minus sign. -/
def signBit : Nat := 0x8000000000000000

/-- Numerator and denominator of `num / den` divided by a power of two. -/
def scaleDown (num den : Nat) (exponent : Int) : Nat × Nat :=
  if 0 ≤ exponent then (num, den * Nat.pow 2 exponent.toNat)
  else (num * Nat.pow 2 (-exponent).toNat, den)

/-- The exponent of the last binary digit that a double keeps of `num / den`. -/
def lastDigitExponent (num den : Nat) : Int :=
  let guess : Int := (num.log2 : Int) - (den.log2 : Int) - 52
  let (n, d) := scaleDown num den guess
  max (if n / d < leadingBit then guess - 1 else guess) (-1074)

/-- The bits of positive infinity. -/
def infinityBits : Nat := 0x7FF0000000000000

/-- The bits of a number that is none. -/
def nanBits : Nat := 0x7FF8000000000000

/-- The bits of the double nearest to `num / den`. The exponent field and the mantissa are added:
the leading digit of a mantissa of 53 digits, and a carry out of the rounding, go into the
exponent by themselves. -/
def nearestBits (num den : Nat) : Nat :=
  if num = 0 then 0 else
  let exponent := lastDigitExponent num den
  let (n, d) := scaleDown num den exponent
  min ((exponent + 1074).toNat * leadingBit + roundHalfEven n d) infinityBits

end Decimal

/-- A decimal: `coefficient * 10 ^ exponent`, with a sign that zero has too. -/
structure Decimal where
  negative : Bool
  coefficient : Nat
  exponent : Int
  deriving DecidableEq, Repr

namespace Decimal

/-- The bits of the double nearest to the size of the decimal. Exponents beyond all doubles are
answered without computing the power. -/
def magnitudeBits (decimal : Decimal) : Nat :=
  if decimal.coefficient = 0 then 0
  else if 400 < decimal.exponent then infinityBits
  else if decimal.exponent + (decimal.coefficient.log2 : Int) < -1200 then 0
  else if 0 ≤ decimal.exponent then
    nearestBits (decimal.coefficient * Nat.pow 10 decimal.exponent.toNat) 1
  else nearestBits decimal.coefficient (Nat.pow 10 (-decimal.exponent).toNat)

/-- A double from the bits of its size. -/
def floatOfBits (negative : Bool) (magnitude : Nat) : Float :=
  Float.ofBits (UInt64.ofNat (if negative then magnitude + signBit else magnitude))

/-- The double nearest to the decimal. -/
def toFloat (decimal : Decimal) : Float :=
  floatOfBits decimal.negative decimal.magnitudeBits

/-- The value of a digit. -/
def digitValue (c : Char) : Nat :=
  c.toNat - '0'.toNat

/-- The value of a run of digits. -/
def natOfDigits (digits : List Char) : Nat :=
  digits.foldl (fun value c => value * 10 + digitValue c) 0

/-- A sign, if there is one, and what follows. -/
def splitSign : List Char → Bool × List Char
  | '-' :: rest => (true, rest)
  | '+' :: rest => (false, rest)
  | text => (false, text)

/-- An integer: a sign or none, and at least one digit. -/
def integerOfText? (text : List Char) : Option Int :=
  let (negative, digits) := splitSign text
  if digits ≠ [] && digits.all Char.isDigit then
    some (if negative then -(natOfDigits digits : Int) else natOfDigits digits)
  else none

/-- An integer that fits into 64 bits with sign. -/
def int64OfText? (text : List Char) : Option Int64 :=
  match integerOfText? text with
  | some value =>
    if Int64.minValue.toInt ≤ value && value ≤ Int64.maxValue.toInt then some (Int64.ofInt value)
    else none
  | none => none

/-- The exponent after a mantissa: nothing, or a letter and an integer. -/
def exponentOfText? : List Char → Option Int
  | [] => some 0
  | c :: rest => if c = 'e' || c = 'E' then integerOfText? rest else none

/-- A decimal: a sign or none; digits with a point before, between or after them, or without
one; and an exponent or none. -/
def ofText? (text : List Char) : Option Decimal :=
  let (negative, body) := splitSign text
  let whole := body.takeWhile Char.isDigit
  let rest := body.dropWhile Char.isDigit
  let (fraction, rest) :=
    match rest with
    | '.' :: rest => (rest.takeWhile Char.isDigit, rest.dropWhile Char.isDigit)
    | rest => ([], rest)
  if whole = [] && fraction = [] then none else
  match exponentOfText? rest with
  | some exponent =>
    some ⟨negative, natOfDigits (whole ++ fraction), exponent - (fraction.length : Int)⟩
  | none => none

/-- The double written by a decimal, by `inf` or `infinity`, or by `nan`, with a sign or none and
in any case. -/
def floatOfText? (text : List Char) : Option Float :=
  let (negative, body) := splitSign text
  let lower := String.ofList (body.map Char.toLower)
  if lower == "inf" || lower == "infinity" then some (floatOfBits negative infinityBits)
  else if lower == "nan" then some (floatOfBits negative nanBits)
  else (ofText? text).map toFloat

end Decimal

end Dialogue
