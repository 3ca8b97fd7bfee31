import Dialogue.Decimal.Nearest

/-!
# Binary to decimals

The shortest decimal that reads back as a given double and, among those, the nearest to it; which
of two that are equally near is a choice of the format. A double is a mantissa times a power of two;
the numbers that read back as it form an interval around it, and grids of one, two, … decimal digits
are searched for a point inside.

## Main definitions

* `Binary`: a finite double as a sign, a mantissa and an exponent
* `Tie`: which of two equally near decimals is taken
* `Binary.shortest`: the digits of the shortest decimal, and the exponent of the first of them
* `Numeral.scientific`, `Numeral.plain`: a decimal written with or without an exponent
-/

namespace Dialogue

/-- The size of a finite double: `mantissa * 2 ^ exponent`. -/
structure Binary where
  mantissa : Nat
  exponent : Int
  deriving DecidableEq, Repr

/-- Which of two neighbours on a grid is taken if both are equally near. -/
inductive Tie where
  /-- The one with an even last digit. -/
  | toEven
  /-- The larger one. -/
  | up
  deriving DecidableEq, Repr

/-- The smaller of two neighbours is taken at a tie. -/
def Tie.takesBelow (tie : Tie) (below : Nat) : Bool :=
  match tie with
  | .toEven => below % 2 == 0
  | .up => false

namespace Binary

/-- The size of a double; nothing for an infinity or a number that is none. -/
def ofFloat? (value : Float) : Option Binary :=
  let bits := value.toBits.toNat % Decimal.signBit
  let field : Nat := bits / Decimal.leadingBit
  let fraction : Nat := bits % Decimal.leadingBit
  if field = 0x7FF then none
  else if field = 0 then some ⟨fraction, -1074⟩
  else some ⟨fraction + Decimal.leadingBit, (field : Int) - 1075⟩

/-- The double has a minus sign; zero may have one. -/
def isNegative (value : Float) : Bool :=
  Decimal.signBit ≤ value.toBits.toNat

/-- Ends and middle of the interval of numbers that read back as the double, over a common
denominator. -/
structure Interval where
  low : Nat
  middle : Nat
  high : Nat
  denominator : Nat
  /-- The ends belong to the interval. -/
  closed : Bool

/-- The numbers that read back as the double: up to half way to its neighbours, where the lower
neighbour of a power of two is half as far away. The ends round to the double when its mantissa is
even. -/
def interval (size : Binary) : Interval :=
  let gap := if size.mantissa = Decimal.leadingBit && -1074 < size.exponent then 1 else 2
  let exponent := size.exponent - 2
  let factor := Nat.pow 2 exponent.toNat
  { low := (4 * size.mantissa - gap) * factor
    middle := 4 * size.mantissa * factor
    high := (4 * size.mantissa + 2) * factor
    denominator := Nat.pow 2 (-exponent).toNat
    closed := size.mantissa % 2 == 0 }

/-- The exponent of the first decimal digit of a number below one: how often it must be multiplied
by ten to reach one. -/
def leadingBelowOne (num den : Nat) : Nat → Nat
  | 0 => 0
  | fuel + 1 => if den ≤ num then 0 else leadingBelowOne (num * 10) den fuel + 1

/-- The exponent of the first decimal digit of `num / den`. No double is so small that it needs
more than 400 steps. -/
def leadingExponent (num den : Nat) : Int :=
  if den ≤ num then (((Nat.toDigits 10 (num / den)).length - 1 : Nat) : Int)
  else -(leadingBelowOne num den 400 : Int)

/-- The point of the grid of `10 ^ exponent` that lies in the interval and is nearest to its
middle, if one of the two neighbours of the middle lies in it. -/
def gridPoint (tie : Tie) (range : Interval) (exponent : Int) : Option Nat :=
  let unit := Nat.pow 10 exponent.toNat * range.denominator
  let factor := Nat.pow 10 (-exponent).toNat
  let inside (point : Nat) : Bool :=
    let place := point * unit
    (range.low * factor < place && place < range.high * factor) ||
      (range.closed && (place == range.low * factor || place == range.high * factor))
  let below := range.middle * factor / unit
  let above := below + 1
  if inside below && inside above then
    let twice := 2 * (range.middle * factor)
    let half := (below + above) * unit
    if twice < half || (twice == half && tie.takesBelow below) then some below else some above
  else if inside below then some below
  else if inside above then some above
  else none

end Binary

/-- Decimal digits, without zeros at the end, and the exponent of the first of them. -/
structure Numeral where
  digits : List Char
  exponent : Int
  deriving DecidableEq, Repr

namespace Numeral

/-- Zeros at the end of a run of digits are dropped, down to one digit. -/
def dropZeros (digits : List Char) : List Char :=
  match (digits.reverse.dropWhile (· == '0')).reverse with
  | [] => ['0']
  | kept => kept

/-- The numeral of `point * 10 ^ unit`. -/
def ofPoint (point : Nat) (unit : Int) : Numeral :=
  let digits := Nat.toDigits 10 point
  ⟨dropZeros digits, unit + (digits.length : Int) - 1⟩

/-- Digits with an exponent: one digit before the point, and a sign for the exponent if `plus` asks
for it or it is negative. -/
def scientific (plus : Bool) (numeral : Numeral) : List Char :=
  let mantissa :=
    match numeral.digits with
    | first :: second :: rest => first :: '.' :: second :: rest
    | digits => digits
  let sign := if numeral.exponent < 0 then ['-'] else if plus then ['+'] else []
  mantissa ++ ['e'] ++ sign ++ Nat.toDigits 10 numeral.exponent.natAbs

/-- Digits without an exponent; `point` keeps a fraction of zero. -/
def plain (point : Bool) (numeral : Numeral) : List Char :=
  if numeral.exponent < 0 then
    ['0', '.'] ++ List.replicate (-numeral.exponent - 1).toNat '0' ++ numeral.digits
  else
    let places := numeral.exponent.toNat + 1
    let whole := numeral.digits.take places
    let fraction := numeral.digits.drop places
    let zeros := List.replicate (places - whole.length) '0'
    whole ++ zeros ++
      (if fraction = [] then (if point then ['.', '0'] else []) else '.' :: fraction)

end Numeral

namespace Binary

/-- The shortest numeral that reads back as the double; zero has the digit zero. Seventeen digits
are always enough. -/
def shortest (tie : Tie) (size : Binary) : Numeral :=
  if size.mantissa = 0 then ⟨['0'], 0⟩ else
  let range := size.interval
  let leading := leadingExponent range.middle range.denominator
  let found := (List.range 17).findSome? fun (count : Nat) =>
    (gridPoint tie range (leading - count)).map fun point => Numeral.ofPoint point (leading - count)
  found.getD (Numeral.ofPoint (range.middle / range.denominator) 0)

end Binary

end Dialogue
