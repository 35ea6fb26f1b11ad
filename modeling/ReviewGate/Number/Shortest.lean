import ReviewGate.Number.Double
import ReviewGate.Text.Numeral

/-!
# The shortest decimal text of a double

A double is written with the fewest decimal digits that read back as the same double, and among
the decimal numbers with that many digits by the one nearest to it. The decimal numbers that read
back are those between the half-way points to the two neighbours, the points themselves included
when the mantissa is even. For a number of digits only two decimal numbers come into question, the
neighbours of the double on the grid of that many digits.

The text is positional when the point falls no more than three places in front of the digits and
no more than sixteen behind their beginning, and has at least one digit behind the point; else it
has an exponent of at least two digits.
-/

set_option autoImplicit false

namespace ReviewGate.Double

/-- A decimal number `digits * 10 ^ exponent`. -/
structure Decimal where
  digits : Nat
  exponent : Int
  deriving DecidableEq, Repr

/-- A positive rational number. -/
structure Ratio where
  num : Nat
  den : Nat

namespace Ratio

/-- The order of rational numbers. -/
def le (left right : Ratio) : Bool :=
  left.num * right.den ≤ right.num * left.den

/-- The strict order of rational numbers. -/
def lt (left right : Ratio) : Bool :=
  left.num * right.den < right.num * left.den

/-- The number `base ^ exponent * factor`. -/
def ofPower (factor base : Nat) (exponent : Int) : Ratio :=
  if exponent < 0 then ⟨factor, Nat.pow base (-exponent).toNat⟩
  else ⟨factor * Nat.pow base exponent.toNat, 1⟩

/-- The largest exponent of ten whose power is not above a positive number. -/
def decimalExponent (value : Ratio) : Int :=
  if value.den ≤ value.num then
    ((Nat.toDigits 10 (value.num / value.den)).length : Int) - 1
  else
    let places := (Nat.toDigits 10 (value.den / value.num)).length
    if value.den ≤ value.num * Nat.pow 10 (places - 1) then 1 - (places : Int) else -(places : Int)

end Ratio

/-- The numbers that read back as a double: between two points, with or without them. -/
structure Interval where
  low : Ratio
  high : Ratio
  closed : Bool

/-- Whether a number lies in an interval. -/
def Interval.holds (interval : Interval) (value : Ratio) : Bool :=
  if interval.closed then interval.low.le value && value.le interval.high
  else interval.low.lt value && value.lt interval.high

/-- The numbers that read back as `mantissa * 2 ^ exponent`. Below a power of two the neighbour is
only half as far away. -/
def readingInterval (mantissa : Nat) (exponent : Int) : Interval where
  low :=
    if mantissa = Nat.pow 2 52 && -1074 < exponent then .ofPower (4 * mantissa - 1) 2 (exponent - 2)
    else .ofPower (2 * mantissa - 1) 2 (exponent - 1)
  high := .ofPower (2 * mantissa + 1) 2 (exponent - 1)
  closed := mantissa % 2 = 0

/-- The decimal numbers of a grid next to a value that lie in an interval, the nearer one first.
Of two that are equally near the even one comes first. -/
def gridNeighbours (interval : Interval) (value : Ratio) (exponent : Int) : List Decimal :=
  let unit := Ratio.ofPower 1 10 exponent
  let num := value.num * unit.den
  let den := value.den * unit.num
  let below := num / den
  let twice := 2 * (num % den)
  let belowFirst := twice < den || (twice = den && below % 2 = 0)
  let order := if belowFirst then [below, below + 1] else [below + 1, below]
  (order.filter fun digits => digits != 0 && interval.holds (.ofPower digits 10 exponent)).map
    fun digits => ⟨digits, exponent⟩

/-- The first decimal number that reads back, trying grids from a number of digits on. -/
def shortestFrom (interval : Interval) (value : Ratio) (top : Int) (places : Nat) :
    Nat → Option Decimal
  | 0 => none
  | more + 1 =>
    match gridNeighbours interval value (top - places) with
    | found :: _ => some found
    | [] => shortestFrom interval value top (places + 1) more

/-- A decimal number without the zeros at its end. -/
def stripZeros : Nat → Decimal → Decimal
  | 0, decimal => decimal
  | bound + 1, decimal =>
    if decimal.digits ≠ 0 ∧ decimal.digits % 10 = 0 then
      stripZeros bound ⟨decimal.digits / 10, decimal.exponent + 1⟩
    else decimal

/-- The shortest decimal number that reads back as a positive double. -/
def shortest (mantissa : Nat) (exponent : Int) : Decimal :=
  let value := Ratio.ofPower mantissa 2 exponent
  let interval := readingInterval mantissa exponent
  let found := shortestFrom interval value value.decimalExponent 0 17
  stripZeros 20 (found.getD ⟨mantissa, 0⟩)

/-- The text of an exponent: its sign and at least two digits. -/
def exponentText (exponent : Int) : Text :=
  let digits := Text.ofNat exponent.natAbs
  (if exponent < 0 then '-' else '+') :: List.replicate (2 - digits.length) '0' ++ digits

/-- The text of a decimal number. -/
def decimalText (decimal : Decimal) : Text :=
  let digits := Text.ofNat decimal.digits
  let point : Int := digits.length + decimal.exponent
  if -4 < point && point ≤ 16 then
    if point ≤ 0 then "0.".toList ++ List.replicate (-point).toNat '0' ++ digits
    else if (digits.length : Int) ≤ point then
      digits ++ List.replicate (point - digits.length).toNat '0' ++ ".0".toList
    else digits.take point.toNat ++ '.' :: digits.drop point.toNat
  else
    let fraction := digits.drop 1
    digits.take 1 ++ (if fraction.isEmpty then [] else '.' :: fraction) ++
      'e' :: exponentText (point - 1)

/-- A finite double with a mantissa below 2^53. -/
def normalised (mantissa : Nat) (exponent : Int) : Nat × Int :=
  if Nat.pow 2 53 ≤ mantissa then (mantissa / 2, exponent + 1) else (mantissa, exponent)

/-- The text of a double. -/
def toText : Double → Text
  | .finite negative mantissa exponent =>
    let (mantissa, exponent) := normalised mantissa exponent
    (if negative then ['-'] else []) ++
      if mantissa = 0 then "0.0".toList else decimalText (shortest mantissa exponent)
  | .infinite negative => (if negative then ['-'] else []) ++ "inf".toList
  | .nan => "nan".toList

end ReviewGate.Double
