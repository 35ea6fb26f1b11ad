import ReviewGate.Number.Double

/-!
# Sums and products of doubles

The sum and the product of two doubles are the doubles nearest to the exact results. A sum of zero
is negative only when both summands are.
-/

set_option autoImplicit false

namespace ReviewGate.Double

/-- The double nearest to a quotient whose numerator has a sign. -/
def ofSignedRatio (num : Int) (den : Nat) : Double :=
  ofRatio (num < 0) num.natAbs den

/-- The exact value of a finite double as numerator and denominator. -/
def signedRatio (negative : Bool) (mantissa : Nat) (exponent : Int) : Int × Nat :=
  let parts := ratio mantissa exponent
  (if negative then -(parts.1 : Int) else parts.1, parts.2)

/-- The double with the other sign. -/
def negate : Double → Double
  | finite negative mantissa exponent => finite (! negative) mantissa exponent
  | infinite negative => infinite (! negative)
  | nan => nan

/-- The sum of two doubles. -/
def plus : Double → Double → Double
  | nan, _ | _, nan => nan
  | infinite left, infinite right => if left = right then infinite left else nan
  | infinite left, finite .. => infinite left
  | finite .., infinite right => infinite right
  | finite leftNegative leftMantissa leftExponent, finite rightNegative rightMantissa rightExponent =>
    let left := signedRatio leftNegative leftMantissa leftExponent
    let right := signedRatio rightNegative rightMantissa rightExponent
    let num := left.1 * right.2 + right.1 * left.2
    if num = 0 then finite (leftNegative && rightNegative) 0 0
    else ofSignedRatio num (left.2 * right.2)

/-- The product of two doubles. -/
def times : Double → Double → Double
  | nan, _ | _, nan => nan
  | infinite left, infinite right => infinite (left != right)
  | infinite left, finite right mantissa _ =>
    if mantissa = 0 then nan else infinite (left != right)
  | finite left mantissa _, infinite right =>
    if mantissa = 0 then nan else infinite (left != right)
  | finite leftNegative leftMantissa leftExponent, finite rightNegative rightMantissa rightExponent =>
    let left := ratio leftMantissa leftExponent
    let right := ratio rightMantissa rightExponent
    ofRatio (leftNegative != rightNegative) (left.1 * right.1) (left.2 * right.2)

end ReviewGate.Double
