/-!
# Double precision

A double is zero or a natural number of at most 53 binary digits times a power of two that is not
below 2^-1074, with a sign; beyond the largest of these lie the infinities. `ofRatio` is the double
nearest to a quotient of natural numbers; a quotient half-way between two doubles goes to the one
whose last binary digit is zero.

Everything is computed in natural numbers, so the rounding is exact by construction and can be
reasoned about.
-/

set_option autoImplicit false

namespace ReviewGate

/-- A number in double precision. A finite one is `mantissa * 2 ^ exponent` with its sign. -/
inductive Double
  | finite (negative : Bool) (mantissa : Nat) (exponent : Int)
  | infinite (negative : Bool)
  | nan
  deriving DecidableEq, Repr

namespace Double

/-- The quotient of two natural numbers, rounded to the nearest natural number. Half-way between
two it goes to the even one. -/
def roundedQuotient (num den : Nat) : Nat :=
  let floor := num / den
  let twice := 2 * (num % den)
  if twice < den then floor
  else if den < twice then floor + 1
  else floor + floor % 2

/-- The quotient `num / (den * 2 ^ exponent)` as numerator and denominator. -/
def scaled (num den : Nat) (exponent : Int) : Nat × Nat :=
  if exponent < 0 then (num * Nat.pow 2 (-exponent).toNat, den)
  else (num, den * Nat.pow 2 exponent.toNat)

/-- The exponent for which a quotient has a mantissa of 53 binary digits, when that is in range. -/
def exponentFor (num den : Nat) : Int :=
  let estimate : Int := (Nat.log2 num : Int) - Nat.log2 den
  let full := scaled num den estimate
  max (-1074) (if full.2 ≤ full.1 then estimate - 52 else estimate - 53)

/-- The double nearest to a quotient of natural numbers, with a sign. -/
def ofRatio (negative : Bool) (num den : Nat) : Double :=
  if num = 0 then .finite negative 0 0
  else
    let exponent := exponentFor num den
    let parts := scaled num den exponent
    let mantissa := roundedQuotient parts.1 parts.2
    if 971 < exponent || (exponent = 971 && Nat.pow 2 53 ≤ mantissa) then .infinite negative
    else .finite negative mantissa exponent

/-- The double nearest to a decimal number. -/
def ofDecimal (negative : Bool) (digits : Nat) (exponent : Int) : Double :=
  if exponent < 0 then ofRatio negative digits (Nat.pow 10 (-exponent).toNat)
  else ofRatio negative (digits * Nat.pow 10 exponent.toNat) 1

/-- The magnitude of a finite double as numerator and denominator. -/
def ratio (mantissa : Nat) (exponent : Int) : Nat × Nat :=
  if exponent < 0 then (mantissa, Nat.pow 2 (-exponent).toNat)
  else (mantissa * Nat.pow 2 exponent.toNat, 1)

/-- The least integer that is not below a double, `none` beyond the finite ones. -/
def ceil? : Double → Option Int
  | .finite negative mantissa exponent =>
    let parts := ratio mantissa exponent
    some (if negative then -((parts.1 / parts.2 : Nat) : Int)
      else (((parts.1 + parts.2 - 1) / parts.2 : Nat) : Int))
  | _ => none

end Double

end ReviewGate
