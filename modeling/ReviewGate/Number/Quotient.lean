import ReviewGate.Number.Double
import ReviewGate.Text.Numeral

/-!
# Quotients rounded up

The quotient of an integer and a natural number, rounded up, can be read in two ways: exactly, or
through the nearest double. The two agree on all numbers that a double holds exactly and whose
quotient it can tell from the next integer. They part for a quotient so small that the nearest
double is zero, and for one beyond all doubles, which is an overflow.
-/

set_option autoImplicit false

namespace ReviewGate

/-- How a quotient is read before it is rounded up. -/
inductive Quotients
  | exact
  | double
  deriving DecidableEq, Repr

/-- Why a computation with numbers fails. -/
inductive ArithmeticError
  | divisionByZero
  | overflow
  | tooManyDigits
  deriving DecidableEq, Repr

/-- The wording of a failed computation. -/
def ArithmeticError.message : ArithmeticError → Text
  | divisionByZero => "division by zero".toList
  | overflow => "integer division result too large for a float".toList
  | tooManyDigits => Text.longNumeralMessage

/-- The exact quotient, rounded up. -/
def ceilExact (num : Int) (den : Nat) : Int :=
  -((-num) / (den : Int))

/-- The quotient, rounded up. -/
def Quotients.ceil (reading : Quotients) (num : Int) (den : Nat) : Except ArithmeticError Int :=
  if den = 0 then .error .divisionByZero
  else match reading with
    | .exact => .ok (ceilExact num den)
    | .double =>
      match (Double.ofRatio (num < 0) num.natAbs den).ceil? with
      | some value => .ok value
      | none => .error .overflow

end ReviewGate
