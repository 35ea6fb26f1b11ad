import ReviewGate.Text.Basic

/-!
# JSON values

A JSON value with the distinctions that matter here: the members of an object keep their order,
and a number is an integer of any size, or a decimal number as it is written, that is a sign, a
row of digits and a power of ten. Beyond the standard there are the infinities, and the number that
is no number.
-/

set_option autoImplicit false

namespace ReviewGate

/-- A JSON value. The decimal number is `digits * 10 ^ exponent` with its sign. -/
inductive Json
  | null
  | bool (value : Bool)
  | int (value : Int)
  | decimal (negative : Bool) (digits : Nat) (exponent : Int)
  | infinite (negative : Bool)
  | nan
  | string (value : Text)
  | array (items : List Json)
  | object (members : List (Text × Json))

namespace Json

/-- The value of a member of an object. Of several members of one name the last one counts. -/
def member? (name : Text) : Json → Option Json
  | .object members => (members.reverse.lookup name)
  | _ => none

end Json

end ReviewGate
