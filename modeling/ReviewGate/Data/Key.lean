import ReviewGate.Data.Day
import ReviewGate.Data.Value
import ReviewGate.Number.Arithmetic

/-!
# Keys

The members of a mapping are told apart by their keys. Numbers are the same key when they have the
same value, whatever their kind, and so are moments with a zone when they are the same instant.
Everything else is the same key only when it is the same value. When a key comes again, its value
replaces the earlier one, in the place of that one.
-/

set_option autoImplicit false

namespace ReviewGate.Data

/-- The exact value of a truth value or number, as numerator and denominator. -/
def Value.ratio? : Value → Option (Int × Nat)
  | .bool value => some (value.toNat, 1)
  | .int value => some (value, 1)
  | .float (.finite negative mantissa exponent) =>
    some (Double.signedRatio negative mantissa exponent)
  | _ => none

/-- The instant of a moment with a zone, in millionths of a second. -/
def Moment.instant (moment : Moment) (zone : Int) : Int :=
  let days := Day.number ⟨moment.year, moment.month, moment.day⟩
  let seconds := days * 86400 + moment.hour * 3600 + moment.minute * 60 + moment.second - zone
  seconds * 1000000 + moment.micro

/-- Whether two moments are the same. -/
def Moment.same (left right : Moment) : Bool :=
  match left.zone, right.zone with
  | some leftZone, some rightZone => left.instant leftZone = right.instant rightZone
  | none, none => left = right
  | _, _ => false

/-- Whether two values are the same key. -/
def sameKey (left right : Value) : Bool :=
  match left.ratio?, right.ratio? with
  | some left, some right => left.1 * right.2 = right.1 * left.2
  | none, none =>
    match left, right with
    | .moment left, .moment right => left.same right
    | left, right => left = right
  | _, _ => false

/-- Members with one of them added, or with a new value for the same key. -/
def putMember (key value : Value) : List (Value × Value) → List (Value × Value)
  | [] => [(key, value)]
  | (other, old) :: more =>
    if sameKey other key then (other, value) :: more
    else (other, old) :: putMember key value more

/-- Members in which every key comes once. -/
def distinctMembers (members : List (Value × Value)) : List (Value × Value) :=
  members.foldl (fun known (key, value) => putMember key value known) []

end ReviewGate.Data
