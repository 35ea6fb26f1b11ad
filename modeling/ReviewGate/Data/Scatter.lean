import ReviewGate.Data.Key

/-!
# The order of a set

A set is shown in the order of places in a table. The size of the table is a power of two that
grows with the set. An element has a row of digits, and is put at the place that these name, taken
by the size of the table; where that place is taken, at one of the nine places behind it, and where
these are taken too, the search goes on from a place that depends on further digits.

The digits of a number are its residue by the prime 2^61 - 1. Those of a moment with a zone are
mixed from its day, the second of the day, and the part of the second. Other elements have no
digits that can be told, and a set that holds any of them is shown as it was written.
-/

set_option autoImplicit false

namespace ReviewGate.Data

/-- The prime by which residues are taken. -/
def residuePrime : Nat := Nat.pow 2 61 - 1

/-- The residue of a ratio whose denominator is a power of two. Dividing by two is multiplying by
half of the prime's successor. -/
def residueOfRatio (num : Int) (den : Nat) : Int :=
  let halvings := Nat.log2 den % 61
  let size := num.natAbs * Nat.pow 2 (61 - halvings) % residuePrime
  let residue : Int := if num < 0 then -(size : Int) else size
  if residue = -1 then -2 else residue

/-- A number of 64 binary digits with a further one mixed in. -/
def mix (mixed lane : UInt64) : UInt64 :=
  let sum := mixed + lane * 14029467366897019727
  (sum <<< 31 ||| sum >>> 33) * 11400714785074694791

/-- Three numbers mixed to one of 64 binary digits. -/
def mixedDigits (first second third : UInt64) : UInt64 :=
  let start : UInt64 := 2870177450012600261
  mix (mix (mix start first) second) third + (3 ^^^ start ^^^ 3527539)

/-- The number of days of the calendar in front of the year 1970. -/
def daysBeforeEpoch : Int := 719163

/-- The digits of a moment with a zone. -/
def Moment.digits (moment : Moment) (zone : Int) : UInt64 :=
  let instant := moment.instant zone
  let day := instant / 86400000000 + daysBeforeEpoch
  mixedDigits (.ofInt day) (.ofInt (instant / 1000000 % 86400)) (.ofInt (instant % 1000000))

/-- The digits of an element, `none` when they cannot be told. -/
def Value.digits? (value : Value) : Option UInt64 :=
  match value with
  | .float (.infinite negative) => some (.ofInt (if negative then -314159 else 314159))
  | .moment time => time.zone.map time.digits
  | value => value.ratio?.map fun (num, den) => .ofInt (residueOfRatio num den)

/-- The least power of two from a size on that is above a number. The bound is on the number of
doublings. -/
def powerAbove (least : Nat) : Nat → Nat → Nat
  | 0, size => size
  | bound + 1, size => if least < size then size else powerAbove least bound (size * 2)

/-- The size of the table for a number of elements. -/
def tableSize (count : Nat) : Nat :=
  if count < 5 then 8 else powerAbove (2 * count) count 8

/-- The places that are tried from a place on before the search jumps. -/
def placesFrom (size place : Nat) : List Nat :=
  if place + 9 < size then (List.range 10).map (place + ·) else [place]

/-- The first free place of a search. The bound is on the number of jumps. -/
def freePlace? (table : Array (Option Value)) : Nat → Nat → Nat → Option Nat
  | 0, _, _ => none
  | bound + 1, place, digits =>
    match (placesFrom table.size place).find? fun place => table[place]? = some none with
    | some free => some free
    | none =>
      let digits := digits / 32
      freePlace? table bound ((place * 5 + 1 + digits) % table.size) digits

/-- The table with an element in it. -/
def scatterInto (table : Array (Option Value)) (element : Value × UInt64) : Array (Option Value) :=
  let digits := element.2.toNat
  match freePlace? table (table.size + 64) (digits % table.size) digits with
  | some place => table.setIfInBounds place (some element.1)
  | none => table

/-- The elements of a set in the order in which they are shown. -/
def scattered (elements : List Value) : List Value :=
  match elements.mapM fun element => element.digits?.map fun digits => (element, digits) with
  | none => elements
  | some known =>
    (known.foldl scatterInto (Array.replicate (tableSize known.length) none)).toList.filterMap id

end ReviewGate.Data
