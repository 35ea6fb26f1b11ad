/-!
# Days

A day of the calendar has a number: that of days from the first of January 1970 to it. Days are
counted in eras of 400 years that begin with a March, so that a leap day is the last day of its
year and of its era.
-/

set_option autoImplicit false

namespace ReviewGate.Data

/-- A day of the calendar. -/
structure Day where
  year : Int
  month : Nat
  day : Nat
  deriving DecidableEq, Repr

/-- The days of an era. -/
def daysPerEra : Int := 146097

/-- The days from the first of March of the year zero to the first of January 1970. -/
def daysToEpoch : Int := 719468

/-- The year of an era to which a day of the era belongs. -/
def yearOfEra (dayOfEra : Nat) : Nat :=
  (dayOfEra - dayOfEra / 1460 + dayOfEra / 36524 - dayOfEra / 146096) / 365

/-- The day with a number. -/
def Day.ofNumber (number : Int) : Day :=
  let shifted := number + daysToEpoch
  let dayOfEra := (shifted % daysPerEra).toNat
  let year := yearOfEra dayOfEra
  let dayOfYear := dayOfEra - (365 * year + year / 4 - year / 100)
  let fromMarch := (5 * dayOfYear + 2) / 153
  let month := if fromMarch < 10 then fromMarch + 3 else fromMarch - 9
  { year := year + shifted / daysPerEra * 400 + (if month ≤ 2 then 1 else 0)
    month := month
    day := dayOfYear - (153 * fromMarch + 2) / 5 + 1 }

/-- The number of a day. -/
def Day.number (day : Day) : Int :=
  let year := if day.month ≤ 2 then day.year - 1 else day.year
  let yearOfEra := year % 400
  let fromMarch := if day.month ≤ 2 then day.month + 9 else day.month - 3
  let dayOfYear : Int := (153 * fromMarch + 2) / 5 + day.day - 1
  year / 400 * daysPerEra + (yearOfEra * 365 + yearOfEra / 4 - yearOfEra / 100 + dayOfYear) -
    daysToEpoch

end ReviewGate.Data
