import ReviewGate.Data.Day
import ReviewGate.Text.Numeral

/-!
# Instants

An instant is a number of milliseconds from the beginning of the year 1970 in universal time. It
is written as a day and a time of day.
-/

set_option autoImplicit false

namespace ReviewGate.Data

/-- A number with zeros in front, up to a width. -/
def padded (width number : Nat) : Text :=
  let digits := Text.ofNat number
  List.replicate (width - digits.length) '0' ++ digits

/-- An instant as text. -/
def instantText (milliseconds : Int) : Text :=
  let day := Day.ofNumber (milliseconds / 86400000)
  let rest := (milliseconds % 86400000).toNat
  padded 4 day.year.toNat ++ '-' :: padded 2 day.month ++ '-' :: padded 2 day.day ++
    'T' :: padded 2 (rest / 3600000) ++ ':' :: padded 2 (rest / 60000 % 60) ++
    ':' :: padded 2 (rest / 1000 % 60) ++ '.' :: padded 3 (rest % 1000) ++ ['Z']

end ReviewGate.Data
