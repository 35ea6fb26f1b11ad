import ReviewGate.Text.Digit
import ReviewGate.Text.Blank

/-!
# Decimal numerals

Integers are written with their decimal digits and a minus sign. They are read more liberally:
white space may surround the numeral, a sign of either kind may precede it, the digits may be of
any script, and single low lines may stand between digits. A numeral of more than 4300 digits is
refused, and where a number has to be shown, so is the number that would need one (`numeral?`).
-/

set_option autoImplicit false

namespace ReviewGate.Text

/-- The decimal digits of a natural number. -/
def ofNat (n : Nat) : Text :=
  Nat.toDigits 10 n

/-- The decimal numeral of an integer. -/
def ofInt : Int → Text
  | .ofNat n => ofNat n
  | .negSucc n => '-' :: ofNat (n + 1)

/-- The value of a row of digits, the most significant first. -/
def digitsValue (base : Nat) (digits : List Nat) : Nat :=
  digits.foldl (fun value digit => value * base + digit) 0

/-- The digits of a numeral in which single low lines may stand between digits. -/
def numeralDigits? : Text → Option (List Nat)
  | [] => none
  | [c] => (digitValue? c).map ([·])
  | c :: '_' :: rest => do
    let digit ← digitValue? c
    let more ← numeralDigits? rest
    return digit :: more
  | c :: rest => do
    let digit ← digitValue? c
    let more ← numeralDigits? rest
    return digit :: more

/-- White space around a numeral. The separators U+001C to U+001F do not count here. -/
def isNumeralBlank (c : Char) : Bool :=
  isBlank c && !(28 ≤ c.toNat && c.toNat ≤ 31)

/-- The most digits a numeral may have. -/
def maxNumeralDigits : Nat := 4300

/-- The decimal numeral of an integer, `none` when it would have too many digits. -/
def numeral? (value : Int) : Option Text :=
  if maxNumeralDigits < (ofNat value.natAbs).length then none else some (ofInt value)

/-- The wording of the refusal to show a number with too many digits. -/
def longNumeralMessage : Text :=
  ("Exceeds the limit (4300 digits) for integer string conversion; ".toList ++
    "use sys.set_int_max_str_digits() to increase the limit".toList)

/-- Reads an integer, `none` when the text is not a numeral. -/
def toInt? (text : Text) : Option Int := do
  let (negative, body) := match trimBy isNumeralBlank text with
    | '-' :: rest => (true, rest)
    | '+' :: rest => (false, rest)
    | rest => (false, rest)
  let digits ← numeralDigits? body
  if maxNumeralDigits < digits.length then none
  else
    let value : Int := digitsValue 10 digits
    return if negative then -value else value

end ReviewGate.Text
