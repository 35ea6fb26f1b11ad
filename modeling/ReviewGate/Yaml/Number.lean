import ReviewGate.Data.Value
import ReviewGate.Number.Arithmetic
import ReviewGate.Text.Numeral
import ReviewGate.Yaml.Quoted

/-!
# Numbers

A plain text is an integer or a decimal number when it has the shape of one. Integers may be
written with two, eight, ten or sixteen digits, numbers of either kind also to the base sixty with
colons, and low lines may stand between digits. A decimal number has a point, and its exponent a
sign.

The value of a number is read more liberally than its shape, since a tag can ask for a number
whatever the shape. Reading can fail then.
-/

set_option autoImplicit false

namespace ReviewGate.Yaml

/-! ## Shapes -/

/-- The text behind a sign, when there is one. -/
def afterSign : Text → Text
  | '+' :: rest => rest
  | '-' :: rest => rest
  | text => text

/-- A digit or a low line. -/
def isSpacedDigit (c : Char) : Bool :=
  c.isDigit || c == '_'

/-- Whether a text is a digit of a class with digits and low lines behind it. -/
def isSpacedNumber (first : Char → Bool) : Text → Bool
  | [] => false
  | c :: rest => first c && rest.all isSpacedDigit

/-- Whether a text is not empty and all of a class. -/
def isSome (inClass : Char → Bool) (text : Text) : Bool :=
  ! text.isEmpty && text.all inClass

/-- A digit of a number that is not zero. -/
def isLeadingDigit (c : Char) : Bool :=
  c.isDigit && c != '0'

/-- Whether a text is a number below sixty in one or two digits. -/
def isSixtieth : Text → Bool
  | [c] => c.isDigit
  | [c, d] => '0' ≤ c && c ≤ '5' && d.isDigit
  | _ => false

/-- Whether a text is a number to the base sixty of more than one place. -/
def isSexagesimal (first : Char → Bool) (text : Text) : Bool :=
  match Text.splitWhere (· == ':') text with
  | head :: next :: more => isSpacedNumber first head && (next :: more).all isSixtieth
  | _ => false

/-- Whether a plain text is an integer. -/
def isInteger (text : Text) : Bool :=
  let body := afterSign text
  body == ['0'] || isSpacedNumber isLeadingDigit body || isSexagesimal isLeadingDigit body ||
    match body with
    | '0' :: 'b' :: digits => isSome (fun c => c == '0' || c == '1' || c == '_') digits
    | '0' :: 'x' :: digits => isSome (fun c => (hexValue? c).isSome || c == '_') digits
    | '0' :: digits => isSome (fun c => ('0' ≤ c && c ≤ '7') || c == '_') digits
    | _ => false

/-- Whether a text is empty or an exponent with its sign. -/
def isExponent : Text → Bool
  | [] => true
  | e :: sign :: digits =>
    (e == 'e' || e == 'E') && (sign == '+' || sign == '-') && isSome Char.isDigit digits
  | _ => false

/-- Whether a plain text is a decimal number. -/
def isDecimal (text : Text) : Bool :=
  let body := afterSign text
  let whole := body.takeWhile (· != '.')
  match body.dropWhile (· != '.') with
  | [] => false
  | _ :: fraction =>
    let places := fraction.takeWhile isSpacedDigit
    let exponent := fraction.dropWhile isSpacedDigit
    if whole = [] then
      ["inf", "Inf", "INF"].any (·.toList == fraction) ||
        (text == body && (["nan", "NaN", "NAN"].any (·.toList == fraction) ||
          (isSpacedNumber Char.isDigit places && isExponent exponent)))
    else
      (isSpacedNumber Char.isDigit whole && isExponent exponent) ||
        (isSexagesimal Char.isDigit whole && exponent.isEmpty)

/-! ## Values -/

/-- A sign and what follows it. -/
def splitSign : Text → Bool × Text
  | '-' :: rest => (true, rest)
  | '+' :: rest => (false, rest)
  | text => (false, text)

/-- A sign and the code points behind it. -/
def splitPointSign : Points → Bool × Points
  | .char '-' :: rest => (true, rest)
  | .char '+' :: rest => (false, rest)
  | points => (false, points)

/-- The value of a digit, where letters go on behind nine. -/
def digitOrLetter? (c : Char) : Option Nat :=
  match Text.digitValue? c with
  | some value => some value
  | none =>
    if 'a' ≤ c ∧ c ≤ 'z' then some (c.toNat - 'a'.toNat + 10)
    else if 'A' ≤ c ∧ c ≤ 'Z' then some (c.toNat - 'A'.toNat + 10)
    else none

/-- The value of a digit to a base. -/
def digitIn? (base : Nat) (c : Char) : Option Nat :=
  (digitOrLetter? c).filter (· < base)

/-- The letter that may stand behind a zero in front of a number to a base. -/
def baseLetter? : Nat → Option Char
  | 2 => some 'b'
  | 8 => some 'o'
  | 16 => some 'x'
  | _ => none

/-- The text behind a zero and the letter of a base. -/
def afterBase (base : Nat) : Text → Text
  | '0' :: c :: rest =>
    if baseLetter? base = some c || baseLetter? base = some c.toLower then rest
    else '0' :: c :: rest
  | text => text

/-- The integer that code points write to a base. To the base ten there is a limit to the number of
digits, which is noticed in front of anything else that is wrong behind them. -/
def integerIn (base : Nat) (points : Points) : Except BadValue Int :=
  match Points.toText? points with
  | none => .error (.integer base points)
  | some text =>
    let (negative, body) := splitSign (Text.trimBy Text.isNumeralBlank text)
    let digits := afterBase base body
    let leading := digits.takeWhile fun c => (digitIn? base c).isSome
    if base = 10 && Text.maxNumeralDigits < leading.length then
      .error (.tooManyDigits leading.length)
    else match digits.mapM (digitIn? base) with
      | none | some [] => .error (.integer base points)
      | some values =>
        let value : Int := Text.digitsValue base values
        .ok (if negative then -value else value)

/-- The parts of code points between colons. -/
def colonParts (points : Points) : List Points :=
  Text.splitWhere (· == .char ':') points

/-- Code points without low lines. -/
def withoutLowLines (points : Points) : Points :=
  points.filter (· != .char '_')

/-- The integer of some content, with low lines left out. -/
def integerValue (content : Points) : Except BadValue Int :=
  let (negative, body) := splitPointSign (withoutLowLines content)
  let signed (value : Int) := if negative then -value else value
  match body with
  | [] => .error .noDigits
  | [.char '0'] => .ok 0
  | .char '0' :: .char 'b' :: digits => signed <$> integerIn 2 digits
  | .char '0' :: .char 'x' :: digits => signed <$> integerIn 16 digits
  | .char '0' :: _ => signed <$> integerIn 8 body
  | _ =>
    if body.contains (.char ':') then do
      let parts ← (colonParts body).mapM (integerIn 10)
      return signed (parts.foldl (fun value part => value * 60 + part) 0)
    else signed <$> integerIn 10 body

/-- The decimal number of digits, a fraction and an exponent, none of which has a sign in front. -/
def unsignedDecimal? (negative : Bool) (text : Text) : Option Double := do
  let isDigit := Text.isDecimalDigit
  let whole ← (text.takeWhile isDigit).mapM Text.digitValue?
  let rest := text.dropWhile isDigit
  let fractionText := match rest with
    | '.' :: behind => behind.takeWhile isDigit
    | _ => []
  let fraction ← fractionText.mapM Text.digitValue?
  let rest := match rest with
    | '.' :: behind => behind.dropWhile isDigit
    | rest => rest
  let exponent : Int ← match rest with
    | [] => some 0
    | e :: behind =>
      if e = 'e' || e = 'E' then
        let (below, digits) := splitSign behind
        match digits.mapM Text.digitValue? with
        | none | some [] => none
        | some digits =>
          let value : Int := Text.digitsValue 10 digits
          some (if below then -value else value)
      else none
  if whole = [] && fraction = [] then none
  else
    let digits := Text.digitsValue 10 (whole ++ fraction)
    let exponent := exponent - fraction.length
    let size : Int := (Text.ofNat digits).length
    if digits = 0 then some (.finite negative 0 0)
    else if 400 < exponent + size then some (.infinite negative)
    else if exponent + size < -400 then some (.finite negative 0 0)
    else some (.ofDecimal negative digits exponent)

/-- The decimal number that code points write. -/
def decimalIn (points : Points) : Except BadValue Double :=
  match Points.toText? points with
  | none => .error (.decimal points)
  | some text =>
    let (negative, body) := splitSign (Text.trimBy Text.isNumeralBlank text)
    let word := body.map Char.toLower
    if word = "inf".toList || word = "infinity".toList then .ok (.infinite negative)
    else if word = "nan".toList then .ok .nan
    else match unsignedDecimal? negative body with
      | some value => .ok value
      | none => .error (.decimal points)

/-- The value of places to the base sixty, the last one first, where the first of them counts a
number of units. A place beyond the range of doubles has no value. -/
def sexagesimal (sum : Double) (unit : Nat) : List Double → Except BadValue Double
  | [] => .ok sum
  | place :: more =>
    match Double.ofRatio false unit 1 with
    | .infinite _ => .error .hugePlace
    | size => sexagesimal (sum.plus (place.times size)) (unit * 60) more

/-- The decimal number of some content, with low lines left out. One that is no number is told from
others by its origin, unless it is written as such. -/
def decimalValue (origin : Nat) (content : Points) : Except BadValue Data.Value :=
  let plain := Points.lower (withoutLowLines content)
  let (negative, body) := splitPointSign plain
  let signed (value : Double) :=
    Data.Value.ofDouble (some origin) (if negative then value.negate else value)
  if plain = [] then .error .noDigits
  else if body = Points.ofText ".inf".toList then .ok (.float (.infinite negative))
  else if body = Points.ofText ".nan".toList then .ok (.nan none)
  else if body.contains (.char ':') then do
    let parts ← (colonParts body).mapM decimalIn
    return signed (← sexagesimal (.finite false 0 0) 1 parts.reverse)
  else signed <$> decimalIn body

end ReviewGate.Yaml
