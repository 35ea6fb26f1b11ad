import ReviewGate.Data.Shown
import ReviewGate.Yaml.Fault

/-!
# Timestamps

A timestamp is a day, or a moment with hours, minutes and seconds, a fraction and a zone. A plain
text that is a day only needs two digits for month and day; otherwise one is enough.
-/

set_option autoImplicit false

namespace ReviewGate.Yaml

open Data (Moment Value)

/-- A time of day as it is written. -/
structure WrittenTime where
  hour : Nat
  minute : Nat
  second : Nat
  fraction : Text
  zone : Option Int
  deriving DecidableEq, Repr

/-- A timestamp as it is written. -/
structure Written where
  year : Nat
  month : Nat
  day : Nat
  time : Option WrittenTime
  deriving DecidableEq, Repr

/-- A text without the newline at its end. -/
def withoutNewline (text : Text) : Text :=
  if text.getLast? = some '\n' then text.dropLast else text

/-- Reads a number of so many digits, behind which no further digit stands. -/
def readDigits? (least most : Nat) (text : Text) : Option (Nat × Text) :=
  let digits := text.takeWhile Char.isDigit
  if least ≤ digits.length ∧ digits.length ≤ most then
    some (digits.foldl (fun value c => value * 10 + (c.toNat - '0'.toNat)) 0,
      text.dropWhile Char.isDigit)
  else none

/-- Reads a character. -/
def readChar? (c : Char) : Text → Option Text
  | [] => none
  | d :: rest => if c = d then some rest else none

/-- A space or a tab. -/
def isBlankMark (c : Char) : Bool :=
  c == ' ' || c == '\t'

/-- Reads what stands between a day and a time. -/
def readTimeMark? : Text → Option Text
  | [] => none
  | c :: rest =>
    if c = 'T' || c = 't' then some rest
    else if isBlankMark c then some (rest.dropWhile isBlankMark)
    else none

/-- Reads a zone up to the end of the text, as seconds from universal time. -/
def readZone? : Text → Option (Option Int)
  | [] => some none
  | text =>
    match text.dropWhile isBlankMark with
    | ['Z'] => some (some 0)
    | sign :: rest =>
      if sign = '+' || sign = '-' then do
        let (hours, rest) ← readDigits? 1 2 rest
        let minutes ← match rest with
          | [] => some 0
          | ':' :: rest => do
            let (minutes, rest) ← readDigits? 2 2 rest
            if rest = [] then some minutes else none
          | _ => none
        let seconds : Int := hours * 3600 + minutes * 60
        return some (if sign = '-' then -seconds else seconds)
      else none
    | [] => none

/-- Reads a time up to the end of the text. -/
def readTime? (text : Text) : Option WrittenTime := do
  let (hour, rest) ← readDigits? 1 2 text
  let rest ← readChar? ':' rest
  let (minute, rest) ← readDigits? 2 2 rest
  let rest ← readChar? ':' rest
  let (second, rest) ← readDigits? 2 2 rest
  let (fraction, rest) := match rest with
    | '.' :: behind => (behind.takeWhile Char.isDigit, behind.dropWhile Char.isDigit)
    | rest => ([], rest)
  return ⟨hour, minute, second, fraction, ← readZone? rest⟩

/-- Reads a timestamp. -/
def readWritten? (text : Text) : Option Written := do
  let (year, rest) ← readDigits? 4 4 text
  let rest ← readChar? '-' rest
  let (month, rest) ← readDigits? 1 2 rest
  let rest ← readChar? '-' rest
  let (day, rest) ← readDigits? 1 2 rest
  if rest = [] then return ⟨year, month, day, none⟩
  else return ⟨year, month, day, some (← readTime? (← readTimeMark? rest))⟩

/-- Whether a plain text is a timestamp. -/
def isTimestamp (text : Text) : Bool :=
  match readWritten? text with
  | none => false
  | some written => written.time.isSome || text.length = 10

/-! ## Values -/

/-- Whether a year has a leap day. -/
def isLeapYear (year : Nat) : Bool :=
  year % 4 = 0 && (year % 100 ≠ 0 || year % 400 = 0)

/-- The number of days of a month. -/
def daysIn (year month : Nat) : Nat :=
  if month = 2 then if isLeapYear year then 29 else 28
  else if month = 4 || month = 6 || month = 9 || month = 11 then 30
  else 31

/-- Checks that a day exists. -/
def checkDay (year month day : Nat) : Except BadValue Unit :=
  if year = 0 then .error (.year year)
  else if month = 0 || 12 < month then .error .month
  else if day = 0 || daysIn year month < day then .error .day
  else .ok ()

/-- Checks that a time exists. -/
def checkTime (time : WrittenTime) : Except BadValue Unit :=
  if 23 < time.hour then .error .hour
  else if 59 < time.minute then .error .minute
  else if 59 < time.second then .error .second
  else .ok ()

/-- Checks that a zone is less than a day from universal time. -/
def checkZone : Option Int → Except BadValue Unit
  | none => .ok ()
  | some seconds =>
    if seconds.natAbs < 86400 then .ok () else .error (.zone (Data.spanText seconds))

/-- A fraction of a second in millionths. -/
def millionths (fraction : Text) : Nat :=
  ((fraction ++ List.replicate 6 '0').take 6).foldl
    (fun value c => value * 10 + (c.toNat - '0'.toNat)) 0

/-- The value of a timestamp. -/
def Written.value : Written → Except BadValue Value
  | ⟨year, month, day, none⟩ => do
    checkDay year month day
    return .date year month day
  | ⟨year, month, day, some time⟩ => do
    checkZone time.zone
    checkDay year month day
    checkTime time
    return .moment ⟨year, month, day, time.hour, time.minute, time.second,
      millionths time.fraction, time.zone⟩

/-- The timestamp that some content is, behind which a newline may stand. -/
def timestampValue (content : Points) : Except BadValue Value :=
  match (Points.toText? content).bind fun text => readWritten? (withoutNewline text) with
  | none => .error .timestamp
  | some written => written.value

end ReviewGate.Yaml
