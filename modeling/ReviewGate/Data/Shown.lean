import ReviewGate.Data.Scatter
import ReviewGate.Number.Shortest

/-!
# The text of a value

For messages a value has a text that shows its kind as well as its content. A container that holds
itself is not shown within itself again; three dots stand for it there. Two kinds of values cannot
be shown: numbers with too many digits, and data in which too many containers stand within each
other.
-/

set_option autoImplicit false

namespace ReviewGate.Data

/-- Why a value cannot be shown. -/
inductive Unshowable
  | tooManyDigits
  | tooDeep
  deriving DecidableEq, Repr

/-- The wording of the refusal to show a value. -/
def Unshowable.message : Unshowable → Text
  | tooManyDigits => Text.longNumeralMessage
  | tooDeep => "too many containers stand within each other".toList

/-- Commas between texts. -/
def commaSeparated (texts : List Text) : Text :=
  List.intercalate ", ".toList texts

/-- Arguments with commas between them, in brackets behind a name. -/
def callText (name : String) (arguments : List Text) : Text :=
  name.toList ++ '(' :: commaSeparated arguments ++ [')']

/-- A length of time, normalised to days and seconds of a day. -/
def spanText (seconds : Int) : Text :=
  let days := seconds / 86400
  let rest := seconds % 86400
  callText "datetime.timedelta"
    ((if days = 0 then [] else ["days=".toList ++ Text.ofInt days]) ++
      if rest = 0 then [] else ["seconds=".toList ++ Text.ofInt rest])

/-- A distance from universal time. -/
def zoneText (seconds : Int) : Text :=
  if seconds = 0 then "datetime.timezone.utc".toList
  else callText "datetime.timezone" [spanText seconds]

/-- A moment. Seconds and parts of seconds are left out from the end when they are zero. -/
def Moment.text (moment : Moment) : Text :=
  let seconds :=
    if moment.micro ≠ 0 then [moment.second, moment.micro]
    else if moment.second ≠ 0 then [moment.second]
    else []
  let numbers := [moment.year, moment.month, moment.day, moment.hour, moment.minute] ++ seconds
  callText "datetime.datetime" (numbers.map Text.ofNat ++
    match moment.zone with
    | some zone => ["tzinfo=".toList ++ zoneText zone]
    | none => [])

/-- One byte inside quotes. Bytes beyond printable ASCII are written by their code. -/
def quoteByte (quote : Char) (byte : UInt8) : Text :=
  if byte.toNat < 127 then Text.quoteChar quote (Char.ofNat byte.toNat)
  else '\\' :: 'x' :: Text.hexDigits 2 byte.toNat

/-- Bytes in quotes behind a letter. -/
def quotedBytes (bytes : List UInt8) : Text :=
  let quote := Text.quoteFor (bytes.map fun byte => Char.ofNat byte.toNat)
  'b' :: quote :: bytes.flatMap (quoteByte quote) ++ [quote]

/-- The text of a value, where the text of a container at a place is known. -/
def Value.shownWith (container : Nat → Except Unshowable Text) : Value → Except Unshowable Text
  | .null => .ok "None".toList
  | .bool true => .ok "True".toList
  | .bool false => .ok "False".toList
  | .int value =>
    match Text.numeral? value with
    | some numeral => .ok numeral
    | none => .error .tooManyDigits
  | .float value => .ok value.toText
  | .nan _ => .ok Double.nan.toText
  | .text value => .ok (Points.quoted value)
  | .bytes value => .ok (quotedBytes value)
  | .date year month day => .ok (callText "datetime.date" ([year, month, day].map Text.ofNat))
  | .moment value => .ok value.text
  | .container place => container place

/-- The text of a container, where the texts of values are known. -/
def Container.shownWith (textOf : Value → Except Unshowable Text) :
    Container → Except Unshowable Text
  | .list items => do
    return '[' :: commaSeparated (← items.mapM textOf) ++ [']']
  | .pairs items => do
    let texts ← items.mapM fun (first, second) => do
      return '(' :: (← textOf first) ++ ", ".toList ++ (← textOf second) ++ [')']
    return '[' :: commaSeparated texts ++ [']']
  | .mapping members => do
    let texts ← members.mapM fun (key, value) => do
      return (← textOf key) ++ ": ".toList ++ (← textOf value)
    return '{' :: commaSeparated texts ++ ['}']
  | .set [] => .ok "set()".toList
  | .set elements => do
    return '{' :: commaSeparated (← (scattered elements).mapM textOf) ++ ['}']

/-- What stands for a container within itself. -/
def Container.elided : Container → Text
  | .list _ | .pairs _ => "[...]".toList
  | .mapping _ => "{...}".toList
  | .set _ => "set(...)".toList

/-- The text of a value within the containers at some places. The bound is on how many containers
may stand within each other. -/
def shownWithin (containers : Array Container) :
    Nat → List Nat → Value → Except Unshowable Text
  | 0, _ => Value.shownWith fun _ => .error .tooDeep
  | bound + 1, path => Value.shownWith fun place =>
    match containers[place]? with
    | none => .ok []
    | some container =>
      if path.contains place then .ok container.elided
      else container.shownWith (shownWithin containers bound (place :: path))

/-- The most containers that are shown within each other. -/
def maxShownDepth : Nat := 985

/-- The text of a value of some data. -/
def Graph.shown (graph : Graph) (value : Value) : Except Unshowable Text :=
  shownWithin graph.containers maxShownDepth [] value

end ReviewGate.Data
