import ReviewGate.Text.Blank

/-!
# Header values of a decision record

A record states its date, its status and its deciders behind bold labels, which are read without
regard to case. The value of a label is the text behind it up to a newline, a bar or the next
bold mark, without the white space around it; the white space in front of the value may run over
the ends of lines. A label with no text behind it still has an empty value when some blank other
than a newline follows it. The first label with a value counts.
-/

set_option autoImplicit false

namespace ReviewGate.Record

open Text

/-- Whether a character is a form of a lower-case ASCII letter or sign, without regard to case.
The letters i and s have forms beyond ASCII. -/
def isFormOf (letter c : Char) : Bool :=
  c == letter || c == letter.toUpper || (letter == 'i' && (c == 'ı' || c == 'İ')) ||
    (letter == 's' && c == 'ſ')

/-- What follows a label that is given in lower case. -/
def afterLabel? : Text → Text → Option Text
  | [], text => some text
  | _ :: _, [] => none
  | letter :: label, c :: rest => if isFormOf letter c then afterLabel? label rest else none

/-- A character that a value may hold. -/
def inValue (c : Char) : Bool :=
  c != '\n' && c != '|' && c != '*'

/-- The value behind a label. -/
def valueBehind? (text : Text) : Option Text :=
  let value := (trimLeft text).takeWhile inValue
  if !value.isEmpty then some (trim value)
  else if (text.takeWhile isBlank).any (· != '\n') then some []
  else none

/-- The value of the first label that has one, where any of several labels may stand. -/
def headerValue? (labels : List Text) : Text → Option Text
  | [] => none
  | c :: rest =>
    match labels.findSome? fun label => (afterLabel? label (c :: rest)).bind valueBehind? with
    | some value => some value
    | none => headerValue? labels rest

/-- The labels of the date. -/
def dateLabels : List Text := ["**date:**".toList]

/-- The labels of the status. -/
def statusLabels : List Text := ["**status:**".toList]

/-- The labels of the deciders, of which there may be one or several. -/
def decidersLabels : List Text := ["**decider:**".toList, "**deciders:**".toList]

end ReviewGate.Record
