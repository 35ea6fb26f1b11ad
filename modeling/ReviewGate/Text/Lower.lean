import ReviewGate.Text.Casing

/-!
# Lower case

The lower-case form of a text follows the full Unicode mapping. It works character by character
with two exceptions: the dotted capital I becomes two characters, and a capital sigma becomes a
final sigma where it ends a word, that is, behind a cased character and not in front of one, with
case-ignorable characters skipped on both sides.

The mapping is one pass from the left. All it carries along is whether the last character that
was not case-ignorable has a case.
-/

set_option autoImplicit false

namespace ReviewGate.Text

/-- Whether the next character that is not case-ignorable has a case. -/
def cased? (rest : Text) : Bool :=
  match rest.dropWhile isCaseIgnorable with
  | [] => false
  | c :: _ => isCased c

/-- Whether the last character that is not case-ignorable has a case, one character later. -/
def casedAfter (before : Bool) (c : Char) : Bool :=
  if isCaseIgnorable c then before else isCased c

/-- The lower-case form of one character between what precedes and what follows it. -/
def lowerChar (before : Bool) (c : Char) (rest : Text) : Text :=
  if c = 'Σ' then (if before && !cased? rest then ['ς'] else ['σ'])
  else if c = 'İ' then ['i', '\u0307']
  else [lowerSimple c]

/-- The lower-case form of a text behind a context. -/
def lowerFrom (before : Bool) : Text → Text
  | [] => []
  | c :: rest => lowerChar before c rest ++ lowerFrom (casedAfter before c) rest

/-- The lower-case form of a text. -/
def lower (text : Text) : Text :=
  lowerFrom false text

end ReviewGate.Text
