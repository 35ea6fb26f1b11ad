import ReviewGate.Source.Line
import ReviewGate.Text.Reading
import ReviewGate.Text.Word

/-!
# Lines at which a file can be cut

A line of code starts a unit when it is the header of a function, a class or a method. Headers of
functions and classes, and of definitions behind the word `def`, begin at the left margin. An
indented line is a header in two shapes: a definition behind `def` that ends in a colon, and a
method, that is a name with its parameters, an optional result type and an opening brace or colon
at the end of the line. Only a result type may stand between the parameters and the end, so the
header of a callback with an arrow is none.

What looks like a method but is named by a word that controls the flow of a program starts
nothing. The name of a method is determined by the line: it is the last word in front of the first
opening bracket.
-/

set_option autoImplicit false

namespace ReviewGate.Source

open Text

/-! ## Headers at the left margin -/

/-- White space and the beginning of a name. -/
def beginsName (text : Text) : Bool :=
  (afterBlank? text).any (startsIn isWord)

/-- The header of a function, possibly exported, a default or asynchronous, or a generator. -/
def isFunctionHeader (raw : Text) : Bool :=
  let body := skipWord "async".toList (skipWord "default".toList (skipWord "export".toList raw))
  match after? "function".toList body with
  | some rest => beginsName ((after? "*".toList rest).getD rest)
  | none => false

/-- The header of a class, possibly exported, a default or abstract. -/
def isClassHeader (raw : Text) : Bool :=
  let body := skipWord "abstract".toList (skipWord "default".toList (skipWord "export".toList raw))
  (after? "class".toList body).any beginsName

/-- The header of a definition, possibly asynchronous. -/
def isDefHeader (raw : Text) : Bool :=
  (after? "def".toList (skipWord "async".toList raw)).any beginsName

/-! ## Indented headers -/

/-- A colon at the end, white space apart, and no newline in front of it. -/
def endsInColon (text : Text) : Bool :=
  match (trimRight text).reverse with
  | ':' :: front => !front.contains '\n'
  | _ => false

/-- An indented definition with parameters that ends in a colon. -/
def isIndentedDef (raw : Text) : Bool :=
  (do
    let rest ← afterBlank? raw
    let rest ← after? "def".toList (skipWord "async".toList rest)
    let rest ← afterBlank? rest
    let rest ← afterSome? isWord rest
    after? "(".toList (trimLeft rest)).any endsInColon

/-- The words that may stand in front of the name of a method. -/
def methodModifiers : List Text :=
  ["public".toList, "private".toList, "protected".toList, "static".toList, "async".toList,
    "get".toList, "set".toList]

/-- The name in a row of words, when all words in front of it are modifiers. -/
def nameBehindModifiers? : List Text → Option Text
  | [] => none
  | [name] => if name.all isWord then some name else none
  | word :: more => if word ∈ methodModifiers then nameBehindModifiers? more else none

/-- The mark that opens a body. -/
def opensBody (c : Char) : Bool :=
  c == '{' || c == ':'

/-- What may follow the parameters of a method: an opening mark at the end, with nothing or a
result type in front of it. -/
def isMethodTail (tail : Text) : Bool :=
  match trim tail with
  | [] => false
  | [mark] => opensBody mark
  | first :: second :: rest =>
    first == ':' && opensBody ((second :: rest).getLast (by simp)) &&
      !(second :: rest).dropLast.isEmpty &&
      (second :: rest).dropLast.all fun c => !(c == '=' || c == '{' || c == ';')

/-- The name of the method whose header an indented line is. -/
def methodName? (raw : Text) : Option Text :=
  if startsIn isBlank raw then
    let front := raw.takeWhile (· != '(')
    match raw.dropWhile (· != '('), nameBehindModifiers? (partsBetween isBlank front) with
    | _ :: params, some name =>
      match params.dropWhile (· != ')') with
      | _ :: tail => if isMethodTail tail then some name else none
      | [] => none
    | _, _ => none
  else none

/-- The words that look like the name of a method and control the flow of a program. -/
def controlWords : List Text :=
  ["if".toList, "for".toList, "while".toList, "switch".toList, "catch".toList, "with".toList,
    "return".toList, "elif".toList, "except".toList, "function".toList]

/-- The header of a method that is not a statement. -/
def isMethodHeader (raw : Text) : Bool :=
  (methodName? raw).any (· ∉ controlWords)

/-! ## Boundaries -/

/-- Whether the text of a line is a header of any shape. -/
def isHeader (raw : Text) : Bool :=
  isFunctionHeader raw || isClassHeader raw || isDefHeader raw || isIndentedDef raw ||
    isMethodHeader raw

/-- A line of code at which a unit starts. -/
def isBoundary (line : Line) : Bool :=
  line.isCode && isHeader line.raw

end ReviewGate.Source
