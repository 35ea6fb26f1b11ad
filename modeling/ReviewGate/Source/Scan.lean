import ReviewGate.Source.Line
import ReviewGate.Source.Shapes

/-!
# The kind of every line

The lines of a source text are scanned from the first to the last. What is carried from one line to
the next is whether a comment over several lines is open, and the mark that would close it. Outside
of comments that mark is empty and never looked at.

A line of white space is blank and changes nothing. A line inside an open comment is a comment,
and it ends the comment when it holds the closing mark. Outside, a line that begins with an
opening mark is a comment, which stays open unless the closing mark follows on the same line.
-/

set_option autoImplicit false

namespace ReviewGate.Source

open Text

/-- Whether a comment over several lines is open. -/
inductive ScanMode
  | normal
  | inBlock
  deriving DecidableEq, Repr

/-- The name of a mode. -/
def ScanMode.name : ScanMode → Text
  | normal => "normal".toList
  | inBlock => "in_block".toList

/-- What is carried from line to line. -/
structure ScanState where
  mode : ScanMode
  closer : Text
  deriving DecidableEq, Repr

/-- The state outside of comments, without a mark. -/
def ScanState.outside : ScanState := ⟨.normal, []⟩

/-- The state inside a comment that a mark closes. -/
def ScanState.inside (closer : Text) : ScanState := ⟨.inBlock, closer⟩

/-- The state behind a line that begins with an opening mark. -/
def afterOpener (marks : BlockMarks) (line : Text) : ScanState :=
  if occurs marks.closer (line.drop marks.opener.length) then .outside else .inside marks.closer

/-- The kind of a trimmed line outside a comment, and the state behind it. -/
def scanOutside (shapes : LineShapes) (state : ScanState) (line : Text) : LineKind × ScanState :=
  match shapes.blocks.find? (·.opener.isPrefixOf line) with
  | some marks => (.comment, afterOpener marks line)
  | none =>
    if shapes.lineComments.any (·.isPrefixOf line) then (.comment, state)
    else if shapes.isImport line then (.imported, state)
    else (.code, state)

/-- The kind of a trimmed line in a state, and the state behind it. -/
def scanLine (shapes : LineShapes) (state : ScanState) (line : Text) : LineKind × ScanState :=
  if line.isEmpty then (.blank, state)
  else match state.mode with
    | .normal => scanOutside shapes state line
    | .inBlock => (.comment, if occurs state.closer line then .outside else state)

/-- The classified lines of a text and the state behind the last one. -/
structure Classification where
  lines : List Line
  final : ScanState
  deriving DecidableEq, Repr

/-- Scans lines from a state on, numbering them from `number` on. -/
def scanFrom (shapes : LineShapes) (number : Int) (state : ScanState) :
    List Text → Classification
  | [] => ⟨[], state⟩
  | raw :: more =>
    let here := scanLine shapes state (trim raw)
    let rest := scanFrom shapes (number + 1) here.2 more
    ⟨⟨number, raw, here.1⟩ :: rest.lines, rest.final⟩

/-- Classifies every line of a text, numbered from one on. -/
def classify (language : Language) (text : Text) : Classification :=
  scanFrom language.shapes 1 .outside (Text.lines text)

end ReviewGate.Source
