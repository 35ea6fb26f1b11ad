import ReviewGate.Text.Basic

/-!
# Rows on a console

A printed line is a row of pieces, each a text with or without a style. Printing cleans the text:
the bell, the backspace, the vertical tab, the form feed and the carriage return are left out, and
a tab is filled up with blanks to the next column that is a multiple of eight, counted from the
start of the output line over all pieces. How many columns a character takes is given by a table,
since there are wide characters and such without any width.

In colour, a piece that has a style and is not empty stands between the escape sequence of its
style and the one that ends all styles; without colour styles are not seen. The two forms of a
line therefore differ in escape sequences only.
-/

set_option autoImplicit false

namespace ReviewGate.Console

/-- The styles of pieces. -/
inductive Style
  | bold
  | dim
  | red
  | green
  | yellow
  | boldRed
  | boldGreen
  | boldYellow
  | boldBlue
  deriving DecidableEq, Repr

/-- The codes of a style in an escape sequence. -/
def Style.codes : Style → Text
  | bold => "1".toList
  | dim => "2".toList
  | red => "31".toList
  | green => "32".toList
  | yellow => "33".toList
  | boldRed => "1;31".toList
  | boldGreen => "1;32".toList
  | boldYellow => "1;33".toList
  | boldBlue => "1;34".toList

/-- A text with or without a style. -/
structure Piece where
  style : Option Style
  text : Text
  deriving DecidableEq, Repr

/-- A piece without style. -/
def bare (text : Text) : Piece := ⟨none, text⟩

/-- A piece with a style. -/
def styled (style : Style) (text : Text) : Piece := ⟨some style, text⟩

/-- A printed line. -/
abbrev Row := List Piece

/-! ## Cleaning -/

/-- A control character that is never printed. -/
def isDropped (c : Char) : Bool :=
  c.toNat == 7 || c.toNat == 8 || c.toNat == 11 || c.toNat == 12 || c.toNat == 13

/-- The number of columns that each character takes. -/
abbrev Widths := Char → Nat

/-- The widths of characters that all take a single column. -/
def Widths.single : Widths := fun _ => 1

/-- The column behind a character. -/
def columnAfter (widths : Widths) (column : Nat) (c : Char) : Nat :=
  if c = '\n' then 0
  else if c = '\t' then column + (8 - column % 8)
  else column + widths c

/-- A character as it is printed in a column. -/
def shownChar (column : Nat) (c : Char) : Text :=
  if c = '\t' then List.replicate (8 - column % 8) ' ' else [c]

/-- A text with its tabs filled up, from a column on, with the column behind it. -/
def expandTabs (widths : Widths) (column : Nat) : Text → Text × Nat
  | [] => ([], column)
  | c :: rest =>
    let (shown, last) := expandTabs widths (columnAfter widths column c) rest
    (shownChar column c ++ shown, last)

/-- The text of a piece as it is printed from a column on, with the column behind it. -/
def cleanText (widths : Widths) (column : Nat) (text : Text) : Text × Nat :=
  expandTabs widths column (text.filter (! isDropped ·))

/-! ## Rendering -/

/-- The escape character. -/
def escape : Char := Char.ofNat 27

/-- The escape sequence with the given codes. -/
def escapeSequence (codes : Text) : Text :=
  escape :: '[' :: codes ++ ['m']

/-- A cleaned text in its style. -/
def paint (colour : Bool) (style : Option Style) (text : Text) : Text :=
  match style with
  | some style =>
    if colour && !text.isEmpty then
      escapeSequence style.codes ++ text ++ escapeSequence ['0']
    else text
  | none => text

/-- The pieces of a line from a column on. -/
def renderPieces (widths : Widths) (colour : Bool) (column : Nat) : List Piece → Text
  | [] => []
  | piece :: more =>
    let (shown, last) := cleanText widths column piece.text
    paint colour piece.style shown ++ renderPieces widths colour last more

/-- A line with the newline that ends it. -/
def renderLine (widths : Widths) (colour : Bool) (line : Row) : Text :=
  renderPieces widths colour 0 line ++ ['\n']

/-- Lines, each ended by a newline. -/
def render (widths : Widths) (colour : Bool) (lines : List Row) : Text :=
  lines.flatMap (renderLine widths colour)

/-! ## Shared lines -/

/-- The line between the entries of a report and its totals. -/
def divider : Row := [styled .dim (List.replicate 45 '─')]

end ReviewGate.Console
