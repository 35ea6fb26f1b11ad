import ReviewGate.Text.Basic

/-!
# Classified lines

A line of a source file carries its number, its text as it stands in the file, and its kind. The
kinds are mutually exclusive; only lines of code count as effective. A `Breakdown` is the number
of lines of each kind.
-/

set_option autoImplicit false

namespace ReviewGate.Source

/-- What a line is. -/
inductive LineKind
  | code
  | blank
  | comment
  | imported
  deriving DecidableEq, Repr

namespace LineKind

/-- The name of a kind. -/
def name : LineKind → Text
  | code => "code".toList
  | blank => "blank".toList
  | comment => "comment".toList
  | imported => "import".toList

/-- All kinds. -/
def all : List LineKind := [code, blank, comment, imported]

/-- The kind of a name. -/
def ofName? (name : Text) : Option LineKind :=
  all.find? (·.name = name)

end LineKind

/-- A line of a source file with its kind. -/
structure Line where
  number : Int
  raw : Text
  kind : LineKind
  deriving DecidableEq, Repr

/-- A line that counts. -/
def Line.isCode (line : Line) : Bool :=
  line.kind = .code

/-- The lines that count. -/
def codeLines (lines : List Line) : List Line :=
  lines.filter Line.isCode

/-- The number of lines of each kind. -/
structure Breakdown where
  total : Int
  effective : Int
  blank : Int
  comment : Int
  imports : Int
  deriving DecidableEq, Repr

/-- How many lines are of a kind. -/
def countKind (kind : LineKind) (lines : List Line) : Nat :=
  lines.countP (·.kind = kind)

/-- The breakdown of a list of lines. -/
def breakdown (lines : List Line) : Breakdown where
  total := lines.length
  effective := countKind .code lines
  blank := countKind .blank lines
  comment := countKind .comment lines
  imports := countKind .imported lines

end ReviewGate.Source
