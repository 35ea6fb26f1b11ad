import ReviewGate.Source.Language
import ReviewGate.Text.Reading
import ReviewGate.Text.Word

/-!
# The line-level shape of a language

Of a language only three things are known: the pairs of marks that open and close a comment over
several lines, the marks that start a comment to the end of a line, and the shapes of an import.
A text in an unknown language has the line comments of both families and nothing else, so no
block ever opens in it and no line of it is an import.

All shapes are tested on a line without the white space around it.
-/

set_option autoImplicit false

namespace ReviewGate.Source

open Text

/-- The marks around a comment that may run over several lines. -/
structure BlockMarks where
  opener : Text
  closer : Text
  deriving DecidableEq, Repr

/-- What is known of the lines of a language. -/
structure LineShapes where
  blocks : List BlockMarks
  lineComments : List Text
  isImport : Text → Bool

/-! ## Imports -/

/-- The word `import` and a blank. -/
def isPlainImport (line : Text) : Bool :=
  (after? "import".toList line).any (startsIn isBlank)

/-- The word `export`, white space and a brace. -/
def isBraceExport (line : Text) : Bool :=
  ((after? "export".toList line).bind afterBlank?).any (startsIn (· == '{'))

/-- The words `export * from`, whatever follows. -/
def isStarExport (line : Text) : Bool :=
  (do
    let rest ← after? "export".toList line
    let rest ← afterBlank? rest
    let rest ← after? "*".toList rest
    let rest ← afterBlank? rest
    after? "from".toList rest).isSome

/-- A constant that is given the result of a call of `require`. -/
def isRequire (line : Text) : Bool :=
  (do
    let rest ← after? "const".toList line
    let rest ← afterBlank? rest
    let rest ← afterSome? isWord rest
    let rest ← after? "=".toList (trimLeft rest)
    after? "require(".toList (trimLeft rest)).isSome

/-- The words `from`, a name and `import`, and a blank. -/
def isFromImport (line : Text) : Bool :=
  (do
    let rest ← after? "from".toList line
    let rest ← afterBlank? rest
    let rest ← afterSome? (! isBlank ·) rest
    let rest ← afterBlank? rest
    after? "import".toList rest).any (startsIn isBlank)

/-! ## The languages -/

/-- Comments in slashes and stars, and module imports. -/
def scriptShapes : LineShapes where
  blocks := [⟨"/*".toList, "*/".toList⟩]
  lineComments := ["//".toList]
  isImport line := isPlainImport line || isBraceExport line || isStarExport line || isRequire line

/-- Comments behind a number sign, texts in triple quotes, and both kinds of import. -/
def pythonShapes : LineShapes where
  blocks := [⟨"\"\"\"".toList, "\"\"\"".toList⟩, ⟨"'''".toList, "'''".toList⟩]
  lineComments := ["#".toList]
  isImport line := isPlainImport line || isFromImport line

/-- The line comments of both families, and nothing else. -/
def unknownShapes : LineShapes where
  blocks := []
  lineComments := ["#".toList, "//".toList]
  isImport _ := false

/-- What is known of the lines of a language. -/
def Language.shapes : Language → LineShapes
  | .typescript => scriptShapes
  | .javascript => scriptShapes
  | .python => pythonShapes
  | .unknown => unknownShapes

end ReviewGate.Source
