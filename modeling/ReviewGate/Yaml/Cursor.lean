import ReviewGate.Text.Basic

/-!
# Positions in a YAML text

A cursor is a position in a text together with all that follows it. It counts characters, lines
and columns. Line ends are the newline, the next-line character and the two separators of Unicode;
the next-line character is read as a newline. A byte order mark takes no column.
-/

set_option autoImplicit false

namespace ReviewGate.Yaml

/-! ## Classes of characters -/

/-- Whether a character ends a line. -/
def isBreak (c : Char) : Bool :=
  c == '\n' || c == '\u0085' || c == '\u2028' || c == '\u2029'

/-- What a line end is read as. -/
def readBreak (c : Char) : Char :=
  if c = '\u0085' then '\n' else c

/-- A space, a tab or a line end. -/
def isGap (c : Char) : Bool :=
  c == ' ' || c == '\t' || isBreak c

/-- Whether a text is at its end or goes on with a character of a class. -/
def endsOr (inClass : Char → Bool) : Text → Bool
  | [] => true
  | c :: _ => inClass c

/-- Whether a text is at its end or goes on with a gap. -/
def atGap (text : Text) : Bool :=
  endsOr isGap text

/-- Whether a text is at its end or at the end of a line. -/
def atLineEnd (text : Text) : Bool :=
  endsOr isBreak text

/-- Whether a text is at its end, at the end of a line or at a space. -/
def atBlank (text : Text) : Bool :=
  endsOr (fun c => c == ' ' || isBreak c) text

/-- Whether a text starts with a mark of three characters that separates documents. -/
def startsWithMark (mark text : Text) : Bool :=
  mark.isPrefixOf text && atGap (text.drop mark.length)

/-- The mark at which a document starts. -/
def startMark : Text := "---".toList

/-- The mark at which a document ends. -/
def endMark : Text := "...".toList

/-- Whether a text starts with a mark that separates documents. -/
def startsWithSeparator (text : Text) : Bool :=
  startsWithMark startMark text || startsWithMark endMark text

/-! ## Cursors -/

/-- A position and what follows it. -/
structure Cursor where
  rest : Text
  index : Nat
  line : Nat
  column : Nat
  deriving DecidableEq, Repr

namespace Cursor

/-- The position at the beginning of a text. -/
def start (text : Text) : Cursor := ⟨text, 0, 0, 0⟩

/-- The next position. -/
def next (cursor : Cursor) : Cursor :=
  match cursor.rest with
  | [] => cursor
  | c :: rest =>
    if isBreak c then ⟨rest, cursor.index + 1, cursor.line + 1, 0⟩
    else ⟨rest, cursor.index + 1, cursor.line,
      if c = '\uFEFF' then cursor.column else cursor.column + 1⟩

/-- The position some characters further on. -/
def skip : Nat → Cursor → Cursor
  | 0, cursor => cursor
  | count + 1, cursor => skip count cursor.next

/-- The position behind the characters of a class. -/
def skipWhile (inClass : Char → Bool) (cursor : Cursor) : Cursor :=
  cursor.skip (cursor.rest.takeWhile inClass).length

/-- The position behind the comment that begins here, at the end of its line. -/
def skipComment (cursor : Cursor) : Cursor :=
  if cursor.rest.head? = some '#' then cursor.skipWhile (! isBreak ·) else cursor

/-- The position at the beginning of the next line. -/
def nextLine (cursor : Cursor) : Cursor :=
  (cursor.skipWhile (! isBreak ·)).next

end Cursor

end ReviewGate.Yaml
