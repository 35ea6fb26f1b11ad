import ReviewGate.Yaml.Quoted

/-!
# Plain texts

A plain text has no quotes. It ends where a colon stands before a gap, where a comment starts
behind a gap, and between brackets also at a comma or a bracket. It may go on over lines that are
indented deeply enough; line ends are folded as in quoted texts.
-/

set_option autoImplicit false

namespace ReviewGate.Yaml

/-- The characters that end a plain text between brackets. -/
def endsInBrackets (c : Char) : Bool :=
  c == ',' || c == '?' || c == '[' || c == ']' || c == '{' || c == '}'

/-- The characters behind which a colon between brackets is a colon, when they follow it. -/
def followsColon (c : Char) : Bool :=
  c == ',' || c == '[' || c == ']' || c == '{' || c == '}'

/-- The run of characters of a plain text up to a gap or its end. -/
def plainRun (inBrackets : Bool) : Text → Text
  | [] => []
  | c :: rest =>
    if isGap c || (inBrackets && endsInBrackets c) ||
        (c == ':' && (atGap rest || (inBrackets && endsOr followsColon rest))) then []
    else c :: plainRun inBrackets rest

/-- The gap behind a run of a plain text. -/
structure PlainGap where
  content : Text
  length : Nat
  crossesLine : Bool
  separates : Bool

/-- The number of characters up to the first line that separates documents, when there is one
within the gap at the beginning of a text. -/
def lengthToSeparator? : Text → Option Nat
  | [] => none
  | c :: rest =>
    if isBreak c then
      if startsWithSeparator rest then some 1 else (lengthToSeparator? rest).map (· + 1)
    else if c = ' ' then (lengthToSeparator? rest).map (· + 1)
    else none

/-- The gap at the beginning of a text. It holds no tabs. -/
def plainGap (text : Text) : PlainGap :=
  let spaces := text.takeWhile (· == ' ')
  match text.drop spaces.length with
  | [] => ⟨spaces, spaces.length, false, false⟩
  | c :: _ =>
    if isBreak c then
      match lengthToSeparator? text with
      | some length => ⟨[], length, true, true⟩
      | none =>
        let gap := text.takeWhile fun c => c == ' ' || isBreak c
        ⟨gapText gap, gap.length, true, false⟩
    else ⟨spaces, spaces.length, false, false⟩

/-- A plain text that has been read: its content, the position behind it, and whether the gap
behind it crosses a line end. -/
structure PlainText where
  content : Text
  cursor : Cursor
  crossesLine : Bool

/-- Reads a plain text. `gap` is what stands for the gap in front, which counts only when the text
goes on. The bound is on the number of runs. -/
def readPlainFrom (inBrackets : Bool) (depth : Int) (gap : Text) (crossed : Bool) :
    Nat → Cursor → PlainText
  | 0, cursor => ⟨[], cursor, crossed⟩
  | bound + 1, cursor =>
    let run := if cursor.rest.head? = some '#' then [] else plainRun inBrackets cursor.rest
    if run = [] then ⟨[], cursor, crossed⟩
    else
      let behind := cursor.skip run.length
      let next := plainGap behind.rest
      let there := behind.skip next.length
      if next.content = [] || next.separates || (! inBrackets && (there.column : Int) < depth) then
        ⟨gap ++ run, there, next.crossesLine⟩
      else
        let more := readPlainFrom inBrackets depth next.content next.crossesLine bound there
        { more with content := gap ++ run ++ more.content }

/-- Reads a plain text whose lines are indented to a depth. The bound is on the number of
characters. -/
def readPlain (inBrackets : Bool) (depth : Int) (bound : Nat) (cursor : Cursor) : PlainText :=
  readPlainFrom inBrackets depth [] false bound cursor

end ReviewGate.Yaml
