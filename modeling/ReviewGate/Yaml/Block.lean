import ReviewGate.Yaml.Cursor
import ReviewGate.Yaml.Fault

/-!
# Blocks of text

A block of text stands on lines of its own, indented deeper than what holds it. Its header says
whether its line ends are kept or folded, how deep it is indented when that is not to be seen from
its first line, and what becomes of the line ends behind its last line.
-/

set_option autoImplicit false

namespace ReviewGate.Yaml

/-- What becomes of the line ends behind the last line of a block. -/
inductive Chomping
  | strip
  | clip
  | keep
  deriving DecidableEq, Repr

/-- The header of a block. -/
structure BlockHeader where
  chomping : Chomping
  depth : Option Nat
  deriving DecidableEq, Repr

/-- The chomping that a character asks for. -/
def chomping? : Char → Option Chomping
  | '+' => some .keep
  | '-' => some .strip
  | _ => none

/-- The depth that a character asks for. -/
def depth? (c : Char) : Option Nat :=
  if c.isDigit then some (c.toNat - '0'.toNat) else none

/-- The header at the beginning of a text and what follows it. -/
def splitHeader : Text → BlockHeader × Text
  | [] => (⟨.clip, none⟩, [])
  | c :: rest =>
    match chomping? c, depth? c, rest with
    | some chomping, _, d :: more =>
      match depth? d with
      | some depth => (⟨chomping, some depth⟩, more)
      | none => (⟨chomping, none⟩, d :: more)
    | some chomping, _, [] => (⟨chomping, none⟩, [])
    | none, some depth, d :: more =>
      match chomping? d with
      | some chomping => (⟨chomping, some depth⟩, more)
      | none => (⟨.clip, some depth⟩, d :: more)
    | none, some depth, [] => (⟨.clip, some depth⟩, [])
    | none, none, rest => (⟨.clip, none⟩, c :: rest)

/-- Reads the header of a block from behind its first character. It fills its line up to the end
or a comment. -/
def readHeader (text : Text) : Except Fault BlockHeader :=
  let (header, rest) := splitHeader text
  let behind := rest.dropWhile (· == ' ')
  if atBlank rest && (behind.head? = some '#' || atLineEnd behind) && header.depth ≠ some 0 then
    .ok header
  else malformed .badBlockHeader

/-! ## Empty lines -/

/-- What stands in front of a line of a block: the ends of empty lines, the deepest column seen,
and the position that is reached. -/
structure Margin where
  breaks : List Char
  deepest : Nat
  cursor : Cursor

/-- Skips empty lines, and spaces up to a depth; with no depth given, all spaces. The bound is on
the number of characters. -/
def readMargin (depth : Option Nat) : Nat → Nat → Cursor → Margin
  | 0, deepest, cursor => ⟨[], deepest, cursor⟩
  | bound + 1, deepest, cursor =>
    match cursor.rest with
    | [] => ⟨[], deepest, cursor⟩
    | c :: _ =>
      if c = ' ' && depth.all (cursor.column < ·) then
        readMargin depth bound (max deepest (cursor.column + 1)) cursor.next
      else if isBreak c then
        let margin := readMargin depth bound deepest cursor.next
        { margin with breaks := readBreak c :: margin.breaks }
      else ⟨[], deepest, cursor⟩

/-- Whether a line of a block at a depth follows. -/
def Margin.goesOn (margin : Margin) (depth : Nat) : Bool :=
  margin.cursor.column = depth && ! margin.cursor.rest.isEmpty

/-! ## Lines -/

/-- Whether a text starts with a space or a tab. -/
def startsBlank : Text → Bool
  | [] => false
  | c :: _ => c == ' ' || c == '\t'

/-- What stands between two lines of a block. Folding leaves more deeply indented lines alone. -/
def betweenLines (folds : Bool) (line : Text) (lineEnd : Char) (margin : Margin) : Text :=
  if folds && lineEnd = '\n' && ! startsBlank line && ! startsBlank margin.cursor.rest then
    (if margin.breaks = [] then [' '] else []) ++ margin.breaks
  else lineEnd :: margin.breaks

/-- What is left of the line ends behind the last line. -/
def chomped (chomping : Chomping) (lineEnd breaks : List Char) : Text :=
  match chomping with
  | .strip => []
  | .clip => lineEnd
  | .keep => lineEnd ++ breaks

/-- How a block is read: whether its lines are folded, what becomes of the line ends behind the
last one, and its depth. -/
structure BlockManner where
  folds : Bool
  chomping : Chomping
  depth : Nat

/-- Reads the lines of a block from its first line on. The bounds are on the number of characters
and of lines. -/
def readLines (manner : BlockManner) (chars : Nat) : Nat → Cursor → Text × Cursor
  | 0, cursor => ([], cursor)
  | bound + 1, cursor =>
    let line := cursor.rest.takeWhile (! isBreak ·)
    let there := cursor.skip line.length
    match there.rest with
    | [] => (line, there)
    | c :: _ =>
      let lineEnd := readBreak c
      let margin := readMargin (some manner.depth) chars 0 there.next
      if margin.goesOn manner.depth then
        let (more, cursor) := readLines manner chars bound margin.cursor
        (line ++ betweenLines manner.folds line lineEnd margin ++ more, cursor)
      else (line ++ chomped manner.chomping [lineEnd] margin.breaks, margin.cursor)

/-- Reads a block from behind its first character. The least depth is that of what holds it. The
bound is on the number of characters. -/
def readBlock (folds : Bool) (least bound : Nat) (cursor : Cursor) :
    Except Fault (Text × Cursor) := do
  let header ← readHeader cursor.rest
  let (depth, margin) :=
    match header.depth with
    | some more =>
      let depth := least + more - 1
      (depth, readMargin (some depth) bound 0 cursor.nextLine)
    | none =>
      let margin := readMargin none bound 0 cursor.nextLine
      (max least margin.deepest, margin)
  if margin.goesOn depth then
    let (content, cursor) := readLines ⟨folds, header.chomping, depth⟩ bound bound margin.cursor
    return (margin.breaks ++ content, cursor)
  else return (chomped header.chomping [] margin.breaks, margin.cursor)

end ReviewGate.Yaml
