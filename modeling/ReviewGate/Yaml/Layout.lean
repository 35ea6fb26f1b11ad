import ReviewGate.Yaml.Cursor
import ReviewGate.Yaml.Fault
import ReviewGate.Yaml.Token

/-!
# The layout of a text

While a YAML text is read token by token, its layout tells what the next token may be. What is
indented deeper than what stands above it is a block, so blocks are opened by their first entry or
key and closed by the first token that stands less deep; between brackets the indentation has no
meaning.

A key is known only by the colon behind it. So each token that may be a key is remembered until
the colon comes, and the colon puts the key, and where needed the opening of a mapping, in front
of the remembered token. A key ends on its line and within 1024 characters. A token that stands
where the mapping goes on has to be a key. As long as a token may still be a key, it is not certain
what stands in front of it, so the tokens are settled only up to there (`settled`).
-/

set_option autoImplicit false

namespace ReviewGate.Yaml

/-- A token that may turn out to be a key: its number and where it stands. -/
structure KeyStart where
  number : Nat
  index : Nat
  line : Nat
  column : Nat
  required : Bool
  deriving DecidableEq, Repr

/-- What is known of a text up to a position. Tokens are in reverse order, with their number. The
list of possible keys has one place for each open bracket and one for the text outside of all
brackets. The size is the number of characters of the whole text. -/
structure Layout where
  size : Nat
  cursor : Cursor
  depth : Int
  outer : List Int
  keys : List (Option KeyStart)
  keyAllowed : Bool
  tokens : List Token
  count : Nat

namespace Layout

/-- What is known at the beginning of a text. -/
def start (text : Text) : Layout :=
  ⟨text.length, Cursor.start text, -1, [], [none], true, [], 0⟩

/-- What follows the position. -/
def rest (layout : Layout) : Text :=
  layout.cursor.rest

/-- A bound for the steps of a reader, which are no more than the characters of the text. -/
def bound (layout : Layout) : Nat :=
  layout.size + 1

/-- Whether the position is between brackets. -/
def inBrackets (layout : Layout) : Bool :=
  1 < layout.keys.length

/-- The possible key among what the innermost open bracket holds, or outside of all brackets. -/
def key? (layout : Layout) : Option KeyStart :=
  (layout.keys.head?).join

/-- Adds a token. -/
def add (layout : Layout) (token : Token) : Layout :=
  { layout with
    tokens := token :: layout.tokens
    count := layout.count + 1 }

/-- Adds a token in front of the one with a number. -/
def insert (layout : Layout) (number : Nat) (token : Token) : Layout :=
  let behind := layout.count - number
  { layout with
    tokens := layout.tokens.take behind ++ token :: layout.tokens.drop behind
    count := layout.count + 1 }

/-- Moves to a position. -/
def moveTo (layout : Layout) (cursor : Cursor) : Layout :=
  { layout with cursor := cursor }

/-- Adds a token of a number of characters. -/
def take (layout : Layout) (length : Nat) (token : Token) : Layout :=
  (layout.add token).moveTo (layout.cursor.skip length)

/-- The tokens in front of all that may still be a key. -/
def settled (layout : Layout) : List Token :=
  let certain := (layout.keys.filterMap id).foldl (fun least key => min least key.number) layout.count
  (layout.tokens.drop (layout.count - certain)).reverse

/-! ## Space between tokens -/

/-- Skips spaces, comments and line ends. Behind a line end outside of brackets a key may stand.
The bound is on the number of lines. -/
def skipSpace : Nat → Layout → Layout
  | 0, layout => layout
  | bound + 1, layout =>
    let cursor := (layout.cursor.skipWhile (· == ' ')).skipComment
    match cursor.rest with
    | [] => layout.moveTo cursor
    | c :: _ =>
      if isBreak c then
        skipSpace bound { layout.moveTo cursor.next with
          keyAllowed := layout.keyAllowed || ! layout.inBrackets }
      else layout.moveTo cursor

/-- Skips the byte order mark at the beginning of a text, and what stands between tokens. -/
def toNextToken (layout : Layout) : Layout :=
  let layout :=
    if layout.cursor.index = 0 && layout.rest.head? = some '\uFEFF' then
      layout.moveTo layout.cursor.next
    else layout
  skipSpace layout.bound layout

/-! ## Possible keys -/

/-- Whether a possible key is no longer possible at a position. -/
def isStale (cursor : Cursor) (key : KeyStart) : Bool :=
  key.line != cursor.line || decide (1024 < cursor.index - key.index)

/-- Drops what can no longer be a key. -/
def dropStale (layout : Layout) : Except Fault Layout :=
  let stale := isStale layout.cursor
  if layout.keys.any fun key => key.any fun key => stale key && key.required then
    malformed .keyWithoutValue
  else .ok { layout with keys := layout.keys.map (·.filter (! stale ·)) }

/-- Gives up the possible key at the position. -/
def dropKey (layout : Layout) : Except Fault Layout :=
  if layout.key?.any (·.required) then malformed .keyWithoutValue
  else .ok { layout with keys := none :: layout.keys.drop 1 }

/-- Remembers that the next token may be a key, where keys are allowed. -/
def saveKey (layout : Layout) : Except Fault Layout :=
  if layout.keyAllowed then do
    let layout ← layout.dropKey
    let key : KeyStart :=
      { number := layout.count
        index := layout.cursor.index
        line := layout.cursor.line
        column := layout.cursor.column
        required := ! layout.inBrackets && layout.depth = layout.cursor.column }
    return { layout with keys := some key :: layout.keys.drop 1 }
  else .ok layout

/-! ## Blocks -/

/-- Closes the blocks that are deeper than a column. -/
def closeFrom (column : Int) : List Int → Layout → Layout
  | [], layout => layout
  | outer :: more, layout =>
    if column < layout.depth then
      closeFrom column more { layout.add .closeBlock with depth := outer, outer := more }
    else layout

/-- Closes the blocks that are deeper than a column, outside of brackets. -/
def closeTo (column : Int) (layout : Layout) : Layout :=
  if layout.inBrackets then layout else closeFrom column layout.outer layout

/-- Opens a block at a column that is deeper than the open blocks. -/
def openAt (column : Nat) (opening : Layout → Layout) (layout : Layout) : Layout :=
  if layout.depth < column then
    opening { layout with
      depth := column
      outer := layout.depth :: layout.outer }
  else layout

end Layout

end ReviewGate.Yaml
