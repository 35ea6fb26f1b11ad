import ReviewGate.Yaml.Block
import ReviewGate.Yaml.Layout
import ReviewGate.Yaml.Legible
import ReviewGate.Yaml.Mark
import ReviewGate.Yaml.Plain

/-!
# From a text to its tokens

A token is read by its first character, which says what kind of token it is. The tokens of a text
are read up to its end or up to the first fault. In the second case those tokens count that were
certain when the reading of the next one began: whoever needs no more of them never meets the
fault.
-/

set_option autoImplicit false

namespace ReviewGate.Yaml

namespace Layout

/-! ## Single tokens -/

/-- A mark that separates documents or starts a directive ends all blocks. -/
def endBlocks (layout : Layout) : Except Fault Layout := do
  let layout ← (layout.closeTo (-1)).dropKey
  return { layout with keyAllowed := false }

/-- Reads a directive. -/
def readDirectiveLine (layout : Layout) : Except Fault Layout := do
  let layout ← layout.endBlocks
  let directive ← readDirective layout.bound layout.rest
  return (layout.add (.directive directive)).moveTo layout.cursor.nextLine

/-- Reads a mark that separates documents. -/
def readSeparator (token : Token) (layout : Layout) : Except Fault Layout := do
  return (← layout.endBlocks).take 3 token

/-- Reads an opening bracket. -/
def readOpening (token : Token) (layout : Layout) : Except Fault Layout := do
  let layout ← layout.saveKey
  return { layout.take 1 token with
    keys := none :: layout.keys
    keyAllowed := true }

/-- Reads a closing bracket. -/
def readClosing (token : Token) (layout : Layout) : Except Fault Layout := do
  if layout.inBrackets then
    let layout ← layout.dropKey
    return { layout.take 1 token with
      keys := layout.keys.drop 1
      keyAllowed := false }
  else malformed .unopenedBracket

/-- Reads a comma between brackets. -/
def readComma (layout : Layout) : Except Fault Layout := do
  let layout ← layout.dropKey
  return { layout.take 1 .comma with keyAllowed := true }

/-- Reads the hyphen of a list entry. -/
def readEntry (layout : Layout) : Except Fault Layout := do
  if layout.inBrackets || layout.keyAllowed then
    let layout :=
      if layout.inBrackets then layout
      else layout.openAt layout.cursor.column (·.add .openBlockList)
    let layout ← layout.dropKey
    return { layout.take 1 .entry with keyAllowed := true }
  else malformed .entryNotAllowed

/-- Reads the question mark of a key. -/
def readKey (layout : Layout) : Except Fault Layout := do
  if layout.inBrackets || layout.keyAllowed then
    let layout :=
      if layout.inBrackets then layout
      else layout.openAt layout.cursor.column (·.add .openBlockMapping)
    let layout ← layout.dropKey
    return { layout.take 1 .key with keyAllowed := ! layout.inBrackets }
  else malformed .keyNotAllowed

/-- Reads the colon of a value, behind a possible key or without one. -/
def readValue (layout : Layout) : Except Fault Layout := do
  match layout.key? with
  | some key =>
    let layout := { layout with keys := none :: layout.keys.drop 1 }
    let layout := layout.insert key.number .key
    let layout :=
      if layout.inBrackets then layout
      else layout.openAt key.column (·.insert key.number .openBlockMapping)
    return { layout.take 1 .value with keyAllowed := false }
  | none =>
    if layout.inBrackets || layout.keyAllowed then
      let layout :=
        if layout.inBrackets then layout
        else layout.openAt layout.cursor.column (·.add .openBlockMapping)
      let layout ← layout.dropKey
      return { layout.take 1 .value with keyAllowed := ! layout.inBrackets }
    else malformed .valueNotAllowed

/-- Reads what may be a key and cannot be followed by one on its line. -/
def readKeyPart (read : Layout → Except Fault (Token × Cursor)) (layout : Layout) :
    Except Fault Layout := do
  let layout ← layout.saveKey
  let (token, cursor) ← read layout
  return { (layout.add token).moveTo cursor with keyAllowed := false }

/-- Reads a name with its mark. -/
def readNamed (token : Text → Token) (layout : Layout) : Except Fault (Token × Cursor) := do
  let (name, _) ← readName (layout.rest.drop 1)
  return (token name, layout.cursor.skip (name.length + 1))

/-- Reads a tag with its mark. -/
def readTagged (layout : Layout) : Except Fault (Token × Cursor) := do
  let tag ← readTag layout.bound layout.rest
  return (.tag tag, layout.cursor.skip (wordOf layout.rest).length)

/-- Reads a quoted text. -/
def readQuotedText (layout : Layout) : Except Fault (Token × Cursor) := do
  let (content, cursor) ← readQuoted layout.bound layout.cursor
  return (.scalar content false, cursor)

/-- Reads a block of text. -/
def readTextBlock (folds : Bool) (layout : Layout) : Except Fault Layout := do
  let layout ← layout.dropKey
  let least := max 1 (layout.depth + 1).toNat
  let (content, cursor) ← readBlock folds least layout.bound layout.cursor.next
  return { (layout.add (.scalar (Points.ofText content) false)).moveTo cursor with
    keyAllowed := true }

/-- Reads a plain text. -/
def readPlainText (layout : Layout) : Except Fault Layout := do
  let layout ← layout.saveKey
  let found := readPlain layout.inBrackets (layout.depth + 1) layout.bound layout.cursor
  return { (layout.add (.scalar (Points.ofText found.content) true)).moveTo found.cursor with
    keyAllowed := found.crossesLine }

/-! ## The next token -/

/-- The characters with which no plain text starts, unless they are followed by something. -/
def isIndicator (c : Char) : Bool :=
  isGap c || "-?:,[]\x7b\x7d#&*!|>'\"%@`".toList.contains c

/-- Whether a plain text starts at the position. -/
def startsPlain (layout : Layout) : Bool :=
  match layout.rest with
  | [] => false
  | c :: rest =>
    ! isIndicator c ||
      (! atGap rest && (c == '-' || (! layout.inBrackets && (c == '?' || c == ':'))))

/-- Reads the token that starts with a character. -/
def readToken (c : Char) (layout : Layout) : Except Fault Layout :=
  let atStart := layout.cursor.column = 0
  let gapFollows := atGap (layout.rest.drop 1)
  if c = '%' && atStart then layout.readDirectiveLine
  else if atStart && startsWithMark startMark layout.rest then layout.readSeparator .documentStart
  else if atStart && startsWithMark endMark layout.rest then layout.readSeparator .documentEnd
  else if c = '[' then layout.readOpening .openList
  else if c = '\x7b' then layout.readOpening .openMapping
  else if c = ']' then layout.readClosing .closeList
  else if c = '\x7d' then layout.readClosing .closeMapping
  else if c = ',' then layout.readComma
  else if c = '-' && gapFollows then layout.readEntry
  else if c = '?' && (layout.inBrackets || gapFollows) then layout.readKey
  else if c = ':' && (layout.inBrackets || gapFollows) then layout.readValue
  else if c = '*' then layout.readKeyPart (readNamed .alias)
  else if c = '&' then layout.readKeyPart (readNamed .anchor)
  else if c = '!' then layout.readKeyPart readTagged
  else if c = '|' && ! layout.inBrackets then layout.readTextBlock false
  else if c = '>' && ! layout.inBrackets then layout.readTextBlock true
  else if c = '\'' || c = '"' then layout.readKeyPart readQuotedText
  else if layout.startsPlain then layout.readPlainText
  else malformed .unexpectedCharacter

/-- A fault where the text goes on behind the position, because no more of it can be read. Reading
stops one character early, since no token ends with the last character that can be seen. -/
def notExhausted (broken : Option Fault) (layout : Layout) : Except Fault Unit :=
  match broken, layout.rest with
  | some fault, [] => .error fault
  | some fault, [_] => .error fault
  | _, _ => .ok ()

/-- The fault of a reader, where more of the text might have made the token good. -/
def orBroken (broken : Option Fault) (fault : Fault) : Fault :=
  if fault = .malformed .endsEarly then broken.getD fault else fault

/-- What is known one token further on, and whether this is the end, where all blocks are
closed. -/
def step (broken : Option Fault) (layout : Layout) : Except Fault (Layout × Bool) := do
  let layout := layout.toNextToken
  notExhausted broken layout
  let layout := (← layout.dropStale).closeTo layout.cursor.column
  match layout.rest with
  | [] => return (← (layout.closeTo (-1)).dropKey, true)
  | c :: _ =>
    let layout ← (layout.readToken c).mapError (orBroken broken)
    notExhausted broken layout
    return (← layout.dropStale, false)

end Layout

/-! ## All tokens -/

/-- The tokens of a text, and the fault behind them, when there is one. -/
structure Tokens where
  tokens : List Token
  fault : Option Fault

/-- The tokens from a position on. The bound is on their number. -/
def Layout.readAll (broken : Option Fault) : Nat → Layout → Tokens
  | 0, layout => ⟨layout.settled, none⟩
  | bound + 1, layout =>
    match layout.step broken with
    | .error fault => ⟨layout.settled, some fault⟩
    | .ok (layout, true) => ⟨layout.tokens.reverse, none⟩
    | .ok (layout, false) => layout.readAll broken bound

/-- The tokens of what can be read of a file. -/
def Legible.tokens (source : Legible) : Tokens :=
  (Layout.start source.text).readAll source.fault (source.text.length + 1)

end ReviewGate.Yaml
