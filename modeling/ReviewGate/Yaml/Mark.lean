import ReviewGate.Yaml.Quoted
import ReviewGate.Yaml.Token
import ReviewGate.Text.Utf8

/-!
# Names, tags and directives

The readers of what is marked by a character in front: anchors and aliases by `&` and `*`, tags by
`!`, directives by `%`.
-/

set_option autoImplicit false

namespace ReviewGate.Yaml

/-- A letter, a digit, a hyphen or a low line. -/
def isNameChar (c : Char) : Bool :=
  c.isAlphanum || c == '-' || c == '_'

/-! ## Anchors and aliases -/

/-- The characters that may follow a name at once. -/
def endsName (c : Char) : Bool :=
  isGap c || "?:,]\x7d%@`".toList.contains c

/-- Reads a name from behind its mark. -/
def readName (text : Text) : Except Fault (Text × Text) :=
  let name := text.takeWhile isNameChar
  let rest := text.dropWhile isNameChar
  if name ≠ [] && endsOr endsName rest then .ok (name, rest) else malformedAt .badName rest

/-! ## Tags -/

/-- The characters of a tag that stand for themselves. -/
def isTagChar (c : Char) : Bool :=
  c.isAlphanum || "-;/?:@&=+$,_.!~*'()[]".toList.contains c

/-- Reads the bytes of escapes in a tag, as many as there are in a row. -/
def readTagBytes : Nat → Text → Except Fault (List UInt8 × Text)
  | bound + 1, '%' :: rest => do
    let code ← readHex 0 2 rest
    let (bytes, rest) ← readTagBytes bound (rest.drop 2)
    return (UInt8.ofNat code :: bytes, rest)
  | _, text => .ok ([], text)

/-- Reads the text of a tag. The bound is on the number of characters. -/
def readTagTextFrom : Nat → Text → Except Fault (Text × Text)
  | 0, text => .ok ([], text)
  | _, [] => .ok ([], [])
  | bound + 1, c :: rest =>
    if isTagChar c then do
      let (content, rest) ← readTagTextFrom bound rest
      return (c :: content, rest)
    else if c = '%' then do
      let (bytes, rest) ← readTagBytes bound (c :: rest)
      match Text.decode? bytes with
      | none => malformed .badTag
      | some escaped =>
        let (content, rest) ← readTagTextFrom bound rest
        return (escaped ++ content, rest)
    else .ok ([], c :: rest)

/-- Reads the text of a tag, which may not be missing. -/
def readTagText (bound : Nat) (text : Text) : Except Fault (Text × Text) :=
  if text.head?.any fun c => isTagChar c || c == '%' then readTagTextFrom bound text
  else malformedAt .badTag text

/-- Reads a handle of a tag: an exclamation mark alone in front of a space, or a name between two
exclamation marks. -/
def readHandle : Text → Except Fault (Text × Text)
  | '!' :: rest =>
    if rest.head? = some ' ' then .ok (['!'], rest)
    else match rest.dropWhile isNameChar with
      | '!' :: behind => .ok ('!' :: rest.takeWhile isNameChar ++ ['!'], behind)
      | behind => malformedAt .badTag behind
  | text => malformedAt .badTag text

/-- The characters of a text up to a space or the end of its line. -/
def wordOf (text : Text) : Text :=
  text.takeWhile fun c => !(c == ' ' || isBreak c)

/-- Reads a tag from its mark on, without a look at what follows. -/
def readOpenTag (bound : Nat) (text : Text) : Except Fault (Tag × Text) :=
  match text.drop 1 with
  | '<' :: inner => do
    let (suffix, rest) ← readTagText bound inner
    match rest with
    | '>' :: rest => return (⟨none, suffix⟩, rest)
    | rest => malformedAt .badTag rest
  | rest =>
    if atGap rest then .ok (⟨none, ['!']⟩, rest)
    else do
      let (handle, rest) ← if (wordOf rest).contains '!' then readHandle text else .ok (['!'], rest)
      let (suffix, rest) ← readTagText bound rest
      return (⟨some handle, suffix⟩, rest)

/-- Reads a tag from its mark on. It is a word of its own, so what follows is what follows that
word. The bound is on the number of characters. -/
def readTag (bound : Nat) (text : Text) : Except Fault Tag := do
  let (tag, rest) ← readOpenTag bound text
  if atBlank rest then return tag else malformed .badTag

/-! ## Directives -/

/-- The text without the spaces at its beginning. -/
def afterSpaces (text : Text) : Text :=
  text.dropWhile (· == ' ')

/-- Reads a number of a version. -/
def readVersionNumber (text : Text) : Except Fault (Nat × Text) :=
  let digits := text.takeWhile Char.isDigit
  let rest := text.dropWhile Char.isDigit
  if digits = [] then malformedAt .badDirective rest
  else if Text.maxNumeralDigits < digits.length then badValue (.tooManyDigits digits.length)
  else .ok (Text.digitsValue 10 (digits.map fun c => c.toNat - '0'.toNat), rest)

/-- Reads a version. -/
def readVersion (text : Text) : Except Fault (Directive × Text) := do
  let (major, rest) ← readVersionNumber (afterSpaces text)
  match rest with
  | '.' :: rest =>
    let (_, rest) ← readVersionNumber rest
    if atBlank rest then return (.version major, rest) else malformed .badDirective
  | rest => malformedAt .badDirective rest

/-- Reads the declaration of a handle. The bound is on the number of characters. -/
def readHandleMeaning (bound : Nat) (text : Text) : Except Fault (Directive × Text) := do
  let (name, rest) ← readHandle (afterSpaces text)
  if rest.head? ≠ some ' ' then malformedAt .badDirective rest
  else
    let (meaning, rest) ← readTagText bound (afterSpaces rest)
    if atBlank rest then return (.handle name meaning, rest) else malformed .badDirective

/-- Reads a directive from its mark on. It fills its line up to the end or a comment. The bound is
on the number of characters. -/
def readDirective (bound : Nat) (text : Text) : Except Fault Directive := do
  let name := (text.drop 1).takeWhile isNameChar
  let rest := (text.drop 1).dropWhile isNameChar
  if name = [] || ! atBlank rest then malformedAt .badDirective rest
  else
    let (directive, rest) ←
      if name = "YAML".toList then readVersion rest
      else if name = "TAG".toList then readHandleMeaning bound rest
      else pure (.other, rest.dropWhile (! isBreak ·))
    let behind := afterSpaces rest
    if behind.head? = some '#' || atLineEnd behind then return directive
    else malformed .badDirective

end ReviewGate.Yaml
