import ReviewGate.Yaml.Cursor
import ReviewGate.Yaml.Fault

/-!
# Quoted texts

A quoted text may run over several lines. A line end with the white space around it is folded: a
single one stands for a space, and of several all but the first remain. In single quotes nothing
but a doubled quote is special; in double quotes a backslash starts an escape, and before a line
end it joins the lines.

The readers return the content and the position behind the closing quote.
-/

set_option autoImplicit false

namespace ReviewGate.Yaml

/-! ## Folding -/

/-- What several line ends in a row are folded to. -/
def folded : List Char → Text
  | [] => []
  | first :: more =>
    (if first ≠ '\n' then [first] else if more = [] then [' '] else []) ++ more

/-- The line ends of a gap, as they are read. -/
def breaksOf (gap : Text) : List Char :=
  (gap.filter isBreak).map readBreak

/-- What a gap in a quoted text stands for. -/
def gapText (gap : Text) : Text :=
  if gap.any isBreak then folded (breaksOf gap) else gap

/-- Whether a document is separated from the next within the gap at the beginning of a text. -/
def separatorInGap : Text → Bool
  | [] => false
  | c :: rest =>
    if isBreak c then startsWithSeparator rest || separatorInGap rest
    else isGap c && separatorInGap rest

/-! ## Escapes -/

/-- The character that an escape with a single letter stands for. -/
def escaped? : Char → Option Char
  | '0' => some '\x00'
  | 'a' => some '\x07'
  | 'b' => some '\x08'
  | 't' => some '\t'
  | '\t' => some '\t'
  | 'n' => some '\n'
  | 'v' => some '\x0b'
  | 'f' => some '\x0c'
  | 'r' => some '\r'
  | 'e' => some '\x1b'
  | ' ' => some ' '
  | '"' => some '"'
  | '\\' => some '\\'
  | '/' => some '/'
  | 'N' => some '\u0085'
  | '_' => some '\u00a0'
  | 'L' => some '\u2028'
  | 'P' => some '\u2029'
  | _ => none

/-- The number of digits of an escape by code. -/
def codeLength? : Char → Option Nat
  | 'x' => some 2
  | 'u' => some 4
  | 'U' => some 8
  | _ => none

/-- The value of a hexadecimal digit. -/
def hexValue? (c : Char) : Option Nat :=
  if c.isDigit then some (c.toNat - '0'.toNat)
  else if 'a' ≤ c ∧ c ≤ 'f' then some (c.toNat - 'a'.toNat + 10)
  else if 'A' ≤ c ∧ c ≤ 'F' then some (c.toNat - 'A'.toNat + 10)
  else none

/-- The value of hexadecimal digits, as many as asked for, behind a value. -/
def readHex (value : Nat) : Nat → Text → Except Fault Nat
  | 0, _ => .ok value
  | _ + 1, [] => malformed .endsEarly
  | count + 1, c :: rest =>
    match hexValue? c with
    | some digit => readHex (value * 16 + digit) count rest
    | none => malformed .badEscape

/-- The code point of a code. -/
def ofCode (code : Nat) : Except Fault Point :=
  match Point.ofCode? code with
  | some point => .ok point
  | none => badValue (if code < 0x80000000 then .characterCode else .hugeCharacterCode)

/-- What the escape behind a backslash stands for, and the position behind it. -/
def readEscape (cursor : Cursor) : Except Fault (Points × Cursor) :=
  match cursor.rest with
  | [] => malformed .endsEarly
  | c :: rest =>
    match escaped? c, codeLength? c with
    | some meant, _ => .ok ([.char meant], cursor.next)
    | none, some count => do
      let point ← ofCode (← readHex 0 count rest)
      return ([point], cursor.skip (count + 1))
    | none, none =>
      if isBreak c then
        if separatorInGap (c :: rest) then malformed .separatorInQuotes
        else .ok (Points.ofText (breaksOf (rest.takeWhile isGap)), cursor.next.skipWhile isGap)
      else malformed .badEscape

/-! ## Readers -/

/-- Reads the gap at a position. -/
def readGap (cursor : Cursor) : Except Fault (Points × Cursor) :=
  if separatorInGap cursor.rest then malformed .separatorInQuotes
  else .ok (Points.ofText (gapText (cursor.rest.takeWhile isGap)), cursor.skipWhile isGap)

/-- Reads a text in single quotes from behind the opening quote. The bound is on the number of
characters. -/
def readSingle : Nat → Cursor → Except Fault (Points × Cursor)
  | 0, _ => malformed .endsEarly
  | bound + 1, cursor =>
    match cursor.rest with
    | [] => malformed .endsEarly
    | '\'' :: '\'' :: _ => do
      let (content, cursor) ← readSingle bound (cursor.skip 2)
      return (.char '\'' :: content, cursor)
    | '\'' :: _ => .ok ([], cursor.next)
    | c :: _ =>
      if isGap c then do
        let (gap, cursor) ← readGap cursor
        let (content, cursor) ← readSingle bound cursor
        return (gap ++ content, cursor)
      else do
        let (content, cursor) ← readSingle bound cursor.next
        return (.char c :: content, cursor)

/-- Reads a text in double quotes from behind the opening quote. The bound is on the number of
characters. -/
def readDouble : Nat → Cursor → Except Fault (Points × Cursor)
  | 0, _ => malformed .endsEarly
  | bound + 1, cursor =>
    match cursor.rest with
    | [] => malformed .endsEarly
    | '"' :: _ => .ok ([], cursor.next)
    | '\\' :: _ => do
      let (meant, cursor) ← readEscape cursor.next
      let (content, cursor) ← readDouble bound cursor
      return (meant ++ content, cursor)
    | c :: _ =>
      if isGap c then do
        let (gap, cursor) ← readGap cursor
        let (content, cursor) ← readDouble bound cursor
        return (gap ++ content, cursor)
      else do
        let (content, cursor) ← readDouble bound cursor.next
        return (.char c :: content, cursor)

/-- Reads a quoted text from its opening quote on. The bound is on the number of characters. -/
def readQuoted (bound : Nat) (cursor : Cursor) : Except Fault (Points × Cursor) :=
  if cursor.rest.head? = some '"' then readDouble bound cursor.next
  else readSingle bound cursor.next

end ReviewGate.Yaml
