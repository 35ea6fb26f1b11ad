import ReviewGate.Json.Basic
import ReviewGate.Text.Numeral

/-!
# Writing JSON

A value is written over several lines: every item of an array and every member of an object
stands on a line of its own, two blanks deeper than its container; empty containers stay on one
line. Texts are written in one of two charsets. In the full one a character stands for itself
unless it is a quote, a backslash or a control character. In the ASCII one every character that
is not printable ASCII is written by its code in UTF-16, in one or two units.
-/

set_option autoImplicit false

namespace ReviewGate.Json

/-- The characters that may stand for themselves in a written text. -/
inductive Charset
  | ascii
  | full
  deriving DecidableEq, Repr

/-- Whether a character may stand for itself. -/
def Charset.allows (charset : Charset) (c : Char) : Bool :=
  match charset with
  | .ascii => 32 ≤ c.toNat && c.toNat < 127
  | .full => 32 ≤ c.toNat

/-- The hexadecimal digit of a value below sixteen. -/
def hexDigit (value : Nat) : Char :=
  Nat.digitChar value

/-- A UTF-16 unit as an escape of four hexadecimal digits. -/
def escapeUnit (unit : Nat) : Text :=
  ['\\', 'u', hexDigit (unit / 4096 % 16), hexDigit (unit / 256 % 16), hexDigit (unit / 16 % 16),
    hexDigit (unit % 16)]

/-- A character by its code in UTF-16. -/
def escapeCode (c : Char) : Text :=
  if c.toNat < 0x10000 then escapeUnit c.toNat
  else
    escapeUnit (0xD800 + (c.toNat - 0x10000) / 0x400) ++
      escapeUnit (0xDC00 + (c.toNat - 0x10000) % 0x400)

/-- A character inside a written text. -/
def writeChar (charset : Charset) (c : Char) : Text :=
  if c = '"' then ['\\', '"']
  else if c = '\\' then ['\\', '\\']
  else if c = '\n' then ['\\', 'n']
  else if c = '\r' then ['\\', 'r']
  else if c = '\t' then ['\\', 't']
  else if c.toNat = 8 then ['\\', 'b']
  else if c.toNat = 12 then ['\\', 'f']
  else if charset.allows c then [c]
  else escapeCode c

/-- A text in quotes. -/
def writeText (charset : Charset) (text : Text) : Text :=
  '"' :: text.flatMap (writeChar charset) ++ ['"']

/-- The beginning of a line at a depth. -/
def newline (depth : Nat) : Text :=
  '\n' :: List.replicate (2 * depth) ' '

mutual

/-- A value at a depth. -/
def writeAt (charset : Charset) (depth : Nat) : Json → Text
  | .null => "null".toList
  | .bool true => "true".toList
  | .bool false => "false".toList
  | .int value => Text.ofInt value
  | .decimal negative digits exponent =>
    (if negative then ['-'] else []) ++ Text.ofNat digits ++ 'e' :: Text.ofInt exponent
  | .infinite true => "-Infinity".toList
  | .infinite false => "Infinity".toList
  | .nan => "NaN".toList
  | .string value => writeText charset value
  | .array [] => "[]".toList
  | .array (item :: more) =>
    '[' :: writeItems charset (depth + 1) (item :: more) ++ newline depth ++ [']']
  | .object [] => ['{', '}']
  | .object (member :: more) =>
    '{' :: writeMembers charset (depth + 1) (member :: more) ++ newline depth ++ ['}']

/-- The items of an array, each on a line of its own. -/
def writeItems (charset : Charset) (depth : Nat) : List Json → Text
  | [] => []
  | [item] => newline depth ++ writeAt charset depth item
  | item :: next :: more =>
    newline depth ++ writeAt charset depth item ++
      ',' :: writeItems charset depth (next :: more)

/-- The members of an object, each on a line of its own. -/
def writeMembers (charset : Charset) (depth : Nat) : List (Text × Json) → Text
  | [] => []
  | [(name, value)] =>
    newline depth ++ writeText charset name ++ ':' :: ' ' :: writeAt charset depth value
  | (name, value) :: next :: more =>
    newline depth ++ writeText charset name ++ ':' :: ' ' :: writeAt charset depth value ++
      ',' :: writeMembers charset depth (next :: more)

end

/-- The text of a value. -/
def write (charset : Charset) (value : Json) : Text :=
  writeAt charset 0 value

end ReviewGate.Json
