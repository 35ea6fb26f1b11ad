import ReviewGate.Json.Basic
import ReviewGate.Text.Numeral
import ReviewGate.Text.Reading

/-!
# Reading JSON

The reader follows the JSON grammar and answers `none` for every text that is not in it. A step
takes what it recognises from the beginning of a text and returns the rest. The steps that nest
carry a bound on their depth; every one of them takes at least one character, so the length of the
text is bound enough.
-/

set_option autoImplicit false

namespace ReviewGate.Json

open Text

/-- The text behind the white space of the grammar. -/
def skipSpace (text : Text) : Text :=
  text.dropWhile fun c => c == ' ' || c == '\n' || c == '\r' || c == '\t'

/-! ## Texts -/

/-- The value of a hexadecimal digit. -/
def hexValue? (c : Char) : Option Nat :=
  if '0' ≤ c && c ≤ '9' then some (c.toNat - '0'.toNat)
  else if 'a' ≤ c && c ≤ 'f' then some (c.toNat - 'a'.toNat + 10)
  else if 'A' ≤ c && c ≤ 'F' then some (c.toNat - 'A'.toNat + 10)
  else none

/-- A UTF-16 unit in four hexadecimal digits. -/
def readUnit? : Text → Option (Nat × Text)
  | a :: b :: c :: d :: rest => do
    let a ← hexValue? a
    let b ← hexValue? b
    let c ← hexValue? c
    let d ← hexValue? d
    return (a * 4096 + b * 256 + c * 16 + d, rest)
  | _ => none

/-- The second unit of a pair, behind the first one. -/
def readLowUnit? (high : Nat) : Text → Option (Char × Text)
  | '\\' :: 'u' :: rest => do
    let (low, rest) ← readUnit? rest
    if 0xDC00 ≤ low && low < 0xE000 then
      return (Char.ofNat (0x10000 + (high - 0xD800) * 0x400 + (low - 0xDC00)), rest)
    else none
  | _ => none

/-- The character of an escape, behind the backslash. -/
def readEscape? : Text → Option (Char × Text)
  | '"' :: rest => some ('"', rest)
  | '\\' :: rest => some ('\\', rest)
  | '/' :: rest => some ('/', rest)
  | 'b' :: rest => some (Char.ofNat 8, rest)
  | 'f' :: rest => some (Char.ofNat 12, rest)
  | 'n' :: rest => some ('\n', rest)
  | 'r' :: rest => some ('\r', rest)
  | 't' :: rest => some ('\t', rest)
  | 'u' :: rest => do
    let (unit, rest) ← readUnit? rest
    if 0xD800 ≤ unit && unit < 0xDC00 then readLowUnit? unit rest
    else if 0xDC00 ≤ unit && unit < 0xE000 then none
    else return (Char.ofNat unit, rest)
  | _ => none

/-- The characters of a text up to its closing quote. -/
def readChars? : Nat → Text → Option (Text × Text)
  | 0, _ => none
  | _ + 1, [] => none
  | _ + 1, '"' :: rest => some ([], rest)
  | bound + 1, '\\' :: rest => do
    let (c, rest) ← readEscape? rest
    let (chars, rest) ← readChars? bound rest
    return (c :: chars, rest)
  | bound + 1, c :: rest =>
    if c.toNat < 32 then none
    else do
      let (chars, rest) ← readChars? bound rest
      return (c :: chars, rest)

/-- A text, behind its opening quote. -/
def readText? (text : Text) : Option (Text × Text) :=
  readChars? (text.length + 1) text

/-! ## Numbers -/

/-- The ASCII digits at the beginning of a text, at least one, and the rest. -/
def readDigits? (text : Text) : Option (List Nat × Text) :=
  match text.takeWhile Char.isDigit with
  | [] => none
  | digits => some (digits.map (fun c => c.toNat - '0'.toNat), text.dropWhile Char.isDigit)

/-- The power of ten at the end of a number, zero when there is none. -/
def readExponent? : Text → Option (Option Int × Text)
  | e :: rest =>
    if e = 'e' || e = 'E' then
      match rest with
      | '-' :: more => do
        let (digits, rest) ← readDigits? more
        return (some (-(digitsValue 10 digits : Int)), rest)
      | '+' :: more => do
        let (digits, rest) ← readDigits? more
        return (some (digitsValue 10 digits : Int), rest)
      | more => do
        let (digits, rest) ← readDigits? more
        return (some (digitsValue 10 digits : Int), rest)
    else some (none, e :: rest)
  | [] => some (none, [])

/-- The digits behind the point of a number. -/
def readFraction? : Text → Option (Option (List Nat) × Text)
  | '.' :: rest => do
    let (digits, rest) ← readDigits? rest
    return (some digits, rest)
  | rest => some (none, rest)

/-- A number without its sign. -/
def readMagnitude? (negative : Bool) (text : Text) : Option (Json × Text) := do
  let (whole, rest) ← readDigits? text
  if whole.head? == some 0 && 1 < whole.length then none
  else
    let (fraction, rest) ← readFraction? rest
    let (exponent, rest) ← readExponent? rest
    match fraction, exponent with
    | none, none =>
      let value : Int := digitsValue 10 whole
      return (.int (if negative then -value else value), rest)
    | _, _ =>
      let places := fraction.getD []
      return (.decimal negative (digitsValue 10 (whole ++ places))
        (exponent.getD 0 - places.length), rest)

/-- A number. -/
def readNumber? : Text → Option (Json × Text)
  | '-' :: rest => readMagnitude? true rest
  | text => readMagnitude? false text

/-! ## Values -/

/-- The fixed words and what they stand for. -/
def fixedWords : List (Text × Json) :=
  [("null".toList, .null), ("true".toList, .bool true), ("false".toList, .bool false),
    ("NaN".toList, .nan), ("Infinity".toList, .infinite false),
    ("-Infinity".toList, .infinite true)]

/-- A fixed word. -/
def readWord? (text : Text) : Option (Json × Text) :=
  fixedWords.findSome? fun (word, value) => (after? word text).map (value, ·)

mutual

/-- A value at the beginning of a text. -/
def readValue? : Nat → Text → Option (Json × Text)
  | 0, _ => none
  | _ + 1, '"' :: rest => do
    let (value, rest) ← readText? rest
    return (.string value, rest)
  | bound + 1, '[' :: rest =>
    match skipSpace rest with
    | ']' :: rest => some (.array [], rest)
    | rest => do
      let (items, rest) ← readItems? bound rest
      return (.array items, rest)
  | bound + 1, '{' :: rest =>
    match skipSpace rest with
    | '}' :: rest => some (.object [], rest)
    | rest => do
      let (members, rest) ← readMembers? bound rest
      return (.object members, rest)
  | _ + 1, text => (readWord? text).orElse fun _ => readNumber? text

/-- The items of an array with its closing bracket. -/
def readItems? : Nat → Text → Option (List Json × Text)
  | 0, _ => none
  | bound + 1, text => do
    let (item, rest) ← readValue? bound (skipSpace text)
    match skipSpace rest with
    | ']' :: rest => return ([item], rest)
    | ',' :: rest => do
      let (more, rest) ← readItems? bound rest
      return (item :: more, rest)
    | _ => none

/-- The members of an object with its closing brace. -/
def readMembers? : Nat → Text → Option (List (Text × Json) × Text)
  | 0, _ => none
  | bound + 1, text => do
    let (name, rest) ← match skipSpace text with
      | '"' :: rest => readText? rest
      | _ => none
    let (value, rest) ← match skipSpace rest with
      | ':' :: rest => readValue? bound (skipSpace rest)
      | _ => none
    match skipSpace rest with
    | '}' :: rest => return ([(name, value)], rest)
    | ',' :: rest => do
      let (more, rest) ← readMembers? bound rest
      return ((name, value) :: more, rest)
    | _ => none

end

/-- The value that a whole text stands for. -/
def read? (text : Text) : Option Json := do
  let (value, rest) ← readValue? (2 * text.length + 2) (skipSpace text)
  if skipSpace rest = [] then return value else none

end ReviewGate.Json
