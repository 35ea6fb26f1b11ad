import ReviewGate.Text.Printable

/-!
# Quoted text

A text is quoted for a message so that it stays on one line and shows every character. The quote
is a single one, unless the text holds a single and no double quote. The quote itself and the
backslash are escaped, newline, return and tab have letters, and a character that is not printable
is written by its code in two, four or eight hexadecimal digits.
-/

set_option autoImplicit false

namespace ReviewGate.Text

/-- A code in at least `width` lower-case hexadecimal digits. -/
def hexDigits (width code : Nat) : Text :=
  let digits := Nat.toDigits 16 code
  List.replicate (width - digits.length) '0' ++ digits

/-- The quote for a text: double when the text holds a single and no double one. -/
def quoteFor (text : Text) : Char :=
  if text.contains '\'' && !text.contains '"' then '"' else '\''

/-- One character of a quoted text. -/
def quoteChar (quote c : Char) : Text :=
  if c = quote || c = '\\' then ['\\', c]
  else if c = '\n' then ['\\', 'n']
  else if c = '\r' then ['\\', 'r']
  else if c = '\t' then ['\\', 't']
  else if isPrintable c then [c]
  else if c.toNat ≤ 0xFF then '\\' :: 'x' :: hexDigits 2 c.toNat
  else if c.toNat ≤ 0xFFFF then '\\' :: 'u' :: hexDigits 4 c.toNat
  else '\\' :: 'U' :: hexDigits 8 c.toNat

/-- A text in quotes. -/
def quoted (text : Text) : Text :=
  let quote := quoteFor text
  quote :: text.flatMap (quoteChar quote) ++ [quote]

end ReviewGate.Text
