import ReviewGate.Text.Basic

/-!
# Blank characters

White space is the Unicode class: the characters with a bidirectional type of a separator or the
general category of a space. It holds the ASCII controls U+0009–U+000D and the separators
U+001C–U+001F, and it does not hold the zero-width space or the byte order mark.
-/

set_option autoImplicit false

namespace ReviewGate.Text

/-- A white-space character. -/
def isBlank (c : Char) : Bool :=
  let code := c.toNat
  if code < 128 then (9 ≤ code && code ≤ 13) || (28 ≤ code && code ≤ 32)
  else code == 0x85 || code == 0xA0 || code == 0x1680 || (0x2000 ≤ code && code ≤ 0x200A) ||
    code == 0x2028 || code == 0x2029 || code == 0x202F || code == 0x205F || code == 0x3000

/-- The text without the white space at its beginning. -/
def trimLeft (text : Text) : Text :=
  text.dropWhile isBlank

/-- The text without the white space at its end. -/
def trimRight (text : Text) : Text :=
  trimRightBy isBlank text

/-- The text without the white space at its two ends. -/
def trim (text : Text) : Text :=
  trimBy isBlank text

end ReviewGate.Text
