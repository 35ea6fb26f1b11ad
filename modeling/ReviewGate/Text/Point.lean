import ReviewGate.Text.Lower
import ReviewGate.Text.Quoted

/-!
# Code points

An escape can name any code point, also one half of a surrogate pair, which is no character. Two
halves in a row stay two halves. Where this can happen, a row of code points takes the place of a
text: every text is such a row (`ofText`), and a row without halves is a text (`toText?`).
-/

set_option autoImplicit false

namespace ReviewGate

/-- A code point: a character, or half of a surrogate pair, numbered from the first half on. -/
inductive Point
  | char (c : Char)
  | half (number : Fin 2048)
  deriving DecidableEq, Repr

/-- A row of code points. -/
abbrev Points := List Point

/-- The code point of a number, `none` beyond the last one. -/
def Point.ofCode? (code : Nat) : Option Point :=
  if Nat.isValidChar code then some (.char (Char.ofNat code))
  else if code < 0x110000 then some (.half (Fin.ofNat 2048 (code - 0xD800)))
  else none

/-- The character that a code point is. -/
def Point.char? : Point → Option Char
  | char c => some c
  | half _ => none

namespace Points

/-- A text as code points. -/
def ofText (text : Text) : Points :=
  text.map .char

/-- The text that code points are, `none` when they hold a half of a pair. -/
def toText? (points : Points) : Option Text :=
  points.mapM Point.char?

theorem toText?_ofText (text : Text) : toText? (ofText text) = some text := by
  induction text with
  | nil => rfl
  | cons c rest ih =>
    unfold toText? ofText at ih ⊢
    rw [List.map_cons, List.mapM_cons, ih]
    rfl

/-- The lower-case form of code points behind a run of characters in reverse order. A half of a
pair is neither cased nor ignored, so what stands on one side of it has no effect on the other. -/
def lowerFrom (run : Text) : Points → Points
  | [] => ofText (Text.lower run.reverse)
  | .char c :: rest => lowerFrom (c :: run) rest
  | .half number :: rest => ofText (Text.lower run.reverse) ++ .half number :: lowerFrom [] rest

/-- The lower-case form of code points. -/
def lower (points : Points) : Points :=
  lowerFrom [] points

/-- One code point inside quotes. A half of a pair is written by its code. -/
def quotePoint (quote : Char) : Point → Text
  | .char c => Text.quoteChar quote c
  | .half number => '\\' :: 'u' :: Text.hexDigits 4 (0xD800 + number.val)

/-- Code points in quotes. -/
def quoted (points : Points) : Text :=
  let quote := Text.quoteFor (points.filterMap Point.char?)
  quote :: points.flatMap (quotePoint quote) ++ [quote]

end Points

end ReviewGate
