import ReviewGate.Text.Basic

/-!
# Shapes at the beginning of lines

Some shapes begin at the start of a line and may reach over the end of it. A scan finds them from
the left: where a line starts it tests for the shape, and what one match has taken is not looked
at again. A match says what it found and how many characters it took.
-/

set_option autoImplicit false

namespace ReviewGate.Text

/-- What a shape found, and how many characters it took. -/
structure Match (α : Type) where
  value : α
  length : Nat

/-- A finding with the offset at which it begins. -/
structure Found (α : Type) where
  offset : Nat
  value : α

/-- Scans a text from an offset on, of which the first `taken` characters belong to the last
match. -/
def scanLinesFrom {α : Type} (shape : Text → Option (Match α)) (taken offset : Nat)
    (atLineStart : Bool) : Text → List (Found α)
  | [] => []
  | c :: rest =>
    match taken with
    | taken + 1 => scanLinesFrom shape taken (offset + 1) (c == '\n') rest
    | 0 =>
      match if atLineStart then shape (c :: rest) else none with
      | some found =>
        ⟨offset, found.value⟩ ::
          scanLinesFrom shape (found.length - 1) (offset + 1) (c == '\n') rest
      | none => scanLinesFrom shape 0 (offset + 1) (c == '\n') rest

/-- The shapes that begin at the start of a line, from the left and without overlap. -/
def scanLines {α : Type} (shape : Text → Option (Match α)) (text : Text) : List (Found α) :=
  scanLinesFrom shape 0 0 true text

end ReviewGate.Text
