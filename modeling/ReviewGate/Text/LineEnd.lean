import ReviewGate.Text.Basic

/-!
# Line ends

A file may end its lines in a newline, in a carriage return, or in both. Reading a file makes all
of them a newline, the pair a single one.
-/

set_option autoImplicit false

namespace ReviewGate.Text

/-- The text with every line end as a newline. The flag says that a carriage return, already
written as a newline, stands in front. -/
def unifyLineEndsFrom (behindReturn : Bool) : Text → Text
  | [] => []
  | c :: rest =>
    if c = '\r' then '\n' :: unifyLineEndsFrom true rest
    else if c = '\n' && behindReturn then unifyLineEndsFrom false rest
    else c :: unifyLineEndsFrom false rest

/-- The text with every line end as a newline. -/
def unifyLineEnds (text : Text) : Text :=
  unifyLineEndsFrom false text

end ReviewGate.Text
