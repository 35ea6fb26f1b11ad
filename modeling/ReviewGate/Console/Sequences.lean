import ReviewGate.Console.Row

/-!
# What a channel shows

A channel that is no terminal shows texts without the sequences that terminals understand: the
escape character and an opening bracket, behind them digits, semicolons and question marks, and a
letter at the end. An escape character that begins no such sequence is shown.
-/

set_option autoImplicit false

namespace ReviewGate.Console

/-- Whether a character may stand inside a sequence. -/
def isCode (c : Char) : Bool :=
  c == ';' || c == '?' || c.isDigit

/-- How many characters of a text belong to a sequence that has been opened in front of it. -/
def sequenceRest? : Text → Option Nat
  | [] => none
  | c :: rest =>
    if isCode c then (· + 1) <$> sequenceRest? rest
    else if c.isAlpha then some 1
    else none

/-- A text without its sequences. So many characters at its front still belong to one. -/
def stripFrom : Nat → Text → Text
  | _, [] => []
  | within + 1, _ :: rest => stripFrom within rest
  | 0, c :: rest =>
    match if c = escape && rest.head? = some '[' then sequenceRest? rest.tail else none with
    | some length => stripFrom (length + 1) rest
    | none => c :: stripFrom 0 rest

/-- A text as a channel shows it that may be a terminal. -/
def shown (terminal : Bool) (text : Text) : Text :=
  if terminal then text else stripFrom 0 text

/-- A text without the escape character is shown as it is. -/
theorem stripFrom_of_not_mem {text : Text} (free : escape ∉ text) : stripFrom 0 text = text := by
  induction text with
  | nil => rfl
  | cons c rest ih =>
      obtain ⟨other, later⟩ := not_or.mp (mt List.mem_cons.mpr free)
      have plain : (decide (c = escape) && decide (rest.head? = some '[')) = false := by
        simp [Ne.symm other]
      rw [stripFrom, plain]
      exact congrArg (c :: ·) (ih later)

theorem shown_of_not_mem {text : Text} (terminal : Bool) (free : escape ∉ text) :
    shown terminal text = text := by
  cases terminal
  · exact stripFrom_of_not_mem free
  · rfl

/-- Only a sequence as a whole is left out, with any letter at its end. -/
example : shown false "\x1b[31ma\x1b[0;1Kb\x1b[xc\x1b]d\x1b[1\n".toList =
    "abc\x1b]d\x1b[1\n".toList := by
  decide

end ReviewGate.Console
