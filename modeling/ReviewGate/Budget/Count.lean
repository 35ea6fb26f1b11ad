import ReviewGate.Budget.Split
import ReviewGate.Source.Scan

/-!
# A file against its budget

The effective lines of a file are its lines of code. A file that has more of them than the limit
exceeds its budget, and only then a split is suggested.
-/

set_option autoImplicit false

namespace ReviewGate.Budget

open Source

/-- The limit that holds when none is given. -/
def defaultLimit : Int := 50

/-- What counting the lines of a file gives. -/
structure FileCount where
  path : Text
  language : Text
  breakdown : Breakdown
  exceeds : Bool
  suggestions : List Suggestion
  deriving DecidableEq, Repr

/-- Counts the lines of a source text against a limit. -/
def countSource (reading : Quotients) (source path : Text) (limit : Int) :
    Except ArithmeticError FileCount := do
  let language := Language.ofPath path
  let lines := (classify language source).lines
  let numbers := breakdown lines
  let exceeds : Bool := limit < numbers.effective
  let suggestions ← if exceeds then suggestSplit reading lines limit else .ok []
  return ⟨path, language.name, numbers, exceeds, suggestions⟩

/-- Whether any file exceeds its budget. -/
def anyExceeds (counts : List FileCount) : Bool :=
  counts.any FileCount.exceeds

end ReviewGate.Budget
