import ReviewGate.Number.Quotient
import ReviewGate.Source.Line
import ReviewGate.Text.Numeral

/-!
# Equal chunks

A file without natural cuts is divided into as few chunks of code lines as the limit allows, all
of the same size but for a smaller last one. The number of chunks is the number of code lines
divided by the limit, rounded up; their size is the number of code lines divided by that, rounded
up again. A limit below one is taken as one.

Read in double precision, the first quotient is zero when the limit is beyond all measure; then
there is nothing to divide by, and chunking fails.
-/

set_option autoImplicit false

namespace ReviewGate.Budget

open Source

/-- A unit that a file could be split into, with the first and the last of its lines and the
number of code lines it holds. -/
structure Suggestion where
  name : Text
  first : Int
  last : Int
  estimate : Int
  deriving DecidableEq, Repr

/-- The number of chunks for a number of code lines and a limit. -/
def chunkCount (reading : Quotients) (total : Nat) (limit : Int) : Except ArithmeticError Nat :=
  Int.toNat <$> reading.ceil total (max limit 1).toNat

/-- The number of code lines in a chunk. -/
def chunkSize (reading : Quotients) (total : Nat) (limit : Int) : Except ArithmeticError Nat := do
  return (← reading.ceil total (← chunkCount reading total limit)).toNat

/-- A list cut into pieces of a size, the last one with what is left. -/
def chunksOf {α : Type} (size : Nat) (items : List α) : List (List α) :=
  if size = 0 ∨ items = [] then []
  else items.take size :: chunksOf size (items.drop size)
termination_by items.length
decreasing_by
  rename_i open_
  have : items.length ≠ 0 := by simp_all
  simp only [List.length_drop]
  omega

/-- The name of a unit, numbered from one on. -/
def unitName (stem : Text) (index : Nat) : Text :=
  stem ++ Text.ofNat (index + 1)

/-- The unit of a chunk of lines, from its first line to its last. -/
def chunkUnit (chunk : List Line) (index : Nat) : Option Suggestion :=
  match chunk.head?, chunk.getLast? with
  | some first, some last =>
    some ⟨unitName "extracted-unit-".toList index, first.number, last.number, chunk.length⟩
  | _, _ => none

/-- The units of equally many code lines. -/
def equalChunks (reading : Quotients) (code : List Line) (limit : Int) :
    Except ArithmeticError (List Suggestion) :=
  if code = [] then .ok []
  else do
    let size ← chunkSize reading code.length limit
    return (chunksOf size code).zipIdx.filterMap fun (chunk, index) => chunkUnit chunk index

end ReviewGate.Budget
