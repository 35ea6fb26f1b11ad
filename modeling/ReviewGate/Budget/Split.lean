import ReviewGate.Budget.Chunk
import ReviewGate.Source.Boundary

/-!
# Suggested splits

A file with two or more boundaries is split there: each boundary opens a unit that runs to the
line in front of the next one, and the last unit runs to the end of the file. Code in front of the
first boundary makes a leading unit that starts at line one. A unit without code is dropped.

With at most one boundary there is nothing to split at, and the code lines are cut into equal
chunks.
-/

set_option autoImplicit false

namespace ReviewGate.Budget

open Source

/-- The numbers of the lines at which units start. -/
def boundaryNumbers (lines : List Line) : List Int :=
  (lines.filter isBoundary).map Line.number

/-- The starts of the units: the boundaries, behind line one when code precedes them. -/
def unitStarts (lines : List Line) (boundaries : List Int) : List Int :=
  match codeLines lines, boundaries with
  | code :: _, start :: _ => if code.number < start then 1 :: boundaries else boundaries
  | _, _ => boundaries

/-- The spans between the starts of units, each up to the line in front of the next. -/
def spansFrom (last : Int) : List Int → List (Int × Int)
  | [] => []
  | [start] => [(start, last)]
  | start :: next :: more => (start, next - 1) :: spansFrom last (next :: more)

/-- How many of the lines have a number in a span. -/
def countWithin (span : Int × Int) (code : List Line) : Nat :=
  code.countP fun line => span.1 ≤ line.number && line.number ≤ span.2

/-- The units that start at the boundaries. -/
def boundaryUnits (lines : List Line) (boundaries : List Int) : List Suggestion :=
  let code := codeLines lines
  let last := (lines.getLast?.map Line.number).getD 0
  let spans := spansFrom last (unitStarts lines boundaries)
  let held := spans.filter (countWithin · code != 0)
  held.zipIdx.map fun (span, index) =>
    ⟨unitName "unit-".toList index, span.1, span.2, countWithin span code⟩

/-- The units that a file should be split into. -/
def suggestSplit (reading : Quotients) (lines : List Line) (limit : Int) :
    Except ArithmeticError (List Suggestion) :=
  let boundaries := boundaryNumbers lines
  if boundaries.length ≤ 1 then equalChunks reading (codeLines lines) limit
  else .ok (boundaryUnits lines boundaries)

end ReviewGate.Budget
