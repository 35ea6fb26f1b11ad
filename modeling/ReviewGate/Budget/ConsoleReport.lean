import ReviewGate.Budget.Count
import ReviewGate.Console.Row

/-!
# The counts on a console

The report is a list of entries, each of which is one printed line. A file within its budget has
a single line; any other has its breakdown and, if there is one, the suggested split with the
average size of its units. The totals stand at the end, behind a divider. The report fails only
where the average size of the units of a file cannot be computed.
-/

set_option autoImplicit false

namespace ReviewGate.Budget

open Console Source

/-- One printed line of the report. -/
inductive ReportLine
  | blank
  | passed (path : Text) (effective : Int)
  | failed (path : Text) (effective limit : Int)
  | breakdown (numbers : Breakdown)
  | splitHead (count : Nat)
  | unit (suggestion : Suggestion)
  | average (count : Nat) (size : Int)
  | divider
  | totals (files violations : Nat) (limit : Int)
  | outcome (success : Bool)
  deriving DecidableEq, Repr

/-- The lines of the suggested split of a file. -/
def splitLines (reading : Quotients) (count : FileCount) :
    Except ArithmeticError (List ReportLine) :=
  let units := count.suggestions.length
  if units = 0 then .ok []
  else do
    let average ← reading.ceil count.breakdown.effective units
    return .blank :: .splitHead units :: count.suggestions.map .unit ++
      [.blank, .average units average]

/-- The lines of a file. -/
def FileCount.reportLines (reading : Quotients) (limit : Int) (count : FileCount) :
    Except ArithmeticError (List ReportLine) :=
  if count.exceeds then do
    return .failed count.path count.breakdown.effective limit :: .breakdown count.breakdown ::
      (← splitLines reading count)
  else .ok [.passed count.path count.breakdown.effective]

/-- The number of files that exceed their budget. -/
def violationCount (counts : List FileCount) : Nat :=
  counts.countP FileCount.exceeds

/-- The lines of the totals. -/
def totalLines (limit : Int) (counts : List FileCount) : List ReportLine :=
  [.blank, .divider, .totals counts.length (violationCount counts) limit,
    .outcome (violationCount counts = 0)]

/-- The lines of the report. -/
def reportLines (reading : Quotients) (limit : Int) (counts : List FileCount) :
    Except ArithmeticError (List ReportLine) := do
  let files ← counts.mapM (FileCount.reportLines reading limit)
  return files.flatten ++ totalLines limit counts

/-! ## How the lines look -/

/-- The pieces of a line of the report. -/
def ReportLine.pieces : ReportLine → Row
  | blank => []
  | passed path effective =>
    [styled .boldGreen "✓ ".toList, bare path,
      styled .green (" — PASS (".toList ++ Text.ofInt effective ++ " effective lines)".toList)]
  | failed path effective limit =>
    [styled .boldRed "✗ ".toList, bare path,
      styled .red (" — FAIL (".toList ++ Text.ofInt effective ++ " effective lines > ".toList ++
        Text.ofInt limit ++ ")".toList)]
  | breakdown numbers =>
    [bare ("  Breakdown: ".toList ++ Text.ofInt numbers.total ++ " total | ".toList ++
      Text.ofInt numbers.effective ++ " code | ".toList ++ Text.ofInt numbers.comment ++
      " comments | ".toList ++ Text.ofInt numbers.imports ++ " imports | ".toList ++
      Text.ofInt numbers.blank ++ " blank".toList)]
  | splitHead count =>
    [bare ("  Suggested split (".toList ++ Text.ofNat count ++ " units):".toList)]
  | unit suggestion =>
    [bare ("    ├── extract: ".toList ++ suggestion.name ++ "()  [lines ".toList ++
      Text.ofInt suggestion.first ++ "–".toList ++ Text.ofInt suggestion.last ++
      "]  ~".toList ++ Text.ofInt suggestion.estimate ++ " effective lines".toList)]
  | average count size =>
    [bare ("  Result: ".toList ++ Text.ofNat count ++ " micro-tasks of ~".toList ++
      Text.ofInt size ++ " lines each".toList)]
  | divider => Console.divider
  | totals files violations limit =>
    [bare ("Validated: ".toList ++ Text.ofNat files ++ " file(s)  |  Violations: ".toList ++
      Text.ofNat violations ++ "  |  Max: ".toList ++ Text.ofInt limit ++ " lines".toList)]
  | outcome true => [styled .boldGreen "Status:    ALL PASSED ✓".toList]
  | outcome false =>
    [styled .boldRed
      "Status:    FAILED — split the tasks listed above before proceeding".toList]

/-- The report for a console. -/
def consoleReport (widths : Widths) (reading : Quotients) (colour : Bool) (limit : Int)
    (counts : List FileCount) : Except ArithmeticError Text := do
  return render widths colour ((← reportLines reading limit counts).map ReportLine.pieces)

end ReviewGate.Budget
