import ReviewGate.Console.Row
import ReviewGate.Record.Assessment
import ReviewGate.Text.Numeral

/-!
# The assessments on a console

The report is a list of entries, each of which is one printed line. A record without violations
has a single line; any other has a blank line, its headline, its title and its violations, each
with its hint. The totals stand at the end, behind a divider, and the last line tells the outcome.
-/

set_option autoImplicit false

namespace ReviewGate.Record

open Console

/-- What the headline of a record says. -/
inductive Headline
  | pass
  | warn
  | fail
  deriving DecidableEq, Repr

/-- What the last line of the report says. -/
inductive Outcome
  | allPassed
  | passedWithWarnings
  | failed
  deriving DecidableEq, Repr

/-- One printed line of the report. -/
inductive ReportLine
  | blank
  | headline (kind : Headline) (path : Text)
  | title (text : Text)
  | violation (severity : Severity) (rule message : Text)
  | hint (text : Text)
  | divider
  | validated (count : Nat)
  | errors (count : Nat)
  | warnings (count : Nat)
  | outcome (kind : Outcome)
  deriving DecidableEq, Repr

/-- The headline of a record: it passes without violations and fails with an error. -/
def Assessment.headline (result : Assessment) : Headline :=
  if result.violations.isEmpty then .pass
  else if result.errors.isEmpty then .warn
  else .fail

/-- The lines of a violation. An empty hint is not printed. -/
def violationLines (found : Violation) : List ReportLine :=
  .violation found.severity found.rule found.message ::
    match found.hint with
    | some hint => if hint.isEmpty then [] else [.hint hint]
    | none => []

/-- The lines of a record. -/
def Assessment.reportLines (result : Assessment) : List ReportLine :=
  match result.headline with
  | .pass => [.headline .pass result.path]
  | kind =>
    .blank :: .headline kind result.path :: .title result.title ::
      result.violations.flatMap violationLines

/-- The number of errors of all records. -/
def totalErrors (results : List Assessment) : Nat :=
  (results.flatMap Assessment.errors).length

/-- The number of warnings of all records. -/
def totalWarnings (results : List Assessment) : Nat :=
  (results.flatMap Assessment.warnings).length

/-- The outcome that the totals make. -/
def outcomeOf (errors warnings : Nat) : Outcome :=
  if errors = 0 then (if warnings = 0 then .allPassed else .passedWithWarnings) else .failed

/-- The lines behind the records. -/
def summaryLines (results : List Assessment) : List ReportLine :=
  let errors := totalErrors results
  let warnings := totalWarnings results
  [.blank, .divider, .validated results.length, .errors errors, .warnings warnings,
    .outcome (outcomeOf errors warnings)]

/-- The lines of the report. -/
def reportLines (results : List Assessment) : List ReportLine :=
  results.flatMap Assessment.reportLines ++ summaryLines results

/-! ## How the lines look -/

/-- The icon of a severity. -/
def Severity.icon : Severity → Piece
  | .error => styled .boldRed "✗".toList
  | .warning => styled .boldYellow "⚠".toList
  | .info => styled .boldBlue "ℹ".toList

/-- The headline of a file. -/
def Headline.pieces (path : Text) : Headline → Row
  | pass => [styled .boldGreen "✓ ".toList, bare path, styled .green " — PASS".toList]
  | warn => [styled .boldYellow "⚠ ".toList, bare path, styled .yellow " — WARN".toList]
  | fail => [styled .boldRed "✗ ".toList, bare path, styled .red " — FAIL".toList]

/-- The line that tells the outcome. -/
def Outcome.pieces : Outcome → Row
  | allPassed => [styled .boldGreen "Status:    ALL PASSED ✓".toList]
  | passedWithWarnings => [styled .boldYellow "Status:    PASSED with warnings".toList]
  | failed =>
    [styled .boldRed "Status:    FAILED — fix errors before marking ADR as Accepted".toList]

/-- The pieces of a line of the report. -/
def ReportLine.pieces : ReportLine → Row
  | blank => []
  | headline kind path => kind.pieces path
  | title text => [bare ("  Title: ".toList ++ text)]
  | violation severity rule message =>
    [bare "  ".toList, severity.icon, styled .bold (" [".toList ++ rule ++ "] ".toList),
      bare message]
  | hint text => [styled .dim ("       → ".toList ++ text)]
  | divider => Console.divider
  | validated count => [bare ("Validated: ".toList ++ Text.ofNat count ++ " ADR(s)".toList)]
  | errors count => [bare ("Errors:    ".toList ++ Text.ofNat count)]
  | warnings count => [bare ("Warnings:  ".toList ++ Text.ofNat count)]
  | outcome kind => kind.pieces

/-- The report for a console. -/
def consoleReport (widths : Widths) (colour : Bool) (results : List Assessment) : Text :=
  render widths colour ((reportLines results).map ReportLine.pieces)

end ReviewGate.Record
