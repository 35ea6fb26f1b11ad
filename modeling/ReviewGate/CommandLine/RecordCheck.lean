import ReviewGate.CommandLine.Checking
import ReviewGate.CommandLine.Options
import ReviewGate.Files.Discovery
import ReviewGate.Record.ConsoleReport
import ReviewGate.Record.JUnitReport
import ReviewGate.Record.JsonReport

/-!
# The check of decision records

The options of a command and the settings of a configuration together say what is checked and how.
A format given as an option prevails over a configured one; strictness is asked for by either.
-/

set_option autoImplicit false

namespace ReviewGate.CommandLine

open Config (RecordFormat RecordSettings)
open Files (Path Workspace)
open Record (Assessment)

/-- What is checked and how. -/
structure RecordTask where
  target : Path
  strict : Bool
  format : RecordFormat
  output : Option Path
  deriving DecidableEq, Repr

/-- The task that options and settings ask for. -/
def RecordOptions.toTask (options : RecordOptions) (settings : RecordSettings) : RecordTask where
  target := options.target
  strict := options.strict || settings.strict
  format := (options.format <|> settings.format).getD .rich
  output := options.output

/-- The log records of the assessment of a file. -/
def assessmentLog (result : Assessment) : List LogRecord :=
  let name := if result.path = [] then "<adr>".toList else result.path
  (result.violations.map fun found =>
    .note "archlint.adr.rule_engine" (name ++ ": ".toList ++ found.rule ++ " failed".toList)) ++
  [.note "archlint.adr.validator"
    (result.path ++ ": ".toList ++ Text.ofNat result.errors.length ++ " error(s), ".toList ++
      Text.ofNat result.warnings.length ++ " warning(s)".toList)]

/-- Assesses a file. -/
def assessFile (path : Path) (text : Text) : Examined Assessment :=
  let result := Record.assess text path.text
  ⟨.ok result, assessmentLog result⟩

/-- The report in a format, perhaps in colour. -/
def recordReport (scene : Scene) (colour : Bool) : RecordFormat → List Assessment → Text
  | .json => Record.jsonReport scene.time
  | .junit => Record.junitReport
  | .rich => Record.consoleReport scene.widths colour

namespace RecordTask

/-- The note at the start of a check. -/
def startNote (task : RecordTask) (count : Nat) : LogRecord :=
  .note commandLogger ("Validating ".toList ++ Text.ofNat count ++ " ADR file(s) from ".toList ++
    task.target.text)

/-- A task as a check. -/
def check (task : RecordTask) (scene : Scene) (space : Workspace) : Check Assessment where
  target := task.target
  found := space.recordFiles task.target
  noFiles := "No .md files found in: ".toList
  startNote := task.startNote
  examine := assessFile
  report results := .ok (recordReport scene (inColour scene task.output) task.format results)
  fails results := Record.shouldFail results task.strict
  output := task.output

/-- Runs a task. -/
def run (task : RecordTask) (scene : Scene) (space : Workspace) (manner : Manner) : Outcome :=
  (task.check scene space).run scene space manner

end RecordTask

end ReviewGate.CommandLine
