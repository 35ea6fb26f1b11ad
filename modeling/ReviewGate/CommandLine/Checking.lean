import ReviewGate.CommandLine.Outcome
import ReviewGate.CommandLine.Usage
import ReviewGate.Files.Discovery

/-!
# Checking files

Both commands find files, read and check them one after the other, and deliver a report with a
verdict. `Check` holds what they differ in. A file that cannot be read ends the check without a
report, and so does a number in a report that cannot be computed or shown.
-/

set_option autoImplicit false

namespace ReviewGate.CommandLine

open Files (FileError Finding Path Workspace missingMessage)

/-- What is found out about one file, with the log records of it. -/
structure Examined (α : Type) where
  result : Except ArithmeticError α
  log : List LogRecord

/-- Why files cannot be checked. -/
inductive CheckFailure
  | unreadable (error : FileError)
  | arithmetic (error : ArithmeticError)

/-- What is found out about several files. -/
structure Checked (α : Type) where
  results : Except CheckFailure (List α)
  log : List LogRecord

/-- Reads and examines files in order, up to the first failure. -/
def examineAll {α : Type} (space : Workspace) (examine : Path → Text → Examined α) :
    List Path → Checked α
  | [] => ⟨.ok [], []⟩
  | path :: more =>
    match space.readSource path with
    | .error error => ⟨.error (.unreadable error), []⟩
    | .ok text =>
      let here := examine path text
      match here.result with
      | .error error => ⟨.error (.arithmetic error), here.log⟩
      | .ok result =>
        let rest := examineAll space examine more
        ⟨(result :: ·) <$> rest.results, here.log ++ rest.log⟩

/-- A check: the target, what is looked for in it, how a file is examined, and what is made of the
results. -/
structure Check (α : Type) where
  target : Path
  found : Finding
  noFiles : Text
  startNote : Nat → LogRecord
  examine : Path → Text → Examined α
  report : List α → Except ArithmeticError Text
  fails : List α → Bool
  output : Option Path

/-- Runs a check on files that were found. -/
def Check.runOn {α : Type} (check : Check α) (scene : Scene) (space : Workspace)
    (manner : Manner) (files : List Path) : Outcome :=
  let checked := examineAll space check.examine files
  let outcome : Outcome := match checked.results with
    | .error (.unreadable error) => .message scene space 1 (errorLine error.message)
    | .error (.arithmetic error) => .aborted space (.arithmetic error)
    | .ok results =>
      match check.report results with
      | .error error => .aborted space (.arithmetic error)
      | .ok report => deliver scene space manner.quiet check.output report (check.fails results)
  outcome.behind manner.verbose (check.startNote files.length :: checked.log)

/-- Runs a check. -/
def Check.run {α : Type} (check : Check α) (scene : Scene) (space : Workspace)
    (manner : Manner) : Outcome :=
  let outcome : Outcome := match check.found.files with
    | .error (.missing target) => .message scene space 1 (errorLine (missingMessage target))
    | .error (.unusable error) => .aborted space (.file error)
    | .ok [] =>
      if manner.quiet then .silent space 0
      else .message scene space 0 (check.noFiles ++ check.target.text ++ ['\n'])
    | .ok files => check.runOn scene space manner files
  outcome.behind manner.verbose check.found.log

/-- Whether a report is in colour: when it is printed, and on a terminal. -/
def inColour (scene : Scene) (output : Option Path) : Bool :=
  output.isNone && scene.stdoutTerminal

/-- The part of the program that speaks in the log of a command. -/
def commandLogger : String := "archlint.cli"

end ReviewGate.CommandLine
