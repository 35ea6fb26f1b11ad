import ReviewGate.Budget.Chunk
import ReviewGate.Config.Load
import ReviewGate.Console.Sequences
import ReviewGate.Files.Writing
import ReviewGate.Log

/-!
# What a run gives

A run prints on two channels, may write a file, and ends with a status. Some failures are not
foreseen and end it without a word of its own; these are kept as their cause.

A channel may be a terminal. On one that is none, messages and reports are shown without escape
sequences; log records are written to it as they are. All other texts of the program have no escape
sequences in any case.
-/

set_option autoImplicit false

namespace ReviewGate.CommandLine

open Files (FileError Path Workspace)

/-- When and where a run takes place: the time, which of the channels is a terminal, and how many
columns characters take. -/
structure Scene where
  time : Text
  stdoutTerminal : Bool
  stderrTerminal : Bool
  widths : Console.Widths

/-- A failure that is not foreseen. -/
inductive Abort
  | file (error : FileError)
  | config (cause : Config.Breakdown)
  | arithmetic (error : ArithmeticError)

/-- The wording of a failure that is not foreseen. -/
def Abort.message : Abort → Text
  | file error => error.message
  | config cause => cause.message
  | arithmetic error => error.message

/-- How a run ends. -/
inductive Ending
  | exit (status : Nat)
  | abort (cause : Abort)

/-- The status with which a run ends. -/
def Ending.status : Ending → Nat
  | exit status => status
  | abort _ => 1

/-- How a run ends, what it has printed, and the files behind it. -/
structure Outcome where
  ending : Ending
  stdout : Text
  stderr : Text
  space : Workspace

namespace Outcome

/-- A run that ends without output. -/
def silent (space : Workspace) (status : Nat) : Outcome :=
  ⟨.exit status, [], [], space⟩

/-- A run that ends with a message. -/
def message (scene : Scene) (space : Workspace) (status : Nat) (text : Text) : Outcome :=
  ⟨.exit status, [], Console.shown scene.stderrTerminal text, space⟩

/-- A run that prints a text. -/
def print (space : Workspace) (text : Text) : Outcome :=
  ⟨.exit 0, text, [], space⟩

/-- A run that ends by a failure that is not foreseen. -/
def aborted (space : Workspace) (cause : Abort) : Outcome :=
  ⟨.abort cause, [], [], space⟩

/-- A run in front of which log records are shown. -/
def behind (verbose : Bool) (log : List LogRecord) (outcome : Outcome) : Outcome :=
  { outcome with
    stderr := (log.filter (LogRecord.isShown verbose)).flatMap LogRecord.line ++ outcome.stderr }

end Outcome

/-- How much a run tells. -/
structure Manner where
  verbose : Bool
  quiet : Bool
  deriving DecidableEq, Repr

/-- A report as it is printed: its newlines at the end are a single one, and an empty report is
nothing at all. -/
def printedReport (scene : Scene) (report : Text) : Text :=
  if report = [] then []
  else Console.shown scene.stdoutTerminal (Text.trimRightBy (· == '\n') report ++ ['\n'])

/-- The message that a report is written. -/
def writtenMessage (scene : Scene) (path : Path) : Text :=
  Console.shown scene.stdoutTerminal ("Report written to: ".toList ++ path.text ++ ['\n'])

/-- The status of a check. -/
def verdictStatus (fails : Bool) : Nat :=
  if fails then 1 else 0

/-- Prints a report, or writes it to a file, and ends with a verdict. -/
def deliver (scene : Scene) (space : Workspace) (quiet : Bool) (output : Option Path)
    (report : Text) (fails : Bool) : Outcome :=
  match output with
  | none => ⟨.exit (verdictStatus fails), printedReport scene report, [], space⟩
  | some path =>
    match (Files.Change.writeText path report).run.run space with
    | (.error error, changed) => .aborted changed (.file error)
    | (.ok (), written) =>
      ⟨.exit (verdictStatus fails), if quiet then [] else writtenMessage scene path, [], written⟩

end ReviewGate.CommandLine
