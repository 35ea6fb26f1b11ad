import ReviewGate.Budget.ConsoleReport
import ReviewGate.Budget.JsonReport
import ReviewGate.CommandLine.Checking
import ReviewGate.CommandLine.Options
import ReviewGate.Files.Discovery

/-!
# The check of line budgets

The target is a task, or else a directory, which is always searched as a whole. A limit and a
format given as options prevail over configured ones; recursion is asked for by either.
-/

set_option autoImplicit false

namespace ReviewGate.CommandLine

open Budget (FileCount)
open Config (BudgetFormat BudgetSettings)
open Files (Path Workspace)
open Source (Language)

/-- What is checked and how. -/
structure BudgetTask where
  target : Option Path
  limit : Int
  recursive : Bool
  format : BudgetFormat
  output : Option Path
  deriving DecidableEq, Repr

/-- The task that options and settings ask for. -/
def BudgetOptions.toTask (options : BudgetOptions) (settings : BudgetSettings) : BudgetTask where
  target := options.task <|> options.directory
  limit := options.maxLines.getD settings.maxLines
  recursive := options.recursive || settings.recursive || options.directory.isSome
  format := (options.format <|> settings.format).getD .rich
  output := options.output

/-- The part of the program that speaks in the log of classification. -/
def classifierLogger : String := "archlint.microtask.classifier"

/-- The log records of the classification of a source text. -/
def classificationLog (language : Language) (text : Text) : List LogRecord :=
  if language = .unknown then
    [.note classifierLogger ("No syntax table for ".toList ++ Text.quoted language.name ++
      ", using fallback classifier".toList)]
  else
    let final := (Source.classify language text).final
    match final.mode with
    | .normal => []
    | .inBlock =>
      [.note classifierLogger ("Unterminated block comment (expecting ".toList ++
        Text.quoted final.closer ++ ") at end of input".toList)]

/-- The log record of a count. -/
def countNote (limit : Int) (count : FileCount) : LogRecord :=
  .note "archlint.microtask.line_counter"
    (count.path ++ " (".toList ++ count.language ++ "): ".toList ++
      Text.ofInt count.breakdown.effective ++ " effective of ".toList ++
      Text.ofInt count.breakdown.total ++ " lines, limit ".toList ++ Text.ofInt limit)

/-- Counts the lines of a file. -/
def countFile (limit : Int) (path : Path) (text : Text) : Examined FileCount :=
  let result := Budget.countSource .double text path.text limit
  ⟨result, classificationLog (Language.ofPath path.text) text ++
    match result with
    | .ok count => [countNote limit count]
    | .error _ => []⟩

/-- The report in a format, perhaps in colour. A limit with too many digits cannot be shown. -/
def budgetReport (scene : Scene) (colour : Bool) (limit : Int) (format : BudgetFormat)
    (counts : List FileCount) : Except ArithmeticError Text :=
  if (Text.numeral? limit).isNone then .error .tooManyDigits
  else match format with
    | .json => .ok (Budget.jsonReport scene.time limit counts)
    | .rich => Budget.consoleReport scene.widths .double colour limit counts

namespace BudgetTask

/-- The note at the start of a check. -/
def startNote (task : BudgetTask) (target : Path) (count : Nat) : LogRecord :=
  .note commandLogger ("Linting ".toList ++ Text.ofNat count ++ " file(s) from ".toList ++
    target.text ++ ", max ".toList ++ Text.ofInt task.limit ++ " lines".toList)

/-- A task on a target as a check. -/
def check (task : BudgetTask) (target : Path) (scene : Scene) (space : Workspace) :
    Check FileCount where
  target := target
  found := space.sourceFiles target task.recursive
  noFiles := "No supported files found in: ".toList
  startNote := task.startNote target
  examine := countFile task.limit
  report := budgetReport scene (inColour scene task.output) task.limit task.format
  fails := Budget.anyExceeds
  output := task.output

/-- The message that there is no target. -/
def noTarget : Text :=
  errorLine "provide --task <file> or --dir <directory>".toList

/-- Runs a task. -/
def run (task : BudgetTask) (scene : Scene) (space : Workspace) (manner : Manner) : Outcome :=
  match task.target with
  | none => .message scene space 1 noTarget
  | some target => (task.check target scene space).run scene space manner

end BudgetTask

end ReviewGate.CommandLine
