import ReviewGate.CommandLine.BudgetCheck
import ReviewGate.CommandLine.RecordCheck

/-!
# A run of the program

The options of the program are read first, then the name of the command. Only then the
configuration is loaded, and behind it the options of the command are read. So a mistake in the
configuration shows before one in the options of the command.
-/

set_option autoImplicit false

namespace ReviewGate.CommandLine

open Config (Settings)
open Files (Path Workspace)

/-- The name of the configuration file of a directory. -/
def configName : Text := ".archlint.yml".toList

/-- The version of the program. -/
def versionLine : Text :=
  programName ++ ", version 0.3.0\n".toList

/-- The path of the working directory. -/
def herePath (space : Workspace) : Path :=
  ⟨['/'], space.here⟩

/-- The outcome of refused options. -/
def refused (scene : Scene) (space : Workspace) (topic : Topic) : Refusal → Outcome
  | .usage error => .message scene space 2 (error.text topic)
  | .badPath error => .aborted space (.file error)

/-- Help about a topic: how it is called, and its options. -/
def helpText {α : Type} (topic : Topic) (forms : List (OptionForm α)) : Text :=
  topic.usageLine ++ "\nOptions:\n".toList ++
    forms.flatMap fun form => "  ".toList ++ form.name ++ ['\n']

/-! ## Commands -/

/-- Runs a command behind its options. -/
def runCommand {α β : Type} [DecidableEq α] (scene : Scene) (space : Workspace)
    (topic : Topic) (forms : List (OptionForm α)) (help : α)
    (read : Arguments α → Except Refusal β) (run : β → Outcome) (arguments : List Text) :
    Outcome :=
  match readArguments forms true arguments with
  | .error cause => refused scene space topic (.usage (.argument cause))
  | .ok arguments =>
    if arguments.has help then .print space (helpText topic forms)
    else match read arguments with
      | .error refusal => refused scene space topic refusal
      | .ok options => run options

/-- Runs the check of decision records. -/
def runRecordCommand (scene : Scene) (space : Workspace) (manner : Manner) (settings : Settings) :
    List Text → Outcome :=
  runCommand scene space .record recordForms .help (readRecordOptions space) fun options =>
    (options.toTask settings.record).run scene space manner

/-- Runs the check of line budgets. -/
def runBudgetCommand (scene : Scene) (space : Workspace) (manner : Manner) (settings : Settings) :
    List Text → Outcome :=
  runCommand scene space .budget budgetForms .help (readBudgetOptions space) fun options =>
    (options.toTask settings.budget).run scene space manner

/-- Runs a command under settings. -/
def runTopic (scene : Scene) (space : Workspace) (manner : Manner) (settings : Settings)
    (arguments : List Text) : Topic → Outcome
  | .budget => runBudgetCommand scene space manner settings arguments
  | .record => runRecordCommand scene space manner settings arguments
  | .program => .print space (helpText .program programForms)

/-! ## The program -/

/-- Loads the configuration and runs a command. -/
def runConfigured (scene : Scene) (space : Workspace) (options : ProgramOptions) (topic : Topic)
    (arguments : List Text) : Outcome :=
  let path := options.config.getD ((herePath space).child configName)
  let loading := Config.load space path
  let outcome : Outcome := match loading.result with
    | .error (.mistake mistake) => .message scene space 2 (errorLine mistake.message)
    | .error (.breakdown cause) => .aborted space (.config cause)
    | .ok settings =>
      runTopic scene space ⟨options.verbose, options.quiet⟩ settings arguments topic
  outcome.behind options.verbose loading.log

/-- The options of the program and its operands, or the outcome when it ends with them. -/
def readProgram (space : Workspace) (arguments : List Text) :
    Except (Scene → Outcome) (ProgramOptions × List Text) :=
  match readArguments programForms false arguments with
  | .error cause => .error fun scene => refused scene space .program (.usage (.argument cause))
  | .ok arguments =>
    match arguments.order.find? fun option => option = .version || option = .help with
    | some .version => .error fun _ => .print space versionLine
    | some _ => .error fun _ => .print space (helpText .program programForms)
    | none =>
      match readProgramOptions space arguments with
      | .error refusal => .error fun scene => refused scene space .program refusal
      | .ok options => .ok (options, arguments.operands)

/-- The outcome when there is no command of a name. The name may be an option that stands behind
the end of the options; then it is read as one, and may end the program as such. -/
def refusedCommand (scene : Scene) (space : Workspace) (name : Text)
    (arguments : List Text) : Outcome :=
  match readProgram space (name :: arguments) with
  | .error outcome => outcome scene
  | .ok _ =>
    let similar := Text.closest name (Topic.commands.map Prod.fst)
    refused scene space .program (.usage (.noSuchCommand name similar))

/-- Finds the command and runs it. -/
def runNamed (scene : Scene) (space : Workspace) (options : ProgramOptions) :
    List Text → Outcome
  | [] => refused scene space .program (.usage .missingCommand)
  | name :: arguments =>
    match Topic.commands.lookup name with
    | none => refusedCommand scene space name arguments
    | some topic => runConfigured scene space options topic arguments

/-- Runs the program on its arguments. -/
def run (scene : Scene) (space : Workspace) (arguments : List Text) : Outcome :=
  if arguments = [] then .message scene space 2 (helpText .program programForms)
  else match readProgram space arguments with
    | .error outcome => outcome scene
    | .ok (options, operands) => runNamed scene space options operands

end ReviewGate.CommandLine
