import ReviewGate.CommandLine.Usage
import ReviewGate.Config.Settings
import ReviewGate.Files.Reading

/-!
# The options of the program and its commands

Each command has its own options. Their values are checked in the order in which the options are
given first, and operands that are left over are noticed last. A value that is a path need not lead
anywhere. What it leads to has to be readable, and no directory when it is a path of a file.
-/

set_option autoImplicit false

namespace ReviewGate.CommandLine

open Config (BudgetFormat RecordFormat)
open Files (FileError Path Workspace)

/-- Why options are refused: for how they are used, or because a path cannot even be looked up. -/
inductive Refusal
  | usage (error : UsageError)
  | badPath (error : FileError)
  deriving DecidableEq, Repr

/-! ## Values -/

/-- What is wrong with what stands at a written path, which may have to be a file. -/
def pathFault? (space : Workspace) (onlyFile : Bool) (written : Text) : Option InvalidValue :=
  match space.writtenAt? written with
  | none => none
  | some (location, entry) =>
    if onlyFile && entry = .directory then some (.isDirectory written)
    else if space.rights.reads location then none
    else some (.notReadable (if onlyFile then "File".toList else "Path".toList) written)

/-- A path, perhaps that of a file. -/
def readPath (space : Workspace) (onlyFile : Bool) (option value : Text) : Except Refusal Path :=
  if (Path.read value).holdsNul then .error (.badPath ⟨.holdsNul, value⟩)
  else match pathFault? space onlyFile value with
    | some fault => .error (.usage (.invalidValue option fault))
    | none => .ok (Path.read value)

/-- One of several named things. -/
def readChoice {β : Type} (all : List β) (name : β → Text) (option value : Text) :
    Except Refusal β :=
  match all.find? fun choice => name choice = value with
  | some choice => .ok choice
  | none => .error (.usage (.invalidValue option (.notAmong value (all.map name))))

/-- A positive integer. -/
def readPositive (option value : Text) : Except Refusal Int :=
  match Text.toInt? value with
  | none => .error (.usage (.invalidValue option (.notInteger value)))
  | some number =>
    if number < 1 then .error (.usage (.invalidValue option (.belowOne number))) else .ok number

/-- Reads what is there. -/
def readGiven {β : Type} (read : Text → Except Refusal β) : Option Text → Except Refusal (Option β)
  | none => .ok none
  | some value => some <$> read value

/-! ## The program -/

/-- The options of the program. -/
inductive ProgramOption
  | version
  | verbose
  | quiet
  | config
  | help
  deriving DecidableEq, Repr

/-- How the options of the program are written. -/
def programForms : List (OptionForm ProgramOption) :=
  [⟨.version, "--version".toList, none, false⟩,
    ⟨.verbose, "--verbose".toList, some 'v', false⟩,
    ⟨.quiet, "--quiet".toList, some 'q', false⟩,
    ⟨.config, "--config".toList, none, true⟩,
    ⟨.help, "--help".toList, none, false⟩]

/-- What the options of the program say. -/
structure ProgramOptions where
  verbose : Bool
  quiet : Bool
  config : Option Path
  deriving DecidableEq, Repr

/-- Reads the options of the program. -/
def readProgramOptions (space : Workspace) (arguments : Arguments ProgramOption) :
    Except Refusal ProgramOptions := do
  let config ← readGiven (readPath space true "--config".toList) (arguments.value? .config)
  return ⟨arguments.has .verbose, arguments.has .quiet, config⟩

/-! ## The check of decision records -/

/-- The options of the check of decision records. -/
inductive RecordOption
  | strict
  | format
  | output
  | help
  deriving DecidableEq, Repr

/-- How the options of the check of decision records are written. -/
def recordForms : List (OptionForm RecordOption) :=
  [⟨.strict, "--strict".toList, none, false⟩,
    ⟨.format, "--format".toList, none, true⟩,
    ⟨.output, "--output".toList, none, true⟩,
    ⟨.help, "--help".toList, none, false⟩]

/-- What the options of the check of decision records say. -/
structure RecordOptions where
  target : Path
  strict : Bool
  format : Option RecordFormat
  output : Option Path
  deriving DecidableEq, Repr

/-- Adds the value of an option. -/
def RecordOptions.add (space : Workspace) (arguments : Arguments RecordOption)
    (options : RecordOptions) : RecordOption → Except Refusal RecordOptions
  | .strict => .ok { options with strict := true }
  | .format => do
    let format ← readGiven (readChoice RecordFormat.all RecordFormat.name "--format".toList)
      (arguments.value? .format)
    return { options with format := format }
  | .output => do
    let output ← readGiven (readPath space true "--output".toList) (arguments.value? .output)
    return { options with output := output }
  | .help => .ok options

/-- Refuses operands that are left over. -/
def refuseOperands : List Text → Except Refusal Unit
  | [] => .ok ()
  | operands => .error (.usage (.extraOperands operands))

/-- Reads the options and the target of the check of decision records. Without a target it is the
working directory. -/
def readRecordOptions (space : Workspace) (arguments : Arguments RecordOption) :
    Except Refusal RecordOptions := do
  let options ← arguments.order.foldlM (RecordOptions.add space arguments)
    ⟨Path.read ['.'], false, none, none⟩
  let target ← readPath space false "[TARGET]".toList (arguments.operands.headD ['.'])
  refuseOperands (arguments.operands.drop 1)
  return { options with target := target }

/-! ## The check of line budgets -/

/-- The options of the check of line budgets. -/
inductive BudgetOption
  | task
  | directory
  | maxLines
  | recursive
  | format
  | output
  | help
  deriving DecidableEq, Repr

/-- How the options of the check of line budgets are written. -/
def budgetForms : List (OptionForm BudgetOption) :=
  [⟨.task, "--task".toList, none, true⟩,
    ⟨.directory, "--dir".toList, none, true⟩,
    ⟨.maxLines, "--max-lines".toList, none, true⟩,
    ⟨.recursive, "--recursive".toList, some 'r', false⟩,
    ⟨.format, "--format".toList, none, true⟩,
    ⟨.output, "--output".toList, none, true⟩,
    ⟨.help, "--help".toList, none, false⟩]

/-- What the options of the check of line budgets say. -/
structure BudgetOptions where
  task : Option Path
  directory : Option Path
  maxLines : Option Int
  recursive : Bool
  format : Option BudgetFormat
  output : Option Path
  deriving DecidableEq, Repr

/-- Adds the value of an option. -/
def BudgetOptions.add (space : Workspace) (arguments : Arguments BudgetOption)
    (options : BudgetOptions) : BudgetOption → Except Refusal BudgetOptions
  | .task => do
    let task ← readGiven (readPath space false "--task".toList) (arguments.value? .task)
    return { options with task := task }
  | .directory => do
    let directory ← readGiven (readPath space false "--dir".toList) (arguments.value? .directory)
    return { options with directory := directory }
  | .maxLines => do
    let limit ← readGiven (readPositive "--max-lines".toList) (arguments.value? .maxLines)
    return { options with maxLines := limit }
  | .recursive => .ok { options with recursive := true }
  | .format => do
    let format ← readGiven (readChoice BudgetFormat.all BudgetFormat.name "--format".toList)
      (arguments.value? .format)
    return { options with format := format }
  | .output => do
    let output ← readGiven (readPath space true "--output".toList) (arguments.value? .output)
    return { options with output := output }
  | .help => .ok options

/-- Reads the options of the check of line budgets. -/
def readBudgetOptions (space : Workspace) (arguments : Arguments BudgetOption) :
    Except Refusal BudgetOptions := do
  let options ← arguments.order.foldlM (BudgetOptions.add space arguments)
    ⟨none, none, none, false, none, none⟩
  refuseOperands arguments.operands
  return options

end ReviewGate.CommandLine
