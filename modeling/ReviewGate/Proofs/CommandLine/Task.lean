import Mathlib.Data.List.Basic
import ReviewGate.CommandLine.Run

/-!
# What a command line asks for

A command line that is understood, together with the configuration that it names, asks for a task:
the check of a target, with all that options and settings say about it (`Invokes`). Its run is the
run of that task, with the log of the configuration in front (`Invokes.run_eq`). Every other run
ends with a message and touches no file (`space_run_of_not_invokes`).

A task finds files, reads them and delivers a report. It may end early for a number of reasons, and
it then leaves all files as they are, too (`Outcome.Idle`).
-/

set_option autoImplicit false

namespace ReviewGate.CommandLine

open Config (Settings)
open Files (FileError Path Workspace)

/-! ## Tasks -/

/-- A task of one of the two checks. -/
inductive Task
  | record (task : RecordTask)
  | budget (task : BudgetTask)
  deriving DecidableEq, Repr

namespace Task

/-- Runs a task. -/
def run (scene : Scene) (space : Workspace) (manner : Manner) : Task → Outcome
  | record task => task.run scene space manner
  | budget task => task.run scene space manner

/-- Where a task writes its report. -/
def output : Task → Option Path
  | record task => task.output
  | budget task => task.output

end Task

/-- Arguments behind the name of a command ask for a task under settings. -/
inductive Asks (space : Workspace) (settings : Settings) : Topic → List Text → Task → Prop
  | record {arguments : List Text} {given : Arguments RecordOption} {options : RecordOptions}
      (written : readArguments recordForms true arguments = .ok given)
      (noHelp : given.has .help = false) (meant : readRecordOptions space given = .ok options) :
      Asks space settings .record arguments (.record (options.toTask settings.record))
  | budget {arguments : List Text} {given : Arguments BudgetOption} {options : BudgetOptions}
      (written : readArguments budgetForms true arguments = .ok given)
      (noHelp : given.has .help = false) (meant : readBudgetOptions space given = .ok options) :
      Asks space settings .budget arguments (.budget (options.toTask settings.budget))

/-- The path of the configuration under which a command runs. -/
def ProgramOptions.configPath (space : Workspace) (options : ProgramOptions) : Path :=
  options.config.getD ((herePath space).child configName)

/-- A command line asks for a task, to be run in a manner and behind the log of the
configuration. -/
inductive Invokes (space : Workspace) (arguments : List Text) :
    Manner → List LogRecord → Task → Prop
  | intro {options : ProgramOptions} {name : Text} {rest : List Text} {topic : Topic}
      {settings : Settings} {log : List LogRecord} {task : Task}
      (program : readProgram space arguments = .ok (options, name :: rest))
      (known : Topic.commands.lookup name = some topic)
      (config : Config.load space (options.configPath space) = ⟨.ok settings, log⟩)
      (asks : Asks space settings topic rest task) :
      Invokes space arguments ⟨options.verbose, options.quiet⟩ log task

/-! ## Runs -/

/-- A scene without a terminal, in which every character takes one column. -/
def plainScene : Scene := ⟨[], false, false, Console.Widths.single⟩

namespace Outcome

variable {outcome : Outcome} {space : Workspace} {status : Nat}

/-- An outcome with a status and with all files as they were. -/
structure Idle (outcome : Outcome) (space : Workspace) (status : Nat) : Prop where
  status : outcome.ending.status = status
  space : outcome.space = space

theorem Idle.behind (idle : outcome.Idle space status) (verbose : Bool) (log : List LogRecord) :
    (outcome.behind verbose log).Idle space status :=
  ⟨idle.status, idle.space⟩

end Outcome

section Run

variable {scene : Scene} {space : Workspace} {arguments rest : List Text} {manner : Manner}
  {log : List LogRecord} {task : Task} {settings : Settings} {topic : Topic}

theorem runTopic_of_asks (asks : Asks space settings topic rest task) :
    runTopic scene space manner settings rest topic = task.run scene space manner := by
  cases asks with
  | record written noHelp meant =>
      rw [runTopic, runRecordCommand, runCommand, written]
      simp only [noHelp, meant]
      rfl
  | budget written noHelp meant =>
      rw [runTopic, runBudgetCommand, runCommand, written]
      simp only [noHelp, meant]
      rfl

/-- The program does nothing without arguments. -/
theorem ne_nil_of_readProgram {options : ProgramOptions} {name : Text}
    (program : readProgram space arguments = .ok (options, name :: rest)) : arguments ≠ [] := by
  rintro rfl
  cases program

/-- Behind its options the program loads the configuration and runs the command under it. -/
theorem run_of_readProgram {options : ProgramOptions} {name : Text}
    (program : readProgram space arguments = .ok (options, name :: rest))
    (known : Topic.commands.lookup name = some topic) :
    run scene space arguments = runConfigured scene space options topic rest := by
  rw [run, if_neg (ne_nil_of_readProgram program), program]
  simp only [runNamed, known]

/-- **A run is the run of the task that the command line asks for.** -/
theorem Invokes.run_eq (invokes : Invokes space arguments manner log task) :
    run scene space arguments = (task.run scene space manner).behind manner.verbose log := by
  obtain ⟨program, known, config, asks⟩ := invokes
  rw [run_of_readProgram program known, runConfigured]
  simp only [ProgramOptions.configPath] at config
  simp only [config, runTopic_of_asks asks]

/-! ## Runs without a task -/

theorem space_refused (scene : Scene) (space : Workspace) (topic : Topic) (refusal : Refusal) :
    (refused scene space topic refusal).space = space := by
  cases refusal <;> rfl

/-- A command either runs on its options or leaves all files as they are. -/
theorem runCommand_cases {α β : Type} [DecidableEq α] (scene : Scene) (space : Workspace)
    (topic : Topic) (forms : List (OptionForm α)) (help : α) (read : Arguments α → Except Refusal β)
    (act : β → Outcome) (arguments : List Text) :
    (∃ given options, readArguments forms true arguments = .ok given ∧ given.has help = false ∧
        read given = .ok options) ∨
      (runCommand scene space topic forms help read act arguments).space = space := by
  unfold runCommand
  split
  · exact .inr (space_refused scene space topic _)
  · next given written =>
    split
    · exact .inr rfl
    · next noHelp =>
      split
      · exact .inr (space_refused scene space topic _)
      · next options meant =>
        exact .inl ⟨given, options, written, Bool.eq_false_iff.mpr noHelp, meant⟩

theorem space_runTopic (none : ∀ task, ¬ Asks space settings topic rest task) :
    (runTopic scene space manner settings rest topic).space = space := by
  cases topic with
  | program => rfl
  | record =>
      rcases runCommand_cases scene space .record recordForms .help (readRecordOptions space)
        (fun options => (options.toTask settings.record).run scene space manner) rest with
        ⟨given, options, written, noHelp, meant⟩ | idle
      · exact absurd (.record written noHelp meant) (none _)
      · exact idle
  | budget =>
      rcases runCommand_cases scene space .budget budgetForms .help (readBudgetOptions space)
        (fun options => (options.toTask settings.budget).run scene space manner) rest with
        ⟨given, options, written, noHelp, meant⟩ | idle
      · exact absurd (.budget written noHelp meant) (none _)
      · exact idle

theorem space_of_readProgram {outcome : Scene → Outcome}
    (ended : readProgram space arguments = .error outcome) :
    (outcome scene).space = space := by
  unfold readProgram at ended
  split at ended
  · cases ended; rfl
  · split at ended
    · cases ended; rfl
    · cases ended; rfl
    · split at ended
      · cases ended; exact space_refused scene space .program _
      · cases ended

theorem space_refusedCommand (name : Text) :
    (refusedCommand scene space name rest).space = space := by
  unfold refusedCommand
  split
  · next outcome ended => exact space_of_readProgram ended
  · rfl

/-- **A run that is of no task leaves all files as they are.** -/
theorem space_run_of_not_invokes
    (none : ∀ manner log task, ¬ Invokes space arguments manner log task) :
    (run scene space arguments).space = space := by
  unfold run
  split
  · rfl
  · split
    · next outcome ended => exact space_of_readProgram ended
    · next options operands program =>
      unfold runNamed
      split
      · rfl
      · next name rest =>
        split
        · exact space_refusedCommand name
        · next topic known =>
          unfold runConfigured
          simp only [Outcome.behind]
          split
          · rfl
          · rfl
          · next settings loaded =>
            refine space_runTopic fun task asks => none ⟨options.verbose, options.quiet⟩
              (Config.load space (options.configPath space)).log task ?_
            exact .intro program known (by rw [← loaded]; rfl) asks

end Run

end ReviewGate.CommandLine
