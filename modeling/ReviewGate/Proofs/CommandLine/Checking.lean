import ReviewGate.Proofs.Budget.Reporting
import ReviewGate.Proofs.CommandLine.Task

/-!
# The course of a check

A check finds files, reads all of them, examines what it has read, and makes a report. Where one of
these steps fails, or where there are no files, it ends with a status and all files as they are
(`Check.idle_of_unfound` and those behind it). Otherwise it delivers the report with a verdict
(`Check.agrees_deliver`).

For a task, its `Subject` says which files are found and which sources fail, while the format and
the scene only show in the report (`Task.report`). So there are the same few courses for both kinds
of tasks (`Task.idle_of_unfound`, …, `Task.agrees_deliver`).
-/

set_option autoImplicit false

namespace ReviewGate.CommandLine

open Files (FileError Path Workspace)

/-- The texts of files, with their paths and in order. -/
def readAll (space : Workspace) (files : List Path) : Except FileError (List (Path × Text)) :=
  files.mapM fun path => (path, ·) <$> space.readSource path

theorem readAll_cons (space : Workspace) (path : Path) (files : List Path) :
    readAll space (path :: files) = do
      let text ← space.readSource path
      let others ← readAll space files
      return (path, text) :: others := by
  rw [readAll, List.mapM_cons]
  cases space.readSource path <;> rfl

/-- Two outcomes that differ at most in what is told on the way. -/
structure Outcome.Agrees (outcome other : Outcome) : Prop where
  ending : outcome.ending = other.ending
  stdout : outcome.stdout = other.stdout
  space : outcome.space = other.space

theorem Outcome.Agrees.behind {outcome other : Outcome} (agrees : outcome.Agrees other)
    (verbose : Bool) (log : List LogRecord) : (outcome.behind verbose log).Agrees other :=
  ⟨agrees.ending, agrees.stdout, agrees.space⟩

/-! ## Checks -/

namespace Check

variable {α : Type} (check : Check α) {scene : Scene} {space : Workspace} {manner : Manner}
  {files : List Path} {sources : List (Path × Text)} {results : List α}

/-- What is found out about sources. -/
def examineSources (sources : List (Path × Text)) : Except ArithmeticError (List α) :=
  sources.mapM fun (path, text) => (check.examine path text).result

/-- The report on sources. -/
def reportOn (sources : List (Path × Text)) : Except ArithmeticError Text := do
  check.report (← check.examineSources sources)

/-- When all files can be read, examining them is examining their texts. -/
theorem results_of_readAll {examine : Path → Text → Examined α}
    (read : readAll space files = .ok sources) :
    (examineAll space examine files).results =
      (sources.mapM fun (path, text) => (examine path text).result).mapError .arithmetic := by
  induction files generalizing sources with
  | nil => cases read; rfl
  | cons path more ih =>
      rw [readAll_cons] at read
      obtain ⟨text, opened, read⟩ := exists_of_bind_eq_ok read
      obtain ⟨others, onward, done⟩ := exists_of_bind_eq_ok read
      cases done
      rw [examineAll, opened, List.mapM_cons]
      dsimp only
      cases (examine path text).result with
      | error cause => rfl
      | ok result =>
          dsimp only
          rw [ih onward]
          cases others.mapM fun (path, text) => (examine path text).result <;> rfl

/-- A file that cannot be read ends examining, or a file in front of it does. -/
theorem results_of_unread {examine : Path → Text → Examined α} {error : FileError}
    (unread : readAll space files = .error error) :
    ∃ failure, (examineAll space examine files).results = .error failure := by
  induction files with
  | nil => cases unread
  | cons path more ih =>
      rw [examineAll]
      cases opened : space.readSource path with
      | error cause => exact ⟨_, rfl⟩
      | ok text =>
          dsimp only
          cases (examine path text).result with
          | error cause => exact ⟨_, rfl⟩
          | ok result =>
              rw [readAll_cons, opened] at unread
              have others : readAll space more = .error error := by
                cases rest : readAll space more with
                | error cause => rw [rest] at unread; exact unread
                | ok others => rw [rest] at unread; cases unread
              obtain ⟨failure, failed⟩ := ih others
              exact ⟨failure, by dsimp only; rw [failed]; rfl⟩

variable {check}

theorem idle_of_unfound {failure : Files.SearchFailure}
    (unfound : check.found.files = .error failure) :
    (check.run scene space manner).Idle space 1 := by
  rw [Check.run, unfound]
  cases failure <;> exact Outcome.Idle.behind ⟨rfl, rfl⟩ _ _

theorem idle_of_nil (none : check.found.files = .ok []) :
    (check.run scene space manner).Idle space 0 := by
  rw [Check.run, none]
  dsimp only
  split <;> exact Outcome.Idle.behind ⟨rfl, rfl⟩ _ _

theorem run_eq_runOn (found : check.found.files = .ok files) (filled : files ≠ []) :
    check.run scene space manner =
      (check.runOn scene space manner files).behind manner.verbose check.found.log := by
  obtain ⟨path, more, rfl⟩ := List.exists_cons_of_ne_nil filled
  rw [Check.run, found]

theorem idle_of_unread {error : FileError} (found : check.found.files = .ok files)
    (filled : files ≠ []) (unread : readAll space files = .error error) :
    (check.run scene space manner).Idle space 1 := by
  obtain ⟨failure, failed⟩ : ∃ failure,
    (examineAll space check.examine files).results = .error failure := results_of_unread unread
  rw [run_eq_runOn found filled, Check.runOn, failed]
  cases failure <;> exact (Outcome.Idle.behind ⟨rfl, rfl⟩ _ _).behind _ _

/-- A check whose report cannot be computed ends without one. -/
theorem idle_of_unreported {error : ArithmeticError} (found : check.found.files = .ok files)
    (filled : files ≠ []) (read : readAll space files = .ok sources)
    (unreported : check.reportOn sources = .error error) :
    (check.run scene space manner).Idle space 1 := by
  rw [run_eq_runOn found filled, Check.runOn, results_of_readAll read]
  rw [reportOn, examineSources] at unreported
  cases examined : sources.mapM fun (path, text) => (check.examine path text).result with
  | error cause => exact (Outcome.Idle.behind ⟨rfl, rfl⟩ _ _).behind _ _
  | ok results =>
      rw [examined] at unreported
      have failed : check.report results = .error error := unreported
      dsimp only [Except.mapError]
      rw [failed]
      exact (Outcome.Idle.behind ⟨rfl, rfl⟩ _ _).behind _ _

/-- **A check whose report can be computed delivers it with its verdict.** -/
theorem agrees_deliver {report : Text} (found : check.found.files = .ok files)
    (filled : files ≠ []) (read : readAll space files = .ok sources)
    (examined : check.examineSources sources = .ok results)
    (reported : check.report results = .ok report) :
    (check.run scene space manner).Agrees
      (deliver scene space manner.quiet check.output report (check.fails results)) := by
  rw [examineSources] at examined
  rw [run_eq_runOn found filled, Check.runOn, results_of_readAll read, examined]
  dsimp only [Except.mapError]
  rw [reported]
  exact (Outcome.Agrees.behind ⟨rfl, rfl, rfl⟩ _ _).behind _ _

end Check

/-! ## Tasks -/

/-- The counts of sources under a limit. -/
def countSources (limit : Int) (sources : List (Path × Text)) :
    Except ArithmeticError (List Budget.FileCount) :=
  sources.mapM fun (path, text) => Budget.countSource .double text path.text limit

/-- What a task is about: all of it but the way in which it is reported. -/
inductive Subject
  | record (target : Path) (strict : Bool)
  | budget (target : Option Path) (limit : Int) (recursive : Bool)
  deriving DecidableEq, Repr

namespace Subject

/-- The files of a subject, `none` without a target, with nothing at it, or when a search fails. -/
def files? (space : Workspace) : Subject → Option (List Path)
  | record target _ => (space.recordFiles target).files.toOption
  | budget target _ recursive => do (space.sourceFiles (← target) recursive).files.toOption

/-- Whether sources fail. Those that cannot be counted do (`fails_budget`). -/
def fails (sources : List (Path × Text)) : Subject → Bool
  | record _ strict =>
    Record.shouldFail (sources.map fun (path, text) => Record.assess text path.text) strict
  | budget _ limit _ =>
    match countSources limit sources with
    | .ok counts => Budget.anyExceeds counts
    | .error _ => true

/-- Whether the limit of a subject has few enough digits to be shown in a report. -/
def isShowable : Subject → Bool
  | record .. => true
  | budget _ limit _ => (Text.numeral? limit).isSome

/-- Sources exceed a limit when one of them has more code lines. -/
theorem anyExceeds_eq {limit : Int} {sources : List (Path × Text)}
    {counts : List Budget.FileCount} (counted : countSources limit sources = .ok counts) :
    Budget.anyExceeds counts =
      sources.any fun (path, text) => limit < Budget.effectiveLines path.text text := by
  have related := forall₂_of_mapM counted
  clear counted
  rw [Budget.anyExceeds]
  induction related with
  | nil => rfl
  | cons own _ ih =>
      rw [List.any_cons, List.any_cons, ih, (Budget.counts_of_countSource own).exceeds]

/-- **Sources fail a line budget when one of them has more code lines than the limit.** -/
theorem fails_budget (target : Option Path) (limit : Int) (recursive : Bool)
    (sources : List (Path × Text)) : (budget target limit recursive).fails sources =
      sources.any fun (path, text) => limit < Budget.effectiveLines path.text text := by
  rw [fails]
  cases counted : countSources limit sources with
  | ok counts => exact anyExceeds_eq counted
  | error cause =>
      obtain ⟨source, member, own⟩ := exists_of_mapM_error counted
      have beyond := Budget.effectiveLines_of_failed own
      exact (List.any_eq_true.mpr ⟨source, member, decide_eq_true beyond⟩).symm

end Subject

namespace Task

/-- What a task is about. -/
def subject : Task → Subject
  | record task => .record task.target task.strict
  | budget task => .budget task.target task.limit task.recursive

/-- The report of a task on sources. -/
def report (scene : Scene) (sources : List (Path × Text)) : Task → Except ArithmeticError Text
  | record task => .ok (recordReport scene (inColour scene task.output) task.format
      (sources.map fun (path, text) => Record.assess text path.text))
  | budget task => do
    budgetReport scene (inColour scene task.output) task.limit task.format
      (← countSources task.limit sources)

variable {task : Task} {scene : Scene} {space : Workspace} {manner : Manner} {files : List Path}
  {sources : List (Path × Text)}

theorem idle_of_unfound (unfound : task.subject.files? space = none) :
    (task.run scene space manner).Idle space 1 := by
  cases task with
  | record task =>
      obtain ⟨failure, unfound⟩ := toOption_eq_none_iff.mp unfound
      exact Check.idle_of_unfound unfound
  | budget task =>
      rw [Task.run, BudgetTask.run]
      cases target : task.target with
      | none => exact ⟨rfl, rfl⟩
      | some target' =>
          rw [subject, target] at unfound
          obtain ⟨failure, unfound⟩ := toOption_eq_none_iff.mp unfound
          exact Check.idle_of_unfound unfound

/-- A limit that cannot be shown stops every report. -/
theorem exists_unreported (hidden : task.subject.isShowable = false) :
    ∃ error, task.report scene sources = .error error := by
  cases task with
  | record task => cases hidden
  | budget task =>
      rw [report]
      cases countSources task.limit sources with
      | error error => exact ⟨error, rfl⟩
      | ok counts =>
          have unshown : Text.numeral? task.limit = none :=
            Option.not_isSome_iff_eq_none.mp (ne_true_of_eq_false hidden)
          exact ⟨.tooManyDigits, if_pos (Option.isNone_iff_eq_none.mpr unshown)⟩

/-- There are reports only under a limit that can be shown. -/
theorem isShowable_of_report {made : Text} (reported : task.report scene sources = .ok made) :
    task.subject.isShowable = true := by
  by_contra hidden
  obtain ⟨error, unreported⟩ := exists_unreported (eq_false_of_ne_true hidden)
  cases reported.symm.trans unreported

/-- A limit that can be shown does not stop a report. -/
theorem budgetReport_of_shown {colour : Bool} {limit : Int} {format : Config.BudgetFormat}
    {counts : List Budget.FileCount} (shown : (Text.numeral? limit).isSome = true) :
    budgetReport scene colour limit format counts =
      match format with
      | .json => .ok (Budget.jsonReport scene.time limit counts)
      | .rich => Budget.consoleReport scene.widths .double colour limit counts := by
  have seen : ¬ (Text.numeral? limit).isNone = true := by simp [← Option.not_isSome, shown]
  cases format <;> exact if_neg seen

/-- A task runs as a check of some files, with the same report and verdict. -/
structure RunsAs {α : Type} (task : Task) (scene : Scene) (space : Workspace) (files : List Path)
    (check : Check α) : Prop where
  run : ∀ manner, task.run scene space manner = check.run scene space manner
  found : check.found.files = .ok files
  output : check.output = task.output
  report : ∀ sources, check.reportOn sources = task.report scene sources
  fails : ∀ sources results, check.examineSources sources = .ok results →
    check.fails results = task.subject.fails sources

/-- Assessing never fails. -/
theorem examineSources_record (task : RecordTask) (scene : Scene) (space : Workspace)
    (sources : List (Path × Text)) : (task.check scene space).examineSources sources =
      .ok (sources.map fun (path, text) => Record.assess text path.text) :=
  List.mapM_pure

/-- A task that finds files is a check of them. -/
theorem exists_runsAs (found : task.subject.files? space = some files) :
    ∃ (α : Type) (check : Check α), task.RunsAs scene space files check := by
  cases task with
  | record task =>
      refine ⟨_, task.check scene space, fun _ => rfl, toOption_eq_some_iff.mp found, rfl, ?_, ?_⟩
      · intro sources
        rw [Check.reportOn, examineSources_record]
        rfl
      · intro sources results examined
        rw [examineSources_record] at examined
        cases examined
        rfl
  | budget task =>
      cases target : task.target with
      | none => rw [subject, target] at found; cases found
      | some target' =>
          rw [subject, target] at found
          refine ⟨_, task.check target' scene space, fun manner => ?_,
            toOption_eq_some_iff.mp found, rfl, fun _ => rfl, fun sources counts counted => ?_⟩
          · rw [Task.run, BudgetTask.run, target]
          · rw [subject, Subject.fails, show countSources task.limit sources = _ from counted]
            rfl

theorem idle_of_nil (none : task.subject.files? space = some []) :
    (task.run scene space manner).Idle space 0 := by
  obtain ⟨α, check, runs⟩ : ∃ (α : Type) (check : Check α), task.RunsAs scene space [] check :=
    exists_runsAs none
  exact runs.run manner ▸ Check.idle_of_nil runs.found

theorem idle_of_unread {error : FileError} (found : task.subject.files? space = some files)
    (filled : files ≠ []) (unread : readAll space files = .error error) :
    (task.run scene space manner).Idle space 1 := by
  obtain ⟨α, check, runs⟩ := exists_runsAs found
  exact runs.run manner ▸ Check.idle_of_unread runs.found filled unread

theorem idle_of_unreported {error : ArithmeticError}
    (found : task.subject.files? space = some files) (filled : files ≠ [])
    (read : readAll space files = .ok sources)
    (unreported : task.report scene sources = .error error) :
    (task.run scene space manner).Idle space 1 := by
  obtain ⟨α, check, runs⟩ := exists_runsAs found
  exact runs.run manner ▸ Check.idle_of_unreported runs.found filled read
    ((runs.report sources).trans unreported)

/-- **A task with a report delivers it with the verdict on its subject.** -/
theorem agrees_deliver {report : Text} (found : task.subject.files? space = some files)
    (filled : files ≠ []) (read : readAll space files = .ok sources)
    (reported : task.report scene sources = .ok report) :
    (task.run scene space manner).Agrees
      (deliver scene space manner.quiet task.output report (task.subject.fails sources)) := by
  obtain ⟨α, check, runs⟩ := exists_runsAs found
  obtain ⟨results, examined, made⟩ :=
    exists_of_bind_eq_ok ((runs.report sources).trans reported)
  have agrees : (check.run scene space manner).Agrees _ :=
    Check.agrees_deliver runs.found filled read examined made
  rwa [runs.output, runs.fails sources results examined, ← runs.run manner] at agrees

end Task

end ReviewGate.CommandLine
