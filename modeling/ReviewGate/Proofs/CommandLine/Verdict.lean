import Mathlib
import ReviewGate.Proofs.CommandLine.Checking
import ReviewGate.Proofs.CommandLine.Options
import ReviewGate.Proofs.Files.Writing
import ReviewGate.Proofs.Text.Numeral

/-!
# The verdict does not depend on the report

The status with which a check ends is the verdict on its subject (`Subject.verdict`), whatever
format the report has, wherever it goes and however much is told. It is 1 when files cannot be
found or read, and 0 when there are none. Otherwise it says whether the sources fail, or whether
there is a limit that cannot be shown.

A report that cannot be computed ends a run with status 1, too. That agrees with the verdict, since
other limits have such a report for sources that fail only (`fails_of_unreported`).

Runs in given directories are computed with the equations of the functions that they call. That is
what the whole library is imported for.
-/

set_option autoImplicit false

namespace ReviewGate.CommandLine

open Files (Path Workspace)

/-- The verdict on a subject. -/
def Subject.verdict (space : Workspace) (subject : Subject) : Nat :=
  match subject.files? space with
  | none => 1
  | some [] => 0
  | some files =>
    match readAll space files with
    | .error _ => 1
    | .ok sources => verdictStatus (!subject.isShowable || subject.fails sources)

section Status

variable {scene : Scene} {space : Workspace} {manner : Manner} {task : Task}
  {sources : List (Path × Text)}

/-- A report is written to a destination that can be written. -/
theorem deliver_of_writable {path : Path} (writable : space.Writable path) (scene : Scene)
    (quiet : Bool) (report : Text) (fails : Bool) :
    (Files.Change.writeText path report).Yields space
        (deliver scene space quiet (some path) report fails).space ∧
      (deliver scene space quiet (some path) report fails).ending =
        .exit (verdictStatus fails) := by
  obtain ⟨after, yields⟩ := writable.yields report
  have wrote : (Files.Change.writeText path report).run.run space = (.ok (), after) := yields
  rw [deliver]
  simp only [wrote, and_true]
  exact yields

theorem status_deliver {quiet fails : Bool} {output : Option Path} {report : Text}
    (writable : ∀ path, output = some path → space.Writable path) :
    (deliver scene space quiet output report fails).ending.status = verdictStatus fails := by
  cases output with
  | none => rfl
  | some path => rw [(deliver_of_writable (writable path rfl) scene quiet report fails).2]; rfl

/-- Only sources that fail have a report that cannot be computed. -/
theorem fails_of_unreported {error : ArithmeticError} (showable : task.subject.isShowable = true)
    (unreported : task.report scene sources = .error error) :
    task.subject.fails sources = true := by
  cases task with
  | record task => cases unreported
  | budget task =>
      rw [Task.report] at unreported
      rw [Task.subject, Subject.fails]
      cases counted : countSources task.limit sources with
      | error cause => rfl
      | ok counts =>
          rw [counted] at unreported
          change budgetReport scene (inColour scene task.output) task.limit task.format counts = _
            at unreported
          rw [Task.budgetReport_of_shown showable] at unreported
          split at unreported
          · cases unreported
          · exact Budget.anyExceeds_of_failed unreported

/-- **A task ends with the verdict on its subject.** -/
theorem status_run (writable : ∀ path, task.output = some path → space.Writable path) :
    (task.run scene space manner).ending.status = task.subject.verdict space := by
  rw [Subject.verdict]
  cases found : task.subject.files? space with
  | none => exact (Task.idle_of_unfound found).status
  | some files =>
      match files with
      | [] => exact (Task.idle_of_nil found).status
      | path :: more =>
          dsimp only
          have filled : path :: more ≠ [] := List.cons_ne_nil path more
          cases read : readAll space (path :: more) with
          | error error => exact (Task.idle_of_unread found filled read).status
          | ok sources =>
              dsimp only
              cases reported : task.report scene sources with
              | error error =>
                  have fails : (!task.subject.isShowable || task.subject.fails sources) = true := by
                    cases showable : task.subject.isShowable with
                    | false => rfl
                    | true => exact fails_of_unreported showable reported
                  rw [(Task.idle_of_unreported found filled read reported).status, fails]
                  rfl
              | ok report =>
                  have showable : task.subject.isShowable = true :=
                    Task.isShowable_of_report reported
                  rw [(Task.agrees_deliver found filled read reported).ending, showable]
                  exact status_deliver writable

end Status

/-- **The verdict does not depend on how it is reported**: two command lines that ask for the same
subject end with its verdict, whatever else they ask for. -/
theorem status_eq_verdict {space : Workspace} {scene scene' : Scene}
    {arguments arguments' : List Text}
    {manner manner' : Manner} {log log' : List LogRecord} {task task' : Task}
    (invokes : Invokes space arguments manner log task)
    (invokes' : Invokes space arguments' manner' log' task')
    (same : task'.subject = task.subject)
    (writable : ∀ path, task.output = some path → space.Writable path)
    (writable' : ∀ path, task'.output = some path → space.Writable path) :
    (run scene space arguments).ending.status = task.subject.verdict space ∧
      (run scene' space arguments').ending.status = task.subject.verdict space := by
  rw [invokes.run_eq, invokes'.run_eq]
  exact ⟨status_run writable, same ▸ status_run writable'⟩

/-! ## A single source file -/

section Single

variable {space : Workspace} {path : Path} {name : Text} {bytes : List UInt8}
  (direct : space.IsDirect path name)
  (there : space.tree.entry? (space.start path ++ [name]) = some (.file bytes))

include direct there

theorem files?_file (source : path.isSource = true) (limit : Int) (recursive : Bool) :
    (Subject.budget (some path) limit recursive).files? space = some [path] := by
  change (space.sourceFiles path recursive).files.toOption = _
  rw [direct.sourceFiles_file there, if_pos source]
  rfl

theorem readAll_file (readable : space.rights.reads (space.start path ++ [name]) = true) :
    readAll space [path] = .ok [(path, Files.sourceText bytes)] := by
  rw [readAll_cons, Workspace.readSource, direct.readBytes_file there readable]
  rfl

end Single

/-- A working directory with a short source file. -/
def spaceOfSource : Workspace where
  tree := Files.Tree.empty.put ["a.py".toList] (.file (Text.encode "x = 1\n".toList))
  here := []

/-- The check of that file, to be reported in a format and perhaps to a file. -/
def sourceTask (format : Config.BudgetFormat) (output : Option Path) : Task :=
  .budget ⟨some (Path.read "a.py".toList), 50, false, format, output⟩

theorem load_spaceOfSource (verbose quiet : Bool) :
    Config.load spaceOfSource (ProgramOptions.configPath spaceOfSource ⟨verbose, quiet, none⟩) =
      ⟨.ok {}, [Config.missingNote ⟨['/'], [configName]⟩]⟩ := by
  cbv

/-- The options of a command line on which only a target is given. -/
theorem readBudgetOptions_target {space : Workspace} {written : Text} {target : Path}
    (led : readPath space false "--task".toList written = .ok target) :
    readBudgetOptions space ⟨[(.task, written)], []⟩ =
      .ok ⟨some target, none, none, false, none, none⟩ :=
  readBudgetOptions_iff.mpr ⟨congrArg (some <$> ·) led, rfl, rfl, rfl, rfl, rfl, rfl⟩

theorem readPath_shortSource : readPath spaceOfSource false "--task".toList "a.py".toList =
    .ok (Path.read "a.py".toList) := by
  cbv

theorem invokes_plain : Invokes spaceOfSource (["microtask", "--task", "a.py"].map String.toList)
    ⟨false, false⟩ [Config.missingNote ⟨['/'], [configName]⟩] (sourceTask .rich none) := by
  have program : readProgram spaceOfSource (["microtask", "--task", "a.py"].map String.toList) =
    .ok (⟨false, false, none⟩, ["microtask", "--task", "a.py"].map String.toList) := rfl
  have written : readArguments budgetForms true (["--task", "a.py"].map String.toList) =
    .ok ⟨[(.task, "a.py".toList)], []⟩ := rfl
  exact .intro program rfl (load_spaceOfSource false false)
    (.budget written rfl (readBudgetOptions_target readPath_shortSource))

theorem invokes_quiet : Invokes spaceOfSource
    (["-q", "microtask", "--task", "a.py", "--format", "json", "--output", "o.json"].map
      String.toList)
    ⟨false, true⟩ [Config.missingNote ⟨['/'], [configName]⟩]
    (sourceTask .json (some (Path.read "o.json".toList))) := by
  have program : readProgram spaceOfSource (["-q", "microtask", "--task", "a.py",
      "--format", "json", "--output", "o.json"].map String.toList) =
    .ok (⟨false, true, none⟩, ["microtask", "--task", "a.py",
      "--format", "json", "--output", "o.json"].map String.toList) := rfl
  have written : readArguments budgetForms true
      (["--task", "a.py", "--format", "json", "--output", "o.json"].map String.toList) =
    .ok ⟨[(.task, "a.py".toList), (.format, "json".toList), (.output, "o.json".toList)], []⟩ := rfl
  have output : readPath spaceOfSource true "--output".toList "o.json".toList =
    .ok (Path.read "o.json".toList) := by cbv
  have meant : readBudgetOptions spaceOfSource
      ⟨[(.task, "a.py".toList), (.format, "json".toList), (.output, "o.json".toList)], []⟩ =
    .ok ⟨some (Path.read "a.py".toList), none, none, false, some .json,
      some (Path.read "o.json".toList)⟩ :=
    readBudgetOptions_iff.mpr ⟨congrArg (some <$> ·) readPath_shortSource, rfl, rfl, rfl, rfl,
      congrArg (some <$> ·) output, rfl⟩
  exact .intro program rfl (load_spaceOfSource false true) (.budget written rfl meant)

theorem writable_spaceOfSource : spaceOfSource.Writable (Path.read "o.json".toList) := by
  have wrote : ((Files.Change.writeText (Path.read "o.json".toList) []).result spaceOfSource).1 =
    .ok () := by cbv
  exact ⟨[], _, Prod.ext wrote rfl⟩

theorem status_eq_verdict_quiet :
    (run plainScene spaceOfSource
        (["microtask", "--task", "a.py"].map String.toList)).ending.status =
      (run plainScene spaceOfSource (["-q", "microtask", "--task", "a.py", "--format", "json",
        "--output", "o.json"].map String.toList)).ending.status := by
  have verdict : (run plainScene spaceOfSource _).ending.status = _ ∧
      (run plainScene spaceOfSource _).ending.status = _ :=
    status_eq_verdict invokes_plain invokes_quiet rfl
      (fun _ => nofun) (fun path same => Option.some.inj same ▸ writable_spaceOfSource)
  exact verdict.1.trans verdict.2.symm

/-! ## What the verdict leaves out -/

/-- A directory with an entry behind a name that is too long. -/
def spaceOfLongLink : Workspace where
  tree := ⟨[(["d".toList], .directory),
    (["d".toList, "x.txt".toList], .link (List.replicate 256 'a'))], by decide⟩
  here := []

/-- A limit that has too many digits to be shown. -/
def hiddenLimit : Nat :=
  10 ^ Text.maxNumeralDigits

/-- A task with such a limit. -/
def hiddenTask : BudgetTask :=
  ⟨some (Path.read "a.py".toList), hiddenLimit, false, .rich, none⟩

theorem one_le_hiddenLimit : 1 ≤ (hiddenLimit : Int) := by
  have positive : 0 < hiddenLimit := Nat.pow_pos (by decide)
  omega

theorem isSome_numeral?_hiddenLimit : (Text.numeral? hiddenLimit).isSome = false := by
  rw [Bool.eq_false_iff, ne_eq, Text.isSome_numeral?_iff_natAbs_lt]
  exact Nat.lt_irrefl hiddenLimit

theorem isDirect_shortSource :
    spaceOfSource.IsDirect (Path.read "a.py".toList) "a.py".toList :=
  ⟨rfl, by decide, by decide, by decide, rfl⟩

theorem files?_shortSource (limit : Int) :
    (Subject.budget (some (Path.read "a.py".toList)) limit false).files? spaceOfSource =
      some [Path.read "a.py".toList] :=
  files?_file isDirect_shortSource rfl (by decide) limit false

theorem readAll_shortSource : readAll spaceOfSource [Path.read "a.py".toList] =
    .ok [(Path.read "a.py".toList, "x = 1\n".toList)] :=
  readAll_file isDirect_shortSource rfl rfl

theorem lines_shortSource :
    Budget.effectiveLines (Path.read "a.py".toList).text "x = 1\n".toList = 1 := by
  decide +kernel

/-- The short source file has one code line and so is within every limit. -/
theorem fails_shortSource {target : Option Path} {limit : Int} {recursive : Bool}
    (positive : 1 ≤ limit) : (Subject.budget target limit recursive).fails
      [(Path.read "a.py".toList, "x = 1\n".toList)] = false := by
  simp only [Subject.fails_budget, List.any_cons, List.any_nil, Bool.or_false, lines_shortSource]
  exact decide_eq_false (by omega)

set_option maxRecDepth 4000 in
/-- A run ends with status 1 although no file matches, when an entry cannot be looked up, and it
ends with status 1 although no source fails, when the limit cannot be shown. -/
theorem status_without_failure :
    (spaceOfLongLink.tree.sortedNames ["d".toList] = ["x.txt".toList] ∧
      (run plainScene spaceOfLongLink (["adr", "d"].map String.toList)).ending.status = 1) ∧
    (readAll spaceOfSource [Path.read "a.py".toList] =
        .ok [(Path.read "a.py".toList, "x = 1\n".toList)] ∧
      (Task.budget hiddenTask).subject.fails
        [(Path.read "a.py".toList, "x = 1\n".toList)] = false ∧
      (hiddenTask.run plainScene spaceOfSource ⟨false, false⟩).ending.status = 1) := by
  obtain ⟨error, unreported⟩ :
      ∃ error, (Task.budget hiddenTask).report plainScene _ = .error error :=
    Task.exists_unreported isSome_numeral?_hiddenLimit
  refine ⟨⟨by cbv, by cbv⟩, readAll_shortSource, fails_shortSource one_le_hiddenLimit, ?_⟩
  exact (Task.idle_of_unreported (files?_shortSource hiddenLimit) (List.cons_ne_nil _ _)
    readAll_shortSource unreported).status

end ReviewGate.CommandLine
