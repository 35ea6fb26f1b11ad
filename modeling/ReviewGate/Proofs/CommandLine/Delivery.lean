import ReviewGate.Proofs.CommandLine.Verdict
import ReviewGate.Proofs.Text.Lines

/-!
# What a run writes

A run that delivers no report leaves all files as they are. Whatever it ends with, be it a mistake
in the configuration or a file that cannot be read, the destination is not even looked at. A report
that is delivered is the only file that is written, also when the verdict is that sources fail. It
is the report that the same task prints when it has no destination
(`report_is_all_that_is_written`). A channel that is no terminal does not show the escape sequences
in it, and a terminal shows it in colour (`Prints`).

There is a report when the limit can be shown and no file has 2^1023 code lines or more
(`exists_report`).
-/

set_option autoImplicit false

namespace ReviewGate.CommandLine

open Files (Path Workspace Written)

/-! ## Reports -/

/-- Where code lines are counted, no source has so many that a quotient of them is no double. -/
def Subject.Computable (sources : List (Path × Text)) : Subject → Prop
  | record .. => True
  | budget .. =>
    ∀ source ∈ sources, Budget.effectiveLines source.1.text source.2 < Double.safeBound

theorem writeObject_ne_nil (charset : Json.Charset) (member : Text × Json)
    (more : List (Text × Json)) : Json.write charset (.object (member :: more)) ≠ [] :=
  List.cons_ne_nil _ _

theorem recordReport_ne_nil (scene : Scene) (colour : Bool) (format : Config.RecordFormat)
    (results : List Record.Assessment) : recordReport scene colour format results ≠ [] := by
  cases format with
  | json => exact writeObject_ne_nil _ _ _
  | junit =>
      have filled : (Record.testSuites results).lines 0 ≠ [] := List.cons_ne_nil _ _
      change Text.unlines (Xml.declaration :: (Record.testSuites results).lines 0) ≠ []
      simp [Text.unlines_cons _ filled]
  | rich => exact Console.render_ne_nil (by simp [Record.reportLines, Record.summaryLines])

variable {task : Task} {scene : Scene} {space : Workspace} {manner : Manner} {files : List Path}
  {sources : List (Path × Text)}

/-- **The report is there when its numbers can be computed and shown.** -/
theorem exists_report (scene : Scene) (showable : task.subject.isShowable = true)
    (computable : task.subject.Computable sources) :
    ∃ report, task.report scene sources = .ok report ∧ report ≠ [] := by
  cases task with
  | record task => exact ⟨_, rfl, recordReport_ne_nil _ _ _ _⟩
  | budget task =>
      have countable : ∃ counts, countSources task.limit sources = .ok counts :=
        exists_mapM fun source member => Budget.exists_countSource (computable source member)
      obtain ⟨counts, counted⟩ := countable
      have few : ∀ count ∈ counts, count.breakdown.effective.natAbs < Double.safeBound := by
        intro count member
        obtain ⟨source, listed, own⟩ := exists_of_mem_mapM counted member
        rw [(Budget.counts_of_countSource own).effective]
        exact computable source listed
      have reported : ∃ report, budgetReport scene (inColour scene task.output) task.limit
          task.format counts = .ok report ∧ report ≠ [] := by
        rw [Task.budgetReport_of_shown showable]
        cases task.format with
        | json => exact ⟨_, rfl, writeObject_ne_nil _ _ _⟩
        | rich => exact Budget.exists_consoleReport few
      obtain ⟨report, made, filled⟩ := reported
      exact ⟨report, by rw [Task.report, counted]; exact made, filled⟩

/-! ## Delivering a report -/

theorem plain_of_readPath {onlyFile : Bool} {option : Text} {value? : Option Text} {path : Path}
    (read : readGiven (readPath space onlyFile option) value? = .ok (some path)) : path.Plain := by
  cases value? with
  | none => cases read
  | some value =>
      have plain : ∀ found, readPath space onlyFile option value = .ok found → found.Plain := by
        intro found read
        rw [readPath] at read
        split at read
        · cases read
        · split at read <;> cases read
          exact Path.plain_read value
      cases found : readPath space onlyFile option value with
      | error refusal => rw [readGiven, found] at read; cases read
      | ok path' =>
          rw [readGiven, found] at read
          cases read
          exact plain path found

/-- The destination of a report is a path that has been read. -/
theorem plain_of_asks {settings : Config.Settings} {topic : Topic} {arguments : List Text}
    {path : Path} (asks : Asks space settings topic arguments task)
    (output : task.output = some path) : path.Plain := by
  cases asks with
  | record _ _ meant =>
      have said := (readRecordOptions_iff.mp meant).output
      exact plain_of_readPath (said.trans (congrArg _ output))
  | budget _ _ meant =>
      have said := (readBudgetOptions_iff.mp meant).output
      exact plain_of_readPath (said.trans (congrArg _ output))

/-- A task with sources to be checked: files are found, and all of them can be read. -/
def Subject.Sources (space : Workspace) (subject : Subject) (sources : List (Path × Text)) : Prop :=
  ∃ files, subject.files? space = some files ∧ files ≠ [] ∧ readAll space files = .ok sources

/-- A task without sources leaves all files as they are. -/
theorem space_of_no_sources (none : ∀ sources, ¬ task.subject.Sources space sources) :
    (task.run scene space manner).space = space := by
  cases found : task.subject.files? space with
  | none => exact (Task.idle_of_unfound found).space
  | some files =>
      by_cases empty : files = []
      · exact (Task.idle_of_nil (empty ▸ found)).space
      · cases read : readAll space files with
        | error error => exact (Task.idle_of_unread found empty read).space
        | ok sources => exact absurd ⟨files, found, empty, read⟩ (none sources)

/-- A task whose limit cannot be shown leaves all files as they are. -/
theorem space_of_hidden (hidden : task.subject.isShowable = false) :
    (task.run scene space manner).space = space := by
  by_cases sourced : ∃ sources, task.subject.Sources space sources
  · obtain ⟨sources, files, found, filled, read⟩ := sourced
    obtain ⟨error, unreported⟩ : ∃ error, task.report scene sources = .error error :=
      Task.exists_unreported hidden
    exact (Task.idle_of_unreported found filled read unreported).space
  · exact space_of_no_sources (not_exists.mp sourced)

/-- The same task without a destination. -/
def Task.printed : Task → Task
  | record task => .record { task with output := none }
  | budget task => .budget { task with output := none }

@[simp] theorem subject_printed (task : Task) : task.printed.subject = task.subject := by
  cases task <;> rfl

@[simp] theorem output_printed (task : Task) : task.printed.output = none := by
  cases task <;> rfl

/-- Only on a terminal does the printed report differ from one with a destination. -/
theorem report_printed {scene' : Scene} (time : scene'.time = scene.time)
    (widths : scene'.widths = scene.widths) (piped : scene'.stdoutTerminal = false) {path : Path}
    (output : task.output = some path) :
    task.printed.report scene' sources = task.report scene sources := by
  have plain : inColour scene' none = inColour scene (some path) := piped
  cases task with
  | record task =>
      have output : task.output = some path := output
      rw [Task.printed, Task.report, Task.report, output, plain]
      cases task.format <;> simp [recordReport, time, widths]
  | budget task =>
      have output : task.output = some path := output
      rw [Task.printed, Task.report, Task.report, output, plain]
      refine congrArg (countSources task.limit sources >>= ·) (funext fun counts => ?_)
      simp only [budgetReport, time, widths]

/-- A report that has no destination is printed. On a channel that is no terminal it loses its
escape sequences. -/
structure Prints (outcome : Outcome) (scene : Scene) (space : Workspace) (report : Text)
    (fails : Bool) : Prop where
  ending : outcome.ending = .exit (verdictStatus fails)
  stdout : outcome.stdout =
    Console.shown scene.stdoutTerminal (Text.trimRightBy (· == '\n') report ++ ['\n'])
  unaltered : scene.stdoutTerminal = true ∨ Console.escape ∉ report →
    outcome.stdout = Text.trimRightBy (· == '\n') report ++ ['\n']
  space : outcome.space = space

theorem Prints.behind {outcome : Outcome} {report : Text} {fails : Bool}
    (prints : Prints outcome scene space report fails) (verbose : Bool) (log : List LogRecord) :
    Prints (outcome.behind verbose log) scene space report fails :=
  ⟨prints.ending, prints.stdout, prints.unaltered, prints.space⟩

/-- A report without escape characters is printed as it is. -/
theorem shown_report {report : Text} (plain : scene.stdoutTerminal = true ∨
    Console.escape ∉ report) :
    Console.shown scene.stdoutTerminal (Text.trimRightBy (· == '\n') report ++ ['\n']) =
      Text.trimRightBy (· == '\n') report ++ ['\n'] := by
  rcases plain with terminal | free
  · rw [terminal]
    rfl
  · refine Console.shown_of_not_mem _ (List.not_mem_append (fun member => free ?_) (by decide))
    have kept := (List.dropWhile_suffix _).subset (List.mem_reverse.mp member)
    exact List.mem_reverse.mp kept

theorem prints_of_report {report : Text} (sourced : task.subject.Sources space sources)
    (reported : task.report scene sources = .ok report) (filled : report ≠ [])
    (output : task.output = none) :
    Prints (task.run scene space manner) scene space report (task.subject.fails sources) := by
  obtain ⟨files, found, some, read⟩ := sourced
  have agrees : (task.run scene space manner).Agrees _ :=
    Task.agrees_deliver found some read reported
  rw [output] at agrees
  have printed : (task.run scene space manner).stdout =
      Console.shown scene.stdoutTerminal (Text.trimRightBy (· == '\n') report ++ ['\n']) :=
    agrees.stdout.trans (if_neg filled)
  exact ⟨agrees.ending, printed, fun plain => printed.trans (shown_report plain), agrees.space⟩

/-- A report that has a destination is written there. -/
theorem written_of_report {report : Text} {path : Path}
    (sourced : task.subject.Sources space sources)
    (reported : task.report scene sources = .ok report)
    (output : task.output = some path) (plain : path.Plain) (writable : space.Writable path) :
    (task.run scene space manner).ending = .exit (verdictStatus (task.subject.fails sources)) ∧
      Written space (task.run scene space manner).space path (Text.encode report) := by
  obtain ⟨files, found, filled, read⟩ := sourced
  have agrees : (task.run scene space manner).Agrees _ :=
    Task.agrees_deliver found filled read reported
  rw [output] at agrees
  obtain ⟨yields, ending⟩ :=
    deliver_of_writable writable scene manner.quiet report (task.subject.fails sources)
  exact ⟨agrees.ending.trans ending, agrees.space ▸ Files.written_of_yields plain yields⟩

/-- **The report is all that is written.** A run without a task, without sources or with a limit
that cannot be shown leaves all files as they are. Any other run prints its report, or writes it to
its destination. What it writes is what the same task prints without one where there is no terminal;
on a terminal that is the same report in colour. -/
theorem report_is_all_that_is_written (scene : Scene) (space : Workspace)
    (arguments : List Text) :
    ((∀ manner log task, ¬ Invokes space arguments manner log task) →
      (run scene space arguments).space = space) ∧
    ∀ manner log task, Invokes space arguments manner log task →
      ((∀ sources, ¬ task.subject.Sources space sources) →
        (run scene space arguments).space = space) ∧
      (task.subject.isShowable = false → (run scene space arguments).space = space) ∧
      ∀ sources, task.subject.Sources space sources → task.subject.isShowable = true →
        task.subject.Computable sources → ∃ report, task.report scene sources = .ok report ∧
          (task.output = none → Prints (run scene space arguments) scene space report
            (task.subject.fails sources)) ∧
          ∀ path, task.output = some path → space.Writable path →
            (run scene space arguments).ending =
              .exit (verdictStatus (task.subject.fails sources)) ∧
            Written space (run scene space arguments).space path (Text.encode report) ∧
            ∀ scene' arguments' manner' log', scene'.time = scene.time →
              scene'.widths = scene.widths → Invokes space arguments' manner' log' task.printed →
              ∃ printed, task.printed.report scene' sources = .ok printed ∧
                (scene'.stdoutTerminal = false → printed = report) ∧
                Prints (run scene' space arguments') scene' space printed
                  (task.subject.fails sources) := by
  refine ⟨space_run_of_not_invokes, fun manner log task invokes => ?_⟩
  rw [invokes.run_eq]
  refine ⟨space_of_no_sources, space_of_hidden, fun sources sourced showable computable => ?_⟩
  obtain ⟨report, reported, filled⟩ : ∃ report, task.report scene sources = .ok report ∧
    report ≠ [] := exists_report scene showable computable
  refine ⟨report, reported, fun output => ?_, fun path output writable => ?_⟩
  · exact (prints_of_report sourced reported filled output).behind _ _
  · obtain ⟨program, known, config, asks⟩ := invokes
    obtain ⟨ending, written⟩ :=
      written_of_report sourced reported output (plain_of_asks asks output) writable
    refine ⟨ending, written, fun scene' arguments' manner' log' time widths invokes' => ?_⟩
    obtain ⟨printed, made, shown⟩ : ∃ printed, task.printed.report scene' sources = .ok printed ∧
      printed ≠ [] := exists_report scene' (by simpa using showable) (by simpa using computable)
    have prints : Prints (task.printed.run scene' space manner') scene' space printed
        (task.printed.subject.fails sources) :=
      prints_of_report (by simpa using sourced) made shown (output_printed task)
    rw [subject_printed] at prints
    refine ⟨printed, made, fun piped => ?_, by rw [invokes'.run_eq]; exact prints.behind _ _⟩
    have same := (report_printed time widths piped output).symm.trans made
    exact (Except.ok.inj (reported.symm.trans same)).symm

theorem invokes_printed : Invokes spaceOfSource
    (["microtask", "--task", "a.py", "--format", "json"].map String.toList)
    ⟨false, false⟩ [Config.missingNote ⟨['/'], [configName]⟩] (sourceTask .json none) := by
  have program : readProgram spaceOfSource
      (["microtask", "--task", "a.py", "--format", "json"].map String.toList) =
    .ok (⟨false, false, none⟩,
      ["microtask", "--task", "a.py", "--format", "json"].map String.toList) := rfl
  have written : readArguments budgetForms true
      (["--task", "a.py", "--format", "json"].map String.toList) =
    .ok ⟨[(.task, "a.py".toList), (.format, "json".toList)], []⟩ := rfl
  have meant : readBudgetOptions spaceOfSource
      ⟨[(.task, "a.py".toList), (.format, "json".toList)], []⟩ =
    .ok ⟨some (Path.read "a.py".toList), none, none, false, some .json, none⟩ :=
    readBudgetOptions_iff.mpr ⟨congrArg (some <$> ·) readPath_shortSource, rfl, rfl, rfl, rfl, rfl,
      rfl⟩
  exact .intro program rfl (load_spaceOfSource false false) (.budget written rfl meant)

theorem report_is_all_that_is_written_quiet : ∃ report,
    Written spaceOfSource
      (run plainScene spaceOfSource (["-q", "microtask", "--task", "a.py", "--format", "json",
        "--output", "o.json"].map String.toList)).space
      (Path.read "o.json".toList) (Text.encode report) ∧
    Prints (run plainScene spaceOfSource (["microtask", "--task", "a.py", "--format", "json"].map
      String.toList)) plainScene spaceOfSource report false := by
  have sourced : Subject.Sources spaceOfSource (.budget (some (Path.read "a.py".toList)) 50 false)
      [(Path.read "a.py".toList, "x = 1\n".toList)] :=
    ⟨_, files?_shortSource 50, List.cons_ne_nil _ _, readAll_shortSource⟩
  have computable : Subject.Computable [(Path.read "a.py".toList, "x = 1\n".toList)]
      (.budget (some (Path.read "a.py".toList)) 50 false) := by
    intro source member
    rw [List.mem_singleton.mp member, lines_shortSource]
    exact Double.one_lt_safeBound
  obtain ⟨report, -, -, writes⟩ := ((report_is_all_that_is_written plainScene spaceOfSource _).2
    _ _ _ invokes_quiet).2.2 _ sourced rfl computable
  obtain ⟨-, written, printed⟩ := writes _ rfl writable_spaceOfSource
  obtain ⟨_, -, same, prints⟩ := printed plainScene _ _ _ rfl rfl invokes_printed
  cases same rfl
  have passes : (Subject.budget (some (Path.read "a.py".toList)) 50 false).fails
      [(Path.read "a.py".toList, "x = 1\n".toList)] = false := fails_shortSource (by decide)
  exact ⟨report, written, passes ▸ prints⟩

/-! ## Reports that are altered or lost -/

/-- A path with an escape sequence. -/
def styledPath : Path := Path.read "\x1b[31ma.py".toList

/-- A working directory with a short source file at that path. -/
def spaceOfStyledName : Workspace where
  tree := Files.Tree.empty.put styledPath.parts (.file (Text.encode "x = 1\n".toList))
  here := []

/-- The check of that file, to be reported on a channel or in a file. -/
def styledTask (output : Option Path) : Task :=
  .budget ⟨some styledPath, 50, false, .rich, output⟩

theorem sources_styledTask (output : Option Path) :
    (styledTask output).subject.Sources spaceOfStyledName [(styledPath, "x = 1\n".toList)] := by
  have direct : spaceOfStyledName.IsDirect styledPath styledPath.name :=
    ⟨rfl, by decide, by decide, by decide, rfl⟩
  exact ⟨[styledPath], files?_file direct rfl (by decide) 50 false, List.cons_ne_nil _ _,
    readAll_file direct rfl rfl⟩

/-- The report on that file is not printed as it is. -/
theorem exists_altered_report : ∃ report,
    (∀ output, (styledTask output).report plainScene [(styledPath, "x = 1\n".toList)] =
      .ok report) ∧
    Console.shown false (Text.trimRightBy (· == '\n') report ++ ['\n']) ≠
      Text.trimRightBy (· == '\n') report ++ ['\n'] := by
  have altered : ((Task.report plainScene [(styledPath, "x = 1\n".toList)]
      (styledTask none)).toOption.any fun report =>
        Console.shown false (Text.trimRightBy (· == '\n') report ++ ['\n']) !=
          Text.trimRightBy (· == '\n') report ++ ['\n']) = true := by
    decide +kernel
  cases reported : Task.report plainScene [(styledPath, "x = 1\n".toList)] (styledTask none) with
  | error cause =>
      rw [reported] at altered
      cases altered
  | ok report =>
      rw [reported] at altered
      refine ⟨report, fun output => ?_, bne_iff_ne.mp altered⟩
      have uncoloured : inColour plainScene output = false := Bool.and_false _
      rw [← reported, styledTask, styledTask, Task.report, Task.report, uncoloured]
      rfl

/-- A directory with a short source file and an entry behind a name that is too long. -/
def spaceOfLongSibling : Workspace where
  tree := ⟨[(["d".toList], .directory),
    (["d".toList, "a.py".toList], .file (Text.encode "x = 1\n".toList)),
    (["d".toList, "l.txt".toList], .link (List.replicate 256 'a'))], by decide⟩
  here := []

set_option maxRecDepth 4000 in
/-- A report with an escape sequence is written as it is and printed without it. No report is
written, although a file matches and can be read, when another entry cannot be looked up; nor is
one, although there are sources, when the limit cannot be shown. -/
theorem altered_and_lost_reports :
    (∃ report,
      Written spaceOfStyledName ((styledTask (some (Path.read "o.txt".toList))).run plainScene
        spaceOfStyledName ⟨false, false⟩).space (Path.read "o.txt".toList) (Text.encode report) ∧
      ((styledTask none).run plainScene spaceOfStyledName ⟨false, false⟩).stdout ≠
        Text.trimRightBy (· == '\n') report ++ ['\n']) ∧
    (spaceOfLongSibling.tree.sortedNames ["d".toList] = ["a.py".toList, "l.txt".toList] ∧
      spaceOfLongSibling.readBytes (Path.read "d/a.py".toList) =
        .ok (Text.encode "x = 1\n".toList) ∧
      (run plainScene spaceOfLongSibling (["microtask", "--task", "d", "--output", "o.txt"].map
        String.toList)).space.reached? (Path.read "o.txt".toList) = none) ∧
    ((Task.budget hiddenTask).subject.Sources spaceOfSource
        [(Path.read "a.py".toList, "x = 1\n".toList)] ∧
      ((Task.budget { hiddenTask with output := some (Path.read "o.txt".toList) }).run
        plainScene spaceOfSource ⟨false, false⟩).space = spaceOfSource) := by
  obtain ⟨report, reported, altered⟩ := exists_altered_report
  have filled : report ≠ [] := by
    rintro rfl
    exact altered rfl
  have wrote : ((Files.Change.writeText (Path.read "o.txt".toList) []).result
    spaceOfStyledName).1 = .ok () := by cbv
  have writable : spaceOfStyledName.Writable (Path.read "o.txt".toList) :=
    ⟨[], _, Prod.ext wrote rfl⟩
  have written : Written spaceOfStyledName ((styledTask (some (Path.read "o.txt".toList))).run
      plainScene spaceOfStyledName ⟨false, false⟩).space (Path.read "o.txt".toList)
      (Text.encode report) :=
    (written_of_report (sources_styledTask _) (reported _) rfl (Path.plain_read _) writable).2
  have prints : Prints ((styledTask none).run plainScene spaceOfStyledName ⟨false, false⟩)
      plainScene spaceOfStyledName report _ :=
    prints_of_report (sources_styledTask none) (reported none) filled rfl
  have sourced : (Task.budget hiddenTask).subject.Sources spaceOfSource
      [(Path.read "a.py".toList, "x = 1\n".toList)] :=
    ⟨_, files?_shortSource hiddenLimit, List.cons_ne_nil _ _, readAll_shortSource⟩
  refine ⟨⟨report, written, fun same => altered (prints.stdout.symm.trans same)⟩,
    ⟨by cbv, by cbv, by cbv⟩, sourced, ?_⟩
  exact space_of_hidden isSome_numeral?_hiddenLimit

end ReviewGate.CommandLine
