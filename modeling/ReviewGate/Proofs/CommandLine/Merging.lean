import ReviewGate.Proofs.CommandLine.Loading
import ReviewGate.Proofs.CommandLine.Options
import ReviewGate.Proofs.CommandLine.Verdict

/-!
# Settings as flags

What a configuration sets can as well be given as flags. A format and a limit that are given
prevail over configured ones, and strictness and recursion are asked for by either
(`RecordMerge`, `BudgetMerge`). Flags for all that is configured can be put in front of those that
are given, since the last one counts (`merges_settingFlags`). A run with merged flags and without
settings is the same as one under the configuration (`configuration_as_flags`).

The two ways of setting a limit differ in one point: a configuration may hold a number that has too
many digits for a numeral. So the limit of the task has to be one that can be shown.
-/

set_option autoImplicit false

namespace ReviewGate.CommandLine

open Config (BudgetFormat BudgetSettings RecordFormat RecordSettings Settings)
open Files (Path Workspace)

/-! ## Merged flags -/

/-- Arguments of the check of decision records are others merged with settings. -/
structure RecordMerge (settings : RecordSettings) (given merged : Arguments RecordOption) :
    Prop where
  strict : merged.has .strict = (given.has .strict || settings.strict)
  format : merged.value? .format =
    (given.value? .format <|> settings.format.map RecordFormat.name)
  output : merged.value? .output = given.value? .output
  help : merged.has .help = given.has .help
  operands : merged.operands = given.operands

/-- Arguments of the check of line budgets are others merged with settings. A limit that is the
standard one need not be given. -/
structure BudgetMerge (settings : BudgetSettings) (given merged : Arguments BudgetOption) :
    Prop where
  task : merged.value? .task = given.value? .task
  directory : merged.value? .directory = given.value? .directory
  maxLines : merged.value? .maxLines =
      (given.value? .maxLines <|> some (Text.ofInt settings.maxLines)) ∨
    settings.maxLines = Budget.defaultLimit ∧ merged.value? .maxLines = given.value? .maxLines
  recursive : merged.has .recursive = (given.has .recursive || settings.recursive)
  format : merged.value? .format =
    (given.value? .format <|> settings.format.map BudgetFormat.name)
  output : merged.value? .output = given.value? .output
  help : merged.has .help = given.has .help
  operands : merged.operands = given.operands

/-- What stands behind the name of a command is merged with settings. -/
inductive Merges (settings : Settings) : Topic → List Text → List Text → Prop
  | record {rest rest' : List Text} {given merged : Arguments RecordOption}
      (written : readArguments recordForms true rest = .ok given)
      (written' : readArguments recordForms true rest' = .ok merged)
      (merge : RecordMerge settings.record given merged) : Merges settings .record rest rest'
  | budget {rest rest' : List Text} {given merged : Arguments BudgetOption}
      (written : readArguments budgetForms true rest = .ok given)
      (written' : readArguments budgetForms true rest' = .ok merged)
      (merge : BudgetMerge settings.budget given merged) : Merges settings .budget rest rest'

/-! ## Values of merged flags -/

section Values

variable {β : Type} {read : Text → Except Refusal β} {value? configured? : Option Text}
  {result other : Option β}

/-- What is given is read, and else what is configured. -/
theorem readGiven_orElse (given : readGiven read value? = .ok result)
    (configured : value? = none → readGiven read configured? = .ok other) :
    readGiven read (value? <|> configured?) = .ok (result <|> other) := by
  cases value? with
  | none =>
      cases given
      exact configured rfl
  | some value =>
      cases made : read value with
      | error refusal => rw [readGiven, made] at given; cases given
      | ok found =>
          rw [readGiven, made] at given
          cases given
          exact (congrArg (some <$> ·) made)

theorem readGiven_recordFormat (option : Text) (format : Option RecordFormat) :
    readGiven (readChoice RecordFormat.all RecordFormat.name option)
      (format.map RecordFormat.name) = .ok format := by
  rcases format with _ | _ | _ | _ <;> rfl

theorem readGiven_budgetFormat (option : Text) (format : Option BudgetFormat) :
    readGiven (readChoice BudgetFormat.all BudgetFormat.name option)
      (format.map BudgetFormat.name) = .ok format := by
  rcases format with _ | _ | _ <;> rfl

/-- A positive limit that can be shown can be given as a flag. -/
theorem readPositive_ofInt {limit : Int} (positive : 1 ≤ limit)
    (shown : (Text.numeral? limit).isSome = true) (option : Text) :
    readPositive option (Text.ofInt limit) = .ok limit := by
  rw [readPositive, Text.toInt?_ofInt (by omega) shown]
  exact if_neg (by omega)

end Values

/-! ## Tasks of merged flags -/

section Tasks

variable {space : Workspace} {settings : Settings} {topic : Topic} {rest rest' : List Text}
  {task : Task}

/-- The options that merged arguments stand for. -/
theorem RecordMerge.exists_says {given merged : Arguments RecordOption} {options : RecordOptions}
    {settings : RecordSettings} (merge : RecordMerge settings given merged)
    (said : options.Says space given) : ∃ options' : RecordOptions,
      options'.Says space merged ∧ options'.toTask {} = options.toTask settings := by
  refine ⟨{ options with
    strict := options.strict || settings.strict
    format := options.format <|> settings.format }, ⟨?_, ?_, ?_, ?_, ?_⟩, ?_⟩
  · rw [merge.strict, ← said.strict]
  · rw [merge.format]
    exact readGiven_orElse said.format fun _ => readGiven_recordFormat _ _
  · rw [merge.output]
    exact said.output
  · rw [merge.operands]
    exact said.target
  · rw [merge.operands]
    exact said.single
  · simp [RecordOptions.toTask]

theorem BudgetMerge.exists_limit {given merged : Arguments BudgetOption} {limit? : Option Int}
    {settings : BudgetSettings} (merge : BudgetMerge settings given merged)
    (positive : 1 ≤ settings.maxLines)
    (shown : (Text.numeral? (limit?.getD settings.maxLines)).isSome = true)
    (said : readGiven (readPositive "--max-lines".toList) (given.value? .maxLines) = .ok limit?) :
    ∃ limit?', readGiven (readPositive "--max-lines".toList) (merged.value? .maxLines) =
        .ok limit?' ∧ limit?'.getD Budget.defaultLimit = limit?.getD settings.maxLines := by
  rcases merge.maxLines with added | ⟨standard, same⟩
  · refine ⟨limit? <|> some settings.maxLines, ?_, by cases limit? <;> rfl⟩
    rw [added]
    refine readGiven_orElse said fun absent => ?_
    rw [absent] at said
    cases said
    rw [readGiven, readPositive_ofInt positive shown]
    rfl
  · exact ⟨limit?, same ▸ said, by rw [standard]⟩

/-- The options that merged arguments stand for. -/
theorem BudgetMerge.exists_says {given merged : Arguments BudgetOption} {options : BudgetOptions}
    {settings : BudgetSettings} (merge : BudgetMerge settings given merged)
    (positive : 1 ≤ settings.maxLines)
    (shown : (Text.numeral? (options.maxLines.getD settings.maxLines)).isSome = true)
    (said : options.Says space given) : ∃ options' : BudgetOptions,
      options'.Says space merged ∧ options'.toTask {} = options.toTask settings := by
  obtain ⟨limit?, limited, limit⟩ := merge.exists_limit positive shown said.maxLines
  refine ⟨{ options with
    maxLines := limit?
    recursive := options.recursive || settings.recursive
    format := options.format <|> settings.format }, ⟨?_, ?_, limited, ?_, ?_, ?_, ?_⟩, ?_⟩
  · rw [merge.task]
    exact said.task
  · rw [merge.directory]
    exact said.directory
  · rw [merge.recursive, ← said.recursive]
  · rw [merge.format]
    exact readGiven_orElse said.format fun _ => readGiven_budgetFormat _ _
  · rw [merge.output]
    exact said.output
  · rw [merge.operands]
    exact said.single
  · simp [BudgetOptions.toTask, limit]

/-- **Merged flags ask for the same task without settings.** -/
theorem Merges.asks (merges : Merges settings topic rest rest')
    (positive : 1 ≤ settings.budget.maxLines) (showable : task.subject.isShowable = true)
    (asks : Asks space settings topic rest task) : Asks space {} topic rest' task := by
  cases merges with
  | record written written' merge =>
      cases asks with
      | record own noHelp meant =>
          cases written.symm.trans own
          obtain ⟨options', said, same⟩ := merge.exists_says (readRecordOptions_iff.mp meant)
          rw [← same]
          exact .record written' (merge.help.trans noHelp) (readRecordOptions_iff.mpr said)
  | budget written written' merge =>
      cases asks with
      | budget own noHelp meant =>
          cases written.symm.trans own
          obtain ⟨options', said, same⟩ :=
            merge.exists_says positive showable (readBudgetOptions_iff.mp meant)
          rw [← same]
          exact .budget written' (merge.help.trans noHelp) (readBudgetOptions_iff.mpr said)

end Tasks

/-! ## Flags for settings -/

section Options

variable {α : Type} {forms : List (OptionForm α)} {flags flags' : List Text}
  {options options' : List (α × Text)}

/-- Flags stand for options, whatever is given behind them. -/
def StandFor (forms : List (OptionForm α)) (flags : List Text) (options : List (α × Text)) : Prop :=
  ∀ rest, readArguments forms true (flags ++ rest) =
    (·.withOptions options) <$> readArguments forms true rest

theorem standFor_nil : StandFor forms [] [] := by
  intro rest
  rw [List.nil_append]
  cases readArguments forms true rest <;> rfl

theorem StandFor.append (first : StandFor forms flags options)
    (second : StandFor forms flags' options') :
    StandFor forms (flags ++ flags') (options ++ options') := by
  intro rest
  rw [List.append_assoc, first, second]
  cases readArguments forms true rest with
  | error cause => rfl
  | ok arguments => simp [Arguments.withOptions]

variable [DecidableEq α]

theorem has_withOptions (arguments : Arguments α) (options : List (α × Text)) (option : α) :
    (arguments.withOptions options).has option =
      (arguments.has option || (Arguments.mk options []).has option) := by
  rw [Arguments.has, Arguments.withOptions, List.any_append, Bool.or_comm]
  rfl

/-- What is given behind other options prevails over them. -/
theorem value?_withOptions (arguments : Arguments α) (options : List (α × Text)) (option : α) :
    (arguments.withOptions options).value? option =
      (arguments.value? option <|> (Arguments.mk options []).value? option) := by
  simp only [Arguments.value?, Arguments.withOptions, List.reverse_append, List.find?_append]
  cases arguments.options.reverse.find? (·.1 = option) <;> rfl

end Options

section Record

variable (settings : RecordSettings)

/-- The flags for what is set about decision records. -/
def recordSettingFlags : List Text :=
  (if settings.strict then ["--strict".toList] else []) ++
    match settings.format with
    | some format => ["--format".toList, format.name]
    | none => []

/-- The options that these flags stand for. -/
def recordSettingOptions : List (RecordOption × Text) :=
  (if settings.strict then [(.strict, [])] else []) ++
    match settings.format with
    | some format => [(.format, format.name)]
    | none => []

theorem standFor_recordSettingFlags :
    StandFor recordForms (recordSettingFlags settings) (recordSettingOptions settings) := by
  obtain ⟨strict, format⟩ := settings
  refine StandFor.append ?_ ?_
  · cases strict with
    | false => exact standFor_nil
    | true => exact fun _ => rfl
  · cases format with
    | none => exact standFor_nil
    | some format => exact fun _ => rfl

theorem recordMerge_withOptions (given : Arguments RecordOption) :
    RecordMerge settings given (given.withOptions (recordSettingOptions settings)) := by
  refine ⟨?_, ?_, ?_, ?_, rfl⟩
  all_goals
    simp only [has_withOptions, value?_withOptions]
    obtain ⟨_ | _, _ | format⟩ := settings <;>
      simp [recordSettingOptions, Arguments.has, Arguments.value?]

end Record

section Budget

variable (settings : BudgetSettings)

/-- The flags for what is set about line budgets. -/
def budgetSettingFlags : List Text :=
  (if settings.recursive then ["--recursive".toList] else []) ++
    ["--max-lines".toList, Text.ofInt settings.maxLines] ++
    match settings.format with
    | some format => ["--format".toList, format.name]
    | none => []

/-- The options that these flags stand for. -/
def budgetSettingOptions : List (BudgetOption × Text) :=
  (if settings.recursive then [(.recursive, [])] else []) ++
    [(.maxLines, Text.ofInt settings.maxLines)] ++
    match settings.format with
    | some format => [(.format, format.name)]
    | none => []

theorem standFor_budgetSettingFlags :
    StandFor budgetForms (budgetSettingFlags settings) (budgetSettingOptions settings) := by
  obtain ⟨limit, recursive, format⟩ := settings
  refine StandFor.append (StandFor.append ?_ fun _ => rfl) ?_
  · cases recursive with
    | false => exact standFor_nil
    | true => exact fun _ => rfl
  · cases format with
    | none => exact standFor_nil
    | some format => exact fun _ => rfl

theorem budgetMerge_withOptions (given : Arguments BudgetOption) :
    BudgetMerge settings given (given.withOptions (budgetSettingOptions settings)) := by
  refine ⟨?_, ?_, .inl ?_, ?_, ?_, ?_, ?_, rfl⟩
  all_goals
    simp only [has_withOptions, value?_withOptions]
    obtain ⟨limit, _ | _, _ | format⟩ := settings <;>
      simp [budgetSettingOptions, Arguments.has, Arguments.value?]

end Budget

/-- The flags for what is set about a topic. -/
def settingFlags (settings : Settings) : Topic → List Text
  | .record => recordSettingFlags settings.record
  | .budget => budgetSettingFlags settings.budget
  | .program => []

/-- **Flags for all settings can be put in front of those that are given.** -/
theorem merges_settingFlags {space : Workspace} {settings : Settings} {topic : Topic}
    {rest : List Text} {task : Task} (asks : Asks space settings topic rest task) :
    Merges settings topic rest (settingFlags settings topic ++ rest) := by
  cases asks with
  | record written _ _ =>
      refine .record written ?_ (recordMerge_withOptions settings.record _)
      rw [settingFlags, standFor_recordSettingFlags, written]
      rfl
  | budget written _ _ =>
      refine .budget written ?_ (budgetMerge_withOptions settings.budget _)
      rw [settingFlags, standFor_budgetSettingFlags, written]
      rfl

/-! ## Runs under a configuration -/

/-- A log in which there are no warnings. -/
def Silent (log : List LogRecord) : Prop :=
  ∀ record ∈ log, record.isShown false = false

theorem Silent.behind {log : List LogRecord} (silent : Silent log) (outcome : Outcome) :
    outcome.behind false log = outcome := by
  have none : log.filter (LogRecord.isShown false) = [] :=
    List.filter_eq_nil_iff.mpr fun record member => by simp [silent record member]
  rw [Outcome.behind, none]
  rfl

/-- **A configuration is as good as flags.** For arguments that ask for a task under a
configuration without ignored sections, flags for all settings can be put in front of those that
are given, and every run with merged flags and an empty configuration is the same. -/
theorem configuration_as_flags {scene : Scene} {space : Workspace} {arguments : List Text}
    {options : ProgramOptions} {name : Text} {rest : List Text} {topic : Topic}
    {settings : Settings} {log : List LogRecord} {task : Task}
    (program : readProgram space arguments = .ok (options, name :: rest))
    (told : options.verbose = false) (known : Topic.commands.lookup name = some topic)
    (loaded : Config.load space (options.configPath space) = ⟨.ok settings, log⟩)
    (silent : Silent log) (asks : Asks space settings topic rest task)
    (showable : task.subject.isShowable = true) :
    Merges settings topic rest (settingFlags settings topic ++ rest) ∧
    ∀ arguments' options' rest' log',
      readProgram space arguments' = .ok (options', name :: rest') →
      options'.verbose = false → options'.quiet = options.quiet →
      Config.load space (options'.configPath space) = ⟨.ok {}, log'⟩ → Silent log' →
      Merges settings topic rest rest' →
      run scene space arguments' = run scene space arguments := by
  refine ⟨merges_settingFlags asks, ?_⟩
  intro arguments' options' rest' log' program' told' quiet loaded' silent' merges
  have positive : 1 ≤ settings.budget.maxLines :=
    Config.positive_of_load (congrArg Config.Loading.result loaded)
  have invokes : Invokes space arguments ⟨options.verbose, options.quiet⟩ log task :=
    .intro program known loaded asks
  have invokes' : Invokes space arguments' ⟨options'.verbose, options'.quiet⟩ log' task :=
    .intro program' known loaded' (merges.asks positive showable asks)
  rw [invokes.run_eq, invokes'.run_eq, told, told', quiet, silent.behind, silent'.behind]

/-- A working directory with a short source file and a configuration with a limit. -/
def spaceOfLimit : Workspace where
  tree := ⟨[([configName], .file (Text.encode "microtask: {max_lines: 7}".toList)),
    (["a.py".toList], .file (Text.encode "x = 1\n".toList))], by decide⟩
  here := []

/-- The settings of that configuration. -/
def limitSettings : Settings where
  budget := { maxLines := 7 }

theorem load_spaceOfLimit :
    Config.load spaceOfLimit ⟨['/'], [configName]⟩ = ⟨.ok limitSettings, []⟩ := by
  have direct : spaceOfLimit.IsDirect ⟨['/'], [configName]⟩ configName :=
    ⟨rfl, by decide, by decide, by decide, rfl⟩
  have there : spaceOfLimit.probe ⟨['/'], [configName]⟩ =
    .ok (some (.file (Text.encode "microtask: {max_lines: 7}".toList))) := direct.probe_file rfl
  have checked : (Yaml.load (Text.encode "microtask: {max_lines: 7}".toList)).toOption.map
      Config.check = some (.ok limitSettings, []) := by
    decide +kernel
  obtain ⟨data, read, checked⟩ := Option.map_eq_some_iff.mp checked
  have opened : spaceOfLimit.readBytes ⟨['/'], [configName]⟩ =
    .ok (Text.encode "microtask: {max_lines: 7}".toList) := direct.readBytes_file rfl rfl
  rw [Config.load_of_read there opened, toOption_eq_some_iff.mp read]
  change Config.loadSettings _ data = _
  unfold Config.loadSettings
  rw [checked]
  rfl

theorem configuration_as_flags_limit :
    run plainScene spaceOfLimit (["--config", "none.yml", "microtask", "--max-lines", "7",
        "--task", "a.py"].map String.toList) =
      run plainScene spaceOfLimit (["microtask", "--task", "a.py"].map String.toList) := by
  have program : readProgram spaceOfLimit (["microtask", "--task", "a.py"].map String.toList) =
    .ok (⟨false, false, none⟩, ["microtask", "--task", "a.py"].map String.toList) := rfl
  have program' : readProgram spaceOfLimit (["--config", "none.yml", "microtask",
      "--max-lines", "7", "--task", "a.py"].map String.toList) =
    .ok (⟨false, false, some (Path.read "none.yml".toList)⟩,
      ["microtask", "--max-lines", "7", "--task", "a.py"].map String.toList) := by cbv
  have loaded' : Config.load spaceOfLimit (Path.read "none.yml".toList) =
    ⟨.ok {}, [Config.missingNote (Path.read "none.yml".toList)]⟩ := by cbv
  have written : readArguments budgetForms true (["--task", "a.py"].map String.toList) =
    .ok ⟨[(.task, "a.py".toList)], []⟩ := rfl
  have led : readPath spaceOfLimit false "--task".toList "a.py".toList =
    .ok (Path.read "a.py".toList) := by cbv
  have asks : Asks spaceOfLimit limitSettings .budget (["--task", "a.py"].map String.toList)
      (.budget ⟨some (Path.read "a.py".toList), 7, false, .rich, none⟩) :=
    .budget written rfl (readBudgetOptions_target led)
  have silent : Silent [Config.missingNote (Path.read "none.yml".toList)] :=
    List.forall_mem_singleton.mpr rfl
  obtain ⟨merges, same⟩ := configuration_as_flags program rfl rfl load_spaceOfLimit
    (List.forall_mem_nil _) asks rfl
  exact same _ _ _ _ program' rfl rfl loaded' silent merges

/-! ## A limit without a flag -/

/-- An empty directory. -/
def spaceOfEmptyDirectory : Workspace where
  tree := ⟨[(["d".toList], .directory)], by decide⟩
  here := []

/-- Data with a limit. -/
def limitData (limit : Int) : Data.Graph where
  containers := #[.mapping [(.text (Points.ofText "microtask".toList), .container 1)],
    .mapping [(.text (Points.ofText "max_lines".toList), .int limit)]]
  root := .container 0

/-- The settings with a limit. -/
def settingsOfLimit (limit : Int) : Settings where
  budget := { maxLines := limit }

theorem check_limitData {limit : Int} (positive : 1 ≤ limit) :
    (Config.check (limitData limit)).1 = .ok (settingsOfLimit limit) := by
  have limited : Config.readLimit (limitData limit)
      [(.text (Points.ofText "max_lines".toList), .int limit)] = .ok limit :=
    if_neg (show ¬ limit < 1 by omega)
  change (Config.readLimit (limitData limit) [(.text (Points.ofText "max_lines".toList),
    .int limit)] >>= fun maxLines => .ok (settingsOfLimit maxLines)) = _
  rw [limited]
  rfl

/-- What is no numeral is refused as a limit. -/
theorem status_of_bad_limit {scene : Scene} {space : Workspace} {manner : Manner}
    {settings : Settings} {numeral target : Text} (bad : Text.toInt? numeral = none) :
    (runTopic scene space manner settings ["--max-lines".toList, numeral, "--task".toList, target]
      .budget).ending.status = 2 := by
  let given : Arguments BudgetOption := ⟨[(.maxLines, numeral), (.task, target)], []⟩
  have written : readArguments budgetForms true
    ["--max-lines".toList, numeral, "--task".toList, target] = .ok given := rfl
  have noHelp : given.has .help = false := rfl
  have limit : readPositive "--max-lines".toList numeral =
      .error (.usage (.invalidValue "--max-lines".toList (.notInteger numeral))) := by
    rw [readPositive, bad]
  have first : BudgetOptions.add space given ⟨none, none, none, false, none, none⟩ .maxLines =
      .error (.usage (.invalidValue "--max-lines".toList (.notInteger numeral))) := by
    rw [BudgetOptions.add, show given.value? .maxLines = some numeral from rfl, readGiven, limit]
    rfl
  have meant : readBudgetOptions space given =
      .error (.usage (.invalidValue "--max-lines".toList (.notInteger numeral))) := by
    rw [readBudgetOptions, show given.order = [.maxLines, .task] from rfl, List.foldlM_cons, first]
    rfl
  rw [runTopic, runBudgetCommand, runCommand, written]
  simp only [noHelp, meant]
  rfl

theorem toInt?_hiddenLimit : Text.toInt? (Text.ofInt hiddenLimit) = none := by
  have long := isSome_numeral?_hiddenLimit
  rw [Bool.eq_false_iff, ne_eq, Text.isSome_numeral?_iff] at long
  exact (Text.toInt?_ofNat hiddenLimit).trans (if_pos (Nat.not_le.mp long))

/-- A limit that cannot be shown is accepted in a configuration, under which an empty directory
passes, but it is refused as a flag. -/
theorem hidden_limit_without_flag :
    (Config.check (limitData hiddenLimit)).1 = .ok (settingsOfLimit hiddenLimit) ∧
    Merges (settingsOfLimit hiddenLimit) .budget (["--task", "d"].map String.toList)
      (settingFlags (settingsOfLimit hiddenLimit) .budget ++ ["--task", "d"].map String.toList) ∧
    (runTopic plainScene spaceOfEmptyDirectory ⟨false, false⟩ (settingsOfLimit hiddenLimit)
      (["--task", "d"].map String.toList) .budget).ending.status = 0 ∧
    (runTopic plainScene spaceOfEmptyDirectory ⟨false, false⟩ {}
      (settingFlags (settingsOfLimit hiddenLimit) .budget ++ ["--task", "d"].map String.toList)
      .budget).ending.status = 2 := by
  have written : readArguments budgetForms true (["--task", "d"].map String.toList) =
    .ok ⟨[(.task, "d".toList)], []⟩ := rfl
  have led : readPath spaceOfEmptyDirectory false "--task".toList "d".toList =
    .ok (Path.read "d".toList) := by cbv
  have asks : Asks spaceOfEmptyDirectory (settingsOfLimit hiddenLimit) .budget
      (["--task", "d"].map String.toList)
      (.budget ⟨some (Path.read "d".toList), hiddenLimit, false, .rich, none⟩) :=
    .budget written rfl (readBudgetOptions_target led)
  have none : (Subject.budget (some (Path.read "d".toList)) hiddenLimit false).files?
      spaceOfEmptyDirectory = some [] := by
    change (spaceOfEmptyDirectory.sourceFiles (Path.read "d".toList) false).files.toOption = _
    cbv
  refine ⟨check_limitData one_le_hiddenLimit, merges_settingFlags asks, ?_, ?_⟩
  · rw [runTopic_of_asks asks]
    exact (Task.idle_of_nil none).status
  · exact status_of_bad_limit toInt?_hiddenLimit

end ReviewGate.CommandLine
