import ReviewGate.CommandLine.Options
import ReviewGate.Proofs.Steps

/-!
# What options say

The options of a command are read one after the other, in the order in which they are given first,
and each of them fills one field. What is read is therefore the same in any order: every field
holds what its own option says (`readRecordOptions_iff`, `readBudgetOptions_iff`). So options that
are put in front of others fill the fields which those leave open and change nothing else.
-/

set_option autoImplicit false

namespace ReviewGate.CommandLine

open Config (BudgetFormat RecordFormat)
open Files (Path Workspace)

/-! ## Options that are given -/

namespace Arguments

variable {α σ β : Type} [DecidableEq α] {arguments : Arguments α} {option : α}
  {add : σ → α → Except Refusal σ} {start last : σ}

theorem mem_order_iff : option ∈ arguments.order ↔ arguments.has option = true := by
  simp [order, has]

/-- An option that is not given has no value. -/
theorem value?_eq_none (absent : option ∉ arguments.order) : arguments.value? option = none := by
  have unmet : ∀ given ∈ arguments.options, given.1 ≠ option := by
    intro given member own
    exact absent (by simpa [order] using ⟨given.2, own ▸ member⟩)
  rw [value?, List.find?_eq_none.mpr fun given member => by
    simpa using unmet given (List.mem_reverse.mp member), Option.map_none]

/-- An option fills a field with what is read of its value, and the others leave it alone. -/
structure Fills (arguments : Arguments α) (add : σ → α → Except Refusal σ) (option : α)
    (read : Text → Except Refusal β) (field : σ → Option β) : Prop where
  fills : ∀ before after, add before option = .ok after →
    readGiven read (arguments.value? option) = .ok (field after)
  leaves : ∀ before item after, item ≠ option → add before item = .ok after →
    field after = field before

/-- An option fills a field when that is where its step puts what it reads. -/
theorem Fills.of_put {read : Text → Except Refusal β} {field : σ → Option β}
    (put : σ → Option β → σ)
    (own : ∀ before, add before option =
      do return put before (← readGiven read (arguments.value? option)))
    (holds : ∀ before value?, field (put before value?) = value?)
    (leaves : ∀ before item after, item ≠ option → add before item = .ok after →
      field after = field before) : arguments.Fills add option read field where
  fills before after added := by
    obtain ⟨value?, reads, done⟩ := exists_of_bind_eq_ok (own before ▸ added)
    cases done
    rw [reads, holds]
  leaves := leaves

/-- When all options are added, a field holds what is read of its own option. -/
theorem Fills.read_eq {read : Text → Except Refusal β} {field : σ → Option β}
    (filling : arguments.Fills add option read field) (empty : field start = none)
    (added : arguments.order.foldlM add start = .ok last) :
    readGiven read (arguments.value? option) = .ok (field last) := by
  obtain ⟨comes, absent⟩ := established_foldlM field
    (fun value? => readGiven read (arguments.value? option) = .ok value?)
    filling.fills filling.leaves added
  by_cases given : option ∈ arguments.order
  · exact comes given
  · rw [value?_eq_none given, absent given, empty]
    rfl

/-- A flag is set when it is given. -/
theorem flag_eq {field : σ → Bool}
    (sets : ∀ before after, add before option = .ok after → field after = true)
    (leaves : ∀ before item after, item ≠ option → add before item = .ok after →
      field after = field before)
    (unset : field start = false) (added : arguments.order.foldlM add start = .ok last) :
    field last = arguments.has option := by
  obtain ⟨comes, absent⟩ := established_foldlM field (· = true) sets leaves added
  by_cases given : option ∈ arguments.order
  · rw [comes given, mem_order_iff.mp given]
  · rw [absent given, unset, eq_comm, Bool.eq_false_iff]
    exact fun has => given (mem_order_iff.mpr has)

end Arguments

theorem refuseOperands_iff {operands : List Text} :
    refuseOperands operands = .ok () ↔ operands = [] := by
  cases operands <;> simp [refuseOperands]

/-! ## The check of decision records -/

/-- What the arguments of the check of decision records say, field by field. -/
structure RecordOptions.Says (space : Workspace) (arguments : Arguments RecordOption)
    (options : RecordOptions) : Prop where
  strict : options.strict = arguments.has .strict
  format : readGiven (readChoice RecordFormat.all RecordFormat.name "--format".toList)
    (arguments.value? .format) = .ok options.format
  output : readGiven (readPath space true "--output".toList) (arguments.value? .output) =
    .ok options.output
  target : readPath space false "[TARGET]".toList (arguments.operands.headD ['.']) =
    .ok options.target
  single : arguments.operands.drop 1 = []

/-- Options that differ at most in the field of one option. -/
structure RecordOptions.AgreeBut (option : RecordOption) (before after : RecordOptions) :
    Prop where
  strict : option ≠ .strict → after.strict = before.strict
  format : option ≠ .format → after.format = before.format
  output : option ≠ .output → after.output = before.output

section Record

variable {space : Workspace} {arguments : Arguments RecordOption} {options : RecordOptions}

theorem RecordOptions.agreeBut_of_add {option : RecordOption} {before after : RecordOptions}
    (added : before.add space arguments option = .ok after) : before.AgreeBut option after := by
  cases option with
  | strict =>
      cases added
      exact ⟨fun other => absurd rfl other, fun _ => rfl, fun _ => rfl⟩
  | format =>
      obtain ⟨_, _, done⟩ := exists_of_bind_eq_ok added
      cases done
      exact ⟨fun _ => rfl, fun other => absurd rfl other, fun _ => rfl⟩
  | output =>
      obtain ⟨_, _, done⟩ := exists_of_bind_eq_ok added
      cases done
      exact ⟨fun _ => rfl, fun _ => rfl, fun other => absurd rfl other⟩
  | help =>
      cases added
      exact ⟨fun _ => rfl, fun _ => rfl, fun _ => rfl⟩

theorem fills_recordFormat : arguments.Fills (RecordOptions.add space arguments) .format
    (readChoice RecordFormat.all RecordFormat.name "--format".toList) RecordOptions.format :=
  .of_put (fun options format => { options with format := format }) (fun _ => rfl)
    (fun _ _ => rfl) fun _ _ _ other added => (RecordOptions.agreeBut_of_add added).format other

theorem fills_recordOutput : arguments.Fills (RecordOptions.add space arguments) .output
    (readPath space true "--output".toList) RecordOptions.output :=
  .of_put (fun options output => { options with output := output }) (fun _ => rfl)
    (fun _ _ => rfl) fun _ _ _ other added => (RecordOptions.agreeBut_of_add added).output other

/-- When all options are added, the fields hold what the options say. -/
theorem recordOptions_of_added {filled : RecordOptions} {target : Path}
    (added : arguments.order.foldlM (RecordOptions.add space arguments)
      ⟨Path.read ['.'], false, none, none⟩ = .ok filled)
    (led : readPath space false "[TARGET]".toList (arguments.operands.headD ['.']) = .ok target)
    (single : arguments.operands.drop 1 = []) :
    RecordOptions.Says space arguments { filled with target := target } := by
  have sets : ∀ before after : RecordOptions, before.add space arguments .strict = .ok after →
      after.strict = true := fun _ _ own => by cases own; rfl
  have strict : filled.strict = arguments.has .strict := Arguments.flag_eq sets
    (fun _ _ _ other own => (RecordOptions.agreeBut_of_add own).strict other) rfl added
  have format := fills_recordFormat.read_eq rfl added
  have output := fills_recordOutput.read_eq rfl added
  exact ⟨strict, format, output, led, single⟩

/-- Arguments say one thing only. -/
theorem RecordOptions.Says.unique {other : RecordOptions} (first : options.Says space arguments)
    (second : other.Says space arguments) : options = other := by
  have strict := first.strict.trans second.strict.symm
  have format := Except.ok.inj (first.format.symm.trans second.format)
  have output := Except.ok.inj (first.output.symm.trans second.output)
  have target := Except.ok.inj (first.target.symm.trans second.target)
  cases options
  cases other
  simp_all

/-- **The check of decision records does what its options say**, in whatever order they are
given. -/
theorem readRecordOptions_iff :
    readRecordOptions space arguments = .ok options ↔ options.Says space arguments := by
  constructor
  · intro read
    obtain ⟨filled, added, read⟩ := exists_of_bind_eq_ok read
    obtain ⟨target, led, read⟩ := exists_of_bind_eq_ok read
    obtain ⟨_, single, read⟩ := exists_of_bind_eq_ok read
    cases read
    exact recordOptions_of_added added led (refuseOperands_iff.mp single)
  · intro said
    have proceeds : ∀ before item, ∃ after,
        RecordOptions.add space arguments before item = .ok after := by
      intro before item
      cases item with
      | strict => exact ⟨_, rfl⟩
      | format => exact ⟨_, by rw [RecordOptions.add, said.format]; rfl⟩
      | output => exact ⟨_, by rw [RecordOptions.add, said.output]; rfl⟩
      | help => exact ⟨_, rfl⟩
    obtain ⟨filled, added⟩ :=
      exists_foldlM proceeds arguments.order ⟨Path.read ['.'], false, none, none⟩
    have same : { filled with target := options.target } = options :=
      (recordOptions_of_added added said.target said.single).unique said
    rw [readRecordOptions, added, ← same]
    simp only [said.target, said.single]
    rfl

end Record

/-! ## The check of line budgets -/

/-- What the arguments of the check of line budgets say, field by field. -/
structure BudgetOptions.Says (space : Workspace) (arguments : Arguments BudgetOption)
    (options : BudgetOptions) : Prop where
  task : readGiven (readPath space false "--task".toList) (arguments.value? .task) =
    .ok options.task
  directory : readGiven (readPath space false "--dir".toList) (arguments.value? .directory) =
    .ok options.directory
  maxLines : readGiven (readPositive "--max-lines".toList) (arguments.value? .maxLines) =
    .ok options.maxLines
  recursive : options.recursive = arguments.has .recursive
  format : readGiven (readChoice BudgetFormat.all BudgetFormat.name "--format".toList)
    (arguments.value? .format) = .ok options.format
  output : readGiven (readPath space true "--output".toList) (arguments.value? .output) =
    .ok options.output
  single : arguments.operands = []

/-- Options that differ at most in the field of one option. -/
structure BudgetOptions.AgreeBut (option : BudgetOption) (before after : BudgetOptions) :
    Prop where
  task : option ≠ .task → after.task = before.task
  directory : option ≠ .directory → after.directory = before.directory
  maxLines : option ≠ .maxLines → after.maxLines = before.maxLines
  recursive : option ≠ .recursive → after.recursive = before.recursive
  format : option ≠ .format → after.format = before.format
  output : option ≠ .output → after.output = before.output

section Budget

variable {space : Workspace} {arguments : Arguments BudgetOption} {options : BudgetOptions}

theorem BudgetOptions.agreeBut_of_add {option : BudgetOption} {before after : BudgetOptions}
    (added : before.add space arguments option = .ok after) : before.AgreeBut option after := by
  cases option with
  | recursive | help => cases added; constructor <;> simp
  | task | directory | maxLines | format | output =>
      obtain ⟨_, _, done⟩ := exists_of_bind_eq_ok added
      cases done
      constructor <;> simp

theorem fills_budgetTask : arguments.Fills (BudgetOptions.add space arguments) .task
    (readPath space false "--task".toList) BudgetOptions.task :=
  .of_put (fun options task => { options with task := task }) (fun _ => rfl)
    (fun _ _ => rfl) fun _ _ _ other added => (BudgetOptions.agreeBut_of_add added).task other

theorem fills_budgetDirectory : arguments.Fills (BudgetOptions.add space arguments) .directory
    (readPath space false "--dir".toList) BudgetOptions.directory :=
  .of_put (fun options directory => { options with directory := directory }) (fun _ => rfl)
    (fun _ _ => rfl) fun _ _ _ other added => (BudgetOptions.agreeBut_of_add added).directory other

theorem fills_budgetMaxLines : arguments.Fills (BudgetOptions.add space arguments) .maxLines
    (readPositive "--max-lines".toList) BudgetOptions.maxLines :=
  .of_put (fun options limit => { options with maxLines := limit }) (fun _ => rfl)
    (fun _ _ => rfl) fun _ _ _ other added => (BudgetOptions.agreeBut_of_add added).maxLines other

theorem fills_budgetFormat : arguments.Fills (BudgetOptions.add space arguments) .format
    (readChoice BudgetFormat.all BudgetFormat.name "--format".toList) BudgetOptions.format :=
  .of_put (fun options format => { options with format := format }) (fun _ => rfl)
    (fun _ _ => rfl) fun _ _ _ other added => (BudgetOptions.agreeBut_of_add added).format other

theorem fills_budgetOutput : arguments.Fills (BudgetOptions.add space arguments) .output
    (readPath space true "--output".toList) BudgetOptions.output :=
  .of_put (fun options output => { options with output := output }) (fun _ => rfl)
    (fun _ _ => rfl) fun _ _ _ other added => (BudgetOptions.agreeBut_of_add added).output other

/-- When all options are added, the fields hold what the options say. -/
theorem budgetOptions_of_added {filled : BudgetOptions}
    (added : arguments.order.foldlM (BudgetOptions.add space arguments)
      ⟨none, none, none, false, none, none⟩ = .ok filled)
    (single : arguments.operands = []) : filled.Says space arguments where
  task := fills_budgetTask.read_eq rfl added
  directory := fills_budgetDirectory.read_eq rfl added
  maxLines := fills_budgetMaxLines.read_eq rfl added
  recursive := by
    have sets : ∀ before after : BudgetOptions,
        before.add space arguments .recursive = .ok after → after.recursive = true :=
      fun _ _ own => by cases own; rfl
    exact Arguments.flag_eq sets
      (fun _ _ _ other own => (BudgetOptions.agreeBut_of_add own).recursive other) rfl added
  format := fills_budgetFormat.read_eq rfl added
  output := fills_budgetOutput.read_eq rfl added
  single := single

/-- Arguments say one thing only. -/
theorem BudgetOptions.Says.unique {other : BudgetOptions} (first : options.Says space arguments)
    (second : other.Says space arguments) : options = other := by
  have task := Except.ok.inj (first.task.symm.trans second.task)
  have directory := Except.ok.inj (first.directory.symm.trans second.directory)
  have maxLines := Except.ok.inj (first.maxLines.symm.trans second.maxLines)
  have recursive := first.recursive.trans second.recursive.symm
  have format := Except.ok.inj (first.format.symm.trans second.format)
  have output := Except.ok.inj (first.output.symm.trans second.output)
  cases options
  cases other
  simp_all

/-- **The check of line budgets does what its options say**, in whatever order they are given. -/
theorem readBudgetOptions_iff :
    readBudgetOptions space arguments = .ok options ↔ options.Says space arguments := by
  constructor
  · intro read
    obtain ⟨filled, added, read⟩ := exists_of_bind_eq_ok read
    obtain ⟨_, single, read⟩ := exists_of_bind_eq_ok read
    cases read
    exact budgetOptions_of_added added (refuseOperands_iff.mp single)
  · intro said
    have proceeds : ∀ before item, ∃ after,
        BudgetOptions.add space arguments before item = .ok after := by
      intro before item
      cases item with
      | task => exact ⟨_, by rw [BudgetOptions.add, said.task]; rfl⟩
      | directory => exact ⟨_, by rw [BudgetOptions.add, said.directory]; rfl⟩
      | maxLines => exact ⟨_, by rw [BudgetOptions.add, said.maxLines]; rfl⟩
      | recursive => exact ⟨_, rfl⟩
      | format => exact ⟨_, by rw [BudgetOptions.add, said.format]; rfl⟩
      | output => exact ⟨_, by rw [BudgetOptions.add, said.output]; rfl⟩
      | help => exact ⟨_, rfl⟩
    obtain ⟨filled, added⟩ :=
      exists_foldlM proceeds arguments.order ⟨none, none, none, false, none, none⟩
    have same : filled = options := (budgetOptions_of_added added said.single).unique said
    rw [readBudgetOptions, added, same]
    simp only [said.single]
    rfl

end Budget

end ReviewGate.CommandLine
