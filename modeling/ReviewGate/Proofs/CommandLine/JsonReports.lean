import ReviewGate.Proofs.CommandLine.Verdict
import ReviewGate.Proofs.Json.Characters
import ReviewGate.Proofs.Json.Values
import ReviewGate.Proofs.Record.Agreement
import ReviewGate.Proofs.Record.TestReport
import ReviewGate.Proofs.Steps

/-!
# The JSON reports are read as they were meant

A reader of the JSON grammar finds in a report the members that it documents and no others, with
every record, file, violation and unit in its place and every text as it was, whatever characters
are in the texts (`read?_reports`). A violation without a hint has no member for one. The report on
budgets is in ASCII; the one on records has the characters beyond ASCII as they are.

There has to be a report. An integer with too many digits cannot be written, and for a limit of
that kind there is none (`not_reads_hiddenLimit`).
-/

set_option autoImplicit false

namespace ReviewGate

/-! ## What the values say -/

namespace Json

/-- The names of the members of an object, in their order. -/
def memberNames : Json → List Text
  | .object members => members.map Prod.fst
  | _ => []

/-- A member that is an array and tells of a row, one by one. -/
def Lists {α : Type} (Tells : α → Json → Prop) (row : List α) (name : Text) (value : Json) : Prop :=
  ∃ items, value.member? name = some (.array items) ∧ List.Forall₂ Tells row items

end Json

namespace Record

/-- A value that tells of a violation. -/
structure Violation.ToldBy (found : Violation) (value : Json) : Prop where
  names : value.memberNames = ["ruleId".toList, "severity".toList, "message".toList] ++
    if found.hint = none then [] else ["hint".toList]
  rule : value.member? "ruleId".toList = some (.string found.rule)
  severity : value.member? "severity".toList = some (.string found.severity.name)
  message : value.member? "message".toList = some (.string found.message)
  hint : value.member? "hint".toList = found.hint.map .string

/-- A value that tells of a record. -/
structure Assessment.ToldBy (result : Assessment) (value : Json) : Prop where
  names : value.memberNames = ["filePath".toList, "adrTitle".toList, "violations".toList]
  path : value.member? "filePath".toList = some (.string result.path)
  title : value.member? "adrTitle".toList = some (.string result.title)
  violations : Json.Lists Violation.ToldBy result.violations "violations".toList value

/-- A value that tells of records at a time. -/
structure IsReport (time : Text) (results : List Assessment) (value : Json) : Prop where
  names : value.memberNames = ["timestamp".toList, "totalAdrs".toList, "passed".toList,
    "failed".toList, "warned".toList, "results".toList]
  timestamp : value.member? "timestamp".toList = some (.string time)
  total : value.member? "totalAdrs".toList = some (.int results.length)
  passed : value.member? "passed".toList = some (.int (results.countP (·.errors = [])))
  failed : value.member? "failed".toList = some (.int (results.countP (·.errors ≠ [])))
  warned : value.member? "warned".toList =
    some (.int (results.countP fun result => result.warnings ≠ [] ∧ result.errors = []))
  results : Json.Lists Assessment.ToldBy results "results".toList value

theorem toldBy_violation (found : Violation) : found.ToldBy found.toJson := by
  obtain ⟨rule, severity, message, _ | hint⟩ := found
  all_goals exact ⟨rfl, rfl, rfl, rfl, rfl⟩

theorem toldBy_assessment (result : Assessment) : result.ToldBy result.toJson :=
  ⟨rfl, rfl, rfl, _, rfl, forall₂_map toldBy_violation _⟩

theorem passedCount_eq (results : List Assessment) :
    passedCount results = results.countP (·.errors = []) :=
  List.countP_congr fun result _ => by simp [Assessment.passes]

theorem warnedCount_eq (results : List Assessment) :
    warnedCount results = results.countP fun result => result.warnings ≠ [] ∧ result.errors = [] :=
  List.countP_congr fun result _ => by simp [Assessment.warns]

theorem isReport_reportJson (time : Text) (results : List Assessment) :
    IsReport time results (reportJson time results) := by
  refine ⟨rfl, rfl, rfl, ?_, ?_, ?_, _, rfl, forall₂_map toldBy_assessment _⟩
  · rw [← passedCount_eq]
    rfl
  · rw [← failingCases_eq, ← failedCount_eq]
    rfl
  · rw [← warnedCount_eq]
    rfl

end Record

namespace Budget

/-- A value that tells of a suggested unit. -/
structure Suggestion.ToldBy (suggestion : Suggestion) (value : Json) : Prop where
  names : value.memberNames = ["name".toList, "lineRange".toList, "estimatedLines".toList]
  name : value.member? "name".toList = some (.string suggestion.name)
  range : value.member? "lineRange".toList =
    some (.array [.int suggestion.first, .int suggestion.last])
  estimate : value.member? "estimatedLines".toList = some (.int suggestion.estimate)

/-- A value that tells of a breakdown. -/
structure IsBreakdown (numbers : Source.Breakdown) (value : Json) : Prop where
  names : value.memberNames = ["total".toList, "effective".toList, "blank".toList,
    "comment".toList, "imports".toList]
  total : value.member? "total".toList = some (.int numbers.total)
  effective : value.member? "effective".toList = some (.int numbers.effective)
  blank : value.member? "blank".toList = some (.int numbers.blank)
  comment : value.member? "comment".toList = some (.int numbers.comment)
  imports : value.member? "imports".toList = some (.int numbers.imports)

/-- A value that tells of a file. -/
structure FileCount.ToldBy (count : FileCount) (value : Json) : Prop where
  names : value.memberNames = ["filePath".toList, "language".toList, "breakdown".toList,
    "exceedsLimit".toList, "splitSuggestions".toList]
  path : value.member? "filePath".toList = some (.string count.path)
  language : value.member? "language".toList = some (.string count.language)
  breakdown : ∃ numbers, value.member? "breakdown".toList = some numbers ∧
    IsBreakdown count.breakdown numbers
  exceeds : value.member? "exceedsLimit".toList = some (.bool count.exceeds)
  suggestions : Json.Lists Suggestion.ToldBy count.suggestions "splitSuggestions".toList value

/-- A value that tells of files at a time, with their limit. -/
structure IsReport (time : Text) (limit : Int) (counts : List FileCount) (value : Json) : Prop where
  names : value.memberNames = ["timestamp".toList, "maxLines".toList, "totalFiles".toList,
    "passed".toList, "failed".toList, "results".toList]
  timestamp : value.member? "timestamp".toList = some (.string time)
  limit : value.member? "maxLines".toList = some (.int limit)
  total : value.member? "totalFiles".toList = some (.int counts.length)
  passed : value.member? "passed".toList = some (.int (counts.countP (·.exceeds = false)))
  failed : value.member? "failed".toList = some (.int (counts.countP (·.exceeds = true)))
  results : Json.Lists FileCount.ToldBy counts "results".toList value

theorem toldBy_suggestion (suggestion : Suggestion) : suggestion.ToldBy suggestion.toJson :=
  ⟨rfl, rfl, rfl, rfl⟩

theorem toldBy_fileCount (count : FileCount) : count.ToldBy count.toJson :=
  ⟨rfl, rfl, rfl, ⟨_, rfl, rfl, rfl, rfl, rfl, rfl, rfl⟩, rfl, _, rfl,
    forall₂_map toldBy_suggestion _⟩

theorem withinCount_eq (counts : List FileCount) :
    withinCount counts = counts.countP (·.exceeds = false) :=
  List.countP_congr fun count _ => by simp

/-- The files that are not within their budget exceed it. -/
theorem length_sub_withinCount (counts : List FileCount) :
    counts.length - withinCount counts = counts.countP (·.exceeds = true) := by
  rw [withinCount_eq, List.length_eq_countP_add_countP (·.exceeds = false), Nat.add_sub_cancel_left]
  exact List.countP_congr fun count _ => by simp

theorem isReport_reportJson (time : Text) (limit : Int) (counts : List FileCount) :
    IsReport time limit counts (reportJson time limit counts) := by
  refine ⟨rfl, rfl, rfl, rfl, ?_, ?_, _, rfl, forall₂_map toldBy_fileCount _⟩
  · rw [← withinCount_eq]
    rfl
  · rw [← length_sub_withinCount]
    rfl

/-- The integers of a file. -/
def FileCount.integers (count : FileCount) : List Int :=
  [count.breakdown.total, count.breakdown.effective, count.breakdown.blank,
    count.breakdown.comment, count.breakdown.imports] ++
  count.suggestions.flatMap fun suggestion =>
    [suggestion.first, suggestion.last, suggestion.estimate]

end Budget

/-! ## The reports -/

namespace CommandLine

open Budget (FileCount)
open Record (Assessment)

/-- **Reports that can be written are read as they were meant**, and what is beyond ASCII is either
escaped or left alone. -/
theorem read?_reports (scene : Scene) (colour : Bool) (limit : Int) (counts : List FileCount)
    (results : List Assessment)
    (shown : ∀ n ∈ limit :: counts.flatMap FileCount.integers, (Text.numeral? n).isSome = true) :
    (∃ text report, budgetReport scene colour limit .json counts = .ok text ∧
      Json.read? text = some report ∧ Budget.IsReport scene.time limit counts report ∧
      ∀ c ∈ text, c.toNat < 128) ∧
    ∃ report, Json.read? (recordReport scene colour .json results) = some report ∧
      Record.IsReport scene.time results report ∧
      (recordReport scene colour .json results).filter Json.isWide =
        (Json.texts report).flatten.filter Json.isWide := by
  constructor
  · refine ⟨_, _, Task.budgetReport_of_shown (shown limit List.mem_cons_self),
      Json.read?_write .ascii _, Budget.isReport_reportJson scene.time limit counts,
      fun c member => ?_⟩
    exact Nat.not_le.mp (of_decide_eq_false (Json.isWide_of_mem_write_ascii member))
  · exact ⟨_, Json.read?_write .full _, Record.isReport_reportJson scene.time results,
      Json.filter_isWide_write_full _⟩

/-- Texts with quotes, backslashes, control characters and characters of several planes. -/
def unusualText : Text :=
  [Char.ofNat 0, '"', '\\', '\n', '\t', Char.ofNat 0x7F, 'é', '€', Char.ofNat 0x10000,
    Char.ofNat 0x1F600, Char.ofNat 0x10FFFF]

/-- A file with such a path and a suggested unit. -/
def unusualCount : FileCount where
  path := unusualText
  language := "unknown".toList
  breakdown := ⟨3, 3, 0, 0, 0⟩
  exceeds := true
  suggestions := [⟨unusualText, 1, 3, 3⟩]

/-- A record with such a path and violations with and without a hint. -/
def unusualResult : Assessment where
  path := unusualText
  title := unusualText
  violations := [⟨unusualText, .error, unusualText, none⟩, ⟨[], .warning, [], some unusualText⟩]

theorem read?_reports_unusual :
    (∀ n ∈ (-5 : Int) :: [unusualCount].flatMap FileCount.integers,
      (Text.numeral? n).isSome = true) ∧
    (∃ text report, budgetReport plainScene false (-5) .json [unusualCount] = .ok text ∧
      Json.read? text = some report ∧ Budget.IsReport [] (-5) [unusualCount] report ∧
      ∀ c ∈ text, c.toNat < 128) ∧
    ∃ report, Json.read? (recordReport plainScene false .json [unusualResult]) = some report ∧
      Record.IsReport [] [unusualResult] report ∧
      (recordReport plainScene false .json [unusualResult]).filter Json.isWide =
        (Json.texts report).flatten.filter Json.isWide := by
  have shown : ∀ n ∈ (-5 : Int) :: [unusualCount].flatMap FileCount.integers,
      (Text.numeral? n).isSome = true := by decide
  exact ⟨shown, read?_reports plainScene false (-5) [unusualCount] [unusualResult] shown⟩

/-- A limit with too many digits has no report that could be read. -/
theorem not_reads_hiddenLimit :
    ¬∃ text report, budgetReport plainScene false hiddenLimit .json [] = .ok text ∧
      Json.read? text = some report ∧ Budget.IsReport [] hiddenLimit [] report := by
  rintro ⟨text, report, written, -, -⟩
  have hidden : (Text.numeral? hiddenLimit).isNone = true :=
    Option.isNone_iff_eq_none.mpr (Option.not_isSome_iff_eq_none.mp
      (Bool.eq_false_iff.mp isSome_numeral?_hiddenLimit))
  rw [budgetReport, if_pos hidden] at written
  cases written

end CommandLine

end ReviewGate
