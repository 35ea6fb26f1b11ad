import ReviewGate.Budget.JsonReport
import ReviewGate.Proofs.Budget.Reporting
import ReviewGate.Proofs.Console.Printed
import ReviewGate.Proofs.Json.Values

/-!
# Reports on line budgets that agree

The JSON report counts the files within their budget, the console report counts those beyond it,
and the verdict only looks for one of them. Each file has its own lines on the console
(`TellsFile`): a headline, and for a file beyond its budget a breakdown and a line for each unit of
the suggested split, with the numbers that the JSON report has for it. The counts, the headlines and
the last line then agree by counting files (`counts_agree`).

The flag of a file, its numbers and its units need not fit together here. The console report is
not made when an average size is beyond all doubles, and only then: without units there is no
average, so nothing is divided by zero.
-/

set_option autoImplicit false

namespace ReviewGate.Budget

open Console Source

/-! ## Printed lines -/

/-- What tells the headline of a file that is beyond its budget, or within it. -/
def headlineMark : Bool → Mark
  | true => ⟨.boldRed, "✗ ".toList, " — FAIL (".toList⟩
  | false => ⟨.boldGreen, "✓ ".toList, " — PASS (".toList⟩

/-- The lines with a label in front. -/
inductive Labelled
  | breakdown
  | unit
  | totals
  deriving DecidableEq, Repr

/-- What stands in front of such lines. -/
def Labelled.label : Labelled → Text
  | breakdown => "  Breakdown: ".toList
  | unit => "    ├── extract: ".toList
  | totals => "Validated: ".toList

/-- The lines of a kind among some printed lines. -/
def Labelled.linesOf (kind : Labelled) (lines : List Text) : List Text :=
  lines.filter kind.label.isPrefixOf

namespace ReportLine

/-- A line as it is printed. -/
def printed (widths : Widths) (colour : Bool) (line : ReportLine) : Text :=
  Console.printed widths colour line.pieces

variable {widths : Widths}

/-- Whether a file is beyond its budget by its headline. -/
def exceeds? : ReportLine → Option Bool
  | passed _ _ => some false
  | failed _ _ _ => some true
  | _ => none

/-- The kind of label that a line has. -/
def labelled? : ReportLine → Option Labelled
  | breakdown _ => some .breakdown
  | unit _ => some .unit
  | totals _ _ _ => some .totals
  | _ => none

/-- A line with a label has it in front as it is printed. -/
theorem label_prefix_printed (colour : Bool) {kind : Labelled} {line : ReportLine}
    (own : line.labelled? = some kind) : kind.label <+: line.printed widths colour := by
  have plain : kind.label.all isPlain = true := by cases kind <;> decide +kernel
  obtain ⟨rest, shown⟩ : ∃ rest, line.pieces = [bare (kind.label ++ rest)] := by
    cases line <;> cases own <;> simp only [pieces, List.append_assoc] <;> exact ⟨_, rfl⟩
  rw [printed, shown]
  exact label_printed_bare plain colour rest

/-- **A label is printed in front of its own lines only.** -/
theorem isPrefixOf_label (colour : Bool) (kind : Labelled) (line : ReportLine) :
    kind.label.isPrefixOf (line.printed widths colour) = (line.labelled? = some kind : Bool) := by
  cases line with
  | breakdown numbers =>
      obtain ⟨rest, shown⟩ :
          Labelled.breakdown.label <+: (breakdown numbers).printed widths colour :=
        label_prefix_printed colour rfl
      rw [← shown]
      cases kind <;> rfl
  | unit suggestion =>
      obtain ⟨rest, shown⟩ : Labelled.unit.label <+: (unit suggestion).printed widths colour :=
        label_prefix_printed colour rfl
      rw [← shown]
      cases kind <;> rfl
  | totals files failed limit =>
      obtain ⟨rest, shown⟩ :
          Labelled.totals.label <+: (totals files failed limit).printed widths colour :=
        label_prefix_printed colour rfl
      rw [← shown]
      cases kind <;> rfl
  | outcome success => cases kind <;> cases success <;> cases colour <;> rfl
  | passed _ _ | failed _ _ _ | divider => cases kind <;> cases colour <;> rfl
  | _ => cases kind <;> rfl

/-- **The mark of a headline is printed in no other line.** -/
theorem heads_printed (colour exceeds : Bool) (line : ReportLine) :
    (headlineMark exceeds).heads colour (line.printed widths colour) =
      (line.exceeds? = some exceeds : Bool) := by
  cases line with
  | passed path effective =>
      cases exceeds with
      | false => exact (headlineMark false).heads_headline rfl rfl colour path _ .green
      | true => cases colour <;> rfl
  | failed path effective limit =>
      cases exceeds with
      | true => exact (headlineMark true).heads_headline rfl rfl colour path _ .red
      | false => cases colour <;> rfl
  | breakdown numbers =>
      obtain ⟨rest, shown⟩ :
          Labelled.breakdown.label <+: (breakdown numbers).printed widths colour :=
        label_prefix_printed colour rfl
      rw [← shown]
      cases exceeds <;> cases colour <;> rfl
  | unit suggestion =>
      obtain ⟨rest, shown⟩ : Labelled.unit.label <+: (unit suggestion).printed widths colour :=
        label_prefix_printed colour rfl
      rw [← shown]
      cases exceeds <;> cases colour <;> rfl
  | outcome success => cases exceeds <;> cases success <;> cases colour <;> rfl
  | _ => cases exceeds <;> cases colour <;> rfl

end ReportLine

variable {widths : Widths}

theorem linesOf_printed (widths : Widths) (colour : Bool) (kind : Labelled)
    (lines : List ReportLine) :
    kind.linesOf (lines.map (ReportLine.printed widths colour)) =
      (lines.filter (·.labelled? = some kind)).map (ReportLine.printed widths colour) := by
  rw [Labelled.linesOf, List.filter_map]
  congr 1
  exact List.filter_congr fun line _ => ReportLine.isPrefixOf_label colour kind line

/-! ## What the labelled lines say -/

/-- The line that tells a breakdown. -/
def breakdownText (numbers : Breakdown) : Text :=
  "  Breakdown: ".toList ++ Text.ofInt numbers.total ++ " total | ".toList ++
    Text.ofInt numbers.effective ++ " code | ".toList ++ Text.ofInt numbers.comment ++
    " comments | ".toList ++ Text.ofInt numbers.imports ++ " imports | ".toList ++
    Text.ofInt numbers.blank ++ " blank".toList

/-- The line that tells the totals. -/
def totalsText (files failed : Nat) (limit : Int) : Text :=
  "Validated: ".toList ++ Text.ofNat files ++ " file(s)  |  Violations: ".toList ++
    Text.ofNat failed ++ "  |  Max: ".toList ++ Text.ofInt limit ++ " lines".toList

/-- The range and the estimate of a unit, as its line ends. -/
def unitEnding (first last estimate : Int) : Text :=
  "()  [lines ".toList ++ Text.ofInt first ++ "–".toList ++ Text.ofInt last ++ "]  ~".toList ++
    Text.ofInt estimate ++ " effective lines".toList

theorem printed_breakdown (colour : Bool) (numbers : Breakdown) :
    (ReportLine.breakdown numbers).printed widths colour = breakdownText numbers := by
  have plain : (breakdownText numbers).all isPlain = true := by
    unfold breakdownText
    simp only [List.all_append, all_isPlain_ofInt, Bool.and_eq_true, and_true]
    decide +kernel
  exact renderPieces_bare plain colour

theorem printed_totals (colour : Bool) (files failed : Nat) (limit : Int) :
    (ReportLine.totals files failed limit).printed widths colour =
      totalsText files failed limit := by
  have plain : (totalsText files failed limit).all isPlain = true := by
    unfold totalsText
    simp only [List.all_append, all_isPlain_ofInt, all_isPlain_ofNat, Bool.and_eq_true, and_true]
    decide +kernel
  exact renderPieces_bare plain colour

theorem unitEnding_suffix_printed (colour : Bool) (suggestion : Suggestion) :
    unitEnding suggestion.first suggestion.last suggestion.estimate <:+
      (ReportLine.unit suggestion).printed widths colour := by
  have plain : (unitEnding suggestion.first suggestion.last suggestion.estimate).all isPlain =
      true := by
    unfold unitEnding
    simp only [List.all_append, all_isPlain_ofInt, Bool.and_eq_true, and_true]
    decide +kernel
  have pieces : (ReportLine.unit suggestion).pieces =
      [bare (("    ├── extract: ".toList ++ suggestion.name) ++
        unitEnding suggestion.first suggestion.last suggestion.estimate)] := by
    unfold unitEnding ReportLine.pieces
    simp only [List.append_assoc]
  rw [ReportLine.printed, pieces]
  exact ending_printed_bare plain colour _

/-- A printed line gives the range and the estimate that the JSON report has for a unit. -/
def TellsUnit (line : Text) (entry : Json) : Prop :=
  ∃ first last estimate,
    entry.member? "lineRange".toList = some (.array [.int first, .int last]) ∧
      entry.member? "estimatedLines".toList = some (.int estimate) ∧
      unitEnding first last estimate <:+ line

/-- The printed lines of a file say what the JSON report has on it. There is one headline. A
breakdown and the units stand only behind the headline of a file beyond its budget. -/
structure TellsFile (colour : Bool) (count : FileCount) (lines : List Text) : Prop where
  headline : ∀ exceeds, lines.countP ((headlineMark exceeds).heads colour) =
    if count.exceeds = exceeds then 1 else 0
  breakdown : Labelled.breakdown.linesOf lines =
    if count.exceeds then [breakdownText count.breakdown] else []
  units : ∃ entries, count.toJson.member? "splitSuggestions".toList = some (.array entries) ∧
    entries.length = count.suggestions.length ∧
    List.Forall₂ TellsUnit (Labelled.unit.linesOf lines) (if count.exceeds then entries else [])
  totals : Labelled.totals.linesOf lines = []

/-! ## The lines of a file -/

section File

variable {count : FileCount} {reading : Quotients} {limit : Int} {lines : List ReportLine}

/-- The lines of a file beyond its budget are a headline, a breakdown, and its units with their
average if there are any. -/
inductive OverLines (reading : Quotients) (limit : Int) (count : FileCount) :
    List ReportLine → Prop
  | plain (none : count.suggestions = []) :
      OverLines reading limit count [.failed count.path count.breakdown.effective limit,
        .breakdown count.breakdown]
  | split {average : Int} (some : count.suggestions ≠ [])
      (rounded : reading.ceil count.breakdown.effective count.suggestions.length = .ok average) :
      OverLines reading limit count (.failed count.path count.breakdown.effective limit ::
        .breakdown count.breakdown :: .blank :: .splitHead count.suggestions.length ::
        count.suggestions.map .unit ++ [.blank, .average count.suggestions.length average])

theorem overLines_of_reportLines (made : count.reportLines reading limit = .ok lines) :
    (count.exceeds = true ∧ OverLines reading limit count lines) ∨
      (count.exceeds = false ∧ lines = [.passed count.path count.breakdown.effective]) := by
  rw [FileCount.reportLines] at made
  split at made
  · next beyond =>
    obtain ⟨split, own, done⟩ := exists_of_bind_eq_ok made
    cases done
    refine .inl ⟨beyond, ?_⟩
    rw [splitLines] at own
    split at own
    · next none =>
      cases own
      exact .plain (List.length_eq_zero_iff.mp none)
    · next some =>
      obtain ⟨average, rounded, done⟩ := exists_of_bind_eq_ok own
      cases done
      exact .split (fun none => some (by rw [none]; rfl)) rounded
  · next within =>
    cases made
    exact .inr ⟨Bool.not_eq_true _ ▸ within, rfl⟩

theorem countP_printed (colour exceeds : Bool) (lines : List ReportLine) :
    (lines.map (ReportLine.printed widths colour)).countP ((headlineMark exceeds).heads colour) =
      lines.countP (·.exceeds? = some exceeds) := by
  rw [List.countP_map]
  exact List.countP_congr fun line _ => by
    rw [Function.comp_apply, ReportLine.heads_printed]

/-- Whatever the lines of a file beyond its budget, one is a headline, one tells the breakdown, and
as many as there are units tell one each. -/
theorem OverLines.parts (lined : OverLines reading limit count lines) :
    (∀ exceeds, lines.countP (·.exceeds? = some exceeds) = if exceeds then 1 else 0) ∧
      lines.filter (·.labelled? = some .breakdown) = [.breakdown count.breakdown] ∧
      lines.filter (·.labelled? = some .unit) = count.suggestions.map .unit ∧
      lines.filter (·.labelled? = some .totals) = [] := by
  cases lined with
  | plain none =>
      rw [none]
      refine ⟨fun exceeds => ?_, rfl, rfl, rfl⟩
      cases exceeds <;> rfl
  | split some rounded =>
      have headless : ∀ exceeds, (count.suggestions.map ReportLine.unit).countP
          (·.exceeds? = Option.some exceeds) = 0 := by
        simp [List.countP_eq_zero, ReportLine.exceeds?]
      refine ⟨fun exceeds => ?_, ?_, ?_, ?_⟩
      · rw [List.countP_append]
        simp only [List.countP_cons, headless]
        cases exceeds <;> rfl
      · simp [ReportLine.labelled?]
      · simp [ReportLine.labelled?]
      · simp [ReportLine.labelled?]

/-- A unit is printed with the numbers of its entry. -/
theorem tellsUnit_printed (colour : Bool) (suggestion : Suggestion) :
    TellsUnit ((ReportLine.unit suggestion).printed widths colour) suggestion.toJson :=
  ⟨_, _, _, rfl, rfl, unitEnding_suffix_printed colour suggestion⟩

/-- **The lines of a file say what the JSON report has on it.** -/
theorem tellsFile_of_reportLines (colour : Bool)
    (made : count.reportLines reading limit = .ok lines) :
    TellsFile colour count (lines.map (ReportLine.printed widths colour)) := by
  have entries : count.toJson.member? "splitSuggestions".toList =
      some (.array (count.suggestions.map Suggestion.toJson)) := rfl
  rcases overLines_of_reportLines made with ⟨beyond, lined⟩ | ⟨within, rfl⟩
  · obtain ⟨headline, breakdown, units, totals⟩ := lined.parts
    constructor
    · intro exceeds
      rw [countP_printed, headline, beyond]
      cases exceeds <;> rfl
    · rw [linesOf_printed, breakdown, if_pos beyond, List.map_singleton, printed_breakdown]
    · refine ⟨_, entries, List.length_map _, ?_⟩
      rw [linesOf_printed, units, if_pos beyond, List.map_map, List.forall₂_map_left_iff,
        List.forall₂_map_right_iff, List.forall₂_same]
      exact fun suggestion _ => tellsUnit_printed colour suggestion
    · rw [linesOf_printed, totals, List.map_nil]
  · constructor
    · intro exceeds
      rw [countP_printed, within]
      cases exceeds <;> rfl
    · rw [linesOf_printed, within]
      rfl
    · refine ⟨_, entries, List.length_map _, ?_⟩
      rw [linesOf_printed, within]
      exact .nil
    · rw [linesOf_printed]
      rfl

end File

/-! ## The lines of a report -/

/-- The last of some printed lines says that the check failed. -/
def tellsFailed (lines : List Text) : Bool :=
  lines.getLast?.any (Text.occurs "FAILED".toList)

/-- Printed lines, some for each file and others for the totals, tell how many files are within
their budget and how many beyond it. -/
structure TellsCounts (colour : Bool) (limit : Int) (counts : List FileCount)
    (passed failed : Nat) (files : List (List Text)) (totals : List Text) : Prop where
  each : List.Forall₂ (TellsFile colour) counts files
  headlines : ∀ exceeds, (files.flatten ++ totals).countP ((headlineMark exceeds).heads colour) =
    if exceeds then failed else passed
  unlabelled : Labelled.breakdown.linesOf totals = [] ∧ Labelled.unit.linesOf totals = []
  figures : Labelled.totals.linesOf (files.flatten ++ totals) =
    [totalsText counts.length failed limit]
  status : tellsFailed (files.flatten ++ totals) = true ↔ 0 < failed

section Report

variable {colour : Bool} {limit : Int} {counts : List FileCount} {reading : Quotients}

/-- No line of a file begins like the totals. -/
theorem linesOf_totals_flatten {files : List (List Text)}
    (each : List.Forall₂ (TellsFile colour) counts files) :
    Labelled.totals.linesOf files.flatten = [] := by
  induction each with
  | nil => rfl
  | cons own _ ih =>
      have first := own.totals
      rw [Labelled.linesOf] at first ih ⊢
      rw [List.flatten_cons, List.filter_append, first, ih, List.append_nil]

/-- Counting the headlines of a kind is counting the files of the kind. -/
theorem countP_flatten_files {files : List (List Text)}
    (each : List.Forall₂ (TellsFile colour) counts files) (exceeds : Bool) :
    files.flatten.countP ((headlineMark exceeds).heads colour) =
      counts.countP (·.exceeds = exceeds) :=
  countP_flatten_of_forall₂
    (fun _ _ (tells : TellsFile colour _ _) => by rw [tells.headline]; simp) each

theorem tellsFailed_append (files : List Text) :
    tellsFailed (files ++ (totalLines limit counts).map (ReportLine.printed widths colour)) = true ↔
      0 < violationCount counts := by
  have last : (files ++ (totalLines limit counts).map (ReportLine.printed widths colour)).getLast? =
      some ((ReportLine.outcome (violationCount counts = 0)).printed widths colour) := by
    rw [totalLines]
    simp
  have told : ∀ success : Bool, Text.occurs "FAILED".toList
      ((ReportLine.outcome success).printed widths colour) = ! success := by
    intro success
    cases success <;> rw [ReportLine.printed, ReportLine.pieces, printed_styled (by decide +kernel)]
      <;> cases colour <;> decide +kernel
  rw [tellsFailed, last, Option.any_some, told]
  simp [Nat.pos_iff_ne_zero]

theorem tellsCounts_of_reportLines (widths : Widths) {files : List (List ReportLine)}
    (made : List.Forall₂ (fun count lines => count.reportLines reading limit = .ok lines)
      counts files) :
    TellsCounts colour limit counts (withinCount counts) (violationCount counts)
      (files.map (List.map (ReportLine.printed widths colour)))
      ((totalLines limit counts).map (ReportLine.printed widths colour)) := by
  have each : List.Forall₂ (TellsFile colour) counts
      (files.map (List.map (ReportLine.printed widths colour))) := by
    rw [List.forall₂_map_right_iff]
    exact made.imp fun _ _ own => tellsFile_of_reportLines colour own
  constructor
  · exact each
  · intro exceeds
    rw [List.countP_append, countP_flatten_files each, countP_printed]
    cases exceeds
    · exact List.countP_congr fun count _ => by simp
    · exact List.countP_congr fun count _ => by simp
  · constructor <;> rw [linesOf_printed] <;> rfl
  · have flat := linesOf_totals_flatten each
    have own := linesOf_printed widths colour .totals (totalLines limit counts)
    rw [Labelled.linesOf] at flat own ⊢
    rw [List.filter_append, flat, own, List.nil_append]
    exact congrArg (fun line => [line]) (printed_totals colour _ _ limit)
  · exact tellsFailed_append _

/-- A report is printed from the lines of the files and the totals. -/
theorem exists_of_consoleReport {report : Text}
    (made : consoleReport widths reading colour limit counts = .ok report) :
    ∃ files totals, report = (files.flatten ++ totals).flatMap (· ++ ['\n']) ∧
      TellsCounts colour limit counts (withinCount counts) (violationCount counts)
        files totals := by
  obtain ⟨lines, gathered, done⟩ := exists_of_bind_eq_ok made
  obtain ⟨files, own, gathered⟩ := exists_of_bind_eq_ok gathered
  cases done
  cases gathered
  refine ⟨_, _, ?_, tellsCounts_of_reportLines widths (forall₂_of_mapM own)⟩
  rw [render_eq_printed, List.map_map, ← List.map_flatten, ← List.map_append]
  rfl

end Report

/-! ## The reports and the verdict -/

/-- A JSON report has these figures, and an entry for each file. -/
structure HasFigures (document : Json) (counts : List FileCount) (total passed failed : Nat) :
    Prop where
  total : document.member? "totalFiles".toList = some (.int total)
  passed : document.member? "passed".toList = some (.int passed)
  failed : document.member? "failed".toList = some (.int failed)
  entries : document.member? "results".toList = some (.array (counts.map FileCount.toJson))

theorem withinCount_add_violationCount (counts : List FileCount) :
    withinCount counts + violationCount counts = counts.length := by
  have parts : withinCount counts = counts.countP (¬ ·.exceeds = true) :=
    List.countP_congr fun count _ => by simp
  rw [parts, Nat.add_comm, violationCount]
  exact (List.length_eq_countP_add_countP FileCount.exceeds).symm

theorem anyExceeds_iff_violationCount_pos (counts : List FileCount) :
    anyExceeds counts = true ↔ 0 < violationCount counts := by
  rw [anyExceeds, violationCount, List.countP_pos_iff, List.any_eq_true]

theorem hasFigures_reportJson (timestamp : Text) (limit : Int) (counts : List FileCount) :
    HasFigures (reportJson timestamp limit counts) counts counts.length (withinCount counts)
      (violationCount counts) := by
  have failed : counts.length - withinCount counts = violationCount counts := by
    rw [← withinCount_add_violationCount, Nat.add_sub_cancel_left]
  refine ⟨rfl, rfl, ?_, rfl⟩
  rw [← failed]
  rfl

/-- **The reports and the verdict agree on every file and in all their counts.** The JSON report,
read from its text, counts the files within their budget and those beyond it, and the check fails
when it counts one beyond it. The console report is made unless an average size that it needs is
beyond all doubles. It then has a headline of the right kind for each file, a breakdown for each
file beyond its budget with a line for each of its units in their order, the same count of files
beyond their budget, and a last line that says of a failure when there is one. -/
theorem counts_agree (reading : Quotients) (timestamp : Text) (limit : Int)
    (counts : List FileCount) :
    ∃ (document : Json) (total passed failed : Nat),
      Json.read? (jsonReport timestamp limit counts) = some document ∧
      HasFigures document counts total passed failed ∧
      total = counts.length ∧ passed + failed = total ∧
      (anyExceeds counts = true ↔ 0 < failed) ∧
      ∀ (widths : Widths) (colour : Bool),
        ((∃ report, consoleReport widths reading colour limit counts = .ok report) ↔
          ∀ count ∈ counts, count.HasAverage reading) ∧
        (∀ cause, consoleReport widths reading colour limit counts = .error cause →
          cause = .overflow ∧ ∃ count ∈ counts, count.BeyondDoubles) ∧
        ∀ report, consoleReport widths reading colour limit counts = .ok report →
          ∃ files totals, report = (files.flatten ++ totals).flatMap (· ++ ['\n']) ∧
            TellsCounts colour limit counts passed failed files totals :=
  ⟨reportJson timestamp limit counts, counts.length, withinCount counts, violationCount counts,
    Json.read?_write .ascii _, hasFigures_reportJson timestamp limit counts, rfl,
    withinCount_add_violationCount counts, anyExceeds_iff_violationCount_pos counts,
    fun _ _ => ⟨exists_consoleReport_iff, fun _ failed => overflow_of_consoleReport failed,
      fun _ made => exists_of_consoleReport made⟩⟩

/-- A file beyond its budget, of so many effective lines, with one suggested unit. -/
def overCount (effective : Int) : FileCount where
  path := "a.py".toList
  language := "python".toList
  breakdown := ⟨effective, effective, 0, 0, 0⟩
  exceeds := true
  suggestions := [⟨"u".toList, 1, 2, 3⟩]

theorem counts_agree_overCount :
    (∃ report, consoleReport .single .double false 50 [overCount 60] = .ok report) ∧
      ∃ report files totals, consoleReport .single .double false 50 [overCount 60] = .ok report ∧
        report = (files.flatten ++ totals).flatMap (· ++ ['\n']) ∧
        TellsCounts false 50 [overCount 60] 0 1 files totals := by
  have made : ∃ report, consoleReport .single .double false 50 [overCount 60] = .ok report :=
    exists_consoleReport_iff.mpr (by
      intro count member
      rw [List.mem_singleton.mp member]
      exact fun _ _ => ⟨60, by decide +kernel⟩)
  refine ⟨made, ?_⟩
  obtain ⟨report, own⟩ := made
  obtain ⟨_, total, passed, failed, -, -, all, sum, verdict, console⟩ :=
    counts_agree .double [] 50 [overCount 60]
  obtain ⟨files, totals, printed, tells⟩ := (console .single false).2.2 report own
  have single : total = 1 := all
  have some : 0 < failed := verdict.mp rfl
  obtain rfl : failed = 1 := by omega
  obtain rfl : passed = 0 := by omega
  exact ⟨report, files, totals, own, printed, tells⟩

/-- A number that is beyond all doubles. -/
def enormous : Int :=
  Nat.pow 10 400

/-- A file with so many effective lines has no console report, though it is counted as beyond its
budget and fails the check. -/
theorem consoleReport_of_beyondDoubles :
    consoleReport .single .double false 50 [overCount enormous] = .error .overflow ∧
      anyExceeds [overCount enormous] = true ∧
      (reportJson [] 50 [overCount enormous]).member? "failed".toList = some (.int 1) := by
  refine ⟨by decide +kernel, rfl, rfl⟩

end ReviewGate.Budget
