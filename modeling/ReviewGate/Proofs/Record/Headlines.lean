import ReviewGate.Proofs.Console.Printed
import ReviewGate.Proofs.Record.Agreement
import ReviewGate.Proofs.Steps

/-!
# Headlines

The console report gives every record a headline and tells the outcome in its last line; the JSON
report counts the records that passed, failed and warned. A record fails in both when it has an
error. The headline warns of every other record with violations, but the count is of those with a
warning, and the last line counts errors and warnings only. So a record that does nothing but inform
gets a warning in its headline, while it neither counts as one nor keeps the last line from saying
that all passed.

Apart from such records the headlines, the counts and the last line agree, and they do not agree
when there is one (`headlines_agree_iff`). Headlines are counted among the printed lines, in colour
or without.
-/

set_option autoImplicit false

namespace ReviewGate.Record

open Console

variable {widths : Widths}

/-! ## Headlines among the printed lines -/

/-- What tells a headline of a kind. -/
def Headline.mark : Headline → Mark
  | pass => ⟨.boldGreen, "✓ ".toList, " — PASS".toList⟩
  | warn => ⟨.boldYellow, "⚠ ".toList, " — WARN".toList⟩
  | fail => ⟨.boldRed, "✗ ".toList, " — FAIL".toList⟩

/-- The number of lines that are headlines of a kind. -/
def headlines (colour : Bool) (kind : Headline) (lines : List Text) : Nat :=
  lines.countP (kind.mark.heads colour)

/-- The kind of headline that a line is. -/
def ReportLine.headline? : ReportLine → Option Headline
  | headline kind _ => some kind
  | _ => none

theorem heads_pieces (colour : Bool) (kind : Headline) (path : Text) :
    kind.mark.heads colour (printed widths colour (kind.pieces path)) = true := by
  cases kind with
  | pass => exact Headline.pass.mark.heads_headline rfl rfl colour path [] .green
  | warn => exact Headline.warn.mark.heads_headline rfl rfl colour path [] .yellow
  | fail => exact Headline.fail.mark.heads_headline rfl rfl colour path [] .red

/-- **The mark of a headline is printed in no other line.** -/
theorem heads_printed (colour : Bool) (kind : Headline) (line : ReportLine) :
    kind.mark.heads colour (printed widths colour line.pieces) =
      (line.headline? = some kind : Bool) := by
  cases line with
  | headline own path =>
      -- Headlines of different kinds begin with different signs.
      cases own with
      | pass =>
          cases kind with
          | pass => exact heads_pieces colour .pass path
          | warn | fail => cases colour <;> rfl
      | warn =>
          cases kind with
          | warn => exact heads_pieces colour .warn path
          | pass | fail => cases colour <;> rfl
      | fail =>
          cases kind with
          | fail => exact heads_pieces colour .fail path
          | pass | warn => cases colour <;> rfl
  | outcome own => cases kind <;> cases own <;> cases colour <;> rfl
  | _ => cases kind <;> cases colour <;> rfl

/-! ## Headlines of records -/

theorem headline?_eq_none {found : Violation} {line : ReportLine}
    (member : line ∈ violationLines found) : line.headline? = none := by
  have sign := sign_violationLines member
  cases line with
  | headline own path => cases own <;> cases sign
  | _ => rfl

/-- The lines of a record have one headline, which is its own. -/
theorem countP_reportLines (result : Assessment) (kind : Headline) :
    result.reportLines.countP (·.headline? = some kind) =
      if decide (result.headline = kind) then 1 else 0 := by
  have inside : (result.violations.flatMap violationLines).countP
      (·.headline? = some kind) = 0 := by
    refine List.countP_eq_zero.mpr fun line member => ?_
    obtain ⟨found, _, listed⟩ := List.mem_flatMap.mp member
    simp [headline?_eq_none listed]
  unfold Assessment.reportLines
  split
  · next own => simp [own, ReportLine.headline?, List.countP_cons]
  · rw [List.countP_cons, List.countP_cons, List.countP_cons, inside]
    simp [ReportLine.headline?]

/-- **The headlines among the printed lines are those of the records.** -/
theorem headlines_linesIn (colour : Bool) (kind : Headline) (results : List Assessment) :
    headlines colour kind (linesIn widths colour results) = results.countP (·.headline = kind) := by
  have behind : (summaryLines results).countP (·.headline? = some kind) = 0 := rfl
  have each : ∀ (result : Assessment) (lines : List ReportLine), result.reportLines = lines →
      lines.countP (·.headline? = some kind) =
        if decide (result.headline = kind) then 1 else 0 := by
    rintro result _ rfl
    exact countP_reportLines result kind
  rw [headlines, linesIn, List.countP_map]
  calc (reportLines results).countP
        (kind.mark.heads colour ∘ fun line => printed widths colour line.pieces)
      = (reportLines results).countP (·.headline? = some kind) :=
        List.countP_congr fun line _ => by rw [Function.comp_apply, heads_printed]
    _ = ((results.map Assessment.reportLines).flatten).countP (·.headline? = some kind) := by
        rw [reportLines, List.countP_append, behind, Nat.add_zero, List.flatMap_def]
    _ = results.countP (·.headline = kind) :=
        countP_flatten_of_forall₂ each (forall₂_map (fun _ => rfl) results)

/-! ## Counting records -/

/-- A record only informs when it has violations, of which none is an error or a warning. -/
def Assessment.onlyInforms (result : Assessment) : Bool :=
  ! result.violations.isEmpty && result.errors.isEmpty && result.warnings.isEmpty

/-- The number of records that only inform. -/
def informingCount (results : List Assessment) : Nat :=
  results.countP Assessment.onlyInforms

section Result

variable (result : Assessment)

theorem isEmpty_ofSeverity (severity : Severity) (none : result.violations.isEmpty = true) :
    (result.ofSeverity severity).isEmpty = true := by
  rw [Assessment.ofSeverity, List.isEmpty_iff.mp none]
  rfl

theorem headline_pass : decide (result.headline = .pass) = result.violations.isEmpty := by
  unfold Assessment.headline
  cases result.violations.isEmpty
  · cases result.errors.isEmpty <;> rfl
  · rfl

theorem headline_warn : decide (result.headline = .warn) =
    (! result.violations.isEmpty && result.errors.isEmpty) := by
  unfold Assessment.headline
  cases result.violations.isEmpty
  · cases result.errors.isEmpty <;> rfl
  · rfl

theorem headline_fail : decide (result.headline = .fail) = ! result.errors.isEmpty := by
  have clean : result.violations.isEmpty = true → result.errors.isEmpty = true :=
    isEmpty_ofSeverity result .error
  unfold Assessment.headline
  cases none : result.violations.isEmpty
  · cases result.errors.isEmpty <;> rfl
  · rw [clean none]
    rfl

end Result

section Counts

variable (results : List Assessment)

/-- Two kinds that make up a third one between them are counted together. -/
theorem countP_add_countP {α : Type} {left right both : α → Bool}
    (parts : ∀ item, (if left item then 1 else 0) + (if right item then 1 else 0) =
      if both item then 1 else 0) (items : List α) :
    items.countP left + items.countP right = items.countP both := by
  induction items with
  | nil => rfl
  | cons head rest ih =>
      have own := parts head
      simp only [List.countP_cons]
      omega

theorem countP_fail : results.countP (·.headline = .fail) = failingCases results :=
  List.countP_congr fun result _ => by rw [headline_fail]

/-- Records without errors pass or get a warning. -/
theorem countP_pass_add_warn :
    results.countP (·.headline = .pass) + results.countP (·.headline = .warn) =
      passedCount results := by
  refine countP_add_countP (fun result => ?_) results
  have clean : result.violations.isEmpty = true → result.errors.isEmpty = true :=
    isEmpty_ofSeverity result .error
  rw [headline_pass, headline_warn, Assessment.passes]
  cases none : result.violations.isEmpty
  · cases result.errors.isEmpty <;> rfl
  · rw [clean none]
    rfl

/-- A warning in the headline is for a record with a warning, or for one that only informs. -/
theorem warnedCount_add_informingCount :
    warnedCount results + informingCount results = results.countP (·.headline = .warn) := by
  refine countP_add_countP (fun result => ?_) results
  have clean : result.violations.isEmpty = true → result.warnings.isEmpty = true :=
    isEmpty_ofSeverity result .warning
  rw [headline_warn, Assessment.warns, Assessment.onlyInforms]
  cases none : result.violations.isEmpty
  · cases result.errors.isEmpty <;> cases result.warnings.isEmpty <;> rfl
  · rw [clean none]
    cases result.errors.isEmpty <;> rfl

/-- There is neither an error nor a warning when all records pass or only inform. -/
theorem countP_pass_add_informing_eq_length_iff :
    results.countP (·.headline = .pass) + informingCount results = results.length ↔
      totalErrors results = 0 ∧ totalWarnings results = 0 := by
  have counted : results.countP (·.headline = .pass) + informingCount results =
      results.countP fun result => result.errors.isEmpty && result.warnings.isEmpty := by
    refine countP_add_countP (fun result => ?_) results
    have errors : result.violations.isEmpty = true → result.errors.isEmpty = true :=
      isEmpty_ofSeverity result .error
    have warnings : result.violations.isEmpty = true → result.warnings.isEmpty = true :=
      isEmpty_ofSeverity result .warning
    rw [headline_pass, Assessment.onlyInforms]
    cases none : result.violations.isEmpty
    · cases result.errors.isEmpty <;> cases result.warnings.isEmpty <;> rfl
    · rw [errors none, warnings none]
      rfl
  rw [counted, List.countP_eq_length, totalErrors, totalWarnings, List.length_eq_zero_iff,
    List.length_eq_zero_iff, List.flatMap_eq_nil_iff, List.flatMap_eq_nil_iff, ← forall₂_and]
  simp only [Bool.and_eq_true, List.isEmpty_iff]

end Counts

/-! ## Headlines, counts and the last line -/

/-- The last of some printed lines says that all passed. -/
def tellsAllPassed (lines : List Text) : Bool :=
  lines.getLast?.any (Text.occurs "ALL PASSED".toList)

theorem tellsAllPassed_linesIn (widths : Widths) (colour : Bool) (results : List Assessment) :
    tellsAllPassed (linesIn widths colour results) = true ↔
      totalErrors results = 0 ∧ totalWarnings results = 0 := by
  have last : (linesIn widths colour results).getLast? = some (printed widths colour
      (outcomeOf (totalErrors results) (totalWarnings results)).pieces) := by
    rw [linesIn, reportLines, List.map_append, summaryLines]
    simp [ReportLine.pieces]
  have told : ∀ kind : Outcome, Text.occurs "ALL PASSED".toList
      (printed widths colour kind.pieces) = decide (kind = .allPassed) := by
    intro kind
    cases kind <;> rw [Outcome.pieces, printed_styled (by decide)] <;> cases colour <;> decide
  rw [tellsAllPassed, last, Option.any_some, told, decide_eq_true_iff,
    ← not_iff_not, ← Ne, outcomeOf_ne_allPassed_iff]
  omega

/-- **Headlines agree with the counts and with the last line but for records that only inform.**
A record fails in its headline when it is counted as failed. One gets a warning when it is counted
as warned, or when it only informs, and the others pass; the last line says that all passed when
the others are all of those that do not inform. So the headlines agree with the counts of records
that warned and passed, and with the last line, exactly when no record only informs. -/
theorem headlines_agree_iff (timestamp : Text) (results : List Assessment) :
    ∃ figures : Figures, figures.Shown timestamp results ∧ figures.total = results.length ∧
      ∀ (widths : Widths) (colour : Bool),
        let lines := linesIn widths colour results
        consoleReport widths colour results = lines.flatMap (· ++ ['\n']) ∧
        headlines colour .fail lines = figures.failed ∧
        headlines colour .warn lines = figures.warned + informingCount results ∧
        headlines colour .pass lines + informingCount results + figures.warned =
          figures.passed ∧
        (tellsAllPassed lines = true ↔
          headlines colour .pass lines + informingCount results = figures.total) ∧
        ((headlines colour .warn lines = figures.warned ∧
            headlines colour .pass lines + figures.warned = figures.passed ∧
            (tellsAllPassed lines = true ↔ headlines colour .pass lines = figures.total)) ↔
          ∀ result ∈ results, result.onlyInforms = false) := by
  have noneInforms : informingCount results = 0 ↔
      ∀ result ∈ results, result.onlyInforms = false := by
    rw [informingCount, List.countP_eq_zero]
    simp
  refine ⟨Figures.of results, Figures.shown_of timestamp results, rfl, fun widths colour => ?_⟩
  have warned := warnedCount_add_informingCount results
  have passed := countP_pass_add_warn results
  have said := (tellsAllPassed_linesIn widths colour results).trans
    (countP_pass_add_informing_eq_length_iff results).symm
  dsimp only [Figures.of]
  rw [headlines_linesIn, headlines_linesIn, headlines_linesIn, ← noneInforms]
  refine ⟨consoleReport_eq_linesIn widths colour results, countP_fail results, warned.symm, ?_,
    said, ?_⟩
  · omega
  · constructor
    · rintro ⟨own, _, _⟩
      omega
    · intro none
      rw [none] at said warned
      exact ⟨warned.symm, by omega, said⟩

/-- A record with a violation that only informs. -/
def informing : Assessment :=
  ⟨"a.md".toList, "T".toList, [⟨"X-1".toList, .info, "m".toList, none⟩]⟩

/-- The headline of a record that only informs warns of it, though it is not counted and the last
line says that all passed. -/
theorem headline_of_informing :
    headlines false .warn (linesIn .single false [informing]) = 1 ∧
      headlines false .pass (linesIn .single false [informing]) = 0 ∧
      (∃ document, Json.read? (jsonReport [] [informing]) = some document ∧
        document.member? "warned".toList = some (.int 0) ∧
        document.member? "passed".toList = some (.int 1)) ∧
      tellsAllPassed (linesIn .single false [informing]) = true := by
  refine ⟨by decide, by decide, ⟨_, Json.read?_write .full _, rfl, rfl⟩, by decide⟩

end ReviewGate.Record
