import ReviewGate.Budget.ConsoleReport
import ReviewGate.Proofs.Number.Quotient
import ReviewGate.Proofs.Steps

/-!
# When counts can be reported

A file is over its limit when it has more code lines than that. Only then is it divided into
chunks, and only then does its average appear in a report, so the numbers of other files never fail
to be computed (`effectiveLines_of_failed`, `anyExceeds_of_failed`). For a file over its limit the
quotients are of numbers of its lines. They are at least one and are doubles, as long as the file
has fewer than 2^1023 code lines (`exists_countSource`, `exists_consoleReport`). Counts that are of
no file may need a larger average, and that is all that a report fails for
(`overflow_of_consoleReport`).
-/

set_option autoImplicit false

namespace ReviewGate

/-- Printed lines have a newline at least. -/
theorem Console.render_ne_nil {widths : Console.Widths} {colour : Bool} {rows : List Console.Row}
    (filled : rows ≠ []) :
    Console.render widths colour rows ≠ [] := by
  obtain ⟨row, more, rfl⟩ := List.exists_cons_of_ne_nil filled
  simp [Console.render, Console.renderLine]

namespace Budget

open Source

/-- The number of code lines of a source text. -/
def effectiveLines (path source : Text) : Nat :=
  (codeLines (classify (Language.ofPath path) source).lines).length

/-! ## Counting a file -/

section Counting

variable {path source : Text} {limit : Int} {reading : Quotients}

theorem effective_breakdown (lines : List Line) :
    (breakdown lines).effective = (codeLines lines).length := by
  rw [breakdown, countKind, codeLines, List.countP_eq_length_filter]
  rfl

/-- Counting fails only where a split is suggested, and that is so over the limit. -/
theorem countSource_eq (reading : Quotients) (source path : Text) (limit : Int) :
    countSource reading source path limit = do
      let lines := (classify (Language.ofPath path) source).lines
      let suggestions ←
        if limit < effectiveLines path source then suggestSplit reading lines limit else .ok []
      return ⟨path, (Language.ofPath path).name, breakdown lines,
        limit < effectiveLines path source, suggestions⟩ := by
  simp only [countSource, effective_breakdown, decide_eq_true_eq]
  rfl

/-- A count is of the lines of the file, with the suggestions of a split over the limit. -/
theorem exists_of_countSource {count : FileCount}
    (counted : countSource reading source path limit = .ok count) :
    ∃ units, (if limit < effectiveLines path source then
        suggestSplit reading (classify (Language.ofPath path) source).lines limit
      else .ok []) = .ok units ∧
      count = ⟨path, (Language.ofPath path).name,
        breakdown (classify (Language.ofPath path) source).lines,
        limit < effectiveLines path source, units⟩ := by
  rw [countSource_eq] at counted
  dsimp only at counted
  split at counted
  · next beyond =>
    obtain ⟨units, suggested, made⟩ := exists_of_bind_eq_ok counted
    cases made
    exact ⟨units, by rw [if_pos beyond, suggested], rfl⟩
  · next within =>
    cases counted
    exact ⟨[], if_neg within, rfl⟩

/-- What is counted of a file. -/
structure Counts (path source : Text) (limit : Int) (count : FileCount) : Prop where
  effective : count.breakdown.effective = effectiveLines path source
  exceeds : count.exceeds = decide (limit < effectiveLines path source)

theorem counts_of_countSource {count : FileCount}
    (counted : countSource reading source path limit = .ok count) :
    Counts path source limit count := by
  obtain ⟨units, _, rfl⟩ := exists_of_countSource counted
  exact ⟨effective_breakdown _, rfl⟩

/-- Only a file over its limit fails to be counted. -/
theorem effectiveLines_of_failed {error : ArithmeticError}
    (failed : countSource reading source path limit = .error error) :
    limit < effectiveLines path source := by
  by_contra within
  rw [countSource_eq] at failed
  dsimp only at failed
  rw [if_neg within] at failed
  cases failed

theorem exists_chunkSize_double {total : Nat} (beyond : limit < total) (filled : 0 < total)
    (small : total < Double.safeBound) : ∃ size, chunkSize .double total limit = .ok size := by
  have positive : 0 < (max limit 1).toNat := by omega
  obtain ⟨chunks, counted⟩ := exists_ceil positive (show (total : Int).natAbs < _ from small)
  have some := ceil_pos_of_le (by omega) (by omega) counted
  obtain ⟨size, sized⟩ :=
    exists_ceil (show 0 < chunks.toNat by omega) (show (total : Int).natAbs < _ from small)
  refine ⟨size.toNat, ?_⟩
  rw [chunkSize, chunkCount, counted]
  change (do return (← Quotients.double.ceil total chunks.toNat).toNat) = _
  rw [sized]
  rfl

theorem exists_equalChunks {code : List Line} (beyond : limit < code.length)
    (small : code.length < Double.safeBound) :
    ∃ units, equalChunks .double code limit = .ok units := by
  by_cases empty : code = []
  · exact ⟨[], if_pos empty⟩
  · obtain ⟨size, sized⟩ := exists_chunkSize_double beyond (List.length_pos_iff.mpr empty) small
    rw [equalChunks, if_neg empty, sized]
    exact ⟨_, rfl⟩

/-- **A file with fewer code lines than the bound is counted.** -/
theorem exists_countSource (small : effectiveLines path source < Double.safeBound) :
    ∃ count, countSource .double source path limit = .ok count := by
  rw [countSource_eq]
  dsimp only
  by_cases beyond : limit < effectiveLines path source
  · rw [if_pos beyond, suggestSplit]
    split
    · obtain ⟨units, cut⟩ := exists_equalChunks beyond small
      exact ⟨_, by rw [cut]; rfl⟩
    · exact ⟨_, rfl⟩
  · rw [if_neg beyond]
    exact ⟨_, rfl⟩

end Counting

/-! ## Reporting counts -/

/-- The average size of the units of a file can be computed, where the report needs it. -/
def FileCount.HasAverage (reading : Quotients) (count : FileCount) : Prop :=
  count.exceeds = true → count.suggestions ≠ [] → ∃ average,
    reading.ceil count.breakdown.effective count.suggestions.length = .ok average

/-- A file for which the average of its units is beyond all doubles. -/
def FileCount.BeyondDoubles (count : FileCount) : Prop :=
  count.exceeds = true ∧ count.suggestions ≠ [] ∧
    Double.safeBound ≤ count.breakdown.effective.natAbs

section Reporting

variable {count : FileCount} {counts : List FileCount} {reading : Quotients} {limit : Int}
  {widths : Console.Widths} {colour : Bool}

/-- The lines of a file within its budget do not fail. -/
theorem exceeds_of_failed {error : ArithmeticError}
    (failed : count.reportLines reading limit = .error error) : count.exceeds = true := by
  rw [FileCount.reportLines] at failed
  split at failed
  · next beyond => exact beyond
  · cases failed

theorem exists_fileLines_iff :
    (∃ lines, count.reportLines reading limit = .ok lines) ↔ count.HasAverage reading := by
  constructor
  · rintro ⟨lines, made⟩ beyond some
    have units : count.suggestions.length ≠ 0 := fun none => some (List.length_eq_zero_iff.mp none)
    rw [FileCount.reportLines, if_pos beyond, splitLines, if_neg units] at made
    obtain ⟨split, own, -⟩ := exists_of_bind_eq_ok made
    obtain ⟨average, rounded, -⟩ := exists_of_bind_eq_ok own
    exact ⟨average, rounded⟩
  · intro has
    rw [FileCount.reportLines]
    split
    · next beyond =>
      rw [splitLines]
      split
      · exact ⟨_, rfl⟩
      · next some =>
        obtain ⟨average, rounded⟩ := has beyond fun none => some (by rw [none]; rfl)
        exact ⟨_, by rw [rounded]; rfl⟩
    · exact ⟨_, rfl⟩

/-- **A report is made when each average that it needs can be computed.** -/
theorem exists_consoleReport_iff :
    (∃ report, consoleReport widths reading colour limit counts = .ok report) ↔
      ∀ count ∈ counts, count.HasAverage reading := by
  constructor
  · rintro ⟨report, made⟩ count member
    obtain ⟨lines, gathered, -⟩ := exists_of_bind_eq_ok made
    obtain ⟨files, own, -⟩ := exists_of_bind_eq_ok gathered
    obtain ⟨lines, -, made⟩ := exists_result_of_mem own member
    exact exists_fileLines_iff.mp ⟨lines, made⟩
  · intro has
    have each : ∀ count ∈ counts, ∃ lines, count.reportLines reading limit = .ok lines :=
      fun count member => exists_fileLines_iff.mpr (has count member)
    obtain ⟨files, made⟩ := exists_mapM each
    exact ⟨_, by rw [consoleReport, reportLines, made]; rfl⟩

theorem overflow_of_fileLines {cause : ArithmeticError}
    (failed : count.reportLines reading limit = .error cause) :
    cause = .overflow ∧ count.BeyondDoubles := by
  have beyond := exceeds_of_failed failed
  rw [FileCount.reportLines, if_pos beyond, splitLines] at failed
  split at failed
  · cases failed
  · next some =>
    have positive : 0 < count.suggestions.length := Nat.pos_of_ne_zero some
    cases rounded : reading.ceil count.breakdown.effective count.suggestions.length with
    | ok average =>
        rw [rounded] at failed
        cases failed
    | error own =>
        have overflow := eq_overflow_of_ceil positive rounded
        rw [rounded] at failed
        cases failed
        refine ⟨overflow, beyond, List.length_pos_iff.mp positive, ?_⟩
        by_contra small
        obtain ⟨average, made⟩ := exists_ceil positive (Nat.not_le.mp small)
        cases reading with
        | exact => cases (ceil_exact positive _).symm.trans rounded
        | double => cases made.symm.trans rounded

/-- **A report is only refused for an average beyond all doubles.** Nothing is divided by zero. -/
theorem overflow_of_consoleReport {cause : ArithmeticError}
    (failed : consoleReport widths reading colour limit counts = .error cause) :
    cause = .overflow ∧ ∃ count ∈ counts, count.BeyondDoubles := by
  cases gathered : counts.mapM (FileCount.reportLines reading limit) with
  | error own =>
      obtain ⟨count, member, refused⟩ := exists_of_mapM_error gathered
      obtain ⟨overflow, beyond⟩ := overflow_of_fileLines refused
      rw [consoleReport, reportLines, gathered] at failed
      cases failed
      exact ⟨overflow, count, member, beyond⟩
  | ok files =>
      rw [consoleReport, reportLines, gathered] at failed
      cases failed

/-- Only a report on a file over its limit fails. -/
theorem anyExceeds_of_failed {error : ArithmeticError}
    (failed : consoleReport widths reading colour limit counts = .error error) :
    anyExceeds counts = true := by
  obtain ⟨-, count, member, beyond, -⟩ := overflow_of_consoleReport failed
  exact List.any_eq_true.mpr ⟨count, member, beyond⟩

theorem ne_nil_of_consoleReport {report : Text}
    (made : consoleReport widths reading colour limit counts = .ok report) : report ≠ [] := by
  obtain ⟨lines, gathered, done⟩ := exists_of_bind_eq_ok made
  obtain ⟨files, -, gathered⟩ := exists_of_bind_eq_ok gathered
  cases done
  cases gathered
  refine Console.render_ne_nil ?_
  simp [totalLines]

/-- **A report on files with fewer code lines than the bound is made, and it is not empty.** -/
theorem exists_consoleReport
    (small : ∀ count ∈ counts, count.breakdown.effective.natAbs < Double.safeBound) :
    ∃ report, consoleReport widths .double colour limit counts = .ok report ∧ report ≠ [] := by
  have has : ∀ count ∈ counts, count.HasAverage .double := fun count member _ some =>
    exists_ceil (List.length_pos_iff.mpr some) (small count member)
  obtain ⟨report, made⟩ := exists_consoleReport_iff.mpr has
  exact ⟨report, made, ne_nil_of_consoleReport made⟩

end Reporting

end Budget

end ReviewGate
