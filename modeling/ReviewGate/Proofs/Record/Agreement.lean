import ReviewGate.Proofs.Console.Printed
import ReviewGate.Proofs.Json.Values
import ReviewGate.Proofs.Record.TestReport
import ReviewGate.Proofs.Xml.Processor
import ReviewGate.Record.ConsoleReport
import ReviewGate.Record.JsonReport

/-!
# Reports that agree

A list of assessed records is reported in three forms, and it passes or fails as a whole. Each
form counts for itself: the JSON report counts records, the test report counts its failing cases
and its failures, the console report counts violations, and the verdict counts nothing and only
looks for an error. The figures they show are nevertheless the same (`reports_agree`).

What the forms show is read off the texts of the reports and not off the counts they are made from
(`Figures.Shown`). A figure of the JSON report is a member of the object that a reader finds in it,
and one of the test report is the value of an attribute or a number of elements of the tree that a
reader finds. The console report ends with the lines of the totals (`linesIn_eq`). No line about a
record begins with the label of a total, since it begins with a blank or with a sign
(`sign_mem_entrySigns`), so each total is also printed exactly once.
-/

set_option autoImplicit false

namespace ReviewGate.Record

open Console Xml

/-! ## Printed lines -/

/-- The printed lines of the console report. -/
def linesIn (widths : Widths) (colour : Bool) (results : List Assessment) : List Text :=
  (reportLines results).map fun line => printed widths colour line.pieces

/-- The report is made of the printed lines, each with a newline behind it. -/
theorem consoleReport_eq_linesIn (widths : Widths) (colour : Bool) (results : List Assessment) :
    consoleReport widths colour results =
      (linesIn widths colour results).flatMap (· ++ ['\n']) := by
  rw [consoleReport, render_eq_printed, List.map_map]
  rfl

/-- A line as it is printed without colours. -/
def ReportLine.plain (widths : Widths) (line : ReportLine) : Text :=
  printed widths false line.pieces

variable {widths : Widths}

/-- What lines that begin with a label have behind it. -/
def behind (label : Text) (lines : List Text) : List Text :=
  lines.filterMap label.isPrefixOf?

/-- The character with which a printed line begins, if it is not empty. -/
def ReportLine.sign : ReportLine → Option Char
  | blank => none
  | headline .pass _ => some '✓'
  | headline .warn _ => some '⚠'
  | headline .fail _ => some '✗'
  | title _ => some ' '
  | violation _ _ _ => some ' '
  | hint _ => some ' '
  | divider => some '─'
  | validated _ => some 'V'
  | errors _ => some 'E'
  | warnings _ => some 'W'
  | outcome _ => some 'S'

theorem head?_plain (line : ReportLine) : (line.plain widths).head? = line.sign := by
  cases line with
  | headline kind path => cases kind <;> rfl
  | outcome kind => cases kind <;> rfl
  | _ => rfl

theorem isPrefixOf?_append (label rest : Text) : label.isPrefixOf? (label ++ rest) = some rest := by
  induction label with
  | nil => rfl
  | cons c label ih => simp [List.isPrefixOf?, ih]

/-- What begins with another sign does not begin with a label. -/
theorem isPrefixOf?_of_head {c : Char} {label text : Text} (other : text.head? ≠ some c) :
    (c :: label).isPrefixOf? text = none := by
  cases text with
  | nil => rfl
  | cons d rest =>
      have different : (c == d) = false := by
        rw [beq_eq_false_iff_ne]
        rintro rfl
        exact other rfl
      simp [List.isPrefixOf?, different]

/-- Only lines that begin with the sign of a label have something behind it. -/
theorem behind_filter (c : Char) (label : Text) (lines : List ReportLine) :
    behind (c :: label) (lines.map (ReportLine.plain widths)) =
      behind (c :: label) ((lines.filter (·.sign = some c)).map (ReportLine.plain widths)) := by
  induction lines with
  | nil => rfl
  | cons line more ih =>
      rw [behind, behind] at ih
      by_cases same : line.sign = some c
      · rw [List.filter_cons, if_pos (decide_eq_true same)]
        simp only [behind, List.map_cons, List.filterMap_cons, ih]
      · have other : (line.plain widths).head? ≠ some c := by rwa [head?_plain]
        rw [List.filter_cons, if_neg (by simpa using same)]
        simp only [behind, List.map_cons, List.filterMap_cons, isPrefixOf?_of_head other, ih]

/-- The signs with which lines about a record begin. -/
def entrySigns : List (Option Char) := [none, some '✓', some '⚠', some '✗', some ' ']

theorem sign_violationLines {found : Violation} {line : ReportLine}
    (member : line ∈ violationLines found) : line.sign = some ' ' := by
  rcases List.mem_cons.mp member with rfl | hint
  · rfl
  · split at hint
    · split at hint
      · cases hint
      · rw [List.mem_singleton.mp hint]
        rfl
    · cases hint

theorem sign_mem_entrySigns {result : Assessment} {line : ReportLine}
    (member : line ∈ result.reportLines) : line.sign ∈ entrySigns := by
  have shown : ∀ kind, (ReportLine.headline kind result.path).sign ∈ entrySigns := by
    intro kind
    cases kind <;> simp [ReportLine.sign, entrySigns]
  unfold Assessment.reportLines at member
  split at member
  · rw [List.mem_singleton.mp member]
    exact shown .pass
  · simp only [List.mem_cons, List.mem_flatMap] at member
    rcases member with rfl | rfl | rfl | ⟨found, _, inside⟩
    · exact List.mem_cons_self
    · exact shown _
    · simp [ReportLine.sign, entrySigns]
    · rw [sign_violationLines inside]
      simp [entrySigns]

/-- **The totals are printed once**, behind all records. -/
theorem filter_reportLines {c : Char} (total : some c ∉ entrySigns) (results : List Assessment) :
    (reportLines results).filter (·.sign = some c) =
      (summaryLines results).filter (·.sign = some c) := by
  have nothing : (results.flatMap Assessment.reportLines).filter (·.sign = some c) = [] := by
    refine List.filter_eq_nil_iff.mpr fun line member same => ?_
    obtain ⟨result, _, inside⟩ := List.mem_flatMap.mp member
    exact total (of_decide_eq_true same ▸ sign_mem_entrySigns inside)
  rw [reportLines, List.filter_append, nothing, List.nil_append]

/-- What the only line with a label has behind it. -/
theorem behind_linesIn {c : Char} {label rest : Text} {line : ReportLine}
    {results : List Assessment} (total : some c ∉ entrySigns)
    (only : (summaryLines results).filter (·.sign = some c) = [line])
    (shown : line.plain widths = c :: label ++ rest) :
    behind (c :: label) (linesIn widths false results) = [rest] := by
  have lines : linesIn widths false results =
      (reportLines results).map (ReportLine.plain widths) := rfl
  rw [lines, behind_filter, filter_reportLines total, only, List.map_singleton, behind,
    List.filterMap_cons, shown, isPrefixOf?_append, List.filterMap_nil]

theorem behind_errors (results : List Assessment) :
    behind "Errors:    ".toList (linesIn widths false results) =
      [Text.ofNat (totalErrors results)] :=
  behind_linesIn (by decide) rfl (renderPieces_count (by decide) _)

theorem behind_warnings (results : List Assessment) :
    behind "Warnings:  ".toList (linesIn widths false results) =
      [Text.ofNat (totalWarnings results)] :=
  behind_linesIn (by decide) rfl (renderPieces_count (by decide) _)

/-- What the last line of the report says of an outcome. -/
def Outcome.wording : Outcome → Text
  | allPassed => "ALL PASSED ✓".toList
  | passedWithWarnings => "PASSED with warnings".toList
  | failed => "FAILED — fix errors before marking ADR as Accepted".toList

theorem plain_outcome (kind : Outcome) :
    (ReportLine.outcome kind).plain widths = "Status:    ".toList ++ kind.wording := by
  cases kind <;>
    rw [ReportLine.plain, ReportLine.pieces, Outcome.pieces, printed_styled (by decide)] <;> decide

theorem behind_status (results : List Assessment) :
    behind "Status:    ".toList (linesIn widths false results) =
      [(outcomeOf (totalErrors results) (totalWarnings results)).wording] :=
  behind_linesIn (by decide) rfl (plain_outcome _)

/-! ## The test report -/

/-- The elements of a name in a test case. Only the case itself and the list of its properties are
not made from a violation. -/
theorem elements_testCase {asked : Text} (own : "testcase".toList ≠ asked)
    (listed : "properties".toList ≠ asked) (result : Assessment) :
    result.testCase.elements asked =
      (if "property".toList = asked then result.warnings.map propertyElement else []) ++
        if "failure".toList = asked then result.errors.map failureElement else [] := by
  have properties : (result.warnings.map propertyElement).flatMap (·.elements asked) =
      if "property".toList = asked then result.warnings.map propertyElement else [] :=
    elements_leaves propertyElement (fun _ => rfl) (fun _ => rfl) _
  have failures : (result.errors.map failureElement).flatMap (·.elements asked) =
      if "failure".toList = asked then result.errors.map failureElement else [] :=
    elements_leaves failureElement (fun _ => rfl) (fun _ => rfl) _
  rw [Assessment.testCase, Element.elements_block, if_neg own, List.nil_append,
    List.flatMap_append, failures]
  congr 1
  by_cases empty : result.warnings.isEmpty
  · rw [if_pos empty, List.isEmpty_iff.mp empty]
    split <;> rfl
  · rw [if_neg empty, List.flatMap_singleton, Element.elements_block, if_neg listed, properties,
      List.nil_append]

/-- The elements of a name in the report that are made from violations. -/
theorem elements_testSuites {asked : Text}
    (own : asked ∉ ["testsuites".toList, "testsuite".toList]) (results : List Assessment) :
    (testSuites results).elements asked = results.flatMap (·.testCase.elements asked) := by
  simp only [List.mem_cons, List.not_mem_nil, or_false, not_or] at own
  rw [testSuites, Element.elements_block, if_neg (Ne.symm own.1), List.flatMap_singleton,
    Element.elements_block, if_neg (Ne.symm own.2), List.flatMap_map]
  rfl

/-- The failures of the report are the errors. -/
theorem elements_failure (results : List Assessment) :
    (testSuites results).elements "failure".toList =
      (results.flatMap Assessment.errors).map failureElement := by
  rw [elements_testSuites (by decide), List.map_flatMap]
  refine List.flatMap_congr fun result _ => ?_
  rw [elements_testCase (by decide) (by decide), if_neg (by decide), if_pos rfl, List.nil_append]

/-- The properties of the report are the warnings. -/
theorem elements_property (results : List Assessment) :
    (testSuites results).elements "property".toList =
      (results.flatMap Assessment.warnings).map propertyElement := by
  rw [elements_testSuites (by decide), List.map_flatMap]
  refine List.flatMap_congr fun result _ => ?_
  rw [elements_testCase (by decide) (by decide), if_pos rfl, if_neg (by decide), List.append_nil]

/-- The names of the attributes in a test case. -/
def caseAttributes : List Text :=
  ["name".toList, "classname".toList, "time".toList, "value".toList, "type".toList,
    "message".toList]

theorem mem_caseAttributes {result : Assessment} {element : Element}
    (member : element ∈ result.testCase.all) {pair : Attribute}
    (inside : pair ∈ element.attributes) : pair.name ∈ caseAttributes := by
  suffices names : element.attributes.map Attribute.name ⊆ caseAttributes from
    names (List.mem_map_of_mem inside)
  rw [Assessment.testCase, Element.all, allOf_eq_flatMap] at member
  rcases List.mem_cons.mp member with rfl | below
  · exact show ["name".toList, "classname".toList, "time".toList] ⊆ caseAttributes by decide
  obtain ⟨child, listed, below⟩ := List.mem_flatMap.mp below
  rcases List.mem_append.mp listed with properties | failure
  · split at properties
    · cases properties
    · rw [List.mem_singleton.mp properties, Element.all, allOf_eq_flatMap] at below
      rcases List.mem_cons.mp below with rfl | below
      · exact List.nil_subset _
      · obtain ⟨property, listed, below⟩ := List.mem_flatMap.mp below
        obtain ⟨found, _, rfl⟩ := List.mem_map.mp listed
        rw [List.mem_singleton.mp below]
        exact show ["name".toList, "value".toList] ⊆ caseAttributes by decide
  · obtain ⟨found, _, rfl⟩ := List.mem_map.mp failure
    rw [List.mem_singleton.mp below]
    exact show ["type".toList, "message".toList] ⊆ caseAttributes by decide

/-- Other attributes are not in the test cases. -/
theorem values_testCases {asked : Text} (other : asked ∉ caseAttributes)
    (results : List Assessment) :
    (results.map Assessment.testCase).flatMap (·.values asked) = [] := by
  rw [List.flatMap_map]
  refine List.flatMap_eq_nil_iff.mpr fun result _ => Element.values_eq_nil ?_
  intro element member pair inside same
  exact other (same ▸ mem_caseAttributes member inside)

theorem values_failures (results : List Assessment) :
    (testSuites results).values "failures".toList =
      [Text.ofNat (failingCases results), Text.ofNat (failingCases results)] := by
  rw [testSuites, Element.values_block, List.flatMap_singleton, Element.values_block,
    values_testCases (by decide), List.append_nil]
  rfl

theorem values_errors (results : List Assessment) :
    (testSuites results).values "errors".toList = [Text.ofNat (totalErrors results)] := by
  rw [testSuites, Element.values_block, List.flatMap_singleton, Element.values_block,
    values_testCases (by decide), List.append_nil]
  rfl

/-! ## Counting records -/

theorem failingCases_eq_countP (results : List Assessment) :
    failingCases results =
      results.countP fun result => result.violations.any (·.severity = .error) := by
  refine List.countP_congr fun result _ => ?_
  simp [Assessment.errors, Assessment.ofSeverity]

theorem passedCount_add_failingCases (results : List Assessment) :
    passedCount results + failingCases results = results.length := by
  rw [passedCount, failingCases, List.length_eq_countP_add_countP Assessment.passes]
  congr 1
  refine List.countP_congr fun result _ => ?_
  simp [Assessment.passes]

theorem failedCount_eq (results : List Assessment) :
    failedCount results = failingCases results := by
  have all := passedCount_add_failingCases results
  rw [failedCount]
  omega

theorem warnedCount_le (results : List Assessment) :
    warnedCount results ≤ passedCount results :=
  List.countP_mono_left fun _ _ warns => (Bool.and_eq_true _ _ ▸ warns).2

/-- Some record has a violation of a kind exactly when there is one at all. -/
theorem exists_ne_nil_iff (kind : Assessment → List Violation) (results : List Assessment) :
    (∃ result ∈ results, kind result ≠ []) ↔ (results.flatMap kind).length ≠ 0 := by
  rw [Ne, List.length_eq_zero_iff, List.flatMap_eq_nil_iff]
  push Not
  rfl

/-- Some record fails exactly when there is an error at all. -/
theorem failingCases_pos_iff (results : List Assessment) :
    0 < failingCases results ↔ totalErrors results ≠ 0 := by
  rw [totalErrors, ← exists_ne_nil_iff]
  simp [failingCases, List.countP_pos_iff]

theorem shouldFail_iff (results : List Assessment) (strict : Bool) :
    shouldFail results strict = true ↔
      totalErrors results ≠ 0 ∨ strict = true ∧ totalWarnings results ≠ 0 := by
  rw [totalErrors, totalWarnings, ← exists_ne_nil_iff, ← exists_ne_nil_iff]
  simp [shouldFail]

theorem outcomeOf_eq_failed_iff {errors warnings : Nat} :
    outcomeOf errors warnings = .failed ↔ errors ≠ 0 := by
  unfold outcomeOf
  split
  · split <;> simp [*]
  · simp [*]

theorem outcomeOf_ne_allPassed_iff {errors warnings : Nat} :
    outcomeOf errors warnings ≠ .allPassed ↔ errors ≠ 0 ∨ warnings ≠ 0 := by
  unfold outcomeOf
  split
  · split <;> simp [*]
  · simp [*]

/-! ## The three reports and the verdict -/

/-- The figures that reports show. -/
structure Figures where
  total : Nat
  passed : Nat
  failed : Nat
  warned : Nat
  errors : Nat
  warnings : Nat
  outcome : Outcome

/-- The members of a JSON report that show the figures. -/
structure Figures.InDocument (figures : Figures) (document : Json) : Prop where
  total : document.member? "totalAdrs".toList = some (.int figures.total)
  passed : document.member? "passed".toList = some (.int figures.passed)
  failed : document.member? "failed".toList = some (.int figures.failed)
  warned : document.member? "warned".toList = some (.int figures.warned)

/-- The attributes and elements of a test report that show the figures. There are two attributes for
the failing cases and one for the errors. -/
structure Figures.InTestReport (figures : Figures) (report : Node) : Prop where
  failed : report.valuesOf "failures".toList =
    [Text.ofNat figures.failed, Text.ofNat figures.failed]
  errors : report.valuesOf "errors".toList = [Text.ofNat figures.errors]
  failures : report.countOf "failure".toList = figures.errors
  properties : report.countOf "property".toList = figures.warnings

/-- The lines with which a console report ends. -/
def Figures.lastLines (figures : Figures) : List Text :=
  ["Validated: ".toList ++ Text.ofNat figures.total ++ " ADR(s)".toList,
    "Errors:    ".toList ++ Text.ofNat figures.errors,
    "Warnings:  ".toList ++ Text.ofNat figures.warnings,
    "Status:    ".toList ++ figures.outcome.wording]

/-- The printed lines of a console report that show the figures: they are the last ones, and no
other line has the label of a total. -/
structure Figures.InLines (figures : Figures) (lines : List Text) : Prop where
  last : figures.lastLines <:+ lines
  errors : behind "Errors:    ".toList lines = [Text.ofNat figures.errors]
  warnings : behind "Warnings:  ".toList lines = [Text.ofNat figures.warnings]
  outcome : behind "Status:    ".toList lines = [figures.outcome.wording]

/-- The texts of the three reports on a list of results show these figures. -/
structure Figures.Shown (figures : Figures) (timestamp : Text) (results : List Assessment) :
    Prop where
  document : ∃ document, Json.read? (jsonReport timestamp results) = some document ∧
    figures.InDocument document
  testReport : ∃ report, Xml.read? (junitReport results) = some report ∧
    figures.InTestReport report
  console : ∀ widths, let lines := linesIn widths false results
    consoleReport widths false results = lines.flatMap (· ++ ['\n']) ∧ figures.InLines lines

/-- The figures counted from the violations. -/
def Figures.of (results : List Assessment) : Figures where
  total := results.length
  passed := passedCount results
  failed := failingCases results
  warned := warnedCount results
  errors := totalErrors results
  warnings := totalWarnings results
  outcome := outcomeOf (totalErrors results) (totalWarnings results)

theorem inDocument_reportJson (timestamp : Text) (results : List Assessment) :
    (Figures.of results).InDocument (reportJson timestamp results) where
  total := rfl
  passed := rfl
  failed := by
    rw [Figures.of, ← failedCount_eq]
    rfl
  warned := rfl

theorem inTestReport_node (results : List Assessment) :
    (Figures.of results).InTestReport ((testSuites results).node 0) where
  failed := (Element.valuesOf_node _ _ 0).trans (values_failures results)
  errors := (Element.valuesOf_node _ _ 0).trans (values_errors results)
  failures := by
    rw [Element.countOf_node, elements_failure, List.length_map]
    rfl
  properties := by
    rw [Element.countOf_node, elements_property, List.length_map]
    rfl

theorem plain_validated (count : Nat) : (ReportLine.validated count).plain widths =
    "Validated: ".toList ++ Text.ofNat count ++ " ADR(s)".toList := by
  refine renderPieces_bare ?_ false
  rw [List.all_append, List.all_append, all_isPlain_ofNat]
  decide

/-- **The totals are printed last.** -/
theorem linesIn_eq (widths : Widths) (results : List Assessment) :
    linesIn widths false results =
      (results.flatMap Assessment.reportLines ++ [ReportLine.blank, ReportLine.divider]).map
          (ReportLine.plain widths) ++ (Figures.of results).lastLines := by
  have errors : (ReportLine.errors (totalErrors results)).plain widths =
      "Errors:    ".toList ++ Text.ofNat (totalErrors results) :=
    renderPieces_count (by decide) _
  have warnings : (ReportLine.warnings (totalWarnings results)).plain widths =
      "Warnings:  ".toList ++ Text.ofNat (totalWarnings results) :=
    renderPieces_count (by decide) _
  have lines : linesIn widths false results =
      (reportLines results).map (ReportLine.plain widths) := rfl
  rw [lines, reportLines, summaryLines, List.map_append, List.map_append, List.append_assoc]
  simp only [List.map_cons, List.map_nil, plain_validated, errors, warnings, plain_outcome]
  rfl

theorem inLines_linesIn (widths : Widths) (results : List Assessment) :
    (Figures.of results).InLines (linesIn widths false results) where
  last := ⟨_, (linesIn_eq widths results).symm⟩
  errors := behind_errors results
  warnings := behind_warnings results
  outcome := behind_status results

theorem Figures.shown_of (timestamp : Text) (results : List Assessment) :
    (Figures.of results).Shown timestamp results where
  document := ⟨_, Json.read?_write .full _, inDocument_reportJson timestamp results⟩
  testReport := ⟨_, read?_document (named_testSuites results), inTestReport_node results⟩
  console widths :=
    ⟨consoleReport_eq_linesIn widths false results, inLines_linesIn widths results⟩

/-- **All reports show the same figures, and the verdict follows them.** A record either passes or
fails, and fails with an error only. Without strictness the records fail as a whole when one of
them fails, which is when the last line says so; with strictness they fail unless all is well. -/
theorem reports_agree (timestamp : Text) (results : List Assessment) :
    ∃ figures : Figures, figures.Shown timestamp results ∧
      figures.total = results.length ∧
      figures.passed + figures.failed = figures.total ∧
      figures.warned ≤ figures.passed ∧
      figures.failed =
        results.countP (fun result => result.violations.any (·.severity = .error)) ∧
      (shouldFail results false = true ↔ 0 < figures.failed) ∧
      (0 < figures.failed ↔ figures.outcome = .failed) ∧
      (shouldFail results true = true ↔ figures.outcome ≠ .allPassed) := by
  refine ⟨Figures.of results, Figures.shown_of timestamp results, rfl,
    passedCount_add_failingCases results, warnedCount_le results,
    failingCases_eq_countP results, ?_, ?_, ?_⟩
  · rw [shouldFail_iff, Figures.of, failingCases_pos_iff]
    simp
  · rw [Figures.of, failingCases_pos_iff, outcomeOf_eq_failed_iff]
  · show _ ↔ outcomeOf (totalErrors results) (totalWarnings results) ≠ .allPassed
    rw [shouldFail_iff, outcomeOf_ne_allPassed_iff]
    simp

end ReviewGate.Record
