import ReviewGate.Proofs.Record.TestReport
import ReviewGate.Proofs.Text.Numeral
import ReviewGate.Proofs.Xml.Processor

/-!
# Which test reports a processor accepts

Escaping is all that is done to the texts of a test report, and a processor asks for more. Paths,
rules and messages are values of attributes, where tabs and line ends are read as blanks, and a
single character that is not allowed in a document makes it refuse the whole report. A path may
hold either.

What goes wrong is only that. The report has a character that is not allowed exactly when one of
the texts in it has, and otherwise its tags are the ones that were meant but for the white space
in their values (`map_tags_process?_junitReport`). So the report is read as it was meant exactly
when the texts in it are allowed and no path, rule or message in it is broken
(`junitReport_accepted_iff`). Hints stand between tags, so there is no condition on their line ends.
-/

set_option autoImplicit false

namespace ReviewGate.Record

open Text Xml

/-! ## What is reported -/

/-- The texts of violations that become values of attributes. -/
def Assessment.foundValues (result : Assessment) : List Text :=
  (result.warnings ++ result.errors).flatMap fun found => [found.rule, found.message]

/-- The texts of violations that are in the report. -/
def Assessment.foundTexts (result : Assessment) : List Text :=
  (result.warnings.flatMap fun found => [found.rule, found.message]) ++
    result.errors.flatMap fun found => [found.rule, found.message, found.hint.getD []]

/-- The texts of a record that become values of attributes. -/
def Assessment.values (result : Assessment) : List Text :=
  result.path :: result.foundValues

/-- The texts of a record that are in the report. -/
def Assessment.reported (result : Assessment) : List Text :=
  result.path :: result.foundTexts

section Tags

variable (read : Text → Text)

/-- The tag for a warning. -/
def propertyTag (found : Violation) : Text × List Attribute :=
  ("property".toList, [named "name" (read found.rule), named "value" (read found.message)])

/-- The tag for an error. -/
def failureTag (found : Violation) : Text × List Attribute :=
  ("failure".toList, [named "type" (read found.rule), named "message" (read found.message)])

/-- The tags for a record, with its texts as they are read. -/
def Assessment.tags (result : Assessment) : List (Text × List Attribute) :=
  ("testcase".toList, [named "name" (read result.path),
    named "classname" "adr-validator".toList, named "time" "0".toList]) ::
    ((if result.warnings = [] then []
      else ("properties".toList, []) :: result.warnings.map (propertyTag read)) ++
      result.errors.map (failureTag read))

/-- The tags of a report, with the texts in it as they are read. -/
def reportTags (results : List Assessment) : List (Text × List Attribute) :=
  let tests := Text.ofNat results.length
  let failures := Text.ofNat (results.countP (·.errors ≠ []))
  ("testsuites".toList, [named "name" "adr-validator".toList, named "tests" tests,
    named "failures" failures, named "errors" (Text.ofNat (results.flatMap Assessment.errors).length),
    named "time" "0".toList]) ::
    ("testsuite".toList, [named "name" "Enterprise ADR Validation".toList, named "tests" tests,
      named "failures" failures]) ::
    results.flatMap (Assessment.tags read)

end Tags

/-! ## What is written -/

theorem map_tag_testCase (result : Assessment) :
    result.testCase.all.map Element.tag = result.tags id := by
  have failures : ((result.errors.map failureElement).flatMap Element.all).map Element.tag =
      result.errors.map (failureTag id) :=
    tag_leaves (fun _ => rfl) result.errors
  have properties : ((result.warnings.map propertyElement).flatMap Element.all).map Element.tag =
      result.warnings.map (propertyTag id) :=
    tag_leaves (fun _ => rfl) result.warnings
  rw [Assessment.testCase, Element.all, allOf_eq_flatMap, List.flatMap_append, List.map_cons,
    List.map_append, failures, Assessment.tags]
  by_cases empty : result.warnings = []
  · rw [if_pos (List.isEmpty_iff.mpr empty), if_pos empty]
    rfl
  · rw [if_neg (mt List.isEmpty_iff.mp empty), if_neg empty, List.flatMap_singleton, Element.all,
      allOf_eq_flatMap, List.map_cons, properties]
    rfl

/-- The report is written with the tags that were meant. -/
theorem map_tag_testSuites (results : List Assessment) :
    (testSuites results).all.map Element.tag = reportTags id results := by
  have records : ((results.map Assessment.testCase).flatMap Element.all).map Element.tag =
      results.flatMap (Assessment.tags id) := by
    rw [List.flatMap_map, List.map_flatMap]
    exact List.flatMap_congr fun result _ => map_tag_testCase result
  rw [testSuites, Element.all, allOf_eq_flatMap, List.flatMap_singleton, Element.all,
    allOf_eq_flatMap, List.map_cons, List.map_cons, records, failingCases_eq]
  rfl

/-! ## Texts of the report -/

/-- The texts of a report, with the given texts of violations. -/
def textsWith (found : Assessment → List Text) (results : List Assessment) : List Text :=
  let tests := Text.ofNat results.length
  let failures := Text.ofNat (results.countP (·.errors ≠ []))
  ["adr-validator".toList, tests, failures, Text.ofNat (results.flatMap Assessment.errors).length,
    "0".toList] ++
    (["Enterprise ADR Validation".toList, tests, failures] ++
      results.flatMap fun result =>
        [result.path, "adr-validator".toList, "0".toList] ++ found result)

/-- What holds of fixed texts and of counts holds of a report when it holds of its records. -/
theorem forall_textsWith {P : Text → Prop} (found : Assessment → List Text)
    (fixed : ∀ text ∈ ["adr-validator".toList, "0".toList, "Enterprise ADR Validation".toList],
      P text) (counts : ∀ n, P (Text.ofNat n)) (results : List Assessment) :
    (∀ text ∈ textsWith found results, P text) ↔
      ∀ text ∈ results.flatMap fun result => result.path :: found result, P text := by
  simp only [List.forall_mem_cons] at fixed
  obtain ⟨called, zero, suite, -⟩ := fixed
  simp only [textsWith, List.forall_mem_append, List.forall_mem_cons, List.forall_mem_flatMap,
    called, zero, suite, counts, List.not_mem_nil, IsEmpty.forall_iff, implies_true, true_and,
    and_true]

theorem texts_testCase (result : Assessment) :
    result.testCase.texts =
      [result.path, "adr-validator".toList, "0".toList] ++ result.foundTexts := by
  have failures : (result.errors.map failureElement).flatMap Element.texts =
      result.errors.flatMap fun found => [found.rule, found.message, found.hint.getD []] := by
    rw [List.flatMap_map]
    rfl
  have properties : (result.warnings.map propertyElement).flatMap Element.texts =
      result.warnings.flatMap fun found => [found.rule, found.message] := by
    rw [List.flatMap_map]
    rfl
  rw [Assessment.testCase, Element.texts_block, List.flatMap_append, failures,
    Assessment.foundTexts]
  by_cases empty : result.warnings = []
  · rw [if_pos (List.isEmpty_iff.mpr empty), empty]
    rfl
  · rw [if_neg (mt List.isEmpty_iff.mp empty), List.flatMap_singleton, Element.texts_block,
      properties]
    rfl

/-- The texts in the report are those of the violations and some fixed ones. -/
theorem texts_testSuites (results : List Assessment) :
    (testSuites results).texts = textsWith Assessment.foundTexts results := by
  have records : (results.map Assessment.testCase).flatMap Element.texts =
      results.flatMap fun result =>
        [result.path, "adr-validator".toList, "0".toList] ++ result.foundTexts := by
    rw [List.flatMap_map]
    exact List.flatMap_congr fun result _ => texts_testCase result
  rw [testSuites, Element.texts_block, List.flatMap_singleton, Element.texts_block, records,
    failingCases_eq]
  rfl

theorem tagValues_tags (result : Assessment) :
    tagValues (result.tags id) =
      [result.path, "adr-validator".toList, "0".toList] ++ result.foundValues := by
  have failures : tagValues (result.errors.map (failureTag id)) =
      result.errors.flatMap fun found => [found.rule, found.message] := by
    rw [tagValues, List.flatMap_map]
    rfl
  have properties : tagValues (result.warnings.map (propertyTag id)) =
      result.warnings.flatMap fun found => [found.rule, found.message] := by
    rw [tagValues, List.flatMap_map]
    rfl
  rw [Assessment.tags, tagValues, List.flatMap_cons, List.flatMap_append, ← tagValues, ← tagValues,
    failures, Assessment.foundValues, List.flatMap_append]
  by_cases empty : result.warnings = []
  · rw [if_pos empty, empty]
    rfl
  · rw [if_neg empty, ← properties]
    rfl

/-- The values in the tags are those of the violations and some fixed ones. -/
theorem tagValues_reportTags (results : List Assessment) :
    tagValues (reportTags id results) = textsWith Assessment.foundValues results := by
  have records : tagValues (results.flatMap (Assessment.tags id)) =
      results.flatMap fun result =>
        [result.path, "adr-validator".toList, "0".toList] ++ result.foundValues := by
    rw [tagValues, List.flatMap_assoc]
    exact List.flatMap_congr fun result _ => tagValues_tags result
  rw [reportTags, tagValues, List.flatMap_cons, List.flatMap_cons, ← tagValues, records]
  rfl

/-! ## What is accepted -/

theorem permitted_ofNat (n : Nat) : Permitted (Text.ofNat n) := fun c member => by
  have digit := isDigit_of_mem_ofNat member
  exact isAllowed_of_isNameSign (by simp [isNameSign, Char.isAlphanum, digit])

theorem unbroken_ofNat (n : Nat) : Unbroken (Text.ofNat n) := fun c member breaks => by
  have signs : ['\t', '\n', '\r'].any Char.isDigit = false := by decide
  exact List.any_eq_false.mp signs c breaks (isDigit_of_mem_ofNat member)

/-- Names and counts are allowed, so only what is reported can be at fault. -/
theorem permitted_junitReport (results : List Assessment) :
    Permitted (junitReport results) ↔
      ∀ text ∈ results.flatMap Assessment.reported, Permitted text := by
  rw [junitReport, permitted_document (named_testSuites results), texts_testSuites]
  exact forall_textsWith _ (by decide) permitted_ofNat results

/-- Names and counts are kept, so only paths, rules and messages can be read otherwise. -/
theorem map_normalisedTag_reportTags (results : List Assessment) :
    (reportTags id results).map normalisedTag = reportTags normalisedValue results := by
  have called : normalisedValue "adr-validator".toList = "adr-validator".toList := by decide
  have zero : normalisedValue "0".toList = "0".toList := by decide
  have suite : normalisedValue "Enterprise ADR Validation".toList =
    "Enterprise ADR Validation".toList := by decide
  have count (n : Nat) : normalisedValue (Text.ofNat n) = Text.ofNat n :=
    normalisedValue_eq_self.mpr (unbroken_ofNat n)
  have record (result : Assessment) :
      (result.tags id).map normalisedTag = result.tags normalisedValue := by
    have violations : (result.warnings.map (propertyTag id)).map normalisedTag =
        result.warnings.map (propertyTag normalisedValue) ∧
        (result.errors.map (failureTag id)).map normalisedTag =
          result.errors.map (failureTag normalisedValue) :=
      ⟨List.map_map, List.map_map⟩
    rw [Assessment.tags, List.map_cons, List.map_append, violations.2, apply_ite (List.map _),
      List.map_cons, violations.1]
    simp only [Assessment.tags, normalisedTag, named, List.map_cons, List.map_nil,
      Attribute.mapValue, called, zero, id_eq]
  simp only [reportTags, List.map_cons, List.map_nil, List.map_flatMap, record, normalisedTag,
    named, Attribute.mapValue, called, zero, suite, count]

/-- Tags are kept as they were meant when no path, rule or message is broken. -/
theorem reportTags_normalisedValue_eq (results : List Assessment) :
    reportTags normalisedValue results = reportTags id results ↔
      ∀ value ∈ results.flatMap Assessment.values, Unbroken value := by
  rw [← map_normalisedTag_reportTags, map_normalisedTag_eq_self, tagValues_reportTags]
  exact forall_textsWith _ (by decide) unbroken_ofNat results

/-- **A report whose texts are allowed is read with blanks for the white space in its values.** Any
other report is refused. -/
theorem map_tags_process?_junitReport (results : List Assessment) :
    (process? (junitReport results)).map Node.tags =
      if ∀ text ∈ results.flatMap Assessment.reported, Permitted text
        then some (reportTags normalisedValue results) else none := by
  have permitted := permitted_junitReport results
  rw [junitReport, permitted_document (named_testSuites results)] at permitted
  rw [junitReport, process?_document (named_testSuites results), apply_ite (Option.map Node.tags),
    Option.map_some, Option.map_none, Element.tags_node_normalised, map_tag_testSuites,
    map_normalisedTag_reportTags]
  exact if_congr permitted rfl rfl

/-- **When a processor accepts a test report and reads what was meant.** A character that is not
allowed gets into the report from the texts in it and from nowhere else. Without one the report is
accepted, with its tags as they were meant but for white space in paths, rules and messages. So it
is read as it was meant exactly when its texts are allowed and no path, rule or message has a tab
or a line end in it. -/
theorem junitReport_accepted_iff (results : List Assessment) :
    (Permitted (junitReport results) ↔
        ∀ text ∈ results.flatMap Assessment.reported, Permitted text) ∧
      ((process? (junitReport results)).map Node.tags =
        if ∀ text ∈ results.flatMap Assessment.reported, Permitted text
          then some (reportTags normalisedValue results) else none) ∧
      ((process? (junitReport results)).map Node.tags = some (reportTags id results) ↔
        (∀ text ∈ results.flatMap Assessment.reported, Permitted text) ∧
          ∀ value ∈ results.flatMap Assessment.values, Unbroken value) := by
  refine ⟨permitted_junitReport results, map_tags_process?_junitReport results, ?_⟩
  rw [map_tags_process?_junitReport]
  by_cases permitted : ∀ text ∈ results.flatMap Assessment.reported, Permitted text
  · rw [if_pos permitted, and_iff_right permitted, Option.some.injEq, reportTags_normalisedValue_eq]
  · rw [if_neg permitted]
    exact iff_of_false nofun fun both => permitted both.1

/-- A tab in a path is read as a blank, and a control character makes the report no document. -/
theorem junitReport_of_control_characters :
    (process? (junitReport [⟨"a\tb.md".toList, "T".toList, []⟩])).map Node.tags =
        some (reportTags id [⟨"a b.md".toList, "T".toList, []⟩]) ∧
      reportTags id [⟨"a b.md".toList, "T".toList, []⟩] ≠
        reportTags id [⟨"a\tb.md".toList, "T".toList, []⟩] ∧
      ¬ Permitted (junitReport [⟨"a\x01b.md".toList, "T".toList, []⟩]) := by
  decide +kernel

end ReviewGate.Record
