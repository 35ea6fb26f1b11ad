import ReviewGate.Proofs.Steps
import ReviewGate.Proofs.Xml.Reader
import ReviewGate.Record.JUnitReport

/-!
# The test report is read as it was meant

Paths, rules, messages and hints are written into the test report whatever they hold, and a reader
of tags, attributes, texts and entities finds every one of them in its place. The report is one
element with one suite in it, and the suite has a test case for every record, in their order. In a
test case stand the warnings as properties, if there are any, and behind them the errors as
failures; violations of other kinds leave no element (`IsTestCase`).

The names of the elements and attributes are fixed (`named_testSuites`), so this is what the reader
makes of any document (`read?_document`), looked at level by level (`read?_junitReport`).
-/

set_option autoImplicit false

namespace ReviewGate.Record

open Text Xml

/-! ## What the nodes say -/

/-- A property that tells of a warning. -/
structure IsProperty (found : Violation) (node : Node) : Prop where
  tag : node.tag? = some ("property".toList,
    [named "name" found.rule, named "value" found.message])
  content : node.content = []

/-- A failure that tells of an error. -/
structure IsFailure (found : Violation) (node : Node) : Prop where
  tag : node.tag? = some ("failure".toList,
    [named "type" found.rule, named "message" found.message])
  elements : node.elements = []
  text : node.ownText = found.hint.getD []

/-- A list of properties, one for every warning. -/
structure IsPropertyList (warnings : List Violation) (node : Node) : Prop where
  tag : node.tag? = some ("properties".toList, [])
  elements : List.Forall₂ IsProperty warnings node.elements
  text : Blank node.ownText

/-- A test case that tells of a record. -/
structure IsTestCase (result : Assessment) (node : Node) : Prop where
  tag : node.tag? = some ("testcase".toList,
    [named "name" result.path, named "classname" "adr-validator".toList, named "time" "0".toList])
  text : Blank node.ownText
  elements : ∃ properties failures, node.elements = properties ++ failures ∧
    (result.warnings = [] → properties = []) ∧
    (result.warnings ≠ [] → ∃ list, properties = [list] ∧ IsPropertyList result.warnings list) ∧
    List.Forall₂ IsFailure result.errors failures

/-- A suite with a test case for every record. -/
structure IsTestSuite (results : List Assessment) (node : Node) : Prop where
  tag : node.tag? = some ("testsuite".toList,
    [named "name" "Enterprise ADR Validation".toList, named "tests" (Text.ofNat results.length),
      named "failures" (Text.ofNat (results.countP (·.errors ≠ [])))])
  text : Blank node.ownText
  elements : List.Forall₂ IsTestCase results node.elements

/-- A report with one suite. -/
structure IsTestReport (results : List Assessment) (node : Node) : Prop where
  tag : node.tag? = some ("testsuites".toList,
    [named "name" "adr-validator".toList, named "tests" (Text.ofNat results.length),
      named "failures" (Text.ofNat (results.countP (·.errors ≠ []))),
      named "errors" (Text.ofNat (results.flatMap Assessment.errors).length),
      named "time" "0".toList])
  text : Blank node.ownText
  elements : ∃ suite, node.elements = [suite] ∧ IsTestSuite results suite

/-! ## What is written -/

theorem named_propertyElement (found : Violation) : (propertyElement found).Named :=
  Element.named_closed.mpr
    ⟨by decide, show ∀ label ∈ ["name".toList, "value".toList], IsName label by decide⟩

theorem named_failureElement (found : Violation) : (failureElement found).Named :=
  Element.named_inline.mpr
    ⟨by decide, show ∀ label ∈ ["type".toList, "message".toList], IsName label by decide⟩

theorem named_testCase (result : Assessment) : result.testCase.Named := by
  refine Element.named_block.mpr ⟨⟨by decide,
    show ∀ label ∈ ["name".toList, "classname".toList, "time".toList], IsName label by decide⟩,
    fun child member => ?_⟩
  rcases List.mem_append.mp member with properties | failures
  · split at properties
    · cases properties
    · rw [List.mem_singleton.mp properties]
      refine Element.named_block.mpr ⟨⟨by decide, nofun⟩, fun property listed => ?_⟩
      obtain ⟨found, _, rfl⟩ := List.mem_map.mp listed
      exact named_propertyElement found
  · obtain ⟨found, _, rfl⟩ := List.mem_map.mp failures
    exact named_failureElement found

/-- All names in the report are fixed. -/
theorem named_testSuites (results : List Assessment) : (testSuites results).Named := by
  refine Element.named_block.mpr ⟨⟨by decide, show ∀ label ∈ ["name".toList, "tests".toList,
    "failures".toList, "errors".toList, "time".toList], IsName label by decide⟩, ?_⟩
  rw [List.forall_mem_singleton]
  refine Element.named_block.mpr ⟨⟨by decide, show ∀ label ∈ ["name".toList, "tests".toList,
    "failures".toList], IsName label by decide⟩, fun child member => ?_⟩
  obtain ⟨result, _, rfl⟩ := List.mem_map.mp member
  exact named_testCase result

/-! ## What is read -/

section Nodes

variable (depth : Nat)

theorem isProperty_node (found : Violation) :
    IsProperty found ((propertyElement found).node depth) := ⟨rfl, rfl⟩

theorem isFailure_node (found : Violation) :
    IsFailure found ((failureElement found).node depth) :=
  ⟨rfl, elements_node_inline depth _ _ _, ownText_node_inline depth _ _ _⟩

/-- Elements that are made from a row tell of it, one by one. -/
theorem forall₂_nodes {α : Type} {Tells : α → Node → Prop} {make : α → Element}
    (tells : ∀ x, Tells x ((make x).node depth)) (row : List α) :
    List.Forall₂ Tells row ((row.map make).map (Element.node depth)) := by
  rw [List.map_map]
  exact forall₂_map tells row

theorem isTestCase_node (result : Assessment) :
    IsTestCase result (result.testCase.node depth) := by
  refine ⟨rfl, blank_node_block _ _ _ _, ?_⟩
  have failures := forall₂_nodes (depth + 1) (isFailure_node (depth + 1)) result.errors
  rw [Assessment.testCase, elements_node_block, List.map_append]
  by_cases empty : result.warnings = []
  · rw [if_pos (List.isEmpty_iff.mpr empty)]
    exact ⟨[], _, rfl, fun _ => rfl, absurd empty, failures⟩
  · have listed : IsPropertyList result.warnings
        ((Element.block "properties".toList [] (result.warnings.map propertyElement)).node
          (depth + 1)) := by
      refine ⟨rfl, ?_, blank_node_block _ _ _ _⟩
      rw [elements_node_block]
      exact forall₂_nodes (depth + 2) (isProperty_node (depth + 2)) result.warnings
    rw [if_neg (mt List.isEmpty_iff.mp empty)]
    exact ⟨_, _, rfl, fun none => absurd none empty, fun _ => ⟨_, rfl, listed⟩, failures⟩

end Nodes

theorem failingCases_eq (results : List Assessment) :
    failingCases results = results.countP (·.errors ≠ []) :=
  List.countP_congr fun result _ => by simp

/-- **No text breaks out of the test report.** A reader of tags, attributes, texts and entities
finds one report in it with one suite, a test case for every record in their order, and in each of
them the warnings as properties and the errors as failures, with all texts as they were. -/
theorem read?_junitReport (results : List Assessment) :
    ∃ report, Xml.read? (junitReport results) = some report ∧ IsTestReport results report := by
  refine ⟨_, read?_document (named_testSuites results), ?_, blank_node_block _ _ _ _, _,
    elements_node_block _ _ _ _, ?_, blank_node_block _ _ _ _, ?_⟩
  · rw [← failingCases_eq]
    rfl
  · rw [← failingCases_eq]
    rfl
  · rw [elements_node_block]
    exact forall₂_nodes 2 (isTestCase_node 2) results

end ReviewGate.Record
