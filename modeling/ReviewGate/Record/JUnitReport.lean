import ReviewGate.Record.Assessment
import ReviewGate.Text.Numeral
import ReviewGate.Xml.Element

/-!
# The assessments as a test report

Every record is a test case. Its errors are failures, so that the case fails; its warnings are
properties, so that they can be seen and the case still passes. Other violations are left out.
-/

set_option autoImplicit false

namespace ReviewGate.Record

open Xml

/-- An attribute with a fixed name. -/
def named (name : String) (value : Text) : Attribute :=
  ⟨name.toList, value⟩

/-- A warning as a property. -/
def propertyElement (found : Violation) : Element :=
  .closed "property".toList [named "name" found.rule, named "value" found.message]

/-- An error as a failure. -/
def failureElement (found : Violation) : Element :=
  .inline "failure".toList [named "type" found.rule, named "message" found.message]
    (found.hint.getD [])

/-- A record as a test case. -/
def Assessment.testCase (result : Assessment) : Element :=
  .block "testcase".toList
    [named "name" result.path, named "classname" "adr-validator".toList,
      named "time" "0".toList]
    ((if result.warnings.isEmpty then []
      else [.block "properties".toList [] (result.warnings.map propertyElement)]) ++
      result.errors.map failureElement)

/-- The number of test cases that fail. -/
def failingCases (results : List Assessment) : Nat :=
  results.countP (! ·.errors.isEmpty)

/-- The report as an element. -/
def testSuites (results : List Assessment) : Element :=
  let tests := Text.ofNat results.length
  let failures := Text.ofNat (failingCases results)
  let errors := Text.ofNat (results.flatMap Assessment.errors).length
  .block "testsuites".toList
    [named "name" "adr-validator".toList, named "tests" tests,
      named "failures" failures, named "errors" errors, named "time" "0".toList]
    [.block "testsuite".toList
      [named "name" "Enterprise ADR Validation".toList, named "tests" tests,
        named "failures" failures]
      (results.map Assessment.testCase)]

/-- The report as XML. -/
def junitReport (results : List Assessment) : Text :=
  Xml.document (testSuites results)

end ReviewGate.Record
