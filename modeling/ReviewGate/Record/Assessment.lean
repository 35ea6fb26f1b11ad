import ReviewGate.Record.RuleBook

/-!
# Assessed records

Assessing a record reads it and tests the three sets of rules one after the other. A list of
assessments is passed or failed as a whole: errors always fail it, warnings only in strict mode.
-/

set_option autoImplicit false

namespace ReviewGate.Record

/-- A record with its violations. -/
structure Assessment where
  path : Text
  title : Text
  violations : List Violation
  deriving DecidableEq, Repr

namespace Assessment

/-- The violations of one severity. -/
def ofSeverity (severity : Severity) (result : Assessment) : List Violation :=
  result.violations.filter (·.severity = severity)

/-- The violations that are errors. -/
def errors (result : Assessment) : List Violation :=
  result.ofSeverity .error

/-- The violations that are warnings. -/
def warnings (result : Assessment) : List Violation :=
  result.ofSeverity .warning

end Assessment

/-- Reads and assesses a record. -/
def assess (text path : Text) : Assessment :=
  let document := Document.read text path
  ⟨path, document.title, violations structuralRules document ++
    violations enterpriseRules document ++ violations complianceRules document⟩

/-- Whether a list of assessments fails. -/
def shouldFail (results : List Assessment) (strict : Bool) : Bool :=
  results.any (! ·.errors.isEmpty) || (strict && results.any (! ·.warnings.isEmpty))

end ReviewGate.Record
