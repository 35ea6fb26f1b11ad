import ReviewGate.Record.Document

/-!
# Rules for decision records

A rule is data: what it is called, how severe breaking it is, the test that a record passes or
fails, and what is said about a failure. Every rule is tested on its own, and the violations of a
list of rules stand in the order of the rules.
-/

set_option autoImplicit false

namespace ReviewGate.Record

/-- How severe a violation is. Only errors block outside strict mode. -/
inductive Severity
  | error
  | warning
  | info
  deriving DecidableEq, Repr

namespace Severity

/-- The name of a severity. -/
def name : Severity → Text
  | error => "error".toList
  | warning => "warning".toList
  | info => "info".toList

/-- The severity of a name. -/
def ofName? (name : Text) : Option Severity :=
  [error, warning, info].find? (·.name = name)

end Severity

/-- A violation of a rule. -/
structure Violation where
  rule : Text
  severity : Severity
  message : Text
  hint : Option Text
  deriving DecidableEq, Repr

/-- A rule with its test, which holds of the records that comply. -/
structure Rule where
  id : Text
  name : Text
  severity : Severity
  check : Document → Bool
  message : Text
  hint : Option Text

/-- What is said about a record that breaks a rule. -/
def Rule.violation (rule : Rule) : Violation :=
  ⟨rule.id, rule.severity, rule.message, rule.hint⟩

/-- The violation of a rule by a record, if it breaks the rule. -/
def Rule.violation? (rule : Rule) (document : Document) : Option Violation :=
  if rule.check document then none else some rule.violation

/-- The violations of rules by a record, in the order of the rules. -/
def violations (rules : List Rule) (document : Document) : List Violation :=
  rules.filterMap (·.violation? document)

end ReviewGate.Record
