import Mathlib.Data.List.Nodup
import Mathlib.Order.Basic
import ReviewGate.Proofs.Record.Appending

/-!
# Records against the rule book

The three sets of rules are tested one after the other, and the book lists them in the same order.
An assessment is therefore the book with the rules left out that the record complies with
(`violations_eq_filter`, `violations_assess`). No rule looks at where the record comes from
(`check_read_path`), so it does not matter under which path the record was read.

The verdict follows from the severities in the book. There are only errors and warnings in it, so
the two lists divide the violations between them, and a strict verdict finds fault with every one.
Without strictness a record fails when it breaks one of the blocking rules, and the compliance
rules are not among these (`assess_against_ruleBook`).
-/

set_option autoImplicit false

namespace ReviewGate.Record

/-! ## Lists of rules -/

/-- **The violations are those of the rules that the record does not comply with**, in the order of
the rules. -/
theorem violations_eq_filter (rules : List Rule) (document : Document) :
    violations rules document = (rules.filter (! ·.check document)).map Rule.violation := by
  induction rules with
  | nil => rfl
  | cons rule more ih =>
      rw [violations] at ih
      rw [violations, List.filterMap_cons, List.filter_cons, ih, Rule.violation?]
      cases rule.check document <;> rfl

/-- Every rule is tested on its own. -/
theorem violations_append (first second : List Rule) (document : Document) :
    violations (first ++ second) document =
      violations first document ++ violations second document :=
  List.filterMap_append

/-! ## The rules of the book -/

/-- The tests of the book, in its order. -/
theorem checks_ruleBook :
    ruleBook.map Rule.check =
      [hasRequiredSections, hasTitle, contextIsSubstantial, hasTwoAlternatives,
        alternativesExplainRejection, hasCompliance, hasValidStatus, hasIsoDate,
        securityNamesStandard, hasConsequences, regulatedNamesDeciders] := rfl

/-- No rule looks at the path of a record. -/
theorem check_read_path {rule : Rule} (member : rule ∈ ruleBook) (text path other : Text) :
    rule.check (Document.read text path) = rule.check (Document.read text other) := by
  have check : rule.check ∈ ruleBook.map Rule.check := List.mem_map_of_mem member
  rw [checks_ruleBook] at check
  simp only [List.mem_cons, List.not_mem_nil, or_false] at check
  rcases check with same | same | same | same | same | same | same | same | same | same | same <;>
    rw [same] <;> rfl

/-- A record has the same violations under every path. -/
theorem violations_read_path (text path other : Text) :
    violations ruleBook (Document.read text path) =
      violations ruleBook (Document.read text other) := by
  refine List.filterMap_congr fun rule member => ?_
  rw [Rule.violation?, Rule.violation?, check_read_path member text path other]

theorem nodup_ids_ruleBook : (ruleBook.map Rule.id).Nodup := by
  decide

/-- A rule of the book is reported when the record fails its test. -/
theorem reports_assess_iff_check {text path id : Text} (check : Document → Bool)
    (tests : (ruleBook.filter (·.id = id)).map Rule.check = [check]) :
    (assess text path).Reports id ↔ check (Document.read text path) = false := by
  have tested (rule : Rule) (member : rule ∈ ruleBook) (named : rule.id = id) :
      rule.check = check := by
    have chosen : rule ∈ ruleBook.filter (·.id = id) :=
      List.mem_filter.mpr ⟨member, decide_eq_true named⟩
    have among := List.mem_map_of_mem (f := Rule.check) chosen
    rw [tests] at among
    exact List.mem_singleton.mp among
  rw [reports_assess_iff]
  constructor
  · rintro ⟨rule, member, named, fails⟩
    rwa [tested rule member named] at fails
  · intro fails
    have filled : ruleBook.filter (·.id = id) ≠ [] := by
      intro empty
      rw [empty] at tests
      cases tests
    obtain ⟨rule, chosen⟩ := List.exists_mem_of_ne_nil _ filled
    obtain ⟨member, named⟩ := List.mem_filter.mp chosen
    have named := of_decide_eq_true named
    exact ⟨rule, member, named, by rwa [tested rule member named]⟩

/-- The rules that fail a record without strictness. -/
def blockingRules : List Text :=
  ["ADR-STR-001".toList, "ADR-STR-002".toList, "ADR-ENT-001".toList, "ADR-ENT-002".toList,
    "ADR-ENT-003".toList, "ADR-ENT-004".toList, "ADR-ENT-005".toList]

/-- The blocking rules of the book are errors and all others warnings. -/
theorem severity_ruleBook : ∀ rule ∈ ruleBook,
    rule.severity = if rule.id ∈ blockingRules then .error else .warning := by
  decide

/-! ## Assessments -/

section Assessed

variable (text path : Text)

/-- A violation comes from a rule of the book that the record breaks. -/
theorem exists_rule_of_mem_assess {text path : Text} {found : Violation}
    (member : found ∈ (assess text path).violations) :
    ∃ rule ∈ ruleBook, rule.check (Document.read text path) = false ∧ found = rule.violation := by
  rw [violations_assess, violations_eq_filter] at member
  obtain ⟨rule, broken, rfl⟩ := List.mem_map.mp member
  obtain ⟨listed, fails⟩ := List.mem_filter.mp broken
  exact ⟨rule, listed, Bool.not_eq_true' _ ▸ fails, rfl⟩

/-- No rule is reported twice. -/
theorem nodup_ids_assess : ((assess text path).violations.map Violation.rule).Nodup := by
  have ids : (assess text path).violations.map Violation.rule =
      (ruleBook.filter (! ·.check (Document.read text path))).map Rule.id := by
    rw [violations_assess, violations_eq_filter, List.map_map]
    rfl
  rw [ids]
  exact nodup_ids_ruleBook.sublist (List.filter_sublist.map Rule.id)

/-- A violation is an error exactly when its rule is one of the blocking ones, and otherwise it is
a warning. -/
theorem severity_of_mem_assess {text path : Text} {found : Violation}
    (member : found ∈ (assess text path).violations) :
    found.severity = if found.rule ∈ blockingRules then .error else .warning := by
  obtain ⟨rule, listed, _, rfl⟩ := exists_rule_of_mem_assess member
  exact severity_ruleBook rule listed

theorem mem_ofSeverity_iff {result : Assessment} {severity : Severity} {found : Violation} :
    found ∈ result.ofSeverity severity ↔ found ∈ result.violations ∧ found.severity = severity := by
  rw [Assessment.ofSeverity, List.mem_filter, decide_eq_true_iff]

/-- Every violation is either an error or a warning. -/
theorem xor_mem_of_mem_assess {text path : Text} {found : Violation}
    (member : found ∈ (assess text path).violations) :
    Xor (found ∈ (assess text path).errors) (found ∈ (assess text path).warnings) := by
  have severity := severity_of_mem_assess member
  simp only [Assessment.errors, Assessment.warnings, mem_ofSeverity_iff, member, true_and]
  split at severity <;> simp [severity, Xor]

/-- There is an error exactly when a blocking rule is reported. -/
theorem errors_assess_iff :
    (assess text path).errors ≠ [] ↔ ∃ id ∈ blockingRules, (assess text path).Reports id := by
  constructor
  · intro filled
    obtain ⟨found, listed⟩ := List.exists_mem_of_ne_nil _ filled
    obtain ⟨member, error⟩ := mem_ofSeverity_iff.mp listed
    refine ⟨found.rule, ?_, found, member, rfl⟩
    by_contra other
    rw [severity_of_mem_assess member, if_neg other] at error
    cases error
  · rintro ⟨id, blocking, found, member, rfl⟩
    exact List.ne_nil_of_mem
      (mem_ofSeverity_iff.mpr ⟨member, (severity_of_mem_assess member).trans (if_pos blocking)⟩)

/-- There are violations exactly when there are errors or warnings. -/
theorem violations_assess_iff :
    (assess text path).violations ≠ [] ↔
      (assess text path).errors ≠ [] ∨ (assess text path).warnings ≠ [] := by
  constructor
  · intro filled
    obtain ⟨found, member⟩ := List.exists_mem_of_ne_nil _ filled
    exact (xor_mem_of_mem_assess member).or.imp List.ne_nil_of_mem List.ne_nil_of_mem
  · rintro (filled | filled) empty
    all_goals
      refine filled (List.filter_eq_nil_iff.mpr fun found member => ?_)
      exact (List.ne_nil_of_mem member empty).elim

/-- **A record is assessed by the rule book, rule by rule.** Its violations are those of the rules
it does not comply with, and its verdict is that of the blocking rules, or of all rules when it is
strict. -/
theorem assess_against_ruleBook :
    (∀ other : Text, (assess text path).violations =
        (ruleBook.filter fun rule => rule.check (Document.read text other) = false).map
          fun rule => ⟨rule.id, rule.severity, rule.message, rule.hint⟩) ∧
      (∀ other : Text, (assess text path).violations =
        violations ruleBook (Document.read text other)) ∧
      (∀ (first second : List Rule) (document : Document), violations (first ++ second) document =
        violations first document ++ violations second document) ∧
      ((assess text path).violations.map Violation.rule).Nodup ∧
      (∀ found ∈ (assess text path).violations,
        Xor (found ∈ (assess text path).errors) (found ∈ (assess text path).warnings)) ∧
      (assess text path).errors.Sublist (assess text path).violations ∧
      (assess text path).warnings.Sublist (assess text path).violations ∧
      (shouldFail [assess text path] false = true ↔
        ∃ id ∈ blockingRules, (assess text path).Reports id) ∧
      (shouldFail [assess text path] true = true ↔ (assess text path).violations ≠ []) := by
  have book : ∀ other : Text, (assess text path).violations =
      violations ruleBook (Document.read text other) := fun other =>
    (violations_assess text path).trans (violations_read_path text path other)
  refine ⟨fun other => ?_, book, violations_append, nodup_ids_assess text path,
    fun _ member => xor_mem_of_mem_assess member, List.filter_sublist, List.filter_sublist, ?_, ?_⟩
  · rw [book other, violations_eq_filter]
    refine congrArg _ (List.filter_congr fun rule _ => ?_)
    cases rule.check (Document.read text other) <;> rfl
  · rw [← errors_assess_iff]
    simp [shouldFail]
  · rw [violations_assess_iff]
    simp [shouldFail]

end Assessed

end ReviewGate.Record
