import ReviewGate.Record.Alternatives
import ReviewGate.Record.Rule

/-!
# The rule book

The rules fall into three sets. The structural rules ask for the parts that every record has. The
enterprise rules ask for alternatives with reasons, a statement on compliance, a status and a
date. The compliance rules only warn, so they never block a record that no regulation concerns.
-/

set_option autoImplicit false

namespace ReviewGate.Record

open Text

/-! ## Vocabulary -/

/-- The names of the sections that every record has. -/
def requiredSections : List Text := ["context".toList, "decision".toList]

/-- The states in the life of a decision. -/
def validStatuses : List Text :=
  ["Proposed".toList, "Accepted".toList, "Deprecated".toList, "Superseded".toList]

/-- The names of regulations and standards. -/
def regulationWords : List Text :=
  ["pci".toList, "gdpr".toList, "iso 27001".toList, "soc2".toList, "soc 2".toList,
    "hipaa".toList, "psd2".toList, "eba".toList]

/-- The words that make a record one about security. -/
def securityWords : List Text :=
  ["authentication".toList, "authorization".toList, "encryption".toList, "auth".toList,
    "token".toList, "certificate".toList, "tls".toList, "ssl".toList, "rbac".toList, "jwt".toList]

/-- The most characters of a context that is still too brief. -/
def minContextLength : Nat := 50

/-- The name of the section on the context. -/
def contextName : Text := "context".toList

/-- The name of the section on compliance. -/
def complianceName : Text := "compliance".toList

/-- Whether a text names a regulation or standard. -/
def mentionsRegulation (text : Text) : Bool :=
  let lowered := lower text
  regulationWords.any (occurs · lowered)

/-- Whether a record is about security. -/
def Document.isSecurityRelated (document : Document) : Bool :=
  let lowered := lower document.raw
  securityWords.any (occurs · lowered)

/-! ## Tests -/

/-- The required sections are there. -/
def hasRequiredSections (document : Document) : Bool :=
  requiredSections.all document.hasSection

/-- There is a title. -/
def hasTitle (document : Document) : Bool :=
  !(trim document.title).isEmpty

/-- The lines without the first one that begins with two number signs, which is left empty. -/
def clearHeadingLine : List Text → List Text
  | [] => []
  | line :: more =>
    if "##".toList.isPrefixOf line then [] :: more else line :: clearHeadingLine more

/-- The text of all sections on the context, without the heading of the first. -/
def contextBody (document : Document) : Text :=
  let texts := (document.sections.filter fun entry => occurs contextName entry.1).map
    fun entry => entry.2.content
  trim (unlines (clearHeadingLine (lines texts.flatten)))

/-- The context, where there is one, is not too brief. -/
def contextIsSubstantial (document : Document) : Bool :=
  !document.hasSection contextName || minContextLength < (contextBody document).length

/-- There are two alternatives. -/
def hasTwoAlternatives (document : Document) : Bool :=
  2 ≤ document.countAlternatives

/-- There are alternatives, and reasons for their rejection. -/
def alternativesExplainRejection (document : Document) : Bool :=
  1 ≤ document.countAlternatives && document.explainsRejection

/-- There is a section on compliance. -/
def hasCompliance (document : Document) : Bool :=
  document.hasSection complianceName

/-- The status is one of the states in the life of a decision. -/
def hasValidStatus (document : Document) : Bool :=
  match document.status with
  | some status => validStatuses.any fun valid => occurs (lower valid) (lower status)
  | none => false

/-- Four, two and two ASCII digits with hyphens between them. -/
def isIsoDate (text : Text) : Bool :=
  match text with
  | [a, b, c, d, hyphen, e, f, hyphen', g, h] =>
    [a, b, c, d, e, f, g, h].all Char.isDigit && hyphen == '-' && hyphen' == '-'
  | _ => false

/-- The date is an ISO date. -/
def hasIsoDate (document : Document) : Bool :=
  document.date.any fun date => isIsoDate (trim date)

/-- A record about security names a standard, in its section on compliance or elsewhere. -/
def securityNamesStandard (document : Document) : Bool :=
  !document.isSecurityRelated || mentionsRegulation (document.sectionText complianceName) ||
    mentionsRegulation document.raw

/-- There is a section on the consequences. -/
def hasConsequences (document : Document) : Bool :=
  document.hasSection "consequences".toList

/-- A record that names a regulation names its deciders. -/
def regulatedNamesDeciders (document : Document) : Bool :=
  !mentionsRegulation document.raw ||
    document.deciders.any fun deciders => !(trim deciders).isEmpty

/-! ## The sets of rules -/

/-- What every record has. -/
def structuralRules : List Rule := [
  { id := "ADR-STR-001".toList
    name := "Required Sections Present".toList
    severity := .error
    check := hasRequiredSections
    message := "ADR is missing required sections: \"## Context\" and/or \"## Decision\".".toList
    hint := some ("Add the missing sections. Minimum structure: ## Context, ## Decision, " ++
      "## Alternatives Considered, ## Consequences.").toList },
  { id := "ADR-STR-002".toList
    name := "ADR Has a Title".toList
    severity := .error
    check := hasTitle
    message := "ADR has no title. The first heading must identify the decision.".toList
    hint := some
      "Start the document with \"# ADR-NNN: Short description of the decision\".".toList },
  { id := "ADR-STR-003".toList
    name := "Context Section Is Not Empty".toList
    severity := .warning
    check := contextIsSubstantial
    message := "The \"Context\" section appears to be empty or too brief.".toList
    hint := some ("Write at least 2-3 sentences explaining the problem, the constraints, " ++
      "and why a decision is needed.").toList }]

/-- What the policy for decisions asks for. -/
def enterpriseRules : List Rule := [
  { id := "ADR-ENT-001".toList
    name := "Alternatives Analysis Required".toList
    severity := .error
    check := hasTwoAlternatives
    message := ("Enterprise ADRs must document at least 2 alternatives. Found fewer than 2 " ++
      "in \"Alternatives Considered\" section.").toList
    hint := some ("Add a table or list with at least 2 alternative approaches and explain " ++
      "why each was rejected.").toList },
  { id := "ADR-ENT-002".toList
    name := "Alternatives Must Include Rejection Reasons".toList
    severity := .error
    check := alternativesExplainRejection
    message := ("Each alternative must explain why it was rejected. Missing rejection " ++
      "reasoning in \"Alternatives Considered\" section.").toList
    hint := some ("Add \"rejected because\" or a \"Why rejected\" column to each alternative " ++
      "entry.").toList },
  { id := "ADR-ENT-003".toList
    name := "Compliance Impact Assessment Required".toList
    severity := .error
    check := hasCompliance
    message := ("Compliance impact section is missing. Enterprise ADRs must explicitly " ++
      "state compliance implications (even if none).").toList
    hint := some ("Add \"## Compliance Impact\" section stating which standards (PCI-DSS, GDPR, " ++
      "ISO 27001, SOC2) are affected, or confirm no compliance impact.").toList },
  { id := "ADR-ENT-004".toList
    name := "Decision Status Lifecycle".toList
    severity := .error
    check := hasValidStatus
    message := ("ADR status is missing or invalid. Must be one of: ".toList ++
      List.intercalate ", ".toList validStatuses ++ ".".toList)
    hint := some ("Add \"**Status:** Accepted\" (or Proposed/Deprecated/Superseded) to the ADR " ++
      "header.").toList },
  { id := "ADR-ENT-005".toList
    name := "Date Format ISO 8601".toList
    severity := .error
    check := hasIsoDate
    message := "ADR date is missing or not in ISO 8601 format (YYYY-MM-DD).".toList
    hint := some "Add \"**Date:** 2026-02-20\" to the ADR header.".toList }]

/-- What regulations make advisable. -/
def complianceRules : List Rule := [
  { id := "ADR-COMP-001".toList
    name := "Security ADR Must Reference Compliance Standard".toList
    severity := .warning
    check := securityNamesStandard
    message := ("This ADR appears security-related but does not reference any compliance " ++
      "standard (PCI-DSS, GDPR, ISO 27001, SOC2).").toList
    hint := some ("Add the applicable standard to the \"Compliance Impact\" section, or confirm " ++
      "explicitly that no standard applies.").toList },
  { id := "ADR-COMP-002".toList
    name := "Consequences Section Must Be Present".toList
    severity := .warning
    check := hasConsequences
    message := "\"Consequences\" section is missing.".toList
    hint := some ("Add \"## Consequences\" with positive (+) and negative (-) consequences " ++
      "of the decision.").toList },
  { id := "ADR-COMP-003".toList
    name := "Regulated ADR Must Name Deciders".toList
    severity := .warning
    check := regulatedNamesDeciders
    message := ("ADR references regulated data but does not name deciders. Compliance " ++
      "audits require accountability.").toList
    hint := some "Add \"**Deciders:** [name, role]\" to the ADR header.".toList }]

/-- The whole rule book. -/
def ruleBook : List Rule :=
  structuralRules ++ enterpriseRules ++ complianceRules

end ReviewGate.Record
