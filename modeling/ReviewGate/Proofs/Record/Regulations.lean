import ReviewGate.Proofs.Record.RuleBook
import ReviewGate.Proofs.Text.Lower

/-!
# The rules on regulations

Whether a record names a regulation is asked of its whole text and, in one rule, of the section on
compliance first. The second question is superfluous: a section is a part of the text, and a name
that is found in a part, letter case apart, is found in the whole text
(`infix_lower_sectionText`). That needs an argument, because lower case does not commute with
taking a part; but the names of regulations hold no sigma, and nothing else depends on what stands
around a character.

Two rules look at regulations, one at records about security that name none, and one at records that
name one and no deciders. So they never report the same record (`assess_regulations`).
-/

set_option autoImplicit false

namespace ReviewGate.Record

open Text

/-! ## Names of regulations -/

theorem withoutSigma_regulationWords : ∀ word ∈ regulationWords, WithoutSigma word := by
  decide

theorem mentionsRegulation_iff {text : Text} :
    mentionsRegulation text = true ↔ ∃ word ∈ regulationWords, word <:+: lower text := by
  simp only [mentionsRegulation, List.any_eq_true, occurs_iff]

/-- The names are given in lower case. -/
theorem lower_of_mem_regulationWords : ∀ word ∈ regulationWords, lower word = word := by
  decide +kernel

/-- A name in whatever letter case names a regulation. -/
theorem mentionsRegulation_of_lower_eq {word text : Text} (member : word ∈ regulationWords)
    (same : lower text = lower word) : mentionsRegulation text = true := by
  rw [lower_of_mem_regulationWords word member] at same
  exact mentionsRegulation_iff.mpr ⟨word, member, same ▸ List.infix_rfl⟩

/-- **What a part of a text names, the text names.** -/
theorem mentionsRegulation_of_part {part text : Text} (inside : part <:+: text)
    (mentioned : mentionsRegulation part = true) : mentionsRegulation text = true := by
  obtain ⟨word, member, found⟩ := mentionsRegulation_iff.mp mentioned
  have without := withoutSigma_regulationWords word member
  exact mentionsRegulation_iff.mpr ⟨word, member, infix_lower_of_infix without inside found⟩

/-! ## Sections as parts of the text -/

theorem infix_slice (text : Text) (start stop : Nat) : slice text start stop <:+: text :=
  (List.take_prefix _ _).isInfix.trans (List.drop_suffix start text).isInfix

/-- The text of a section is a part of the text of the record. -/
theorem infix_sectionText (text path name : Text) :
    (Document.read text path).sectionText name <:+: text := by
  unfold Document.sectionText
  cases found : (Document.read text path).section? name with
  | none => exact List.nil_infix
  | some part =>
      obtain ⟨key, member, _⟩ := Document.exists_mem_of_section? found
      have stands := stands_of_mem_sectionsOf (mem_indexed (sectionsOf text) member).2
      change part.content <:+: text
      rw [stands.content_eq]
      exact (infix_trim _).trans (infix_slice text part.start part.stop)

/-- What is found in a section, letter case apart, is found in the text. -/
theorem infix_lower_sectionText {text path name word : Text} (member : word ∈ regulationWords)
    (found : word <:+: lower ((Document.read text path).sectionText name)) : word <:+: lower text :=
  infix_lower_of_infix (withoutSigma_regulationWords word member)
    (infix_sectionText text path name) found

/-! ## The two rules -/

section Rules

variable {text path : Text}

/-- Looking into the section on compliance first changes nothing. -/
theorem securityNamesStandard_read :
    securityNamesStandard (Document.read text path) =
      (!(Document.read text path).isSecurityRelated || mentionsRegulation text) := by
  have within := mentionsRegulation_of_part (infix_sectionText text path complianceName)
  rw [securityNamesStandard, Bool.or_assoc]
  refine congrArg _ ?_
  cases mentioned : mentionsRegulation ((Document.read text path).sectionText complianceName) with
  | false => rfl
  | true => exact (within mentioned).symm

/-- A record that is about security is reported when its text names no regulation. -/
theorem reports_security_iff :
    (assess text path).Reports "ADR-COMP-001".toList ↔
      (Document.read text path).isSecurityRelated = true ∧ mentionsRegulation text = false := by
  rw [reports_assess_iff_check securityNamesStandard rfl, securityNamesStandard_read,
    Bool.or_eq_false_iff, Bool.not_eq_false']

/-- A record that names a regulation is reported when it names no deciders. -/
theorem reports_deciders_iff :
    (assess text path).Reports "ADR-COMP-003".toList ↔
      mentionsRegulation text = true ∧
        ∀ deciders ∈ (Document.read text path).deciders, Blank deciders := by
  rw [reports_assess_iff_check regulatedNamesDeciders rfl, regulatedNamesDeciders,
    Bool.or_eq_false_iff, Bool.not_eq_false', Option.any_eq_false]
  refine and_congr_right fun _ => forall₂_congr fun deciders _ => ?_
  rw [Bool.not_eq_false', List.isEmpty_iff, trim_eq_nil_iff]

end Rules

/-- **The rules on regulations ask about the whole text.** A record about security is reported when
its text names no regulation, since what a section names, the text names. A record that names a
regulation is reported when its deciders are absent or blank. So no record is reported by both
rules, and to insert the name of a regulation anywhere, in whatever letter case and with whatever
around it, answers the first one. -/
theorem assess_regulations (text path : Text) :
    ((assess text path).Reports "ADR-COMP-001".toList ↔
        (Document.read text path).isSecurityRelated = true ∧ mentionsRegulation text = false) ∧
      (∀ name, ∀ word ∈ regulationWords,
        word <:+: lower ((Document.read text path).sectionText name) → word <:+: lower text) ∧
      ¬ ((assess text path).Reports "ADR-COMP-001".toList ∧
          (assess text path).Reports "ADR-COMP-003".toList) ∧
      ((assess text path).Reports "ADR-COMP-003".toList ↔
        mentionsRegulation text = true ∧
          ∀ deciders ∈ (Document.read text path).deciders, Blank deciders) ∧
      ∀ word ∈ regulationWords, ∀ inserted, lower inserted = lower word → ∀ front back,
        ¬ (assess (front ++ inserted ++ back) path).Reports "ADR-COMP-001".toList := by
  refine ⟨reports_security_iff, fun name word member => infix_lower_sectionText member, ?_,
    reports_deciders_iff, fun word member inserted same front back => ?_⟩
  · rintro ⟨security, deciders⟩
    have silent := (reports_security_iff.mp security).2
    rw [(reports_deciders_iff.mp deciders).1] at silent
    cases silent
  · intro security
    have silent := (reports_security_iff.mp security).2
    have mentioned := mentionsRegulation_of_lower_eq member same
    rw [mentionsRegulation_of_part ⟨front, back, rfl⟩ mentioned] at silent
    cases silent

end ReviewGate.Record
