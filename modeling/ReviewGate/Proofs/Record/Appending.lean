import ReviewGate.Proofs.Record.Header
import ReviewGate.Proofs.Record.Lookup
import ReviewGate.Proofs.Text.Lines
import ReviewGate.Record.Assessment

/-!
# What appending keeps

A text is read from the left, so one would think that nothing appended behind a
newline changes what is read in front of it. Two readings look further. White
space behind the signs of a heading, or behind the label of a header value, may
run over the ends of lines, so an empty heading or value at the end of a text
is filled by what is appended.

Nothing else changes. All headings but an empty last one are found again
(`Scans.longer`), and the keys of the sections are never less, although a
repeated heading replaces the section under its key. A title or header value
that is not empty stays what it is, because the labels in front of it have more
than white space behind them already (`headerValue?_append`).

So a rule that asks for something to be there is not broken by appending
(`assess_append`). The other rules may be: a context can be replaced by a brief
one, and what is appended can make the record one about security.
-/

set_option autoImplicit false

namespace ReviewGate.Record

open Text

/-! ## Sections -/

section Sections

variable {text more : Text}

/-- The headings of the sections of a text. -/
theorem heading_sectionsFrom (founds : List (Found Text)) :
    (sectionsFrom text founds).map Section.heading = founds.map Found.value := by
  have headings := congrArg (List.map Found.value) (found_sectionsFrom text founds)
  rwa [List.map_map] at headings

/-- A record has a section of a name when the name occurs in a heading, both in
lower case. -/
theorem hasSection_read_iff {path name : Text} :
    (Document.read text path).hasSection name = true ↔
      ∃ found ∈ sectionHeadings text, lower name <:+: lower found.value := by
  have lowered : (sectionsOf text).map Section.key =
      (sectionHeadings text).map fun found => lower found.value := by
    have headings :
        (sectionsOf text).map Section.heading = (sectionHeadings text).map Found.value :=
      heading_sectionsFrom (sectionHeadings text)
    have keys := congrArg (List.map lower) headings
    rwa [List.map_map, List.map_map] at keys
  have isKey : ∀ key, key ∈ (indexed (sectionsOf text)).map Prod.fst ↔
      ∃ found ∈ sectionHeadings text, lower found.value = key := fun key => by
    rw [keys_indexed, List.mem_eraseDups, lowered, List.mem_map]
  rw [Document.hasSection_iff]
  constructor
  · rintro ⟨entry, member, inside⟩
    obtain ⟨found, among, same⟩ := (isKey entry.1).mp (List.mem_map_of_mem member)
    exact ⟨found, among, same ▸ inside⟩
  · rintro ⟨found, among, inside⟩
    obtain ⟨entry, member, same⟩ := List.mem_map.mp ((isKey _).mpr ⟨found, among, rfl⟩)
    exact ⟨entry, member, same.symm ▸ inside⟩

/-- A heading that is not empty is the same in the longer text. -/
theorem value_eq_of_longer {found other : Found Text} {length size : Nat}
    (stands : found.Stands sectionHeading? text length)
    (standing : other.Stands sectionHeading? (text ++ '\n' :: more) size)
    (place : other.offset = found.offset) (named : found.value ≠ []) :
    other.value = found.value := by
  have matched := standing.matched
  rw [place, List.drop_append_of_le_length (Nat.le_of_lt stands.within),
    sectionHeading?_append (not_blank_of_heading stands.matched named), stands.matched] at matched
  exact (congrArg Match.value (Option.some.inj matched)).symm

/-- **Appending never loses a section.** -/
theorem hasSection_append {path name : Text}
    (present : (Document.read text path).hasSection name = true) :
    (Document.read (text ++ '\n' :: more) path).hasSection name = true := by
  rw [hasSection_read_iff] at present ⊢
  obtain ⟨found, member, inside⟩ := present
  have scans : Scans sectionHeading? text 0 (sectionHeadings text) := scans_scanLines
  have longer : Scans sectionHeading? (text ++ '\n' :: more) 0
      (sectionHeadings (text ++ '\n' :: more)) := scans_scanLines
  obtain ⟨front, last, first, rest, founds, others, place⟩ :=
    scans.longer settled_sectionHeading longer (List.ne_nil_of_mem member)
  have again : first ∈ sectionHeadings (text ++ '\n' :: more) :=
    others ▸ List.mem_append_right front List.mem_cons_self
  have among := member
  rw [founds] at among
  rcases List.mem_append.mp among with earlier | final
  · exact ⟨found, others ▸ List.mem_append_left _ earlier, inside⟩
  · obtain rfl := List.mem_singleton.mp final
    refine ⟨first, again, ?_⟩
    by_cases named : found.value = []
    · -- in an empty heading only the empty name occurs, and it occurs in every other
      rw [named] at inside
      rw [List.infix_nil.mp inside]
      exact List.nil_infix
    · obtain ⟨_, _, stands⟩ := scans.stands member
      obtain ⟨_, _, standing⟩ := longer.stands again
      rwa [value_eq_of_longer stands standing place named]

end Sections

/-! ## The title -/

/-- **A title that is not empty stays the title.** -/
theorem titleOf_append {text : Text} (more : Text) (titled : titleOf text ≠ []) :
    titleOf (text ++ '\n' :: more) = titleOf text := by
  unfold titleOf at titled ⊢
  rw [lines_append, List.findSome?_append]
  cases found : (lines text).findSome? titleOn? with
  | none =>
      rw [found] at titled
      exact absurd rfl titled
  | some title => rfl

/-! ## Header values -/

section Header

variable {text more : Text}

/-- **A date that is not empty stays the date.** -/
theorem date_append {path value : Text} (found : (Document.read text path).date = some value)
    (filled : value ≠ []) : (Document.read (text ++ '\n' :: more) path).date = some value :=
  headerValue?_append (onLines_labels.1 _ List.mem_cons_self).2 found filled

/-- **A status that is not empty stays the status.** -/
theorem status_append {path value : Text} (found : (Document.read text path).status = some value)
    (filled : value ≠ []) : (Document.read (text ++ '\n' :: more) path).status = some value :=
  headerValue?_append (onLines_labels.2.1 _ List.mem_cons_self).2 found filled

end Header

/-! ## Rules that ask for something to be there -/

/-- The rules on required sections, on the title, the section on compliance, the
status, the date and the section on the consequences. -/
def presenceRules : List Text :=
  ["ADR-STR-001".toList, "ADR-STR-002".toList, "ADR-ENT-003".toList, "ADR-ENT-004".toList,
    "ADR-ENT-005".toList, "ADR-COMP-002".toList]

/-- Whether an assessment reports a violation of a rule. -/
def Assessment.Reports (result : Assessment) (id : Text) : Prop :=
  ∃ found ∈ result.violations, found.rule = id

instance (result : Assessment) (id : Text) : Decidable (result.Reports id) :=
  inferInstanceAs (Decidable (∃ found ∈ result.violations, found.rule = id))

/-- A record is assessed by the whole rule book. -/
theorem violations_assess (text path : Text) :
    (assess text path).violations = violations ruleBook (Document.read text path) := by
  simp only [assess, violations, ruleBook, List.filterMap_append]

/-- A violation of a rule is reported when the record fails the test of a rule
with this id. -/
theorem reports_assess_iff {text path id : Text} :
    (assess text path).Reports id ↔
      ∃ rule ∈ ruleBook, rule.id = id ∧ rule.check (Document.read text path) = false := by
  rw [Assessment.Reports, violations_assess]
  simp only [violations, List.mem_filterMap, Rule.violation?]
  constructor
  · rintro ⟨found, ⟨rule, member, broken⟩, rfl⟩
    split at broken
    next => cases broken
    next fails =>
      cases broken
      exact ⟨rule, member, rfl, Bool.eq_false_iff.mpr fails⟩
  · rintro ⟨rule, member, rfl, fails⟩
    exact ⟨rule.violation, ⟨rule, member, if_neg (Bool.eq_false_iff.mp fails)⟩, rfl⟩

/-- A test that a record passes with whatever is appended, if it passes it
without. -/
def Lasting (check : Document → Bool) : Prop :=
  ∀ text more path : Text, check (Document.read text path) = true →
    check (Document.read (text ++ '\n' :: more) path) = true

theorem lasting_hasSection (name : Text) : Lasting fun document => document.hasSection name :=
  fun _ _ _ present => hasSection_append present

theorem lasting_hasRequiredSections : Lasting hasRequiredSections := by
  intro text more path present
  rw [hasRequiredSections, List.all_eq_true] at present ⊢
  exact fun name member => hasSection_append (present name member)

theorem title_ne_nil {document : Document} (titled : hasTitle document = true) :
    document.title ≠ [] := by
  intro empty
  rw [hasTitle, empty] at titled
  cases titled

theorem lasting_hasTitle : Lasting hasTitle := by
  intro text more path titled
  have kept : (Document.read (text ++ '\n' :: more) path).title =
      (Document.read text path).title := titleOf_append more (title_ne_nil titled)
  rw [hasTitle, kept]
  exact titled

/-- A valid status is not empty. -/
theorem exists_of_hasValidStatus {document : Document} (valid : hasValidStatus document = true) :
    ∃ status, document.status = some status ∧ status ≠ [] := by
  cases status : document.status with
  | none =>
      rw [hasValidStatus, status] at valid
      cases valid
  | some text =>
      refine ⟨text, rfl, ?_⟩
      rintro rfl
      rw [hasValidStatus, status] at valid
      revert valid
      decide

theorem lasting_hasValidStatus : Lasting hasValidStatus := by
  intro text more path valid
  obtain ⟨status, found, filled⟩ := exists_of_hasValidStatus valid
  rw [hasValidStatus, found] at valid
  rw [hasValidStatus, status_append found filled]
  exact valid

/-- An ISO date is not empty. -/
theorem exists_of_hasIsoDate {document : Document} (valid : hasIsoDate document = true) :
    ∃ date, document.date = some date ∧ date ≠ [] := by
  obtain ⟨date, found, iso⟩ := (Option.any_eq_true ..).mp valid
  refine ⟨date, found, ?_⟩
  rintro rfl
  cases iso

theorem lasting_hasIsoDate : Lasting hasIsoDate := by
  intro text more path valid
  obtain ⟨date, found, filled⟩ := exists_of_hasIsoDate valid
  rw [hasIsoDate, found] at valid
  rw [hasIsoDate, date_append found filled]
  exact valid

theorem checks_presenceRules :
    (ruleBook.filter (·.id ∈ presenceRules)).map Rule.check =
      [hasRequiredSections, hasTitle, hasCompliance, hasValidStatus, hasIsoDate,
        hasConsequences] := rfl

/-- The tests of all these rules last. -/
theorem lasting_presenceRules {rule : Rule} (member : rule ∈ ruleBook)
    (presence : rule.id ∈ presenceRules) : Lasting rule.check := by
  have chosen : rule ∈ ruleBook.filter (·.id ∈ presenceRules) :=
    List.mem_filter.mpr ⟨member, decide_eq_true presence⟩
  have check := List.mem_map_of_mem (f := Rule.check) chosen
  rw [checks_presenceRules] at check
  simp only [List.mem_cons, List.not_mem_nil, or_false] at check
  rcases check with same | same | same | same | same | same <;> rw [same]
  · exact lasting_hasRequiredSections
  · exact lasting_hasTitle
  · exact lasting_hasSection complianceName
  · exact lasting_hasValidStatus
  · exact lasting_hasIsoDate
  · exact lasting_hasSection "consequences".toList

/-- **Appending never breaks a rule that asks for something to be there.** No
section is lost, a title stays as it is, and so do a valid status and a valid
date. -/
theorem assess_append (text more path : Text) :
    (∀ id ∈ presenceRules, ¬ (assess text path).Reports id →
        ¬ (assess (text ++ '\n' :: more) path).Reports id) ∧
      (∀ name, (Document.read text path).hasSection name = true →
        (Document.read (text ++ '\n' :: more) path).hasSection name = true) ∧
      ((Document.read text path).title ≠ [] →
        (Document.read (text ++ '\n' :: more) path).title = (Document.read text path).title) ∧
      (hasValidStatus (Document.read text path) = true →
        (Document.read (text ++ '\n' :: more) path).status = (Document.read text path).status) ∧
      (hasIsoDate (Document.read text path) = true →
        (Document.read (text ++ '\n' :: more) path).date = (Document.read text path).date) := by
  refine ⟨fun id presence complies broken => ?_, fun _ present => hasSection_append present,
    titleOf_append more, fun valid => ?_, fun valid => ?_⟩
  · obtain ⟨rule, member, rfl, fails⟩ := reports_assess_iff.mp broken
    refine complies (reports_assess_iff.mpr ⟨rule, member, rfl, ?_⟩)
    refine Bool.eq_false_iff.mpr fun passes => ?_
    rw [lasting_presenceRules member presence text more path passes] at fails
    cases fails
  · obtain ⟨status, found, filled⟩ := exists_of_hasValidStatus valid
    rw [found, status_append found filled]
  · obtain ⟨date, found, filled⟩ := exists_of_hasIsoDate valid
    rw [found, date_append found filled]

/-- A record with a title, a status, a date and a section, below which all of
them are given again. -/
theorem assess_append_again :
    let text : Text := "# T\n**Date:** 2020-01-01\n**Status:** Accepted\n## Context".toList
    let more : Text := "# U\n**Date:** now\n**Status:** open\n### context".toList
    ¬ (assess (text ++ '\n' :: more) []).Reports "ADR-ENT-005".toList ∧
      (Document.read (text ++ '\n' :: more) []).hasSection "CONTEXT".toList = true ∧
      (Document.read (text ++ '\n' :: more) []).title = "T".toList ∧
      (Document.read (text ++ '\n' :: more) []).status = some "Accepted".toList ∧
      (Document.read (text ++ '\n' :: more) []).date = some "2020-01-01".toList := by
  intro text more
  obtain ⟨rules, sections, title, status, date⟩ := assess_append text more []
  refine ⟨rules _ (by decide) (by decide), sections _ (by decide), (title (by decide)).trans ?_,
    (status (by decide)).trans ?_, (date (by decide)).trans ?_⟩ <;> decide

end ReviewGate.Record
