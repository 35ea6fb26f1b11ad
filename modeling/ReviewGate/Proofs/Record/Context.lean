import ReviewGate.Proofs.Record.RuleBook

/-!
# The rule on the context

The context of a record is what its sections on the context say, one directly behind the other, and
its heading is taken off by clearing the first line that begins with two number signs. Every section
begins with such signs, so the line that is cleared is the very first one: it begins as the first
section on the context does, and it is the first line of that section unless the section is a
single line, to which the next section is joined (`opensCleared_contextTexts`). What is left is
what stands from the first newline on (`contextBody_eq`).

There is a section for the name of the context exactly when some key holds that name, so the test
for a section and the choice of sections never disagree, and the rule is broken exactly by a record
with such a section and a brief text behind the first newline (`assess_context`).

A heading with nothing below it is such a single line: the heading of the next section on the
context is taken off with it, and a record that tells its context in that heading breaks the rule
(`joined_heading_is_cleared`).
-/

set_option autoImplicit false

namespace ReviewGate.Record

open Text

/-! ## The first line -/

/-- The first line of a text. -/
def firstLine (text : Text) : Text :=
  text.takeWhile (· != '\n')

/-- What stands from the first newline of a text on. -/
def fromNewline (text : Text) : Text :=
  text.dropWhile (· != '\n')

theorem firstLine_append_fromNewline (text : Text) : firstLine text ++ fromNewline text = text :=
  List.takeWhile_append_dropWhile

theorem newline_not_mem_firstLine (text : Text) : '\n' ∉ firstLine text := by
  intro inside
  have other := List.mem_takeWhile_imp inside
  simp at other

/-- The lines of a text are its first line and what stands from the first newline on. -/
theorem exists_lines_eq_cons (text : Text) :
    ∃ below, lines text = firstLine text :: below ∧ unlines ([] :: below) = fromNewline text := by
  have whole := firstLine_append_fromNewline text
  have first := List.head?_dropWhile_not (· != '\n') text
  cases rest : fromNewline text with
  | nil =>
      rw [rest, List.append_nil] at whole
      refine ⟨[], ?_, unlines_singleton []⟩
      have single := newline_not_mem_firstLine text
      rw [whole] at single ⊢
      exact lines_of_single single
  | cons c rest' =>
      rw [rest] at whole
      have newline : c = '\n' := by
        rw [fromNewline] at rest
        rw [rest] at first
        simpa using first
      subst newline
      refine ⟨lines rest', ?_, ?_⟩
      · rw [← whole, lines_line (newline_not_mem_firstLine text), whole]
      · rw [unlines_cons [] (lines_ne_nil rest'), unlines_lines, List.nil_append]

/-- The first line of two texts is that of the first one, if it ends there. -/
theorem firstLine_append {first : Text} (ends : '\n' ∈ first) (second : Text) :
    firstLine (first ++ second) = firstLine first := by
  obtain ⟨front, back, rfl⟩ := List.append_of_mem ends
  have stops (rest : Text) : firstLine (front ++ '\n' :: rest) = firstLine front :=
    takeWhile_append_stop rfl front rest
  rw [List.append_assoc, List.cons_append, stops, stops]

theorem firstLine_append_of_single {first : Text} (single : '\n' ∉ first) (second : Text) :
    firstLine (first ++ second) = first ++ firstLine second := by
  refine List.takeWhile_append_of_pos fun c member => ?_
  rw [bne_iff_ne]
  rintro rfl
  exact single member

theorem prefix_firstLine {front text : Text} (single : '\n' ∉ front) (begins : front <+: text) :
    front <+: firstLine text := by
  obtain ⟨rest, rfl⟩ := begins
  exact firstLine_append_of_single single rest ▸ List.prefix_append front (firstLine rest)

/-! ## Clearing the heading -/

/-- When the first line has the signs, it is the one that is cleared. -/
theorem clearHeadingLine_cons {line : Text} (signs : ['#', '#'] <+: line) (below : List Text) :
    clearHeadingLine (line :: below) = [] :: below :=
  if_pos (List.isPrefixOf_iff_prefix.mpr signs)

/-- What a text that begins with the signs is without its heading. -/
theorem clearHeadingLine_lines {text : Text} (signs : ['#', '#'] <+: text) :
    ∃ below, lines text = firstLine text :: below ∧
      clearHeadingLine (lines text) = [] :: below ∧ unlines ([] :: below) = fromNewline text := by
  obtain ⟨below, parts, rest⟩ := exists_lines_eq_cons text
  refine ⟨below, parts, ?_, rest⟩
  rw [parts]
  exact clearHeadingLine_cons (prefix_firstLine (by decide) signs) below

/-- What clearing the heading does to a section with more text behind it. The line that is cleared
is the first one. It is the first line of the section, which has the signs, and only when the
section has no further line, the line goes on with what is joined to it. -/
structure OpensCleared (first behind : Text) : Prop where
  cleared : ∃ below, lines (first ++ behind) = firstLine (first ++ behind) :: below ∧
    clearHeadingLine (lines (first ++ behind)) = [] :: below
  signs : ['#', '#'] <+: firstLine first
  alone : '\n' ∈ first → firstLine (first ++ behind) = firstLine first
  joined : '\n' ∉ first → firstLine (first ++ behind) = first ++ firstLine behind

/-! ## The context of a record -/

/-- The texts of the sections whose keys hold the name of the context, in their order. -/
def Document.contextTexts (document : Document) : List Text :=
  (document.sections.filter fun entry => occurs contextName entry.1).map fun entry =>
    entry.2.content

theorem lower_contextName : lower contextName = contextName := by
  decide +kernel

/-- There is a section on the context exactly when there are texts of such sections. -/
theorem Document.hasSection_context_iff {document : Document} :
    document.hasSection contextName = true ↔ document.contextTexts ≠ [] := by
  rw [Document.hasSection_iff, lower_contextName, Document.contextTexts, ne_eq, List.map_eq_nil_iff,
    List.filter_eq_nil_iff]
  simp only [occurs_iff, not_forall, not_not, exists_prop]

section Read

variable {text path : Text}

/-- Every section begins with two number signs. -/
theorem signs_of_mem_contextTexts {content : Text}
    (member : content ∈ (Document.read text path).contextTexts) : ['#', '#'] <+: content := by
  obtain ⟨entry, chosen, rfl⟩ := List.mem_map.mp member
  have stored := (List.mem_filter.mp chosen).1
  have stands := stands_of_mem_sectionsOf (mem_indexed (sectionsOf text) stored).2
  exact Section.Stands.marks_prefix stands

theorem signs_contextTexts (filled : (Document.read text path).contextTexts ≠ []) :
    ['#', '#'] <+: (Document.read text path).contextTexts.flatten := by
  obtain ⟨first, others, texts⟩ := List.exists_cons_of_ne_nil filled
  have signs : ['#', '#'] <+: first := signs_of_mem_contextTexts (texts ▸ List.mem_cons_self)
  rw [texts, List.flatten_cons]
  exact signs.trans (List.prefix_append first others.flatten)

/-- **The context is what stands from the first newline on.** -/
theorem contextBody_eq (filled : (Document.read text path).contextTexts ≠ []) :
    contextBody (Document.read text path) =
      trim (fromNewline (Document.read text path).contextTexts.flatten) := by
  obtain ⟨below, _, cleared, rest⟩ := clearHeadingLine_lines (signs_contextTexts filled)
  rw [← rest, ← cleared]
  rfl

/-- **The first line is cleared, and the first section opens it.** -/
theorem opensCleared_contextTexts {first : Text} {others : List Text}
    (texts : (Document.read text path).contextTexts = first :: others) :
    OpensCleared first others.flatten := by
  have filled : (Document.read text path).contextTexts ≠ [] := texts ▸ List.cons_ne_nil first others
  have signs := signs_contextTexts filled
  rw [texts, List.flatten_cons] at signs
  obtain ⟨below, parts, cleared, _⟩ := clearHeadingLine_lines signs
  have own : ['#', '#'] <+: first := signs_of_mem_contextTexts (texts ▸ List.mem_cons_self)
  exact {
    cleared := ⟨below, parts, cleared⟩
    signs := prefix_firstLine (by decide) own
    alone := fun ends => firstLine_append ends others.flatten
    joined := fun single => firstLine_append_of_single single others.flatten }

/-- A record breaks the rule when it has a section on the context, but little text in it. -/
theorem reports_context_iff :
    (assess text path).Reports "ADR-STR-003".toList ↔
      (Document.read text path).contextTexts ≠ [] ∧
        (trim (fromNewline (Document.read text path).contextTexts.flatten)).length ≤
          minContextLength := by
  rw [reports_assess_iff_check contextIsSubstantial rfl, contextIsSubstantial,
    Bool.or_eq_false_iff, Bool.not_eq_false', Document.hasSection_context_iff,
    decide_eq_false_iff_not, Nat.not_lt]
  exact and_congr_right fun filled => by rw [contextBody_eq filled]

end Read

/-- **The context of a record is too brief** exactly when there is a key that holds its name and the
texts of all sections with such keys, joined without anything between them, have at most fifty
characters from the first newline on, trimmed. The test for a section and the choice of the texts
agree, and the heading that is taken off is the first line of the first section, with what is joined
to it when that section has no further line. -/
theorem assess_context (text path : Text) :
    ((assess text path).Reports "ADR-STR-003".toList ↔
        (∃ entry ∈ (Document.read text path).sections, contextName <:+: entry.1) ∧
          (trim (fromNewline (Document.read text path).contextTexts.flatten)).length ≤ 50) ∧
      ((Document.read text path).hasSection contextName = true ↔
        (Document.read text path).contextTexts ≠ []) ∧
      ∀ first others, (Document.read text path).contextTexts = first :: others →
        OpensCleared first others.flatten := by
  refine ⟨?_, Document.hasSection_context_iff, fun first others => opensCleared_contextTexts⟩
  rw [reports_context_iff, ← Document.hasSection_context_iff, Document.hasSection_iff,
    lower_contextName]
  rfl

/-- A record that has a heading with nothing below it, and tells its context in the next heading. -/
def headingAlone : Text :=
  "## Context\n## Context of all that the service keeps and of who may ever read it\nWhy".toList

/-- **The line that is cleared need not be the first line of the first section.** The two headings
make one line, which is cleared as a whole, and the record breaks the rule with the three letters
that are left, though without the first heading alone its context would be long enough. -/
theorem joined_heading_is_cleared :
    ∃ first behind : Text, (Document.read headingAlone []).contextTexts = [first, behind] ∧
      firstLine first = "## Context".toList ∧
      clearHeadingLine (lines (first ++ behind)) = [[], "Why".toList] ∧
      firstLine (first ++ behind) ≠ firstLine first ∧
      (assess headingAlone []).Reports "ADR-STR-003".toList ∧
      50 < (trim (fromNewline first ++ behind)).length := by
  refine ⟨"## Context".toList,
    "## Context of all that the service keeps and of who may ever read it\nWhy".toList, ?_⟩
  decide +kernel

end ReviewGate.Record
