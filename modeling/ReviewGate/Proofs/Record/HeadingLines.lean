import ReviewGate.Proofs.Record.Sections
import ReviewGate.Proofs.Text.FilledLine

/-!
# Headings line by line

A heading line holds two or three number signs, white space and a text that is
not blank, and the heading is that text, trimmed. A scan for section headings
finds these lines, but not these alone. Signs with nothing but white space
behind them take the next line that is not blank for their heading, whatever
stands on it, and a heading line that is taken so is no longer one of its own.
Where no such line is left, signs have an empty heading, unless there is only
one blank and nothing but newlines behind them.

So a scan can be read line by line with a look at the lines below
(`sectionHeadings_eq`), and it finds the heading lines exactly when bare signs
stand nowhere but at the end of the text
(`Document.sections_eq_headingLines_iff`).
-/

set_option autoImplicit false

namespace ReviewGate.Record

open Text

/-! ## Signs on a line -/

/-- What stands behind the number signs at the beginning of a line. -/
def behindSigns (line : Text) : Text := line.drop (signs line).length

theorem signs_append_behindSigns (line : Text) : signs line ++ behindSigns line = line :=
  List.prefix_iff_eq_append.mp (List.takeWhile_prefix _)

/-- White space is no number sign. -/
theorem ne_sign_of_blank {rest : Text} (blank : ∀ c ∈ rest.head?, isBlank c = true) :
    ∀ c ∈ rest.head?, c ≠ '#' := by
  rintro _ first rfl
  cases blank '#' first

/-- A line opens a section when its signs are those of a section with white
space behind them or nothing. -/
theorem opensSection_iff {line : Text} :
    OpensSection line ↔
      signs line ∈ sectionMarks ∧ ∀ c ∈ (behindSigns line).head?, isBlank c = true := by
  constructor
  · rintro ⟨marks, member, ⟨rest, rfl⟩, blank⟩
    have begins : ∀ c ∈ rest.head?, isBlank c = true := by
      rwa [List.drop_left, Option.all_eq_true] at blank
    rw [behindSigns, signs_append_of_mem member (ne_sign_of_blank begins), List.drop_left]
    exact ⟨member, begins⟩
  · rintro ⟨member, blank⟩
    exact ⟨signs line, member, List.takeWhile_prefix _, (Option.all_eq_true ..).mpr blank⟩

/-- A line of signs with nothing but white space behind them. -/
def BareSigns (line : Text) : Prop := OpensSection line ∧ Blank (behindSigns line)

instance (line : Text) : Decidable (BareSigns line) :=
  inferInstanceAs (Decidable (_ ∧ _))

/-- The heading that a line holds itself. -/
def lineHeading? (line : Text) : Option Text :=
  if OpensSection line ∧ ¬ Blank (behindSigns line) then some (trim (behindSigns line)) else none

/-- **A line holds a heading** when it consists of two or three number signs,
white space and a text that is not blank. -/
theorem lineHeading?_eq_some_iff {line heading : Text} :
    lineHeading? line = some heading ↔
      ∃ marks ∈ sectionMarks, ∃ gap text, line = marks ++ (gap ++ text) ∧ gap ≠ [] ∧
        Blank gap ∧ ¬ Blank text ∧ heading = trim text := by
  constructor
  · intro holds
    rw [lineHeading?] at holds
    split at holds
    next both =>
      obtain ⟨opens, filled⟩ := both
      obtain ⟨member, begins⟩ := opensSection_iff.mp opens
      obtain ⟨gap, c, rest, whole, blank, solid⟩ := exists_of_not_blank filled
      have parted : gap ≠ [] := ne_nil_of_blank_head solid (whole ▸ begins)
      refine ⟨signs line, member, gap, c :: rest, ?_, parted, blank, fun all => ?_, ?_⟩
      · rw [← whole, signs_append_behindSigns]
      · exact all.not_mem solid List.mem_cons_self
      · rw [← Option.some.inj holds, whole, trim_blank_append blank]
    next => cases holds
  · rintro ⟨marks, member, gap, text, rfl, parted, blank, filled, rfl⟩
    have begins : ∀ c ∈ (gap ++ text).head?, isBlank c = true := by
      obtain ⟨first, others, rfl⟩ := List.exists_cons_of_ne_nil parted
      rintro _ ⟨⟩
      exact blank first List.mem_cons_self
    have same : signs (marks ++ (gap ++ text)) = marks :=
      signs_append_of_mem member (ne_sign_of_blank begins)
    have behind : behindSigns (marks ++ (gap ++ text)) = gap ++ text := by
      rw [behindSigns, same, List.drop_left]
    have opens : OpensSection (marks ++ (gap ++ text)) := by
      rw [opensSection_iff, same, behind]
      exact ⟨member, begins⟩
    have more : ¬ Blank (gap ++ text) := fun all =>
      filled fun c member => all c (List.mem_append_right gap member)
    rw [lineHeading?, behind, if_pos ⟨opens, more⟩, trim_blank_append blank]

/-- The heading that a line has together with the lines below it. -/
def headingFrom? (line : Text) (below : List Text) : Option (Reach Text) :=
  if OpensSection line then
    match firstFilled? (behindSigns line :: below) with
    | some found => some ⟨trim found.value, found.below⟩
    | none =>
        if 1 < (behindSigns line).length ∨ ∃ other ∈ below, other ≠ [] then
          some ⟨[], below.length⟩
        else none
  else none

section Lines

variable {line : Text} {below : List Text}

theorem not_opens_of_blank (blank : Blank line) : ¬ OpensSection line := by
  intro opens
  obtain ⟨rest, rfl⟩ := opens.prefix_signs
  cases blank '#' List.mem_cons_self

theorem headingFrom?_of_blank (blank : Blank line) (below : List Text) :
    headingFrom? line below = none :=
  if_neg (not_opens_of_blank blank)

/-- Behind the signs of a section there stands white space, if anything. -/
theorem blank_behindSigns (opens : OpensSection line) :
    ∀ c ∈ (unlines (behindSigns line :: below)).head?, isBlank c = true :=
  blank_head_unlines (opensSection_iff.mp opens).2 below

/-- The heading of a line that opens a section is read behind its signs. -/
theorem sectionHeading?_unlines (opens : OpensSection line) :
    sectionHeading? (unlines (line :: below)) =
      (headingBehindBlank? (unlines (behindSigns line :: below))).map fun found =>
        { found with length := (signs line).length + found.length } := by
  have whole := unlines_append_cons (signs line) (behindSigns line) below
  rw [signs_append_behindSigns] at whole
  rw [whole]
  refine sectionHeading?_marks (opensSection_iff.mp opens).1 fun c first => ?_
  rintro rfl
  cases blank_behindSigns opens '#' first

/-- The lines from the signs on hold no newline. -/
theorem single_behindSigns (single : ∀ other ∈ line :: below, '\n' ∉ other) :
    ∀ other ∈ behindSigns line :: below, '\n' ∉ other := by
  obtain ⟨here, others⟩ := List.forall_mem_cons.mp single
  refine List.forall_mem_cons.mpr ⟨fun inside => here ?_, others⟩
  rw [← signs_append_behindSigns line]
  exact List.mem_append_right _ inside

/-- A line that opens a section has a heading when something other than newlines
stands behind the first blank. -/
theorem isSome_sectionHeading?_unlines (opens : OpensSection line)
    (single : ∀ other ∈ line :: below, '\n' ∉ other) :
    (sectionHeading? (unlines (line :: below))).isSome = true ↔
      1 < (behindSigns line).length ∨ ∃ other ∈ below, other ≠ [] := by
  have begins : ∀ c ∈ (unlines (behindSigns line :: below)).head?, isBlank c = true :=
    blank_behindSigns opens
  obtain ⟨here, others⟩ := List.forall_mem_cons.mp (single_behindSigns single)
  rw [sectionHeading?_unlines opens, Option.isSome_map]
  generalize behindSigns line = tail at begins here
  cases tail with
  | nil =>
      cases below with
      | nil => simp [unlines_singleton, headingBehindBlank?]
      | cons next rest =>
          rw [unlines_cons [] (List.cons_ne_nil next rest), List.nil_append,
            isSome_headingBehindBlank?_cons (by decide), exists_ne_newline_iff others]
          simp
  | cons c tail =>
      have whole : unlines ((c :: tail) :: below) = c :: unlines (tail :: below) :=
        unlines_append_cons [c] tail below
      have inside : ∀ other ∈ tail :: below, '\n' ∉ other :=
        List.forall_mem_cons.mpr ⟨(List.ne_and_not_mem_of_not_mem_cons here).2, others⟩
      rw [whole] at begins ⊢
      rw [isSome_headingBehindBlank?_cons (begins c rfl), exists_ne_newline_iff inside]
      simp [List.length_pos_iff]

/-- Where there is nothing but white space behind the signs, the heading is empty. -/
theorem value_eq_nil_of_unfilled (opens : OpensSection line)
    (blank : firstFilled? (behindSigns line :: below) = none) {found : Match Text}
    (matched : sectionHeading? (unlines (line :: below)) = some found) : found.value = [] := by
  rw [sectionHeading?_unlines opens] at matched
  obtain ⟨inner, behind, rfl⟩ := Option.map_eq_some_iff.mp matched
  have empty : inner.value = [] :=
    heading_eq_nil_of_blank (blank_unlines (firstFilled?_eq_none_iff.mp blank)) behind
  exact empty

/-- Signs take the first line that is not blank, and the lines in front of it. -/
theorem sectionHeading?_of_filled (opens : OpensSection line)
    (single : ∀ other ∈ line :: below, '\n' ∉ other) {target : Reach Text}
    (first : firstFilled? (behindSigns line :: below) = some target) :
    ∃ length, sectionHeading? (unlines (line :: below)) = some ⟨trim target.value, length⟩ ∧
      linesTaken length (line :: below) = target.below + 1 := by
  obtain ⟨gap, front, c, rest, behind, whole, value, member, gapBlank, frontBlank, solid, ends,
    taken⟩ := exists_of_firstFilled? first
  have parted : gap ≠ [] := ne_nil_of_blank_head solid (whole ▸ blank_behindSigns opens)
  have onLine : '\n' ∉ c :: rest := fun inside =>
    single_behindSigns single _ member (value ▸ List.mem_append_right front inside)
  have read := headingBehindBlank?_filled parted gapBlank solid onLine ends
  refine ⟨(signs line).length + (gap.length + (rest.length + 1)), ?_, ?_⟩
  · rw [sectionHeading?_unlines opens, whole, read, value, trim_blank_append frontBlank]
    rfl
  · have below := linesTaken_append (by omega : 0 < gap.length + (rest.length + 1)) (signs line)
      (behindSigns line) below
    rw [signs_append_behindSigns, taken rest.length (Nat.le_refl _)] at below
    exact below

/-- **The heading of a section is read off the line and those below it.** -/
theorem readOff_headings {texts : List Text} (single : ∀ line ∈ texts, '\n' ∉ line) :
    ReadOff sectionHeading? headingFrom? texts := by
  refine ⟨fun line below suffix nothing => ?_, fun line below found suffix finding => ?_⟩
  · have lines : ∀ other ∈ line :: below, '\n' ∉ other := fun other member =>
      single other (suffix.subset member)
    by_cases opens : OpensSection line
    · rw [headingFrom?, if_pos opens] at nothing
      split at nothing
      next => cases nothing
      next =>
        split at nothing
        next => cases nothing
        next lacking =>
          rwa [← isSome_sectionHeading?_unlines opens lines, Option.not_isSome_iff_eq_none]
            at lacking
    · obtain ⟨rest, whole, ends⟩ := exists_unlines_cons line below
      rw [whole]
      exact takesLine_of_not_opens opens rest ends
  · have lines : ∀ other ∈ line :: below, '\n' ∉ other := fun other member =>
      single other (suffix.subset member)
    by_cases opens : OpensSection line
    · rw [headingFrom?, if_pos opens] at finding
      split at finding
      next target first =>
        cases finding
        obtain ⟨length, matched, taken⟩ := sectionHeading?_of_filled opens lines first
        exact ⟨length, matched, .inl taken⟩
      next blank =>
        split at finding
        next more =>
          cases finding
          obtain ⟨empty, matched⟩ := Option.isSome_iff_exists.mp
            ((isSome_sectionHeading?_unlines opens lines).mpr more)
          refine ⟨empty.length, ?_, .inr fun next rest behind => ?_⟩
          · rw [matched, ← value_eq_nil_of_unfilled opens blank matched]
          · -- only blank lines are left, and these hold no signs
            refine headingFrom?_of_blank (firstFilled?_eq_none_iff.mp blank next ?_) rest
            exact List.mem_cons_of_mem _ (behind.subset List.mem_cons_self)
        next => cases finding
    · rw [headingFrom?, if_neg opens] at finding
      cases finding

end Lines

/-- **Section headings are found line by line**, each with a look at the lines
below. -/
theorem sectionHeadings_eq (text : Text) :
    sectionHeadings text = foundBelow headingFrom? 0 0 (lines text) := by
  have single : ∀ line ∈ lines text, '\n' ∉ line := fun line => not_mem_of_mem_lines
  have empty : headingFrom? [] [] = none := headingFrom?_of_blank (by decide) []
  rw [sectionHeadings, ← scanLines_eq_foundBelow empty single (readOff_headings single),
    unlines_lines]

/-! ## Heading lines -/

/-- The heading lines of a text with the offsets where they begin. -/
def headingLines (text : Text) : List (Found Text) :=
  foundOn lineHeading? 0 (lines text)

/-- A heading on the line is taken as it is. -/
theorem headingFrom?_of_lineHeading? (line : Text) (below : List Text) (heading : Text)
    (holds : lineHeading? line = some heading) : headingFrom? line below = some ⟨heading, 0⟩ := by
  rw [lineHeading?] at holds
  split at holds
  next both =>
    obtain ⟨opens, filled⟩ := both
    cases holds
    rw [headingFrom?, if_pos opens, firstFilled?_of_filled filled]
  next => cases holds

/-- Bare signs have no heading when at most one blank and nothing but newlines
stand behind them. -/
theorem headingFrom?_eq_none_iff {line : Text} (below : List Text)
    (lacks : lineHeading? line = none) :
    headingFrom? line below = none ↔
      (BareSigns line → (behindSigns line).length ≤ 1 ∧ ∀ other ∈ below, other = []) := by
  by_cases opens : OpensSection line
  · have blank : Blank (behindSigns line) := by
      by_contra filled
      rw [lineHeading?, if_pos ⟨opens, filled⟩] at lacks
      cases lacks
    have bare : BareSigns line := ⟨opens, blank⟩
    rw [headingFrom?, if_pos opens]
    constructor
    · intro nothing _
      split at nothing
      next => cases nothing
      next =>
        split at nothing
        next => cases nothing
        next lacking =>
          rw [not_or, Nat.not_lt] at lacking
          obtain ⟨short, nowhere⟩ := lacking
          refine ⟨short, fun other member => ?_⟩
          by_contra filled
          exact nowhere ⟨other, member, filled⟩
    · intro atEnd
      obtain ⟨short, empty⟩ := atEnd bare
      have unfilled : firstFilled? (behindSigns line :: below) = none := by
        refine firstFilled?_eq_none_iff.mpr (List.forall_mem_cons.mpr ⟨blank, ?_⟩)
        intro other member
        rw [empty other member]
        decide
      have nowhere : ¬ ∃ other ∈ below, other ≠ [] := fun ⟨other, member, filled⟩ =>
        filled (empty other member)
      rw [unfilled]
      exact if_neg (not_or.mpr ⟨Nat.not_lt.mpr short, nowhere⟩)
  · rw [headingFrom?, if_neg opens]
    exact iff_of_true rfl fun bare => absurd bare.1 opens

/-- Bare signs stand at the end of a text only. -/
def BareSignsAtEnd (text : Text) : Prop :=
  ∀ line below, line :: below <:+ lines text → BareSigns line →
    (behindSigns line).length ≤ 1 ∧ ∀ other ∈ below, other = []

/-- **The section headings of a text are its heading lines** exactly when bare
signs stand at the end of it only. -/
theorem sectionHeadings_eq_headingLines_iff (text : Text) :
    sectionHeadings text = headingLines text ↔ BareSignsAtEnd text := by
  rw [sectionHeadings_eq, headingLines, foundBelow_eq_foundOn_iff headingFrom?_of_lineHeading?]
  constructor
  · intro nothing line below suffix bare
    have lacks : lineHeading? line = none := if_neg fun both => both.2 bare.2
    exact (headingFrom?_eq_none_iff below lacks).mp (nothing line below suffix lacks) bare
  · intro atEnd line below suffix lacks
    exact (headingFrom?_eq_none_iff below lacks).mpr (atEnd line below suffix)

/-! ## The sections of a record -/

/-- Where sections begin, with their headings. -/
def Sections.headings (sections : Sections) : List (Found Text) :=
  sections.map fun entry => ⟨entry.2.start, entry.2.heading⟩

section Sections

variable {text path : Text}

/-- Sections with different keys begin where the headings are found. -/
theorem headings_read (distinct : ((sectionsOf text).map Section.key).Nodup) :
    (Document.read text path).sections.headings = sectionHeadings text := by
  have stored : (Document.read text path).sections =
      (sectionsOf text).map fun part => (part.key, part) := indexed_of_nodup _ distinct
  rw [Sections.headings, stored, List.map_map]
  exact found_sectionsFrom text (sectionHeadings text)

/-- **The sections of a record begin at its heading lines** with the headings on
them exactly when bare signs stand at the end of the text only. A heading line
consists of two or three number signs, white space and a text that is not
blank. In general sections are found line by line, where bare signs take the
first line below that is not blank for their heading and go on behind it. -/
theorem Document.sections_eq_headingLines_iff
    (distinct : ((sectionsOf text).map Section.key).Nodup) :
    (Document.read text path).sections.headings = foundBelow headingFrom? 0 0 (lines text) ∧
      ((Document.read text path).sections.headings = headingLines text ↔
        BareSignsAtEnd text) ∧
      ∀ line heading, lineHeading? line = some heading ↔
        ∃ marks ∈ sectionMarks, ∃ gap rest, line = marks ++ (gap ++ rest) ∧ gap ≠ [] ∧
          Blank gap ∧ ¬ Blank rest ∧ heading = trim rest := by
  rw [headings_read distinct, ← sectionHeadings_eq]
  exact ⟨rfl, sectionHeadings_eq_headingLines_iff text, fun _ _ => lineHeading?_eq_some_iff⟩

/-- A record with bare signs on top. -/
def swallowingSigns : Text :=
  "##\n## Context\nwhy\n\n### Decision\nso\n".toList

/-- The signs on top take the line below them, and its heading is no section. -/
theorem Document.sections_eq_headingLines_iff_swallowing :
    ((sectionsOf swallowingSigns).map Section.key).Nodup ∧
      (Document.read swallowingSigns []).sections.headings =
        [⟨0, "## Context".toList⟩, ⟨19, "Decision".toList⟩] := by
  have distinct : ((sectionsOf swallowingSigns).map Section.key).Nodup := by decide +kernel
  refine ⟨distinct, (@Document.sections_eq_headingLines_iff swallowingSigns [] distinct).1.trans ?_⟩
  decide +kernel

/-- So the sections are not the heading lines. -/
theorem Document.headings_swallowed :
    ((sectionsOf swallowingSigns).map Section.key).Nodup ∧
      headingLines swallowingSigns = [⟨3, "Context".toList⟩, ⟨19, "Decision".toList⟩] ∧
      (Document.read swallowingSigns []).sections.headings ≠ headingLines swallowingSigns := by
  decide +kernel

end Sections

end ReviewGate.Record
