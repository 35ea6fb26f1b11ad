import ReviewGate.Proofs.Record.Header
import ReviewGate.Proofs.Record.Sections

/-!
# Reading what was written

An outline is what a record says: a title, the values of the header fields, and
chapters with a heading and a body. It is written as one line for the title,
one for each field, and for each chapter a heading line and the body. Reading
the written text gives the outline again (`Document.read_render`): the title,
the three values, and the chapters as sections in their order.

The bodies are free but for one thing, that none of their lines opens a
section. They may hold titles, deeper headings, tables, and even the labels of
the header fields, because the first field with a label counts.
-/

set_option autoImplicit false

namespace ReviewGate.Record

open Text

/-! ## Outlines -/

/-- A heading with two or three number signs, and the text under it. -/
structure Chapter where
  deep : Bool
  heading : Text
  body : Text

namespace Chapter

/-- The number signs of the heading. -/
def marks (chapter : Chapter) : Text :=
  if chapter.deep then ['#', '#', '#'] else ['#', '#']

/-- The line with the heading. -/
def headingLine (chapter : Chapter) : Text :=
  chapter.marks ++ ' ' :: chapter.heading

/-- The heading line with the body under it. -/
def text (chapter : Chapter) : Text :=
  chapter.headingLine ++ '\n' :: chapter.body

/-- A heading that is read as it is written, and a body that opens no section. -/
structure WellFormed (chapter : Chapter) : Prop where
  heading_ne_nil : chapter.heading ≠ []
  trimmed : Trimmed chapter.heading
  single : '\n' ∉ chapter.heading
  body : ∀ line ∈ lines chapter.body, ¬ OpensSection line

end Chapter

/-- What a record says. -/
structure Outline where
  title : Text
  date : Text
  status : Text
  deciders : Text
  chapters : List Chapter

namespace Outline

/-- The lines above the chapters. -/
def headerLines (outline : Outline) : List Text :=
  ['#' :: ' ' :: outline.title, fieldLine dateName outline.date,
    fieldLine statusName outline.status, fieldLine decidersName outline.deciders]

/-- The text of a record. -/
def render (outline : Outline) : Text :=
  unlines (outline.headerLines ++
    outline.chapters.flatMap fun chapter => [chapter.headingLine, chapter.body])

/-- An outline that can be written without ambiguity. -/
structure WellFormed (outline : Outline) : Prop where
  title_ne_nil : outline.title ≠ []
  title_trimmed : Trimmed outline.title
  title_single : '\n' ∉ outline.title
  title_no_star : '*' ∉ outline.title
  date : IsValue outline.date
  status : IsValue outline.status
  deciders : IsValue outline.deciders
  chapters : ∀ chapter ∈ outline.chapters, chapter.WellFormed
  keys : (outline.chapters.map fun chapter => lower chapter.heading).Nodup

end Outline

/-! ## The header -/

/-- The written text begins with the four lines of the header, and what stands
behind them begins on a new line. -/
theorem exists_render (outline : Outline) :
    ∃ rest, EndsLine rest ∧ outline.render =
      '#' :: ' ' :: outline.title ++ '\n' :: (fieldLine dateName outline.date ++
        '\n' :: (fieldLine statusName outline.status ++
          '\n' :: (fieldLine decidersName outline.deciders ++ rest))) := by
  unfold Outline.render
  generalize outline.chapters.flatMap _ = lines
  cases lines with
  | nil =>
      refine ⟨[], nofun, ?_⟩
      simp [Outline.headerLines, unlines_cons, unlines_singleton]
  | cons line more =>
      refine ⟨'\n' :: unlines (line :: more), endsLine_newline _, ?_⟩
      rw [Outline.headerLines, unlines_append (List.cons_ne_nil _ _) (List.cons_ne_nil line more)]
      simp [unlines_cons, unlines_singleton]

section Header

variable {outline : Outline} (wellFormed : outline.WellFormed)

include wellFormed

theorem titleOf_render : titleOf outline.render = outline.title := by
  obtain ⟨rest, _, whole⟩ := exists_render outline
  have single : '\n' ∉ '#' :: ' ' :: outline.title := by
    simpa using wellFormed.title_single
  rw [titleOf, whole, lines_line single, List.findSome?_cons]
  have titled : titleOn? ('#' :: ' ' :: outline.title) = some outline.title := by
    rw [titleOn?, wellFormed.title_trimmed]
    rfl
  rw [titled]
  rfl

/-- Labels in bold are sought behind the title. -/
theorem headerValue?_behind_title {labels : List Text} (bold : Bold labels) (rest : Text) :
    headerValue? labels ('#' :: ' ' :: outline.title ++ '\n' :: rest) =
      headerValue? labels rest := by
  have plain : '*' ∉ '#' :: ' ' :: outline.title := by
    simpa using wellFormed.title_no_star
  rw [headerValue?_skip_plain bold plain, headerValue?_skip_newline bold]

theorem date_render : headerValue? dateLabels outline.render = some outline.date := by
  obtain ⟨rest, _, whole⟩ := exists_render outline
  rw [whole, headerValue?_behind_title wellFormed bold_dateLabels]
  exact headerValue?_field reads_date wellFormed.date (endsLine_newline _)

theorem status_render : headerValue? statusLabels outline.render = some outline.status := by
  obtain ⟨rest, _, whole⟩ := exists_render outline
  have refusesDate : Refuses statusLabels dateName := refuses_statusLabels (by decide)
  have refusesBlank : Refuses statusLabels [' '] := refuses_statusLabels (by decide)
  rw [whole, headerValue?_behind_title wellFormed refusesDate.bold,
    headerValue?_skip_field refusesDate refusesBlank (by decide) (by decide)
      wellFormed.date.no_star]
  exact headerValue?_field reads_status wellFormed.status (endsLine_newline _)

theorem deciders_render : headerValue? decidersLabels outline.render = some outline.deciders := by
  obtain ⟨rest, ends, whole⟩ := exists_render outline
  have refusesDate : Refuses decidersLabels dateName := refuses_decidersLabels (by decide)
  have refusesStatus : Refuses decidersLabels statusName := refuses_decidersLabels (by decide)
  have refusesBlank : Refuses decidersLabels [' '] := refuses_decidersLabels (by decide)
  rw [whole, headerValue?_behind_title wellFormed refusesDate.bold,
    headerValue?_skip_field refusesDate refusesBlank (by decide) (by decide)
      wellFormed.date.no_star,
    headerValue?_skip_field refusesStatus refusesBlank (by decide) (by decide)
      wellFormed.status.no_star]
  exact headerValue?_field reads_deciders wellFormed.deciders ends

end Header

/-! ## The chapters -/

/-- The heading on a line. -/
def headingOn? (line : Text) : Option Text :=
  (sectionHeading? line).map Match.value

theorem Chapter.marks_mem (chapter : Chapter) : chapter.marks ∈ sectionMarks := by
  unfold Chapter.marks
  cases chapter.deep <;> decide

namespace Chapter.WellFormed

variable {chapter : Chapter} (wellFormed : chapter.WellFormed)

include wellFormed

theorem takesLine : TakesLine sectionHeading? chapter.headingLine (some chapter.heading) :=
  takesLine_heading chapter.marks_mem wellFormed.heading_ne_nil wellFormed.trimmed
    wellFormed.single

theorem headingLine_single : '\n' ∉ chapter.headingLine := by
  have plain : '\n' ∉ chapter.marks := by
    unfold Chapter.marks
    cases chapter.deep <;> decide
  simp [headingLine, plain, wellFormed.single]

theorem lines_text : lines chapter.text = chapter.headingLine :: lines chapter.body :=
  lines_line wellFormed.headingLine_single chapter.body

/-- Every line of a chapter takes the heading that is on it. -/
theorem takes_lines : ∀ line ∈ lines chapter.text,
    TakesLine sectionHeading? line (headingOn? line) := by
  intro line member
  rw [wellFormed.lines_text] at member
  rcases List.mem_cons.mp member with rfl | inside
  · have takes := wellFormed.takesLine
    rwa [← takes.value_eq] at takes
  · have takes := takesLine_of_not_opens (wellFormed.body line inside)
    rwa [← takes.value_eq] at takes

/-- A chapter is one finding, at its beginning. -/
theorem foundOn_lines (offset : Nat) (more : List Text) :
    foundOn headingOn? offset (lines chapter.text ++ more) =
      ⟨offset, chapter.heading⟩ :: foundOn headingOn? (offset + chapter.text.length + 1) more := by
  have heading : headingOn? chapter.headingLine = some chapter.heading :=
    wellFormed.takesLine.value_eq
  have nothing : ∀ line ∈ lines chapter.body, headingOn? line = none :=
    fun line inside => (takesLine_of_not_opens (wellFormed.body line inside)).value_eq
  rw [wellFormed.lines_text, List.cons_append, foundOn, heading,
    foundOn_append_of_none (lines_ne_nil chapter.body) nothing, unlines_lines]
  have length : chapter.text.length = chapter.headingLine.length + 1 + chapter.body.length := by
    simp [Chapter.text]
    omega
  rw [length]
  simp [Nat.add_assoc]

end Chapter.WellFormed

theorem slice_append (front part rest : Text) :
    slice (front ++ (part ++ rest)) front.length (front.length + part.length) = part := by
  simp [slice]

/-- The lines of chapters. -/
def chapterLines (chapters : List Chapter) : List Text :=
  chapters.flatMap fun chapter => lines chapter.text

/-- In front of more chapters, a chapter goes up to the newline behind it. -/
theorem append_unlines_cons (front : Text) (chapter next : Chapter) (rest : List Chapter) :
    front ++ unlines ((chapter :: next :: rest).map Chapter.text) =
      (front ++ (chapter.text ++ ['\n'])) ++ unlines ((next :: rest).map Chapter.text) := by
  rw [List.map_cons, unlines_cons chapter.text (by simp)]
  simp

/-- What stands in front of the next heading is the text of a chapter. -/
theorem content_chapter {more : List Chapter}
    (wellFormed : ∀ chapter ∈ more, chapter.WellFormed) (front : Text) (chapter : Chapter) :
    trim (slice (front ++ unlines ((chapter :: more).map Chapter.text)) front.length
        (nextOffset (front ++ unlines ((chapter :: more).map Chapter.text))
          (foundOn headingOn? (front.length + chapter.text.length + 1) (chapterLines more)))) =
      trim chapter.text := by
  cases more with
  | nil =>
      -- the last section stops where the text does
      have held := slice_append front chapter.text []
      rw [List.append_nil, ← List.length_append] at held
      rw [List.map_singleton, unlines_singleton]
      exact congrArg trim held
  | cons next rest =>
      -- the next section begins behind the newline at the end of this one
      have held := slice_append front (chapter.text ++ ['\n'])
        (unlines ((next :: rest).map Chapter.text))
      rw [← List.append_assoc, ← append_unlines_cons, List.length_append] at held
      rw [chapterLines, List.flatMap_cons,
        (wellFormed next List.mem_cons_self).foundOn_lines]
      exact (congrArg trim held).trans (trim_append_of_blank (by decide) chapter.text)

/-- **The sections at the chapters of a text** have their headings and hold
their texts. -/
theorem sectionsFrom_chapters {chapters : List Chapter}
    (wellFormed : ∀ chapter ∈ chapters, chapter.WellFormed) (front : Text) :
    (sectionsFrom (front ++ unlines (chapters.map Chapter.text))
        (foundOn headingOn? front.length (chapterLines chapters))).map
        (fun part => (part.heading, part.content)) =
      chapters.map fun chapter => (chapter.heading, trim chapter.text) := by
  induction chapters generalizing front with
  | nil => rfl
  | cons chapter more ih =>
      have first := wellFormed chapter List.mem_cons_self
      have others := fun other member => wellFormed other (List.mem_cons_of_mem chapter member)
      rw [chapterLines, List.flatMap_cons, first.foundOn_lines, sectionsFrom_cons, List.map_cons]
      refine congrArg₂ List.cons (congrArg (Prod.mk _) (content_chapter others front chapter)) ?_
      cases more with
      | nil => rfl
      | cons next rest =>
          have later := ih others (front ++ (chapter.text ++ ['\n']))
          rw [← append_unlines_cons, List.length_append, List.length_append] at later
          exact later

/-! ## The whole text -/

section Whole

variable {outline : Outline}

theorem headerLines_ne_nil : outline.headerLines ≠ [] :=
  List.cons_ne_nil _ _

/-- No line of the header opens a section. -/
theorem not_opens_headerLines : ∀ line ∈ outline.headerLines, ¬ OpensSection line := by
  intro line member opens
  have start := opens.prefix_signs
  simp only [Outline.headerLines, List.mem_cons, List.not_mem_nil, or_false] at member
  rcases member with rfl | rfl | rfl | rfl <;> simp [fieldLine] at start

variable (wellFormed : outline.WellFormed)

include wellFormed

theorem headerLines_single : ∀ line ∈ outline.headerLines, '\n' ∉ line := by
  intro line member
  simp only [Outline.headerLines, List.mem_cons, List.not_mem_nil, or_false] at member
  rcases member with rfl | rfl | rfl | rfl
  · simpa using wellFormed.title_single
  · simpa [fieldLine, dateName] using wellFormed.date.no_newline
  · simpa [fieldLine, statusName] using wellFormed.status.no_newline
  · simpa [fieldLine, decidersName] using wellFormed.deciders.no_newline

/-- The lines of the written text. -/
theorem render_eq_unlines :
    outline.render = unlines (outline.headerLines ++ chapterLines outline.chapters) := by
  have header : outline.headerLines.flatMap lines = outline.headerLines := by
    have alone : ∀ line ∈ outline.headerLines, lines line = [line] :=
      fun line member => lines_of_single (headerLines_single wellFormed line member)
    rw [List.flatMap_congr alone, List.flatMap_singleton']
  have chapters : (outline.chapters.flatMap fun chapter =>
      [chapter.headingLine, chapter.body]).flatMap lines = chapterLines outline.chapters := by
    rw [List.flatMap_assoc]
    refine List.flatMap_congr fun chapter member => ?_
    have well := wellFormed.chapters chapter member
    simp [well.lines_text, lines_of_single well.headingLine_single]
  rw [Outline.render, ← unlines_flatMap_lines, List.flatMap_append, header, chapters]

/-- The headings of the written text are those of the chapters. -/
theorem sectionHeadings_render :
    sectionHeadings outline.render =
      foundOn headingOn? ((unlines outline.headerLines).length + 1)
        (chapterLines outline.chapters) := by
  have inChapter : ∀ line ∈ chapterLines outline.chapters, ∃ chapter ∈ outline.chapters,
      line ∈ lines chapter.text := fun line member => List.mem_flatMap.mp member
  have inHeader : ∀ line ∈ outline.headerLines, TakesLine sectionHeading? line none :=
    fun line member => takesLine_of_not_opens (not_opens_headerLines line member)
  have empty : headingOn? [] = none := rfl
  have nothing : ∀ line ∈ outline.headerLines, headingOn? line = none :=
    fun line member => (inHeader line member).value_eq
  rw [sectionHeadings, render_eq_unlines wellFormed, scanLines_unlines empty,
    foundOn_append_of_none headerLines_ne_nil nothing, Nat.zero_add]
  · intro line member
    rcases List.mem_append.mp member with header | body
    · exact headerLines_single wellFormed line header
    · obtain ⟨chapter, _, inside⟩ := inChapter line body
      exact not_mem_of_mem_lines inside
  · intro line member
    rcases List.mem_append.mp member with header | body
    · have takes := inHeader line header
      rwa [← takes.value_eq] at takes
    · obtain ⟨chapter, among, inside⟩ := inChapter line body
      exact (wellFormed.chapters chapter among).takes_lines line inside

/-- The sections of the written text are the chapters. -/
theorem sectionsOf_render :
    (sectionsOf outline.render).map (fun part => (part.heading, part.content)) =
      outline.chapters.map fun chapter => (chapter.heading, trim chapter.text) := by
  rw [sectionsOf, sectionHeadings_render wellFormed, render_eq_unlines wellFormed]
  have chapters := wellFormed.chapters
  generalize outline.chapters = some at chapters
  cases some with
  | nil => rfl
  | cons chapter more =>
      have joined : unlines (chapterLines (chapter :: more)) =
          unlines ((chapter :: more).map Chapter.text) := by
        rw [← unlines_flatMap_lines ((chapter :: more).map Chapter.text), List.flatMap_map,
          chapterLines]
      have filled : chapterLines (chapter :: more) ≠ [] := by
        simp [chapterLines, lines_ne_nil]
      have sections := sectionsFrom_chapters chapters (unlines outline.headerLines ++ ['\n'])
      rw [unlines_append headerLines_ne_nil filled, joined]
      simpa using sections

/-- **Reading what was written gives the outline again.** -/
theorem Document.read_render (path : Text) :
    (Document.read outline.render path).title = outline.title ∧
      (Document.read outline.render path).date = some outline.date ∧
      (Document.read outline.render path).status = some outline.status ∧
      (Document.read outline.render path).deciders = some outline.deciders ∧
      (Document.read outline.render path).sections.map
          (fun entry => (entry.1, entry.2.heading, entry.2.content)) =
        outline.chapters.map fun chapter =>
          (lower chapter.heading, chapter.heading, trim chapter.text) := by
  refine ⟨titleOf_render wellFormed, date_render wellFormed, status_render wellFormed,
    deciders_render wellFormed, ?_⟩
  have sections := sectionsOf_render wellFormed
  have keys : (sectionsOf outline.render).map Section.key =
      outline.chapters.map fun chapter => lower chapter.heading := by
    have headings := congrArg (List.map fun shown => lower shown.1) sections
    rwa [List.map_map, List.map_map] at headings
  have entries := congrArg (List.map fun shown => (lower shown.1, shown.1, shown.2)) sections
  rw [List.map_map, List.map_map] at entries
  change (indexed (sectionsOf outline.render)).map _ = _
  rw [indexed_of_nodup _ (keys ▸ wellFormed.keys), List.map_map]
  exact entries

end Whole

/-- An outline with number signs in its title, in a heading and in a body, and a
chapter without text. -/
def numbered : Outline where
  title := ['#', '1', ' ', '|', ' ', 'x']
  date := ['2', '0', '-', '1']
  status := ['O', 'k']
  deciders := ['M', 'e']
  chapters := [
    ⟨false, ['#', ' ', 'A'], ['#', ' ', 'x', '\n', '\n', '#', '#', '#', '#', ' ', '|', '\n', ' ']⟩,
    ⟨true, ['B'], []⟩]

theorem wellFormed_numbered : numbered.WellFormed where
  title_ne_nil := by decide
  title_trimmed := rfl
  title_single := by decide
  title_no_star := by decide
  date := ⟨by decide, rfl, by decide, by decide, by decide⟩
  status := ⟨by decide, rfl, by decide, by decide, by decide⟩
  deciders := ⟨by decide, rfl, by decide, by decide, by decide⟩
  chapters := by
    intro chapter member
    rcases List.mem_pair.mp member with rfl | rfl
    · exact ⟨by decide, rfl, by decide, by decide⟩
    · exact ⟨by decide, rfl, by decide, by decide⟩
  keys := by decide

theorem read_render_numbered :
    numbered.WellFormed ∧
      (Document.read numbered.render []).title = ['#', '1', ' ', '|', ' ', 'x'] ∧
      (Document.read numbered.render []).date = some ['2', '0', '-', '1'] ∧
      (Document.read numbered.render []).status = some ['O', 'k'] ∧
      (Document.read numbered.render []).deciders = some ['M', 'e'] ∧
      (Document.read numbered.render []).sections.map
          (fun entry => (entry.1, entry.2.heading, entry.2.content)) =
        [(['#', ' ', 'a'], ['#', ' ', 'A'],
          ['#', '#', ' ', '#', ' ', 'A', '\n', '#', ' ', 'x', '\n', '\n', '#', '#', '#', '#', ' ', '|']),
        (['b'], ['B'], ['#', '#', '#', ' ', 'B'])] :=
  ⟨wellFormed_numbered, Document.read_render wellFormed_numbered []⟩

end ReviewGate.Record
