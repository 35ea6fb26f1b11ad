import ReviewGate.Proofs.Text.LineScan
import ReviewGate.Proofs.Text.Trim
import ReviewGate.Record.Heading

/-!
# What takes a section heading

A section heading takes two or three number signs and what follows them, with
the heading somewhere in that (`exists_of_sectionHeading?`). Mostly that is a
line. A line that opens no section is passed over (`takesLine_of_not_opens`),
and a line of signs, one blank and a trimmed text is taken as a whole, with
the text as the heading (`takesLine_heading`). Signs alone on a line are
neither: their heading is sought on the lines below.

This is why text behind a newline can change a heading in front of it. It can
do so only where nothing but white space stands behind the signs up to the end
of the text, that is, at the last heading (`settled_sectionHeading`).
-/

set_option autoImplicit false

namespace ReviewGate.Record

open Text

/-- The number signs in front of the heading of a section. -/
def sectionMarks : List Text := [['#', '#'], ['#', '#', '#']]

theorem prefix_of_mem_sectionMarks {marks : Text} (member : marks ∈ sectionMarks) :
    ['#', '#'] <+: marks := by
  rcases List.mem_pair.mp member with rfl | rfl
  · exact List.prefix_rfl
  · exact List.prefix_append ['#', '#'] ['#']

/-- The number signs at the beginning of a text. -/
def signs (text : Text) : Text := text.takeWhile (· == '#')

/-- Two or three characters that are all number signs are signs of a section. -/
theorem signs_mem_sectionMarks_iff (text : Text) :
    signs text ∈ sectionMarks ↔ (signs text).length = 2 ∨ (signs text).length = 3 := by
  have all : signs text = List.replicate (signs text).length '#' :=
    List.eq_replicate_of_mem fun c member =>
      eq_of_beq (List.mem_takeWhile_imp (p := (· == '#')) member)
  generalize (signs text).length = count at all
  rw [all, sectionMarks, List.mem_pair]
  constructor
  · intro member
    rcases member with two | three
    · exact .inl (by simpa using congrArg List.length two)
    · exact .inr (by simpa using congrArg List.length three)
  · intro length
    rcases length with rfl | rfl
    · exact .inl rfl
    · exact .inr rfl

/-- A section begins where the signs are those of a section and a heading is
read behind them. -/
theorem sectionHeading?_eq (text : Text) :
    sectionHeading? text =
      if signs text ∈ sectionMarks then
        (headingBehindBlank? (text.drop (signs text).length)).map fun found =>
          { found with length := (signs text).length + found.length }
      else none := by
  unfold sectionHeading?
  simp only [Bool.or_eq_true, decide_eq_true_eq]
  exact if_congr (signs_mem_sectionMarks_iff text).symm rfl rfl

/-! ## What a heading takes -/

/-- The heading behind the signs is trimmed and stands in what is taken. -/
theorem exists_of_headingBehindBlank? {text : Text} {found : Match Text}
    (matched : headingBehindBlank? text = some found) :
    ∃ taken rest, text = taken ++ rest ∧ taken.length = found.length ∧
      found.value <:+: taken ∧ Trimmed found.value := by
  have whole := List.takeWhile_append_dropWhile (p := isBlank) (l := text)
  unfold headingBehindBlank? at matched
  dsimp only at matched
  split at matched
  next => cases matched
  next c more blanks blank =>
    split at matched
    next => cases matched
    next =>
      cases matched
      rw [blank, blanks, List.append_nil] at whole
      obtain ⟨rest, same⟩ := List.rdropWhile_prefix (· == '\n') more
      refine ⟨c :: trimRightBy (· == '\n') more, rest, ?_, ?_, List.nil_infix, rfl⟩
      · rw [← whole, List.cons_append]
        exact congrArg (c :: ·) same.symm
      · rw [List.length_cons, Nat.add_comm]
  next c more blank _ =>
    cases matched
    generalize text.dropWhile isBlank = rest at whole
    refine ⟨text.takeWhile isBlank ++ rest.takeWhile (· != '\n'), rest.dropWhile (· != '\n'),
      ?_, ?_, ?_, trimmed_trim _⟩
    · rw [List.append_assoc, List.takeWhile_append_dropWhile, whole]
    · rw [List.length_append]
    · obtain ⟨front, back, same, _⟩ := exists_trim (rest.takeWhile (· != '\n'))
      exact (same ▸ List.infix_append' front _ back).trans (List.suffix_append _ _).isInfix

/-- **What a section heading takes.** It takes two or three number signs and
what follows them, and the heading is trimmed and stands behind the signs. -/
theorem exists_of_sectionHeading? {text : Text} {found : Match Text}
    (matched : sectionHeading? text = some found) :
    ∃ marks ∈ sectionMarks, ∃ taken rest, text = marks ++ (taken ++ rest) ∧
      marks.length + taken.length = found.length ∧ found.value <:+: taken ∧
      Trimmed found.value := by
  rw [sectionHeading?_eq] at matched
  split at matched
  next member =>
    obtain ⟨inner, behind, rfl⟩ := Option.map_eq_some_iff.mp matched
    obtain ⟨taken, rest, whole, length, inside, trimmed⟩ := exists_of_headingBehindBlank? behind
    refine ⟨signs text, member, taken, rest, ?_, congrArg _ length, inside, trimmed⟩
    rw [← whole]
    exact (List.prefix_iff_eq_append.mp (List.takeWhile_prefix _)).symm
  next => cases matched

/-! ## Lines that are headings, and lines that are not -/

/-- A line that opens a section, with a heading or without: two or three number
signs, with white space behind them or nothing. -/
def OpensSection (line : Text) : Prop :=
  ∃ marks ∈ sectionMarks, marks <+: line ∧ (line.drop marks.length).head?.all isBlank = true

instance (line : Text) : Decidable (OpensSection line) :=
  inferInstanceAs (Decidable (∃ marks ∈ sectionMarks, _))

theorem OpensSection.prefix_signs {line : Text} (opens : OpensSection line) :
    ['#', '#'] <+: line := by
  obtain ⟨marks, member, start, _⟩ := opens
  exact (prefix_of_mem_sectionMarks member).trans start

section Line

variable {marks heading line rest : Text}

/-- Signs of a section end where something else stands. -/
theorem signs_append_of_mem (member : marks ∈ sectionMarks) (other : ∀ c ∈ rest.head?, c ≠ '#') :
    signs (marks ++ rest) = marks := by
  refine takeWhile_append_run ?_ fun c first => beq_eq_false_iff_ne.mpr (other c first)
  rcases List.mem_pair.mp member with rfl | rfl <;> exact List.all_eq_true.mp rfl

/-- What stands behind signs of a section decides whether a section begins. -/
theorem sectionHeading?_marks (member : marks ∈ sectionMarks) (other : ∀ c ∈ rest.head?, c ≠ '#') :
    sectionHeading? (marks ++ rest) =
      (headingBehindBlank? rest).map fun found =>
        { found with length := marks.length + found.length } := by
  rw [sectionHeading?_eq, signs_append_of_mem member other, if_pos member, List.drop_left]

/-- There is no heading where no white space stands. -/
theorem headingBehindBlank?_of_solid {c : Char} (solid : isBlank c = false) (rest : Text) :
    headingBehindBlank? (c :: rest) = none := by
  simp [headingBehindBlank?, solid]

/-- Behind white space the heading is read from the first other character up to
the end of its line. -/
theorem headingBehindBlank?_filled {gap : Text} {c : Char} (filled : gap ≠ []) (blank : Blank gap)
    (solid : isBlank c = false) (single : '\n' ∉ c :: line) (ends : EndsLine rest) :
    headingBehindBlank? (gap ++ (c :: line ++ rest)) =
      some ⟨trim (c :: line), gap.length + (c :: line).length⟩ := by
  have whole : (c :: line ++ rest).takeWhile (· != '\n') = c :: line := by
    refine takeWhile_append_run (fun d member => ?_) fun d first => ?_
    · exact bne_iff_ne.mpr fun same => single (same ▸ member)
    · rw [ends d first]
      rfl
  have stops : ∀ d ∈ (c :: line ++ rest).head?, isBlank d = false := by
    rintro _ ⟨⟩
    exact solid
  obtain ⟨first, others, rfl⟩ := List.exists_cons_of_ne_nil filled
  rw [headingBehindBlank?, takeWhile_append_run blank stops, dropWhile_append_run blank stops]
  rw [List.cons_append] at whole ⊢
  dsimp only
  rw [whole]

/-- **A line of signs, a blank and a trimmed text is a heading.** -/
theorem takesLine_heading (member : marks ∈ sectionMarks) (filled : heading ≠ [])
    (trimmed : Trimmed heading) (single : '\n' ∉ heading) :
    TakesLine sectionHeading? (marks ++ ' ' :: heading) (some heading) := by
  intro rest ends
  have other : ∀ c ∈ (' ' :: (heading ++ rest)).head?, c ≠ '#' := by
    intro c first
    cases first
    decide
  have blank : Blank [' '] := by decide
  obtain ⟨first, others, rfl⟩ := List.exists_cons_of_ne_nil filled
  have read := headingBehindBlank?_filled (List.cons_ne_nil ' ' []) blank
    ((trimmed_iff.mp trimmed).1 first rfl) single ends
  rw [trimmed, List.singleton_append] at read
  rw [List.append_assoc, List.cons_append, sectionHeading?_marks member other, read]
  simp [Nat.add_comm]

/-- **A line that opens no section is passed over.** -/
theorem takesLine_of_not_opens (plain : ¬ OpensSection line) :
    TakesLine sectionHeading? line none := by
  intro rest ends
  have whole : signs line ++ line.dropWhile (· == '#') = line := List.takeWhile_append_dropWhile
  have solid := List.head?_dropWhile_not (· == '#') line
  generalize line.dropWhile (· == '#') = tail at whole solid
  have other : ∀ c ∈ (tail ++ rest).head?, (c == '#') = false := by
    intro c first
    cases tail with
    | nil => rw [ends c first]; rfl
    | cons d tail =>
        cases first
        exact solid
  have same : signs (line ++ rest) = signs line := by
    conv_lhs => rw [← whole, List.append_assoc]
    refine takeWhile_append_run (fun c member => ?_) other
    exact List.mem_takeWhile_imp (p := (· == '#')) member
  rw [sectionHeading?_eq, same]
  split
  next member =>
    generalize signs line = marks at whole member
    subst whole
    rw [List.append_assoc, List.drop_left]
    have opens : tail.head?.all isBlank = true → OpensSection (marks ++ tail) :=
      fun blank => ⟨marks, member, List.prefix_append marks tail, by rwa [List.drop_left]⟩
    cases tail with
    | nil => exact absurd (opens rfl) plain
    | cons c tail =>
        have other : isBlank c = false := Bool.eq_false_iff.mpr (mt opens plain)
        rw [List.cons_append, headingBehindBlank?_of_solid other]
        rfl
  next => rfl

end Line

/-! ## Headings in longer texts -/

section Longer

variable {text more : Text}

/-- Behind white space and another character, the heading is read up to the end
of the line. -/
theorem headingBehindBlank?_append (filled : ¬ Blank text) :
    headingBehindBlank? (text ++ '\n' :: more) = headingBehindBlank? text := by
  obtain ⟨front, c, rest, rfl, blank, solid⟩ := exists_of_not_blank filled
  have read : ∀ tail : Text, headingBehindBlank? (front ++ c :: tail) =
      match front with
      | [] => none
      | _ :: _ =>
        let heading := (c :: tail).takeWhile (· != '\n')
        some ⟨trim heading, front.length + heading.length⟩ := by
    intro tail
    have ends : ∀ d ∈ (c :: tail).head?, isBlank d = false := fun d first =>
      Option.some.inj first ▸ solid
    rw [headingBehindBlank?, takeWhile_append_run blank ends, dropWhile_append_run blank ends]
    cases front <;> rfl
  have line : (c :: (rest ++ '\n' :: more)).takeWhile (· != '\n') =
      (c :: rest).takeWhile (· != '\n') :=
    takeWhile_append_stop (by decide) (c :: rest) more
  rw [List.append_assoc, List.cons_append, read, read, line]

/-- Behind a blank there is a heading where there is something else than
newlines. -/
theorem isSome_headingBehindBlank?_cons {c : Char} {rest : Text} (blank : isBlank c = true) :
    (headingBehindBlank? (c :: rest)).isSome = true ↔ ∃ d ∈ rest, d ≠ '\n' := by
  rw [headingBehindBlank?, List.takeWhile_cons_of_pos blank, List.dropWhile_cons_of_pos blank]
  cases left : rest.dropWhile isBlank with
  | nil =>
      have onlyNewlines : (trimRightBy (· == '\n') rest).isEmpty = true ↔
          ∀ d ∈ rest, (d == '\n') = true :=
        List.isEmpty_iff.trans List.rdropWhile_eq_nil_iff
      rw [List.takeWhile_eq_self_iff.mpr (List.dropWhile_eq_nil_iff.mp left)]
      dsimp only
      split
      next empty =>
        refine ⟨nofun, fun ⟨d, member, other⟩ => ?_⟩
        exact absurd (eq_of_beq (onlyNewlines.mp empty d member)) other
      next filled =>
        simp only [onlyNewlines, not_forall, beq_iff_eq] at filled
        obtain ⟨d, member, other⟩ := filled
        exact ⟨fun _ => ⟨d, member, other⟩, fun _ => rfl⟩
  | cons d tail =>
      have solid := List.head?_dropWhile_not isBlank rest
      rw [left] at solid
      have member : d ∈ rest :=
        (List.dropWhile_suffix isBlank).subset (left ▸ List.mem_cons_self)
      refine ⟨fun _ => ⟨d, member, ?_⟩, fun _ => rfl⟩
      rintro rfl
      cases solid

/-- **Where there is a heading**: behind a blank there is something else than
newlines. -/
theorem isSome_headingBehindBlank?_iff :
    (headingBehindBlank? text).isSome = true ↔
      ∃ c rest, text = c :: rest ∧ isBlank c = true ∧ ∃ d ∈ rest, d ≠ '\n' := by
  constructor
  · intro some
    cases text with
    | nil => cases some
    | cons c rest =>
        by_cases blank : isBlank c = true
        · exact ⟨c, rest, rfl, blank, (isSome_headingBehindBlank?_cons blank).mp some⟩
        · rw [headingBehindBlank?_of_solid (Bool.eq_false_iff.mpr blank)] at some
          cases some
  · rintro ⟨c, rest, rfl, blank, other⟩
    exact (isSome_headingBehindBlank?_cons blank).mpr other

/-- What is taken as a sign is one. -/
theorem sign_of_lt {index : Nat} (below : index < (signs text).length) :
    text[index]? = some '#' := by
  have taken : (signs text)[index] = '#' :=
    eq_of_beq (List.mem_takeWhile_imp (p := (· == '#')) (List.getElem_mem below))
  have whole : text = signs text ++ text.dropWhile (· == '#') :=
    List.takeWhile_append_dropWhile.symm
  rw [whole, List.getElem?_append_left below, List.getElem?_eq_getElem below, taken]

theorem signs_append : signs (text ++ '\n' :: more) = signs text :=
  takeWhile_append_stop (by decide) text more

theorem drop_signs_append :
    (text ++ '\n' :: more).drop (signs (text ++ '\n' :: more)).length =
      text.drop (signs text).length ++ '\n' :: more := by
  rw [signs_append]
  exact List.drop_append_of_le_length (List.takeWhile_prefix _).length_le

theorem sectionHeading?_append (filled : ¬ Blank (text.drop (signs text).length)) :
    sectionHeading? (text ++ '\n' :: more) = sectionHeading? text := by
  rw [sectionHeading?_eq, sectionHeading?_eq, drop_signs_append, signs_append,
    headingBehindBlank?_append filled]

theorem isSome_sectionHeading?_iff :
    (sectionHeading? text).isSome = true ↔ signs text ∈ sectionMarks ∧
      (headingBehindBlank? (text.drop (signs text).length)).isSome = true := by
  rw [sectionHeading?_eq]
  split
  next member => simp [member]
  next other => simp [other]

/-- A heading stays one. -/
theorem sectionHeading?_stays (begins : (sectionHeading? text).isSome = true) :
    (sectionHeading? (text ++ '\n' :: more)).isSome = true := by
  rw [isSome_sectionHeading?_iff, isSome_headingBehindBlank?_iff] at begins ⊢
  obtain ⟨member, c, rest, whole, blank, d, inside, other⟩ := begins
  rw [drop_signs_append, signs_append, whole]
  exact ⟨member, c, rest ++ '\n' :: more, rfl, blank, d, List.mem_append_left _ inside, other⟩

/-- Where there is nothing but white space, the heading is empty. -/
theorem heading_eq_nil_of_blank {found : Match Text} (blank : Blank text)
    (matched : headingBehindBlank? text = some found) : found.value = [] := by
  obtain ⟨taken, rest, whole, _, inside, trimmed⟩ := exists_of_headingBehindBlank? matched
  have all : Blank found.value := fun c member =>
    blank c (whole ▸ List.mem_append_left rest (inside.subset member))
  rw [Trimmed, trim_eq_nil_iff.mpr all] at trimmed
  exact trimmed.symm

/-- A heading that is not empty has more than white space behind its signs. -/
theorem not_blank_of_heading {found : Match Text} (matched : sectionHeading? text = some found)
    (named : found.value ≠ []) : ¬ Blank (text.drop (signs text).length) := by
  intro blank
  rw [sectionHeading?_eq] at matched
  split at matched
  next =>
    obtain ⟨inner, behind, rfl⟩ := Option.map_eq_some_iff.mp matched
    have empty : inner.value = [] := heading_eq_nil_of_blank blank behind
    exact named empty
  next => cases matched

/-- **What follows a line changes the last heading at most.** -/
theorem settled_sectionHeading : Settled sectionHeading? text ('\n' :: more) where
  stays offset _ begins :=
    Option.isSome_iff_ne_none.mp (sectionHeading?_stays (Option.isSome_iff_ne_none.mpr begins))
  same offset later before within lineStart begins := by
    refine sectionHeading?_append fun blank => ?_
    obtain ⟨found, matched⟩ := Option.ne_none_iff_exists'.mp begins
    obtain ⟨marks, member, taken, rest, whole, _⟩ := exists_of_sectionHeading? matched
    obtain ⟨tail, rfl⟩ := prefix_of_mem_sectionMarks member
    obtain ⟨_, sign, _⟩ := of_drop_eq_cons whole
    rcases Nat.lt_or_ge later (offset + (signs (text.drop offset)).length) with inside | behind
    · -- no line begins among the signs
      have taken : (text.drop offset)[later - 1 - offset]? = some '#' := sign_of_lt (by omega)
      rw [List.getElem?_drop, show offset + (later - 1 - offset) = later - 1 by omega] at taken
      rcases lineStart with zero | newline
      · omega
      · rw [taken] at newline
        cases newline
    · obtain ⟨step, rfl⟩ := Nat.exists_eq_add_of_le behind
      have there : ((text.drop offset).drop (signs (text.drop offset)).length)[step]? = some '#' := by
        rw [List.drop_drop, List.getElem?_drop, sign]
      cases blank _ (List.mem_of_getElem? there)

end Longer

end ReviewGate.Record
