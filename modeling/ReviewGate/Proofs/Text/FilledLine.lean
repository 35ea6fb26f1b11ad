import ReviewGate.Proofs.Text.LineScan
import ReviewGate.Proofs.Text.Trim

/-!
# The first line that is not blank

White space that runs over the ends of lines takes the lines that are blank and
stops on the first line that is not (`exists_of_firstFilled?`). What goes on
there stands on that line, behind the white space at its beginning. Where all
lines are blank, it takes the whole text.
-/

set_option autoImplicit false

namespace ReviewGate.Text

/-- The first of some lines that is not blank, and how many of the lines below
the first one lie between. -/
def firstFilled? : List Text → Option (Reach Text)
  | [] => none
  | line :: more =>
      if Blank line then (firstFilled? more).map fun found => ⟨found.value, found.below + 1⟩
      else some ⟨line, 0⟩

theorem firstFilled?_eq_none_iff {texts : List Text} :
    firstFilled? texts = none ↔ ∀ line ∈ texts, Blank line := by
  induction texts with
  | nil => simp [firstFilled?]
  | cons line more ih =>
      rw [firstFilled?, List.forall_mem_cons, ← ih]
      by_cases blank : Blank line <;> simp [blank]

theorem Blank.append {front back : Text} (first : Blank front) (second : Blank back) :
    Blank (front ++ back) := by
  intro c member
  rcases List.mem_append.mp member with before | behind
  · exact first c before
  · exact second c behind

theorem blank_newline {text : Text} (blank : Blank text) : Blank ('\n' :: text) := by
  have newline : Blank ['\n'] := by decide
  exact newline.append blank

theorem blank_unlines {texts : List Text} (blank : ∀ line ∈ texts, Blank line) :
    Blank (unlines texts) := by
  induction texts with
  | nil => intro c member; cases member
  | cons line more ih =>
      obtain ⟨first, others⟩ := List.forall_mem_cons.mp blank
      cases more with
      | nil => rwa [unlines_singleton]
      | cons next rest =>
          rw [unlines_cons line (List.cons_ne_nil next rest)]
          exact first.append (blank_newline (ih others))

/-- Where the first line begins with white space, if with anything, so do all
lines together. -/
theorem blank_head_unlines {line : Text} (begins : ∀ c ∈ line.head?, isBlank c = true)
    (more : List Text) : ∀ c ∈ (unlines (line :: more)).head?, isBlank c = true := by
  intro c first
  obtain ⟨rest, whole, ends⟩ := exists_unlines_cons line more
  rw [whole] at first
  cases line with
  | nil =>
      rw [ends c first]
      rfl
  | cons d line => exact begins c first

/-- A line that is not blank is the first one itself. -/
theorem firstFilled?_of_filled {line : Text} (filled : ¬ Blank line) (more : List Text) :
    firstFilled? (line :: more) = some ⟨line, 0⟩ := by
  rw [firstFilled?, if_neg filled]

/-- Behind a blank line, one line more lies between. -/
theorem firstFilled?_of_blank {line : Text} (blank : Blank line) (more : List Text) :
    firstFilled? (line :: more) =
      (firstFilled? more).map fun found => ⟨found.value, found.below + 1⟩ := by
  rw [firstFilled?, if_pos blank]

/-- The lines fall apart at the first one that is not blank. -/
theorem exists_append_of_firstFilled? {texts : List Text} {found : Reach Text}
    (first : firstFilled? texts = some found) :
    ∃ front more, texts = front ++ found.value :: more ∧ (∀ line ∈ front, Blank line) ∧
      ¬ Blank found.value ∧ front.length = found.below := by
  induction texts generalizing found with
  | nil => cases first
  | cons line more ih =>
      by_cases blank : Blank line
      · rw [firstFilled?_of_blank blank] at first
        obtain ⟨inner, below, rfl⟩ := Option.map_eq_some_iff.mp first
        obtain ⟨front, rest, rfl, blanks, filled, length⟩ := ih below
        exact ⟨line :: front, rest, rfl, List.forall_mem_cons.mpr ⟨blank, blanks⟩, filled,
          congrArg (· + 1) length⟩
      · rw [firstFilled?_of_filled blank] at first
        cases first
        exact ⟨[], more, rfl, nofun, blank, rfl⟩

/-- **White space in front of lines stops on the first one that is not blank**:
the text goes on there behind the white space at the beginning of that line,
and what is taken up to some character of it takes all lines down to it. -/
theorem exists_of_firstFilled? {texts : List Text} {found : Reach Text}
    (first : firstFilled? texts = some found) :
    ∃ gap front c line rest, unlines texts = gap ++ (c :: line ++ rest) ∧
      found.value = front ++ c :: line ∧ found.value ∈ texts ∧ Blank gap ∧ Blank front ∧
      isBlank c = false ∧ EndsLine rest ∧
      ∀ length ≤ line.length, linesTaken (gap.length + (length + 1)) texts = found.below + 1 := by
  induction texts generalizing found with
  | nil => cases first
  | cons line more ih =>
      by_cases blank : Blank line
      · rw [firstFilled?_of_blank blank] at first
        obtain ⟨inner, below, rfl⟩ := Option.map_eq_some_iff.mp first
        obtain ⟨gap, front, c, tail, rest, whole, value, member, gapBlank, frontBlank, solid, ends,
          taken⟩ := ih below
        have filled : more ≠ [] := List.ne_nil_of_mem member
        refine ⟨line ++ '\n' :: gap, front, c, tail, rest, ?_, value,
          List.mem_cons_of_mem line member, blank.append (blank_newline gapBlank), frontBlank,
          solid, ends, fun length within => ?_⟩
        · rw [unlines_cons line filled, whole]
          simp
        · rw [← taken length within, ← linesTaken_below]
          congr 1
          simp only [List.length_append, List.length_cons]
          omega
      · rw [firstFilled?_of_filled blank] at first
        cases first
        obtain ⟨front, c, tail, rfl, blank, solid⟩ := exists_of_not_blank blank
        obtain ⟨rest, whole, ends⟩ := exists_unlines_cons (front ++ c :: tail) more
        refine ⟨front, front, c, tail, rest, ?_, rfl, List.mem_cons_self, blank, blank, solid, ends,
          fun length within => ?_⟩
        · rw [whole, List.append_assoc]
        · refine linesTaken_line (by omega) ?_ more
          simp only [List.length_append, List.length_cons]
          omega

end ReviewGate.Text
