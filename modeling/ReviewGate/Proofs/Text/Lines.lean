import Mathlib.Data.List.Basic
import ReviewGate.Text.Basic

/-!
# Lines

The lines of a text are the parts that the library's splitting gives
(`lines_eq_splitOn`), so joining them with newlines gives the text again
(`unlines_lines`). No line holds a newline, and a text that goes on with a
newline behind a row without one begins with that row as its first line
(`lines_line`). Texts with a newline between them have the lines of both
(`lines_append`).
-/

set_option autoImplicit false

namespace ReviewGate.Text

/-! ## Splitting -/

theorem splitWhere_eq_splitOnP {α : Type} (separates : α → Bool) (text : List α) :
    splitWhere separates text = text.splitOnP separates := by
  induction text with
  | nil => rfl
  | cons c rest ih =>
      rw [splitWhere, List.splitOnP_cons_eq_if_modifyHead, ih]
      split
      · rfl
      · cases split : rest.splitOnP separates with
        | nil => exact absurd split (List.splitOnP_ne_nil separates rest)
        | cons part more => rfl

/-- Splitting at newlines is the library's splitting. -/
theorem lines_eq_splitOn (text : Text) : lines text = text.splitOn '\n' := by
  rw [lines, splitWhere_eq_splitOnP, List.splitOn_eq_splitOnP]

theorem lines_ne_nil (text : Text) : lines text ≠ [] :=
  splitWhere_ne_nil _ text

/-- **A text is what its lines give when they are joined.** -/
theorem unlines_lines (text : Text) : unlines (lines text) = text := by
  rw [lines_eq_splitOn]
  exact List.intercalate_splitOn '\n'

/-- The first line ends at the first newline. -/
theorem lines_line {line : Text} (single : '\n' ∉ line) (rest : Text) :
    lines (line ++ '\n' :: rest) = line :: lines rest := by
  simp only [lines_eq_splitOn]
  exact List.splitOn_append_cons_self_of_not_mem single rest

/-- The lines of two texts with a newline between them are the lines of both. -/
theorem lines_append (first second : Text) :
    lines (first ++ '\n' :: second) = lines first ++ lines second := by
  induction first with
  | nil => rfl
  | cons c first ih =>
      unfold lines at ih ⊢
      rw [List.cons_append, splitWhere, splitWhere]
      by_cases newline : (c == '\n') = true
      · rw [if_pos newline, if_pos newline, ih, List.cons_append]
      · rw [if_neg newline, if_neg newline, ih]
        cases parts : splitWhere (· == '\n') first with
        | nil => exact absurd parts (splitWhere_ne_nil _ first)
        | cons part more => rfl

/-- What stands in front of the first newline belongs to the first line. -/
theorem lines_append_of_single {front : Text} (single : '\n' ∉ front) (text : Text) :
    lines (front ++ text) = (lines text).modifyHead (front ++ ·) := by
  obtain ⟨line, more, parts⟩ := List.exists_cons_of_ne_nil (lines_ne_nil text)
  rw [parts, List.modifyHead_cons]
  induction front with
  | nil => exact parts
  | cons c front ih =>
      have other : ¬ (c == '\n') = true := fun same =>
        single ((beq_iff_eq.mp same) ▸ List.mem_cons_self)
      have later := ih fun member => single (List.mem_cons_of_mem c member)
      rw [lines] at later ⊢
      rw [List.cons_append, splitWhere, if_neg other, later]
      rfl

/-- A text without newlines is its only line. -/
theorem lines_of_single {line : Text} (single : '\n' ∉ line) : lines line = [line] := by
  rw [lines_eq_splitOn]
  exact List.splitOn_eq_singleton single

/-- No line holds a newline. -/
theorem not_mem_of_mem_lines {text line : Text} (member : line ∈ lines text) : '\n' ∉ line := by
  have part : ∀ text : Text, ∀ line ∈ lines text, ∀ c ∈ line, (c == '\n') = false := by
    intro text
    unfold lines
    induction text with
    | nil =>
        intro line member c inside
        rw [List.mem_singleton.mp member] at inside
        cases inside
    | cons c rest ih =>
        intro line member d inside
        rw [splitWhere] at member
        split at member
        · rcases List.mem_cons.mp member with rfl | later
          · cases inside
          · exact ih line later d inside
        next solid =>
          split at member
          next empty => exact absurd empty (splitWhere_ne_nil _ rest)
          next part more same =>
            rw [same] at ih
            rcases List.mem_cons.mp member with rfl | later
            · rcases List.mem_cons.mp inside with rfl | within
              · exact Bool.eq_false_iff.mpr solid
              · exact ih part List.mem_cons_self d within
            · exact ih line (List.mem_cons_of_mem part later) d inside
  intro inside
  have different := part text line member '\n' inside
  simp at different

/-! ## Joining -/

theorem unlines_singleton (line : Text) : unlines [line] = line :=
  List.intercalate_singleton

theorem unlines_cons (line : Text) {more : List Text} (filled : more ≠ []) :
    unlines (line :: more) = line ++ '\n' :: unlines more := by
  simp [unlines, List.intercalate_cons_of_ne_nil filled]

/-- What stands at the beginning of the first line stands in front of all lines. -/
theorem unlines_append_cons (front line : Text) (more : List Text) :
    unlines ((front ++ line) :: more) = front ++ unlines (line :: more) := by
  cases more with
  | nil => rw [unlines_singleton, unlines_singleton]
  | cons next others =>
      rw [unlines_cons _ (List.cons_ne_nil next others),
        unlines_cons _ (List.cons_ne_nil next others), List.append_assoc]

/-- What stands behind the last line goes on with the first of the lines behind it. -/
theorem unlines_concat_append_unlines (above : List Text) (front rest : Text)
    (below : List Text) :
    unlines (above ++ [front]) ++ unlines (rest :: below) =
      unlines (above ++ (front ++ rest) :: below) := by
  induction above with
  | nil =>
      rw [List.nil_append, List.nil_append, unlines_singleton, unlines_append_cons]
  | cons line above ih =>
      rw [List.cons_append, List.cons_append, unlines_cons line (by simp),
        unlines_cons line (by simp), List.append_assoc, List.cons_append, ih]

/-- Lines without newlines are the lines of what they give when they are joined. -/
theorem lines_unlines {texts : List Text} (filled : texts ≠ [])
    (single : ∀ line ∈ texts, '\n' ∉ line) : lines (unlines texts) = texts := by
  induction texts with
  | nil => exact absurd rfl filled
  | cons line more ih =>
      obtain ⟨here, others⟩ := List.forall_mem_cons.mp single
      cases more with
      | nil => rw [unlines_singleton, lines_of_single here]
      | cons next rest =>
          have below := ih (List.cons_ne_nil next rest) others
          rw [unlines_cons line (List.cons_ne_nil next rest), lines_line here, below]

theorem unlines_eq_nil {line : Text} {more : List Text} (nothing : unlines (line :: more) = []) :
    line = [] ∧ more = [] := by
  cases more with
  | nil =>
      rw [unlines_singleton] at nothing
      exact ⟨nothing, rfl⟩
  | cons next others =>
      rw [unlines_cons line (List.cons_ne_nil next others)] at nothing
      exact absurd nothing (by simp)

/-- Joined texts hold the characters of each, and newlines. -/
theorem mem_unlines_iff {c : Char} (other : c ≠ '\n') {texts : List Text} :
    c ∈ unlines texts ↔ ∃ line ∈ texts, c ∈ line := by
  induction texts with
  | nil => simp [unlines]
  | cons line more ih =>
      cases more with
      | nil => simp [unlines_singleton]
      | cons next others =>
          rw [unlines_cons line (List.cons_ne_nil next others), List.mem_append, List.mem_cons,
            or_iff_right other, ih]
          simp

/-- Lines hold something else than newlines when one of them is not empty. -/
theorem exists_ne_newline_iff {texts : List Text} (single : ∀ line ∈ texts, '\n' ∉ line) :
    (∃ c ∈ unlines texts, c ≠ '\n') ↔ ∃ line ∈ texts, line ≠ [] := by
  constructor
  · rintro ⟨c, inside, other⟩
    obtain ⟨line, member, here⟩ := (mem_unlines_iff other).mp inside
    exact ⟨line, member, List.ne_nil_of_mem here⟩
  · rintro ⟨line, member, filled⟩
    obtain ⟨c, rest, rfl⟩ := List.exists_cons_of_ne_nil filled
    obtain ⟨other, _⟩ := List.ne_and_not_mem_of_not_mem_cons (single _ member)
    exact ⟨c, (mem_unlines_iff other.symm).mpr ⟨_, member, List.mem_cons_self⟩, other.symm⟩

/-- Joined texts are joined by one newline more. -/
theorem unlines_append {first second : List Text} (firstFilled : first ≠ [])
    (secondFilled : second ≠ []) :
    unlines (first ++ second) = unlines first ++ '\n' :: unlines second := by
  induction first with
  | nil => exact absurd rfl firstFilled
  | cons line more ih =>
      cases more with
      | nil =>
          rw [List.singleton_append, unlines_cons line secondFilled, unlines_singleton]
      | cons next others =>
          rw [List.cons_append, unlines_cons line (by simp), ih (List.cons_ne_nil next others),
            unlines_cons line (List.cons_ne_nil next others), List.append_assoc, List.cons_append]

/-- Joining texts joins their lines. -/
theorem unlines_flatMap_lines (texts : List Text) :
    unlines (texts.flatMap lines) = unlines texts := by
  induction texts with
  | nil => rfl
  | cons text more ih =>
      cases more with
      | nil =>
          rw [List.flatMap_singleton, unlines_lines, unlines_singleton]
      | cons next others =>
          have filled : (next :: others).flatMap lines ≠ [] := by
            simp [lines_ne_nil]
          rw [List.flatMap_cons, unlines_append (lines_ne_nil text) filled, ih, unlines_lines,
            unlines_cons text (List.cons_ne_nil next others)]

/-! ## Behind a line -/

/-- What may stand behind a line: nothing, or a newline and more. -/
def EndsLine (rest : Text) : Prop := ∀ c ∈ rest.head?, c = '\n'

theorem endsLine_newline (rest : Text) : EndsLine ('\n' :: rest) :=
  fun _ first => (Option.some.inj first).symm

/-- Lines begin with the first of them. -/
theorem exists_unlines_cons (line : Text) (more : List Text) :
    ∃ rest, unlines (line :: more) = line ++ rest ∧ EndsLine rest := by
  cases more with
  | nil => exact ⟨[], by rw [unlines_singleton, List.append_nil], nofun⟩
  | cons next others =>
      exact ⟨_, unlines_cons line (List.cons_ne_nil next others), endsLine_newline _⟩

end ReviewGate.Text
