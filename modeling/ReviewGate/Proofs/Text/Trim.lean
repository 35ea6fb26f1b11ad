import Mathlib.Data.List.DropRight
import Mathlib.Data.List.TakeWhile
import ReviewGate.Text.Blank

/-!
# Trimmed texts

A text is what trimming leaves of it between two rows of white space
(`exists_trim`), so whatever contains no white space occurs in a text exactly
when it occurs in the trimmed one (`infix_trim_iff`). A text is trimmed when
trimming leaves it as it is; it then begins and ends with other characters
than white space, if it is not empty.
-/

set_option autoImplicit false

namespace ReviewGate.Text

/-! ## Runs of a class -/

/-- What a class takes from the beginning of a text ends where the class ends. -/
theorem takeWhile_append_run {inClass : Char → Bool} {text rest : Text}
    (all : ∀ c ∈ text, inClass c = true) (ends : ∀ c ∈ rest.head?, inClass c = false) :
    (text ++ rest).takeWhile inClass = text := by
  rw [List.takeWhile_append_of_pos all]
  cases rest with
  | nil => simp
  | cons c rest => simp [ends c rfl]

theorem dropWhile_append_run {inClass : Char → Bool} {text rest : Text}
    (all : ∀ c ∈ text, inClass c = true) (ends : ∀ c ∈ rest.head?, inClass c = false) :
    (text ++ rest).dropWhile inClass = rest := by
  rw [List.dropWhile_append_of_pos all]
  cases rest with
  | nil => simp
  | cons c rest => simp [ends c rfl]

/-- What a class takes from a text does not reach over a character outside it. -/
theorem takeWhile_append_stop {inClass : Char → Bool} {c : Char} (stops : inClass c = false)
    (text rest : Text) : (text ++ c :: rest).takeWhile inClass = text.takeWhile inClass := by
  rw [List.takeWhile_append, List.takeWhile_cons_of_neg (by rw [stops]; exact Bool.false_ne_true)]
  split
  next all => rw [List.append_nil, (List.takeWhile_prefix inClass).eq_of_length all]
  next => rfl

/-! ## White space -/

/-- A text of nothing but white space. -/
def Blank (text : Text) : Prop := ∀ c ∈ text, isBlank c = true

/-- A text without white space. -/
def Solid (text : Text) : Prop := ∀ c ∈ text, isBlank c = false

instance (text : Text) : Decidable (Blank text) :=
  decidable_of_iff (text.all isBlank = true) List.all_eq_true

instance (text : Text) : Decidable (Solid text) :=
  decidable_of_iff (text.all (! isBlank ·) = true) (by simp [Solid])

/-- A text that trimming leaves as it is. -/
def Trimmed (text : Text) : Prop := trim text = text

theorem trim_eq_rdropWhile (text : Text) :
    trim text = (text.dropWhile isBlank).rdropWhile isBlank := rfl

/-- Trimming takes white space off both ends and nothing else. -/
theorem exists_trim (text : Text) :
    ∃ front back, text = front ++ (trim text ++ back) ∧ Blank front ∧ Blank back := by
  refine ⟨text.takeWhile isBlank, (text.dropWhile isBlank).rtakeWhile isBlank, ?_, ?_, ?_⟩
  · rw [trim_eq_rdropWhile, List.rdropWhile_append_rtakeWhile, List.takeWhile_append_dropWhile]
  · exact fun c member => List.mem_takeWhile_imp member
  · exact fun c member => List.mem_rtakeWhile_imp member

theorem infix_trim (text : Text) : trim text <:+: text := by
  obtain ⟨front, back, whole, _, _⟩ := exists_trim text
  rw [← List.append_assoc] at whole
  exact ⟨front, back, whole.symm⟩

theorem trim_subset (text : Text) : trim text ⊆ text :=
  (infix_trim text).subset

/-- Nothing is left of a text exactly when it is all white space. -/
theorem trim_eq_nil_iff {text : Text} : trim text = [] ↔ Blank text := by
  constructor
  · intro empty
    obtain ⟨front, back, whole, frontBlank, backBlank⟩ := exists_trim text
    rw [empty, List.nil_append] at whole
    intro c member
    rw [whole] at member
    exact (List.mem_append.mp member).elim (frontBlank c) (backBlank c)
  · intro blank
    rw [trim_eq_rdropWhile, List.dropWhile_eq_nil_iff.mpr blank, List.rdropWhile_nil]

/-- A text with more than white space in it begins with white space, perhaps
none, and another character. -/
theorem exists_of_not_blank {text : Text} (filled : ¬ Blank text) :
    ∃ front c rest, text = front ++ c :: rest ∧ Blank front ∧ isBlank c = false := by
  have whole := List.takeWhile_append_dropWhile (p := isBlank) (l := text)
  have solid := List.head?_dropWhile_not isBlank text
  cases left : text.dropWhile isBlank with
  | nil => exact absurd (fun c member => List.dropWhile_eq_nil_iff.mp left c member) filled
  | cons c rest =>
      rw [left] at whole solid
      exact ⟨_, c, rest, whole.symm, fun d member => List.mem_takeWhile_imp member, solid⟩

/-- What begins with white space does not begin with another character. -/
theorem ne_nil_of_blank_head {front rest : Text} {c : Char} (solid : isBlank c = false)
    (begins : ∀ d ∈ (front ++ c :: rest).head?, isBlank d = true) : front ≠ [] := by
  rintro rfl
  rw [begins c rfl] at solid
  cases solid

/-- White space at the end is trimmed off. -/
theorem trim_append_of_blank {back : Text} (blank : Blank back) (text : Text) :
    trim (text ++ back) = trim text := by
  have behind : ∀ front : Text, (front ++ back).rdropWhile isBlank = front.rdropWhile isBlank := by
    intro front
    rw [List.rdropWhile, List.reverse_append, List.dropWhile_append_of_pos, List.rdropWhile]
    exact fun c member => blank c (List.mem_reverse.mp member)
  rw [trim_eq_rdropWhile, trim_eq_rdropWhile, List.dropWhile_append]
  split
  next empty =>
    rw [List.isEmpty_iff.mp empty, List.dropWhile_eq_nil_iff.mpr blank]
  next => exact behind _

/-- White space at the beginning is trimmed off. -/
theorem trim_blank_append {front : Text} (blank : Blank front) (text : Text) :
    trim (front ++ text) = trim text := by
  rw [trim_eq_rdropWhile, List.dropWhile_append_of_pos blank, trim_eq_rdropWhile]

/-- Trimming at the end stops at the last character that is no white space. -/
theorem trimRight_append_cons {c : Char} {back : Text} (solid : isBlank c = false)
    (blank : Blank back) (front : Text) : trimRight (front ++ c :: back) = front ++ [c] := by
  have kept : (c :: front.reverse).dropWhile isBlank = c :: front.reverse :=
    List.dropWhile_cons_of_neg (Bool.eq_false_iff.mp solid)
  rw [trimRight, trimRightBy, List.reverse_append, List.reverse_cons, List.append_assoc,
    List.dropWhile_append_of_pos (fun d member => blank d (List.mem_reverse.mp member)),
    List.singleton_append, kept, List.reverse_cons, List.reverse_reverse]

/-- There is one last character that is no white space. -/
theorem eq_of_append_cons_eq {first second back rest : Text} {c d : Char}
    (same : first ++ c :: back = second ++ d :: rest) (solid : isBlank c = false)
    (blank : Blank back) (solidOther : isBlank d = false) (blankOther : Blank rest) :
    first = second ∧ c = d := by
  have trimmed := congrArg trimRight same
  rw [trimRight_append_cons solid blank, trimRight_append_cons solidOther blankOther] at trimmed
  obtain ⟨front, last⟩ := List.append_inj' trimmed rfl
  exact ⟨front, (List.cons.inj last).1⟩

/-! ## Trimmed texts -/

/-- A text is trimmed when it neither begins nor ends with white space. -/
theorem trimmed_iff {text : Text} :
    Trimmed text ↔
      (∀ c ∈ text.head?, isBlank c = false) ∧ ∀ c ∈ text.getLast?, isBlank c = false := by
  constructor
  · intro trimmed
    rw [Trimmed, trim_eq_rdropWhile] at trimmed
    have whole : text.dropWhile isBlank = text := by
      refine (List.dropWhile_suffix isBlank).eq_of_length_le ?_
      have shorter := (List.rdropWhile_prefix isBlank (text.dropWhile isBlank)).length_le
      rwa [trimmed] at shorter
    rw [whole, List.rdropWhile_eq_self_iff] at trimmed
    refine ⟨fun c first => ?_, fun c last => ?_⟩
    · obtain ⟨rest, rfl⟩ := List.head?_eq_some_iff.mp first
      have kept := List.dropWhile_eq_self_iff.mp whole (Nat.succ_pos _)
      exact Bool.eq_false_iff.mpr kept
    · have filled : text ≠ [] := List.ne_nil_of_mem (List.mem_of_getLast? last)
      rw [Option.mem_def, List.getLast?_eq_some_getLast filled, Option.some.injEq] at last
      exact Bool.eq_false_iff.mpr (last ▸ trimmed filled)
  · rintro ⟨first, last⟩
    have whole : text.dropWhile isBlank = text := by
      cases text with
      | nil => rfl
      | cons c rest => exact List.dropWhile_cons_of_neg (Bool.eq_false_iff.mp (first c rfl))
    rw [Trimmed, trim_eq_rdropWhile, whole, List.rdropWhile_eq_self_iff]
    exact fun filled => Bool.eq_false_iff.mp (last _ (List.getLast?_eq_some_getLast filled))

theorem Solid.trimmed {text : Text} (solid : Solid text) : Trimmed text :=
  trimmed_iff.mpr ⟨fun c first => solid c (List.mem_of_mem_head? first),
    fun c last => solid c (List.mem_of_getLast? last)⟩

/-- What trimming leaves is trimmed. -/
theorem trimmed_trim (text : Text) : Trimmed (trim text) := by
  rw [trim_eq_rdropWhile]
  refine trimmed_iff.mpr ⟨fun c first => ?_, fun c last => ?_⟩
  · obtain ⟨rest, same⟩ := List.head?_eq_some_iff.mp first
    obtain ⟨tail, whole⟩ := List.rdropWhile_prefix isBlank (text.dropWhile isBlank)
    rw [same, List.cons_append] at whole
    have head := List.head?_dropWhile_not isBlank text
    rwa [← whole] at head
  · have filled := List.ne_nil_of_mem (List.mem_of_getLast? last)
    rw [Option.mem_def, List.getLast?_eq_some_getLast filled, Option.some.injEq] at last
    exact Bool.eq_false_iff.mpr (last ▸ List.rdropWhile_last_not isBlank _ filled)

theorem Trimmed.reverse {text : Text} (trimmed : Trimmed text) : Trimmed text.reverse := by
  obtain ⟨first, last⟩ := trimmed_iff.mp trimmed
  refine trimmed_iff.mpr ⟨?_, ?_⟩
  · rwa [List.head?_reverse]
  · rwa [List.getLast?_reverse]

theorem Blank.not_mem {text : Text} (blank : Blank text) {c : Char}
    (solid : isBlank c = false) : c ∉ text := fun member => by
  rw [blank c member] at solid
  cases solid

theorem Blank.reverse {text : Text} (blank : Blank text) : Blank text.reverse :=
  fun c member => blank c (List.mem_reverse.mp member)

/-! ## Occurrence -/

/-- What is trimmed occurs no sooner behind white space. -/
theorem infix_of_infix_blank_append {needle front text : Text} (trimmed : Trimmed needle)
    (blank : Blank front) (inside : needle <:+: front ++ text) : needle <:+: text := by
  cases needle with
  | nil => exact List.nil_infix
  | cons first others =>
      induction front with
      | nil => exact inside
      | cons c rest ih =>
          rw [List.cons_append, List.infix_cons_iff] at inside
          rcases inside with start | later
          · obtain ⟨rfl, _⟩ := List.cons_prefix_cons.mp start
            have solid := (trimmed_iff.mp trimmed).1 first rfl
            rw [blank first List.mem_cons_self] at solid
            cases solid
          · exact ih (fun other member => blank other (List.mem_cons_of_mem c member)) later

/-- **What is trimmed occurs in a text exactly when it occurs in the trimmed
text.** -/
theorem infix_trim_iff {needle : Text} (trimmed : Trimmed needle) (text : Text) :
    needle <:+: trim text ↔ needle <:+: text := by
  obtain ⟨front, back, whole, frontBlank, backBlank⟩ := exists_trim text
  constructor
  · intro inside
    rw [whole]
    exact inside.trans (List.infix_append' front (trim text) back)
  · intro inside
    rw [whole] at inside
    have behind := infix_of_infix_blank_append trimmed frontBlank inside
    rw [← List.reverse_infix, List.reverse_append] at behind
    have within := infix_of_infix_blank_append trimmed.reverse backBlank.reverse behind
    exact List.reverse_infix.mp within

/-- **A text that begins with something trimmed still does so when it is
trimmed itself.** -/
theorem prefix_trim {needle text : Text} (filled : needle ≠ []) (trimmed : Trimmed needle)
    (start : needle <+: text) : needle <+: trim text := by
  obtain ⟨first, others, rfl⟩ := List.exists_cons_of_ne_nil filled
  obtain ⟨front, back, whole, frontBlank, backBlank⟩ := exists_trim text
  obtain ⟨startSolid, endSolid⟩ := trimmed_iff.mp trimmed
  have noFront : front = [] := by
    cases front with
    | nil => rfl
    | cons c rest =>
        rw [whole, List.cons_append] at start
        obtain ⟨rfl, _⟩ := List.cons_prefix_cons.mp start
        have solid := startSolid first rfl
        rw [frontBlank first List.mem_cons_self] at solid
        cases solid
  rw [noFront, List.nil_append] at whole
  rw [whole] at start
  have other : trim text <+: trim text ++ back := List.prefix_append (trim text) back
  rcases List.prefix_or_prefix_of_prefix start other with short | long
  · exact short
  · -- what the needle has beyond the trimmed text would be white space at its end
    obtain ⟨beyond, same⟩ := long
    rw [← same, List.prefix_append_right_inj] at start
    rcases List.eq_nil_or_concat beyond with rfl | ⟨init, last, rfl⟩
    · rw [List.append_nil] at same
      exact same ▸ List.prefix_rfl
    · rw [List.concat_eq_append] at same start
      have ending : last ∈ (first :: others).getLast? := by
        rw [← same, ← List.append_assoc, List.getLast?_concat, Option.mem_def]
      have solid := endSolid last ending
      rw [backBlank last (start.subset (List.mem_append_right init List.mem_cons_self))] at solid
      cases solid

end ReviewGate.Text
