import ReviewGate.Proofs.Text.LineScan
import ReviewGate.Proofs.Text.Trim
import ReviewGate.Record.Header

/-!
# Header fields

A header field is a line with a bold name, a blank and a value. The search for
the value of a label passes over all text without stars
(`headerValue?_skip_plain`) and over the fields whose names the label does not
read (`headerValue?_skip_field`), and ends at the first field whose name it
does read, with the value of that field (`headerValue?_field`).

A value that is not empty does not change when text is appended behind a
newline (`headerValue?_append`).
-/

set_option autoImplicit false

namespace ReviewGate.Record

open Text

/-- A text that can be the value of a header field. -/
structure IsValue (value : Text) : Prop where
  ne_nil : value ≠ []
  trimmed : Trimmed value
  no_newline : '\n' ∉ value
  no_bar : '|' ∉ value
  no_star : '*' ∉ value

/-- A header field: a name in bold, a blank and a value. -/
def fieldLine (name value : Text) : Text :=
  ['*', '*'] ++ name ++ ['*', '*', ' '] ++ value

/-! ## Values -/

theorem IsValue.inValue {value : Text} (isValue : IsValue value) :
    ∀ c ∈ value, inValue c = true := by
  intro c member
  have newline : c ≠ '\n' := fun same => isValue.no_newline (same ▸ member)
  have bar : c ≠ '|' := fun same => isValue.no_bar (same ▸ member)
  have star : c ≠ '*' := fun same => isValue.no_star (same ▸ member)
  simp [Record.inValue, newline, bar, star]

/-- The value behind a blank is read up to the end of its line. -/
theorem valueBehind?_blank {value rest : Text} (isValue : IsValue value) (ends : EndsLine rest) :
    valueBehind? (' ' :: (value ++ rest)) = some value := by
  have stops : ∀ c ∈ rest.head?, inValue c = false := by
    intro c first
    rw [ends c first]
    rfl
  have taken := takeWhile_append_run isValue.inValue stops
  have trimmed := isValue.trimmed
  obtain ⟨first, others, rfl⟩ := List.exists_cons_of_ne_nil isValue.ne_nil
  have solid : isBlank first = false := (trimmed_iff.mp trimmed).1 first rfl
  have left : trimLeft (' ' :: (first :: others ++ rest)) = first :: others ++ rest := by
    have blank : isBlank ' ' = true := rfl
    simp [trimLeft, blank, solid]
  rw [valueBehind?, left, taken, trimmed]
  rfl

/-! ## Labels -/

/-- Labels in bold. -/
def Bold (labels : List Text) : Prop :=
  ∀ label ∈ labels, ∃ word, label = '*' :: '*' :: word

/-- Labels in bold of which none goes on with a beginning. -/
def Refuses (labels : List Text) (start : Text) : Prop :=
  ∀ label ∈ labels, ∃ word, label = '*' :: '*' :: word ∧
    ∀ rest, afterLabel? word (start ++ rest) = none

/-- Labels of which the first that reads a name in bold decides on its value. -/
def Reads (labels : List Text) (name : Text) : Prop :=
  ∀ rest, labels.findSome? (fun label =>
    (afterLabel? label (['*', '*'] ++ name ++ ['*', '*'] ++ rest)).bind valueBehind?) =
      valueBehind? rest

/-- One label that reads a name decides on its value. -/
theorem reads_singleton {label name : Text}
    (read : ∀ rest, afterLabel? label (['*', '*'] ++ name ++ ['*', '*'] ++ rest) = some rest) :
    Reads [label] name := by
  intro rest
  rw [List.findSome?_cons, read rest, Option.bind_some]
  cases valueBehind? rest <;> rfl

theorem refuses_cons {word start : Text} {labels : List Text}
    (other : ∀ rest, afterLabel? word (start ++ rest) = none) (others : Refuses labels start) :
    Refuses (('*' :: '*' :: word) :: labels) start := by
  intro label member
  rcases List.mem_cons.mp member with rfl | later
  · exact ⟨word, rfl, other⟩
  · exact others label later

theorem isFormOf_star {c : Char} : isFormOf '*' c = true ↔ c = '*' := by
  have upper : Char.toUpper '*' = '*' := by decide
  simp [isFormOf, upper]

section Search

variable {labels : List Text}

theorem headerValue?_skip {c : Char} {rest : Text}
    (other : ∀ label ∈ labels, afterLabel? label (c :: rest) = none) :
    headerValue? labels (c :: rest) = headerValue? labels rest := by
  have nothing : labels.findSome? (fun label => (afterLabel? label (c :: rest)).bind valueBehind?) =
      none := by
    refine List.findSome?_eq_none_iff.mpr fun label member => ?_
    rw [other label member]
    rfl
  rw [headerValue?, nothing]

/-- Text without stars is passed over. -/
theorem headerValue?_skip_plain (bold : Bold labels) {front : Text} (plain : '*' ∉ front)
    (rest : Text) : headerValue? labels (front ++ rest) = headerValue? labels rest := by
  induction front with
  | nil => rfl
  | cons c front ih =>
      obtain ⟨different, later⟩ := List.ne_and_not_mem_of_not_mem_cons plain
      rw [List.cons_append, headerValue?_skip, ih later]
      intro label member
      obtain ⟨word, rfl⟩ := bold label member
      rw [afterLabel?, if_neg (mt isFormOf_star.mp different.symm)]

theorem Refuses.bold {start : Text} (refuses : Refuses labels start) : Bold labels := by
  intro label member
  obtain ⟨word, same, _⟩ := refuses label member
  exact ⟨word, same⟩

theorem headerValue?_skip_newline (bold : Bold labels) (rest : Text) :
    headerValue? labels ('\n' :: rest) = headerValue? labels rest :=
  headerValue?_skip_plain bold (by decide : '*' ∉ ['\n']) rest

/-- Two stars in front of what no label goes on with are passed over. -/
theorem headerValue?_skip_stars {start : Text} (refuses : Refuses labels start)
    (filled : start ≠ []) (plain : '*' ∉ start) (rest : Text) :
    headerValue? labels ('*' :: '*' :: (start ++ rest)) = headerValue? labels rest := by
  have star : isFormOf '*' '*' = true := isFormOf_star.mpr rfl
  rw [headerValue?_skip, headerValue?_skip, headerValue?_skip_plain refuses.bold plain]
  · intro label member
    obtain ⟨word, rfl⟩ := refuses.bold label member
    obtain ⟨first, others, rfl⟩ := List.exists_cons_of_ne_nil filled
    obtain ⟨different, _⟩ := List.ne_and_not_mem_of_not_mem_cons plain
    rw [afterLabel?, if_pos star, List.cons_append, afterLabel?,
      if_neg (mt isFormOf_star.mp different.symm)]
  · intro label member
    obtain ⟨word, rfl, other⟩ := refuses label member
    rw [afterLabel?, if_pos star, afterLabel?, if_pos star, other rest]

/-- **A field of another name is passed over** with the end of its line. -/
theorem headerValue?_skip_field {name value : Text} (refuses : Refuses labels name)
    (refusesBlank : Refuses labels [' ']) (filled : name ≠ []) (plainName : '*' ∉ name)
    (plainValue : '*' ∉ value) (rest : Text) :
    headerValue? labels (fieldLine name value ++ '\n' :: rest) = headerValue? labels rest :=
  calc headerValue? labels (fieldLine name value ++ '\n' :: rest)
      = headerValue? labels ('*' :: '*' :: (name ++
          '*' :: '*' :: ([' '] ++ (value ++ '\n' :: rest)))) := by simp [fieldLine]
    _ = headerValue? labels ('*' :: '*' :: ([' '] ++ (value ++ '\n' :: rest))) :=
        headerValue?_skip_stars refuses filled plainName _
    _ = headerValue? labels (value ++ '\n' :: rest) :=
        headerValue?_skip_stars refusesBlank (List.cons_ne_nil ' ' []) (by decide) _
    _ = headerValue? labels ('\n' :: rest) := headerValue?_skip_plain refuses.bold plainValue _
    _ = headerValue? labels rest := headerValue?_skip_newline refuses.bold rest

/-- **The search ends at the field whose name is read**, with its value. -/
theorem headerValue?_field {name value rest : Text} (read : Reads labels name)
    (isValue : IsValue value) (ends : EndsLine rest) :
    headerValue? labels (fieldLine name value ++ rest) = some value := by
  have found := read (' ' :: (value ++ rest))
  have same : ['*', '*'] ++ name ++ ['*', '*'] ++ ' ' :: (value ++ rest) =
      '*' :: ('*' :: name ++ ['*', '*', ' '] ++ value ++ rest) := by simp
  rw [valueBehind?_blank isValue ends, same] at found
  have whole : fieldLine name value ++ rest =
      '*' :: ('*' :: name ++ ['*', '*', ' '] ++ value ++ rest) := by simp [fieldLine]
  rw [whole, headerValue?, found]

end Search

/-! ## Values in longer texts -/

section Longer

variable {text more : Text}

/-- Of nothing but white space the value is empty. -/
theorem value_eq_nil_of_blank {value : Text} (blank : Blank text)
    (found : valueBehind? text = some value) : value = [] := by
  have nothing : trimLeft text = [] := List.dropWhile_eq_nil_iff.mpr blank
  rw [valueBehind?, nothing] at found
  split at found
  next filled => cases filled
  next =>
    split at found
    · exact (Option.some.inj found).symm
    · cases found

/-- Behind white space and another character, the value is read up to the end
of the line. -/
theorem valueBehind?_append (filled : ¬ Blank text) :
    valueBehind? (text ++ '\n' :: more) = valueBehind? text := by
  obtain ⟨front, c, rest, rfl, blank, solid⟩ := exists_of_not_blank filled
  have read : ∀ tail : Text, trimLeft (front ++ c :: tail) = c :: tail ∧
      (front ++ c :: tail).takeWhile isBlank = front := by
    intro tail
    have ends : ∀ d ∈ (c :: tail).head?, isBlank d = false := fun d first =>
      Option.some.inj first ▸ solid
    exact ⟨dropWhile_append_run blank ends, takeWhile_append_run blank ends⟩
  have line : (c :: (rest ++ '\n' :: more)).takeWhile inValue = (c :: rest).takeWhile inValue :=
    takeWhile_append_stop (by decide) (c :: rest) more
  rw [List.append_assoc, List.cons_append]
  simp only [valueBehind?, read, line]

section Label

variable {label : Text}

/-- A label leaves of a text what stands behind its own length. -/
theorem eq_drop_of_afterLabel? {rest : Text} (read : afterLabel? label text = some rest) :
    rest = text.drop label.length := by
  induction label generalizing text with
  | nil => exact (Option.some.inj read).symm
  | cons letter label ih =>
      cases text with
      | nil => cases read
      | cons c text =>
          rw [afterLabel?] at read
          split at read
          · exact ih read
          · cases read

/-- A label that no newline is a form of does not reach over the end of a line. -/
theorem afterLabel?_append (noForm : ∀ letter ∈ label, isFormOf letter '\n' = false) :
    afterLabel? label (text ++ '\n' :: more) =
      (afterLabel? label text).map (· ++ '\n' :: more) := by
  induction label generalizing text with
  | nil => rfl
  | cons letter label ih =>
      have others : ∀ other ∈ label, isFormOf other '\n' = false := fun other member =>
        noForm other (List.mem_cons_of_mem letter member)
      cases text with
      | nil => simp [afterLabel?, noForm]
      | cons c text =>
          rw [List.cons_append, afterLabel?, afterLabel?]
          split
          · exact ih others
          · rfl

theorem headerValue?_cons (c : Char) (rest : Text) :
    headerValue? [label] (c :: rest) =
      match (afterLabel? label (c :: rest)).bind valueBehind? with
      | some value => some value
      | none => headerValue? [label] rest := by
  rw [headerValue?, List.findSome?_cons, List.findSome?_nil]
  cases (afterLabel? label (c :: rest)).bind valueBehind? <;> rfl

/-- A value that is not empty stands behind the length of the label. -/
theorem not_blank_of_headerValue? {value : Text} (found : headerValue? [label] text = some value)
    (filled : value ≠ []) : ¬ Blank (text.drop label.length) := by
  induction text with
  | nil => cases found
  | cons c rest ih =>
      rw [headerValue?_cons] at found
      split at found
      next here behind =>
        cases found
        obtain ⟨tail, read, value⟩ := Option.bind_eq_some_iff.mp behind
        rw [← eq_drop_of_afterLabel? read]
        exact fun blank => filled (value_eq_nil_of_blank blank value)
      next =>
        refine fun blank => ih found fun d member => blank d ?_
        exact List.drop_subset_drop_left (c :: rest) (Nat.le_succ label.length) member

/-- **A value that is not empty stays the value.** The labels in front of it
that have no value do not get one, since there is more than white space behind
them already. -/
theorem headerValue?_append (noForm : ∀ letter ∈ label, isFormOf letter '\n' = false)
    {value : Text} (found : headerValue? [label] text = some value) (filled : value ≠ []) :
    headerValue? [label] (text ++ '\n' :: more) = some value := by
  induction text with
  | nil => cases found
  | cons c rest ih =>
      have solid := not_blank_of_headerValue? found filled
      rw [headerValue?_cons] at found
      rw [List.cons_append, headerValue?_cons, ← List.cons_append, afterLabel?_append noForm]
      cases read : afterLabel? label (c :: rest) with
      | none =>
          rw [read] at found
          exact ih found
      | some tail =>
          rw [← eq_drop_of_afterLabel? read] at solid
          rw [read, Option.bind_some] at found
          rw [Option.map_some, Option.bind_some, valueBehind?_append solid]
          cases here : valueBehind? tail with
          | some first => rwa [here] at found
          | none =>
              rw [here] at found
              exact ih found

end Label

end Longer

/-! ## The labels of a record -/

theorem dateLabels_eq : dateLabels = [['*', '*', 'd', 'a', 't', 'e', ':', '*', '*']] := by
  simp [dateLabels]

theorem statusLabels_eq :
    statusLabels = [['*', '*', 's', 't', 'a', 't', 'u', 's', ':', '*', '*']] := by
  simp [statusLabels]

theorem decidersLabels_eq :
    decidersLabels = [['*', '*', 'd', 'e', 'c', 'i', 'd', 'e', 'r', ':', '*', '*'],
      ['*', '*', 'd', 'e', 'c', 'i', 'd', 'e', 'r', 's', ':', '*', '*']] := by
  simp [decidersLabels]

/-- Labels that are not empty and do not reach over the end of a line. -/
def OnLines (labels : List Text) : Prop :=
  ∀ label ∈ labels, label ≠ [] ∧ ∀ letter ∈ label, isFormOf letter '\n' = false

instance (labels : List Text) : Decidable (OnLines labels) :=
  decidable_of_iff
    (labels.all fun label => ! label.isEmpty && label.all fun letter => ! isFormOf letter '\n')
    (by simp [OnLines])

/-- The labels of a record stand on lines. -/
theorem onLines_labels :
    OnLines dateLabels ∧ OnLines statusLabels ∧ OnLines decidersLabels := by
  decide +kernel

/-- The name of the field with the date. -/
def dateName : Text := ['D', 'a', 't', 'e', ':']

/-- The name of the field with the status. -/
def statusName : Text := ['S', 't', 'a', 't', 'u', 's', ':']

/-- The name of the field with the deciders. -/
def decidersName : Text := ['D', 'e', 'c', 'i', 'd', 'e', 'r', 's', ':']

theorem reads_date : Reads dateLabels dateName := by
  rw [dateLabels_eq]
  exact reads_singleton fun _ => rfl

theorem reads_status : Reads statusLabels statusName := by
  rw [statusLabels_eq]
  exact reads_singleton fun _ => rfl

/-- The label of a single decider does not read the name, the other one does. -/
theorem reads_deciders : Reads decidersLabels decidersName := by
  rw [decidersLabels_eq]
  intro rest
  exact reads_singleton (fun _ => rfl) rest

theorem bold_dateLabels : Bold dateLabels := by
  rw [dateLabels_eq]
  intro label member
  exact ⟨_, List.mem_singleton.mp member⟩

theorem refuses_statusLabels {start : Text} (member : start ∈ [dateName, [' ']]) :
    Refuses statusLabels start := by
  rw [statusLabels_eq]
  refine refuses_cons (fun rest => ?_) nofun
  rcases List.mem_pair.mp member with rfl | rfl <;> rfl

theorem refuses_decidersLabels {start : Text} (member : start ∈ [dateName, statusName, [' ']]) :
    Refuses decidersLabels start := by
  rw [decidersLabels_eq]
  refine refuses_cons (fun rest => ?_) (refuses_cons (fun rest => ?_) nofun)
  all_goals
    simp only [List.mem_cons, List.not_mem_nil, or_false] at member
    rcases member with rfl | rfl | rfl <;> rfl

end ReviewGate.Record
