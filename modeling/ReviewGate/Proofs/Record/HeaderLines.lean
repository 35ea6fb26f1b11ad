import ReviewGate.Proofs.Record.Header
import ReviewGate.Proofs.Text.FilledLine
import ReviewGate.Proofs.Text.Reading
import ReviewGate.Record.Document

/-!
# Header values line by line

A header value is meant to stand on the line of its label: it is the text behind
the label up to the first bar or star or the end of the line, trimmed. This is
what is read where something other than white space stands behind the label on
its line. Behind a label with nothing there the white space runs on, and the
value is read in the same way from the first line below that is not blank.

Of the places where a label stands, those count that have a value, if only an
empty one, and of these the leftmost (`ReadsHeader`). So the value is that of
the line of the label exactly when it is empty or something stands behind the
label on its line (`Document.header_read`).
-/

set_option autoImplicit false

namespace ReviewGate.Record

open Text

/-! ## Labels in a text -/

/-- A text that a label may be written as, letter case apart. -/
def Writes (label written : Text) : Prop :=
  List.Forall₂ (fun letter c => isFormOf letter c = true) label written

section Label

variable {label written text rest : Text}

theorem afterLabel?_eq_some_iff :
    afterLabel? label text = some rest ↔
      ∃ written, Writes label written ∧ text = written ++ rest := by
  induction label generalizing text with
  | nil =>
      constructor
      · rintro ⟨⟩
        exact ⟨[], .nil, rfl⟩
      · rintro ⟨_, ⟨⟩, rfl⟩
        rfl
  | cons letter label ih =>
      constructor
      · intro read
        cases text with
        | nil => cases read
        | cons c text =>
            rw [afterLabel?] at read
            split at read
            next form =>
              obtain ⟨written, writes, rfl⟩ := ih.mp read
              exact ⟨c :: written, .cons form writes, rfl⟩
            next => cases read
      · rintro ⟨_, writes, rfl⟩
        obtain _ | ⟨form, writes⟩ := writes
        rw [List.cons_append, afterLabel?, if_pos form]
        exact ih.mpr ⟨_, writes, rfl⟩

theorem Writes.single (writes : Writes label written)
    (noForm : ∀ letter ∈ label, isFormOf letter '\n' = false) : '\n' ∉ written := by
  induction writes with
  | nil => exact List.not_mem_nil
  | @cons letter c _ _ form _ ih =>
      obtain ⟨here, others⟩ := List.forall_mem_cons.mp noForm
      intro inside
      rcases List.mem_cons.mp inside with rfl | later
      · rw [form] at here
        cases here
      · exact ih others later

/-- A label in bold is written with a star. -/
theorem Writes.mem_star (writes : Writes ('*' :: label) written) : '*' ∈ written := by
  cases writes with
  | cons form _ =>
      rw [isFormOf_star.mp form]
      exact List.mem_cons_self

end Label

/-- One of some labels stands in a text, with a text in front of it and one
behind it. -/
def Occurs (labels : List Text) (text start behind : Text) : Prop :=
  ∃ label ∈ labels, ∃ written, Writes label written ∧ text = start ++ (written ++ behind)

section Search

variable {labels : List Text} {text start behind : Text}

theorem occurs_nil_iff :
    Occurs labels text [] behind ↔ ∃ label ∈ labels, afterLabel? label text = some behind := by
  simp only [Occurs, afterLabel?_eq_some_iff, List.nil_append]

theorem occurs_cons_iff {c d : Char} :
    Occurs labels (c :: text) (d :: start) behind ↔ c = d ∧ Occurs labels text start behind := by
  simp only [Occurs, List.cons_append, List.cons.injEq]
  constructor
  · rintro ⟨label, member, written, writes, same, rest⟩
    exact ⟨same, label, member, written, writes, rest⟩
  · rintro ⟨same, label, member, written, writes, rest⟩
    exact ⟨label, member, written, writes, same, rest⟩

theorem not_occurs_nil (onLines : OnLines labels) : ¬ Occurs labels [] start behind := by
  rintro ⟨label, member, written, writes, whole⟩
  obtain ⟨_, nothing⟩ := List.append_eq_nil_iff.mp whole.symm
  obtain ⟨rfl, _⟩ := List.append_eq_nil_iff.mp nothing
  cases writes
  exact (onLines [] member).1 rfl

/-- Nothing is read at the beginning of a text when no label there has a value. -/
theorem findSome?_value_eq_none_iff :
    labels.findSome? (fun label => (afterLabel? label text).bind valueBehind?) = none ↔
      ∀ behind, Occurs labels text [] behind → valueBehind? behind = none := by
  simp only [List.findSome?_eq_none_iff, Option.bind_eq_none_iff, occurs_nil_iff]
  constructor
  · rintro nothing behind ⟨label, member, read⟩
    exact nothing label member behind read
  · intro nothing label member behind read
    exact nothing behind ⟨label, member, read⟩

/-- Nothing is read when no label has a value. -/
theorem headerValue?_eq_none_iff (onLines : OnLines labels) :
    headerValue? labels text = none ↔
      ∀ start behind, Occurs labels text start behind → valueBehind? behind = none := by
  induction text with
  | nil => exact iff_of_true rfl fun start behind occurs => absurd occurs (not_occurs_nil onLines)
  | cons c rest ih =>
      constructor
      · intro nothing start behind occurs
        rw [headerValue?] at nothing
        split at nothing
        next => cases nothing
        next here =>
          cases start with
          | nil => exact findSome?_value_eq_none_iff.mp here behind occurs
          | cons d start => exact ih.mp nothing start behind (occurs_cons_iff.mp occurs).2
      · intro nothing
        have here := findSome?_value_eq_none_iff.mpr (nothing [])
        rw [headerValue?, here]
        exact ih.mpr fun start behind occurs =>
          nothing (c :: start) behind (occurs_cons_iff.mpr ⟨rfl, occurs⟩)

/-- **What is read is the value of the leftmost label that has one.** -/
theorem exists_of_headerValue? {value : Text} (found : headerValue? labels text = some value) :
    ∃ start behind, Occurs labels text start behind ∧ valueBehind? behind = some value ∧
      ∀ other more, Occurs labels text other more → valueBehind? more ≠ none →
        start.length ≤ other.length := by
  induction text with
  | nil => cases found
  | cons c rest ih =>
      rw [headerValue?] at found
      split at found
      next first here =>
        cases found
        obtain ⟨label, member, read⟩ := List.exists_of_findSome?_eq_some here
        obtain ⟨behind, stands, value⟩ := Option.bind_eq_some_iff.mp read
        exact ⟨[], behind, occurs_nil_iff.mpr ⟨label, member, stands⟩, value,
          fun other _ _ _ => Nat.zero_le other.length⟩
      next here =>
        obtain ⟨start, behind, occurs, value, least⟩ := ih found
        refine ⟨c :: start, behind, occurs_cons_iff.mpr ⟨rfl, occurs⟩, value, ?_⟩
        intro other more stands filled
        cases other with
        | nil => exact absurd (findSome?_value_eq_none_iff.mp here more stands) filled
        | cons d other =>
            exact Nat.succ_le_succ (least other more (occurs_cons_iff.mp stands).2 filled)

end Search

/-! ## Values on lines -/

/-- A value stands behind a label: white space, perhaps none, and a character
that a value may hold. -/
def HasValue (behind : Text) : Prop :=
  ∃ gap c rest, behind = gap ++ c :: rest ∧ Blank gap ∧ inValue c = true

/-- The value on a line, up to the first bar or star or the end of the line. -/
def valueOn (line : Text) : Text := trim (line.takeWhile inValue)

/-- The line from which a value is read: what is left of the line of the label,
or the first line below that is not blank. -/
def lineOfValue (rest : Text) (below : List Text) : Text :=
  ((firstFilled? (rest :: below)).map Reach.value).getD []

theorem inValue_of_isBlank {c : Char} (blank : isBlank c = true) (other : c ≠ '\n') :
    inValue c = true := by
  have different : ∀ sign ∈ ['|', '*'], c ≠ sign := by
    rintro sign member rfl
    exact absurd blank (Bool.eq_false_iff.mp (outside_of_mem member (by decide)))
  simp only [List.forall_mem_cons] at different
  simp [inValue, other, different]

section Value

variable {text : Text}

theorem hasValue_cons_iff {c : Char} :
    HasValue (c :: text) ↔ inValue c = true ∨ (isBlank c = true ∧ HasValue text) := by
  constructor
  · rintro ⟨gap, d, rest, whole, blank, holds⟩
    cases gap with
    | nil =>
        cases whole
        exact .inl holds
    | cons e gap =>
        cases whole
        obtain ⟨first, others⟩ := List.forall_mem_cons.mp blank
        exact .inr ⟨first, gap, d, rest, rfl, others, holds⟩
  · rintro (holds | ⟨first, gap, d, rest, rfl, others, holds⟩)
    · exact ⟨[], c, text, rfl, nofun, holds⟩
    · exact ⟨c :: gap, d, rest, rfl, List.forall_mem_cons.mpr ⟨first, others⟩, holds⟩

/-- There is a value when the white space holds something else than newlines, or
ends at a character that a value may hold. -/
theorem hasValue_iff :
    HasValue text ↔ (∃ c ∈ text.takeWhile isBlank, c ≠ '\n') ∨
      ∃ c ∈ (trimLeft text).head?, inValue c = true := by
  induction text with
  | nil =>
      refine iff_of_false ?_ (by simp [trimLeft])
      rintro ⟨gap, c, rest, whole, _⟩
      simp at whole
  | cons c rest ih =>
      rw [hasValue_cons_iff, ih]
      by_cases blank : isBlank c = true
      · have left : trimLeft (c :: rest) = trimLeft rest := List.dropWhile_cons_of_pos blank
        have here : inValue c = true ↔ c ≠ '\n' := by
          refine ⟨?_, inValue_of_isBlank blank⟩
          rintro holds rfl
          cases holds
        rw [left, List.takeWhile_cons_of_pos blank, here]
        simp [blank, or_assoc]
      · have left : trimLeft (c :: rest) = c :: rest := List.dropWhile_cons_of_neg blank
        rw [left, List.takeWhile_cons_of_neg blank]
        simp [blank]

/-- A label with a value is read. -/
theorem isSome_valueBehind?_iff : (valueBehind? text).isSome = true ↔ HasValue text := by
  have begins : ((trimLeft text).takeWhile inValue).isEmpty = false ↔
      ∃ c ∈ (trimLeft text).head?, inValue c = true := by
    cases trimLeft text with
    | nil => simp
    | cons c rest => by_cases holds : inValue c = true <;> simp [holds]
  rw [hasValue_iff, ← begins, valueBehind?]
  cases ((trimLeft text).takeWhile inValue).isEmpty with
  | false => simp
  | true =>
      rw [Bool.not_true, if_neg Bool.false_ne_true]
      by_cases other : ∃ c ∈ text.takeWhile isBlank, c ≠ '\n'
      · rw [if_pos (by simpa using other)]
        simp [other]
      · rw [if_neg (by simpa using other)]
        simp [other]

/-- White space at the beginning of a line does not change the value on it. -/
theorem valueOn_append {front : Text} (blank : Blank front) (single : '\n' ∉ front) :
    valueOn (front ++ text) = trim (text.takeWhile inValue) := by
  have inside : ∀ c ∈ front, inValue c = true := fun c member =>
    inValue_of_isBlank (blank c member) fun same => single (same ▸ member)
  rw [valueOn, List.takeWhile_append_of_pos inside, trim_blank_append blank]

/-- On a blank line there is no value. -/
theorem valueOn_of_blank (blank : Blank text) : valueOn text = [] :=
  trim_eq_nil_iff.mpr fun c member => blank c ((List.takeWhile_subset inValue) member)

/-- **A value is read from the line that the white space stops on.** -/
theorem eq_valueOn_of_valueBehind? {value rest : Text} {below : List Text}
    (single : ∀ line ∈ rest :: below, '\n' ∉ line)
    (read : valueBehind? (unlines (rest :: below)) = some value) :
    value = valueOn (lineOfValue rest below) := by
  rw [lineOfValue]
  cases first : firstFilled? (rest :: below) with
  | none =>
      have blank := blank_unlines (firstFilled?_eq_none_iff.mp first)
      exact value_eq_nil_of_blank blank read
  | some target =>
      obtain ⟨gap, front, c, line, back, whole, held, member, blank, frontBlank, solid, ends, _⟩ :=
        exists_of_firstFilled? first
      have onLine : '\n' ∉ front := fun inside =>
        single target.value member (held ▸ List.mem_append_left _ inside)
      have stops : ∀ d ∈ back.head?, inValue d = false := by
        intro d behind
        rw [ends d behind]
        rfl
      have left : trimLeft (gap ++ (c :: line ++ back)) = c :: line ++ back :=
        trimLeft_append blank (by rintro _ ⟨⟩; exact solid)
      have taken : (c :: line ++ back).takeWhile inValue = (c :: line).takeWhile inValue := by
        cases back with
        | nil => rw [List.append_nil]
        | cons d back => exact takeWhile_append_stop (stops d rfl) (c :: line) back
      rw [Option.map_some, Option.getD_some, held, valueOn_append frontBlank onLine]
      rw [whole, valueBehind?, left, taken] at read
      split at read
      · exact (Option.some.inj read).symm
      next empty =>
        rw [Bool.not_eq_true, Bool.not_eq_false', List.isEmpty_iff] at empty
        rw [empty]
        split at read
        · exact (Option.some.inj read).symm
        · cases read

/-- The value on the line of the label is read when it is empty or something
stands behind the label there. -/
theorem valueOn_lineOfValue_iff (rest : Text) (below : List Text) :
    valueOn (lineOfValue rest below) = valueOn rest ↔
      valueOn (lineOfValue rest below) = [] ∨ ¬ Blank rest := by
  by_cases blank : Blank rest
  · rw [valueOn_of_blank blank]
    simp [blank]
  · rw [lineOfValue, firstFilled?_of_filled blank]
    simp [blank]

end Value

/-! ## Labels on lines -/

/-- One of some labels on a line of a text, with what stands in front of it and
behind it on the line, and the lines around it. -/
structure LabelPlace (labels : List Text) (text : Text) where
  above : List Text
  front : Text
  written : Text
  rest : Text
  below : List Text
  isLabel : ∃ label ∈ labels, Writes label written
  whole : lines text = above ++ (front ++ (written ++ rest)) :: below

namespace LabelPlace

variable {labels : List Text} {text : Text}

/-- What stands in front of the label. -/
def start (place : LabelPlace labels text) : Text := unlines (place.above ++ [place.front])

/-- What stands behind the label. -/
def behind (place : LabelPlace labels text) : Text := unlines (place.rest :: place.below)

theorem occurs (place : LabelPlace labels text) :
    Occurs labels text place.start place.behind := by
  obtain ⟨label, member, writes⟩ := place.isLabel
  refine ⟨label, member, place.written, writes, ?_⟩
  rw [start, behind, ← unlines_append_cons, unlines_concat_append_unlines, ← place.whole,
    unlines_lines]

/-- The line of the label and those below it hold no newline behind the label. -/
theorem single (place : LabelPlace labels text) :
    ∀ line ∈ place.rest :: place.below, '\n' ∉ line := by
  have inText : ∀ line ∈ lines text, '\n' ∉ line := fun line => not_mem_of_mem_lines
  rw [place.whole] at inText
  have onLine : '\n' ∉ place.front ++ (place.written ++ place.rest) := inText _ (by simp)
  refine List.forall_mem_cons.mpr ⟨fun inside => onLine (by simp [inside]), fun line below => ?_⟩
  exact inText line (List.mem_append_right _ (List.mem_cons_of_mem _ below))

end LabelPlace

/-- A label that occurs in a text stands on a line of it. -/
theorem Occurs.exists_place {labels : List Text} {text start behind : Text}
    (occurs : Occurs labels text start behind) (onLines : OnLines labels) :
    ∃ place : LabelPlace labels text, place.start = start ∧ place.behind = behind := by
  obtain ⟨label, member, written, writes, whole⟩ := occurs
  obtain ⟨above, front, ahead⟩ :=
    (List.eq_nil_or_concat' (lines start)).resolve_left (lines_ne_nil start)
  obtain ⟨rest, below, later⟩ := List.exists_cons_of_ne_nil (lines_ne_nil behind)
  have before : unlines (above ++ [front]) = start := by rw [← ahead, unlines_lines]
  have after : unlines (rest :: below) = behind := by rw [← later, unlines_lines]
  have joined : text = unlines (above ++ (front ++ (written ++ rest)) :: below) := by
    rw [whole, ← before, ← after, ← unlines_append_cons, unlines_concat_append_unlines]
  have single : ∀ line ∈ above ++ (front ++ (written ++ rest)) :: below, '\n' ∉ line := by
    have inStart : ∀ line ∈ above ++ [front], '\n' ∉ line :=
      ahead ▸ fun line => not_mem_of_mem_lines
    have inBehind : ∀ line ∈ rest :: below, '\n' ∉ line :=
      later ▸ fun line => not_mem_of_mem_lines
    have inLabel : '\n' ∉ written := writes.single (onLines label member).2
    obtain ⟨here, after⟩ := List.forall_mem_cons.mp inBehind
    intro line among
    rcases List.mem_append.mp among with earlier | later
    · exact inStart line (List.mem_append_left [front] earlier)
    · rcases List.mem_cons.mp later with rfl | later
      · simp [inStart front (by simp), inLabel, here]
      · exact after line later
  refine ⟨⟨above, front, written, rest, below, ⟨label, member, writes⟩, ?_⟩, before, after⟩
  rw [joined, lines_unlines (by simp) single]

/-- What is read behind labels: nothing when none of them has a value, and
otherwise the value of the leftmost one that has, from its line or the first
line below that is not blank. -/
structure ReadsHeader (labels : List Text) (text : Text) (value? : Option Text) : Prop where
  none_iff : value? = none ↔ ∀ place : LabelPlace labels text, ¬ HasValue place.behind
  value_eq : ∀ value, value? = some value → ∃ place : LabelPlace labels text,
    HasValue place.behind ∧
      (∀ other : LabelPlace labels text, HasValue other.behind →
        place.start.length ≤ other.start.length) ∧
      value = valueOn (lineOfValue place.rest place.below) ∧
      (value = valueOn place.rest ↔ value = [] ∨ ¬ Blank place.rest)

/-- **Header values are read line by line.** -/
theorem readsHeader_headerValue? {labels : List Text} (onLines : OnLines labels) (text : Text) :
    ReadsHeader labels text (headerValue? labels text) := by
  have filled (behind : Text) : valueBehind? behind ≠ none ↔ HasValue behind := by
    rw [← isSome_valueBehind?_iff, Option.isSome_iff_ne_none]
  refine ⟨?_, fun value found => ?_⟩
  · rw [headerValue?_eq_none_iff onLines]
    constructor
    · intro nothing place holds
      exact (filled _).mpr holds (nothing _ _ place.occurs)
    · intro nothing start behind occurs
      obtain ⟨place, _, rfl⟩ := occurs.exists_place onLines
      by_contra holds
      exact nothing place ((filled _).mp holds)
  · obtain ⟨start, behind, occurs, read, least⟩ := exists_of_headerValue? found
    obtain ⟨place, rfl, rfl⟩ := occurs.exists_place onLines
    have same := eq_valueOn_of_valueBehind? place.single read
    refine ⟨place, (filled _).mp (by simp [read]), fun other holds => ?_, same, ?_⟩
    · exact least _ _ other.occurs ((filled _).mpr holds)
    · rw [same]
      exact valueOn_lineOfValue_iff place.rest place.below

/-! ## The header of a record -/

/-- **The date, the status and the deciders of a record** are what is read behind
their labels. -/
theorem Document.header_read (text path : Text) :
    ReadsHeader dateLabels text (Document.read text path).date ∧
      ReadsHeader statusLabels text (Document.read text path).status ∧
      ReadsHeader decidersLabels text (Document.read text path).deciders := by
  obtain ⟨date, status, deciders⟩ := onLines_labels
  exact ⟨readsHeader_headerValue? date text, readsHeader_headerValue? status text,
    readsHeader_headerValue? deciders text⟩

/-- A record that names no deciders. -/
def namelessDeciders : Text :=
  "**Deciders:**\n\n## Context\n".toList

/-- The next heading is what is read for them. -/
theorem Document.header_read_nameless :
    ∃ place : LabelPlace decidersLabels namelessDeciders, HasValue place.behind ∧
      valueOn (lineOfValue place.rest place.below) = "## Context".toList := by
  have read : (Document.read namelessDeciders []).deciders = some "## Context".toList := by
    decide +kernel
  obtain ⟨place, holds, _, value, _⟩ :=
    (Document.header_read namelessDeciders []).2.2.value_eq _ read
  exact ⟨place, holds, value.symm⟩

/-- This heading stands on no line with a label. -/
theorem Document.deciders_from_below :
    (Document.read namelessDeciders []).deciders = some "## Context".toList ∧
      ∀ place : LabelPlace decidersLabels namelessDeciders,
        valueOn place.rest ≠ "## Context".toList := by
  refine ⟨by decide +kernel, fun place same => ?_⟩
  have apart : ∀ line ∈ lines namelessDeciders, '#' ∈ line → '*' ∉ line := by decide +kernel
  have sign : '#' ∈ place.rest := by
    have inside : '#' ∈ valueOn place.rest := by
      rw [same]
      decide
    exact List.takeWhile_subset inValue (trim_subset _ inside)
  have star : '*' ∈ place.written := by
    obtain ⟨label, member, writes⟩ := place.isLabel
    obtain ⟨word, bold⟩ := (refuses_decidersLabels List.mem_cons_self).bold label member
    exact (bold ▸ writes).mem_star
  refine apart (place.front ++ (place.written ++ place.rest)) ?_ (by simp [sign]) (by simp [star])
  rw [place.whole]
  simp

end ReviewGate.Record
