import ReviewGate.Proofs.Text.Lines
import ReviewGate.Proofs.Text.Trim
import ReviewGate.Text.Reading
import ReviewGate.Text.Word

/-!
# Reading from the left

A step that reads a text from the left succeeds exactly on the texts of its
shape. A fixed beginning is read off (`after?_eq_some_iff`), and a run of a class
is taken up to the first character outside it, so it is found again in front of
such a character (`afterSome?_append`). Words and white space have no character
in common, so runs of both follow each other without doubt about where one ends.

An optional word is skipped only with white space behind it. Several of them in
a row are told apart by how they begin (`skipWords_append`).

The parts of a text between white space are its words in order, whatever white
space stands around them.
-/

set_option autoImplicit false

namespace ReviewGate.Text

/-! ## Runs -/

/-- One or more characters of a class. -/
structure Run (inClass : Char → Bool) (text : Text) : Prop where
  filled : text ≠ []
  all : ∀ c ∈ text, inClass c = true

instance (inClass : Char → Bool) (text : Text) : Decidable (Run inClass text) :=
  decidable_of_iff (text ≠ [] ∧ text.all inClass = true)
    ⟨fun ⟨filled, all⟩ => ⟨filled, List.all_eq_true.mp all⟩,
      fun run => ⟨run.filled, List.all_eq_true.mpr run.all⟩⟩

/-- White space, and some. -/
abbrev Gap (text : Text) : Prop := Run isBlank text

/-- A word: one or more word characters. -/
abbrev IsWord (text : Text) : Prop := Run isWord text

section Run

variable {inClass : Char → Bool} {text : Text}

theorem Run.exists_cons (run : Run inClass text) :
    ∃ c rest, text = c :: rest ∧ inClass c = true := by
  obtain ⟨c, rest, rfl⟩ := List.exists_cons_of_ne_nil run.filled
  exact ⟨c, rest, rfl, run.all c List.mem_cons_self⟩

/-- A text that goes on behind a run begins as the run does. -/
theorem Run.head (run : Run inClass text) (rest : Text) :
    ∀ c ∈ (text ++ rest).head?, inClass c = true := by
  obtain ⟨d, more, rfl, member⟩ := run.exists_cons
  rintro _ ⟨⟩
  exact member

theorem Run.not_mem (run : Run inClass text) {c : Char} (outside : inClass c = false) :
    c ∉ text := by
  intro member
  rw [run.all c member] at outside
  cases outside

end Run

/-- Of some characters outside a class each is outside it. -/
theorem outside_of_mem {inClass : Char → Bool} {signs : List Char} {c : Char} (member : c ∈ signs)
    (outside : signs.all (! inClass ·) = true) : inClass c = false := by
  simpa using List.all_eq_true.mp outside c member

/-- The code points of white space. -/
def blankCodes : List Nat :=
  [9, 10, 11, 12, 13, 28, 29, 30, 31, 32, 0x85, 0xA0, 0x1680, 0x2000, 0x2001, 0x2002, 0x2003,
    0x2004, 0x2005, 0x2006, 0x2007, 0x2008, 0x2009, 0x200A, 0x2028, 0x2029, 0x202F, 0x205F,
    0x3000]

theorem toNat_mem_blankCodes {c : Char} (blank : isBlank c = true) : c.toNat ∈ blankCodes := by
  unfold isBlank at blank
  dsimp only at blank
  simp only [blankCodes, List.mem_cons, List.not_mem_nil, or_false]
  split at blank
  · simp only [Bool.or_eq_true, Bool.and_eq_true, decide_eq_true_eq] at blank
    omega
  · simp only [Bool.or_eq_true, Bool.and_eq_true, decide_eq_true_eq, beq_iff_eq] at blank
    omega

/-- **White space is no word character.** -/
theorem isWord_of_isBlank {c : Char} (blank : isBlank c = true) : isWord c = false := by
  have outside : ∀ code ∈ blankCodes, isWord (Char.ofNat code) = false := by decide +kernel
  exact Char.ofNat_toNat c ▸ outside c.toNat (toNat_mem_blankCodes blank)

theorem isBlank_of_isWord {c : Char} (word : isWord c = true) : isBlank c = false := by
  by_contra blank
  rw [isWord_of_isBlank (Bool.not_eq_false _ ▸ blank)] at word
  cases word

/-- White space, if there is some, and a character outside words do not begin with a word
character. -/
theorem isWord_head_of_blank {gap : Text} (blank : Blank gap) {c : Char}
    (outside : isWord c = false) (rest : Text) :
    ∀ d ∈ (gap ++ c :: rest).head?, isWord d = false := by
  cases gap with
  | nil =>
      rintro _ ⟨⟩
      exact outside
  | cons e gap =>
      rintro _ ⟨⟩
      exact isWord_of_isBlank (blank e List.mem_cons_self)

theorem Run.solid {word : Text} (isWord : IsWord word) : Solid word :=
  fun c member => isBlank_of_isWord (isWord.all c member)

/-! ## Single steps -/

section Steps

variable {inClass : Char → Bool} {start text rest : Text}

theorem after?_append (start rest : Text) : after? start (start ++ rest) = some rest := by
  rw [after?, if_pos (List.isPrefixOf_iff_prefix.mpr (List.prefix_append start rest)),
    List.drop_left]

/-- A fixed beginning is read off. -/
theorem after?_eq_some_iff : after? start text = some rest ↔ text = start ++ rest := by
  constructor
  · intro read
    rw [after?] at read
    split at read
    next begins =>
      obtain ⟨more, rfl⟩ := List.isPrefixOf_iff_prefix.mp begins
      rw [List.drop_left] at read
      rw [Option.some.inj read]
    next => cases read
  · rintro rfl
    exact after?_append start rest

theorem after?_eq_none {c : Char} (begins : c ∈ start.head?) (other : c ∉ text.head?) :
    after? start text = none := by
  obtain ⟨more, rfl⟩ := List.head?_eq_some_iff.mp begins
  rw [after?, if_neg]
  intro isPrefix
  obtain ⟨rest, rfl⟩ := List.isPrefixOf_iff_prefix.mp isPrefix
  exact other rfl

/-- A run is taken from the beginning. -/
theorem exists_of_afterSome? (read : afterSome? inClass text = some rest) :
    ∃ run, Run inClass run ∧ text = run ++ rest := by
  cases text with
  | nil => cases read
  | cons c more =>
      rw [afterSome?] at read
      split at read
      next member =>
        refine ⟨c :: more.takeWhile inClass, ⟨List.cons_ne_nil _ _, fun d inside => ?_⟩, ?_⟩
        · rcases List.mem_cons.mp inside with rfl | later
          · exact member
          · exact List.mem_takeWhile_imp later
        · rw [← Option.some.inj read, List.cons_append, List.takeWhile_append_dropWhile]
      next => cases read

/-- A run is taken as a whole when something else follows it. -/
theorem afterSome?_append (run : Run inClass text) (ends : ∀ c ∈ rest.head?, inClass c = false) :
    afterSome? inClass (text ++ rest) = some rest := by
  obtain ⟨c, more, rfl, member⟩ := run.exists_cons
  rw [List.cons_append, afterSome?, if_pos member]
  exact congrArg some (dropWhile_append_run (fun d later => run.all d (.tail c later)) ends)

theorem trimLeft_append {gap : Text} (blank : Blank gap)
    (ends : ∀ c ∈ rest.head?, isBlank c = false) : trimLeft (gap ++ rest) = rest :=
  dropWhile_append_run blank ends

theorem exists_trimLeft (text : Text) : ∃ gap, Blank gap ∧ text = gap ++ trimLeft text :=
  ⟨text.takeWhile isBlank, fun _ => List.mem_takeWhile_imp,
    (List.takeWhile_append_dropWhile).symm⟩

theorem startsIn_iff : startsIn inClass text = true ↔ ∃ c ∈ text.head?, inClass c = true := by
  cases text with
  | nil => exact ⟨nofun, nofun⟩
  | cons c rest =>
      refine ⟨fun starts => ⟨c, rfl, starts⟩, ?_⟩
      rintro ⟨_, ⟨⟩, member⟩
      exact member

theorem startsIn_append (run : Run inClass text) (rest : Text) :
    startsIn inClass (text ++ rest) = true := by
  obtain ⟨c, more, rfl, member⟩ := run.exists_cons
  exact member

end Steps

/-! ## Up to a mark -/

section Mark

variable {mark : Char} {front text rest : Text}

theorem takeWhile_front (absent : mark ∉ front) (rest : Text) :
    (front ++ mark :: rest).takeWhile (· != mark) = front := by
  refine takeWhile_append_run (fun c member => ?_) (by rintro _ ⟨⟩; exact bne_self_eq_false mark)
  exact bne_iff_ne.mpr fun same => absent (same ▸ member)

theorem dropWhile_front (absent : mark ∉ front) (rest : Text) :
    (front ++ mark :: rest).dropWhile (· != mark) = mark :: rest := by
  refine dropWhile_append_run (fun c member => ?_) (by rintro _ ⟨⟩; exact bne_self_eq_false mark)
  exact bne_iff_ne.mpr fun same => absent (same ▸ member)

theorem not_mem_takeWhile_front (mark : Char) (text : Text) :
    mark ∉ text.takeWhile (· != mark) := fun member => by
  have other : (mark != mark) = true := List.mem_takeWhile_imp (p := (· != mark)) member
  rw [bne_self_eq_false] at other
  cases other

/-- A text falls apart at the first place of a mark. -/
theorem eq_append_of_dropWhile {c : Char} (left : text.dropWhile (· != mark) = c :: rest) :
    text = text.takeWhile (· != mark) ++ mark :: rest := by
  have first := List.head?_dropWhile_not (· != mark) text
  have whole := List.takeWhile_append_dropWhile (p := (· != mark)) (l := text)
  rw [left] at first whole
  obtain rfl : c = mark := by simpa using first
  exact whole.symm

end Mark

/-! ## Optional words -/

/-- A word with white space behind it, or nothing. -/
inductive Optional (word : Text) : Text → Prop
  | absent : Optional word []
  | present {gap : Text} (isGap : Gap gap) : Optional word (word ++ gap)

/-- Some words in order, each with white space behind it or left out. -/
inductive Optionals : List Text → Text → Prop
  | nil : Optionals [] []
  | cons {word piece front : Text} {words : List Text} (first : Optional word piece)
      (more : Optionals words front) : Optionals (word :: words) (piece ++ front)

/-- Words that begin differently, each with something else than white space, and
differently from a character. -/
structure Distinct (words : List Text) (c : Char) : Prop where
  nodup : (words.map List.head? ++ [some c]).Nodup
  solid : ∀ start ∈ words.map List.head? ++ [some c], start.any (! isBlank ·) = true

instance (words : List Text) (c : Char) : Decidable (Distinct words c) :=
  decidable_of_iff ((words.map List.head? ++ [some c]).Nodup ∧
      ∀ start ∈ words.map List.head? ++ [some c], start.any (! isBlank ·) = true)
    ⟨fun ⟨nodup, solid⟩ => ⟨nodup, solid⟩, fun ⟨nodup, solid⟩ => ⟨nodup, solid⟩⟩

/-- Skips several optional words. -/
def skipWords (words : List Text) (text : Text) : Text :=
  words.foldl (fun rest word => skipWord word rest) text

section Optional

variable {word piece front rest : Text} {words : List Text} {c : Char}

theorem exists_skipWord (word text : Text) :
    ∃ piece, Optional word piece ∧ text = piece ++ skipWord word text := by
  unfold skipWord
  cases read : (after? word text).bind afterBlank? with
  | none => exact ⟨[], .absent, rfl⟩
  | some rest =>
      obtain ⟨behind, first, second⟩ := Option.bind_eq_some_iff.mp read
      obtain ⟨gap, isGap, rfl⟩ := exists_of_afterSome? second
      refine ⟨word ++ gap, .present isGap, ?_⟩
      rw [after?_eq_some_iff.mp first, List.append_assoc, Option.getD_some]

theorem skipWord_append (optional : Optional word piece) (begins : c ∈ rest.head?)
    (solid : isBlank c = false) (other : word.head? ≠ some c) :
    skipWord word (piece ++ rest) = rest := by
  obtain ⟨more, rfl⟩ := List.head?_eq_some_iff.mp begins
  unfold skipWord
  cases optional with
  | absent =>
      cases word with
      | nil =>
          have all : after? [] (c :: more) = some (c :: more) := after?_append [] (c :: more)
          rw [List.nil_append, all, Option.bind_some, afterBlank?, afterSome?,
            if_neg (Bool.eq_false_iff.mp solid), Option.getD_none]
      | cons d word =>
          have absent : after? (d :: word) (c :: more) = none :=
            after?_eq_none rfl fun same => other same.symm
          rw [List.nil_append, absent, Option.bind_none, Option.getD_none]
  | present isGap =>
      have ends : ∀ d ∈ (c :: more).head?, isBlank d = false := by
        rintro _ ⟨⟩
        exact solid
      rw [List.append_assoc, after?_append, Option.bind_some, afterBlank?,
        afterSome?_append isGap ends, Option.getD_some]

theorem exists_skipWords (words : List Text) (text : Text) :
    ∃ front, Optionals words front ∧ text = front ++ skipWords words text := by
  induction words generalizing text with
  | nil => exact ⟨[], .nil, rfl⟩
  | cons word words ih =>
      obtain ⟨piece, first, whole⟩ := exists_skipWord word text
      obtain ⟨front, more, rest⟩ := ih (skipWord word text)
      refine ⟨piece ++ front, .cons first more, ?_⟩
      rw [List.append_assoc]
      exact whole.trans (congrArg (piece ++ ·) rest)

theorem Optionals.singleton (optionals : Optionals [word] front) : Optional word front := by
  cases optionals with
  | cons first more =>
      cases more
      rwa [List.append_nil]

theorem Distinct.tail (distinct : Distinct (word :: words) c) : Distinct words c :=
  ⟨(List.nodup_cons.mp distinct.nodup).2, fun start member =>
    distinct.solid start (.tail _ member)⟩

/-- What follows optional words begins as one of them or as what stands behind them. -/
theorem Optionals.head (optionals : Optionals words front) (distinct : Distinct words c)
    (begins : c ∈ rest.head?) :
    ∃ d ∈ (front ++ rest).head?, some d ∈ words.map List.head? ++ [some c] := by
  induction optionals with
  | nil => exact ⟨c, begins, List.mem_singleton_self _⟩
  | @cons word piece front words first more ih =>
      obtain ⟨d, later, among⟩ := ih distinct.tail
      cases first with
      | absent => exact ⟨d, later, .tail _ among⟩
      | @present gap isGap =>
          have filled := distinct.solid word.head? List.mem_cons_self
          obtain ⟨e, start⟩ := Option.isSome_iff_exists.mp (Option.isSome_of_any filled)
          obtain ⟨others, rfl⟩ := List.head?_eq_some_iff.mp start
          exact ⟨e, rfl, List.mem_cons_self⟩

/-- **Optional words that begin differently are skipped, whichever are there.** -/
theorem skipWords_append (optionals : Optionals words front) (distinct : Distinct words c)
    (begins : c ∈ rest.head?) : skipWords words (front ++ rest) = rest := by
  induction optionals with
  | nil => rfl
  | @cons word piece front words first more ih =>
      obtain ⟨d, start, among⟩ := more.head distinct.tail begins
      have solid : isBlank d = false := by
        simpa using distinct.solid (some d) (.tail _ among)
      have other : word.head? ≠ some d := fun same =>
        (List.nodup_cons.mp distinct.nodup).1 (same ▸ among)
      have skipped := skipWord_append first start solid other
      rw [List.append_assoc]
      exact (congrArg (skipWords words) skipped).trans (ih distinct.tail)

end Optional

/-! ## The words of a text -/

section Parts

variable {word gap back text : Text}

theorem partsBetween_append_cons {separates : Char → Bool} {c : Char}
    (separator : separates c = true) (first second : Text) :
    partsBetween separates (first ++ c :: second) =
      partsBetween separates first ++ partsBetween separates second := by
  rw [partsBetween, splitWhere_eq_splitOnP, List.splitOnP_append_cons first second separator,
    List.filter_append, ← splitWhere_eq_splitOnP, ← splitWhere_eq_splitOnP]
  rfl

/-- White space in front of a text is between no parts. -/
theorem partsBetween_blank_append (blank : Blank gap) (text : Text) :
    partsBetween isBlank (gap ++ text) = partsBetween isBlank text := by
  induction gap with
  | nil => rfl
  | cons c gap ih =>
      rw [List.cons_append]
      refine (partsBetween_append_cons (blank c List.mem_cons_self) [] _).trans ?_
      exact ih fun d later => blank d (.tail c later)

theorem partsBetween_of_solid (filled : word ≠ []) (solid : Solid word) :
    partsBetween isBlank word = [word] := by
  rw [partsBetween, splitWhere_eq_splitOnP, List.splitOnP_eq_singleton solid]
  exact List.filter_cons_of_pos (by simpa using filled)

/-- A word is the first part when the text ends behind it or goes on with white space. -/
theorem partsBetween_word_append (filled : word ≠ []) (solid : Solid word)
    (ends : ∀ c ∈ back.head?, isBlank c = true) :
    partsBetween isBlank (word ++ back) = word :: partsBetween isBlank back := by
  cases back with
  | nil =>
      rw [List.append_nil, partsBetween_of_solid filled solid]
      rfl
  | cons c back =>
      have blank := ends c rfl
      rw [partsBetween_append_cons blank, partsBetween_of_solid filled solid]
      exact congrArg (word :: ·) (partsBetween_append_cons blank [] back).symm

theorem partsBetween_of_blank (blank : Blank text) : partsBetween isBlank text = [] := by
  rw [← List.append_nil text, partsBetween_blank_append blank]
  rfl

/-- Where the first part of a text stands: behind white space, and in front of white space and
the other parts. -/
theorem exists_first_part (filled : ¬ Blank text) :
    ∃ front word back, text = front ++ (word ++ back) ∧ Blank front ∧ word ≠ [] ∧
      (∀ c ∈ back.head?, isBlank c = true) ∧
      partsBetween isBlank text = word :: partsBetween isBlank back := by
  obtain ⟨front, c, rest, rfl, blank, solid⟩ := exists_of_not_blank filled
  have whole := List.takeWhile_append_dropWhile (p := (! isBlank ·)) (l := c :: rest)
  have begins : (c :: rest).takeWhile (! isBlank ·) ≠ [] := by simp [solid]
  have inside : Solid ((c :: rest).takeWhile (! isBlank ·)) := fun d member => by
    simpa using List.mem_takeWhile_imp member
  have ends : ∀ d ∈ ((c :: rest).dropWhile (! isBlank ·)).head?, isBlank d = true := by
    intro d first
    have outside := List.head?_dropWhile_not (! isBlank ·) (c :: rest)
    rw [Option.mem_def.mp first] at outside
    simpa using outside
  refine ⟨front, _, _, by rw [whole], blank, begins, ends, ?_⟩
  rw [partsBetween_blank_append blank, ← partsBetween_word_append begins inside ends, whole]

theorem partsBetween_eq_nil_iff : partsBetween isBlank text = [] ↔ Blank text := by
  refine ⟨fun none => ?_, partsBetween_of_blank⟩
  by_contra filled
  obtain ⟨_, _, _, _, _, _, _, parts⟩ := exists_first_part filled
  rw [none] at parts
  cases parts

theorem exists_of_partsBetween {more : List Text}
    (parts : partsBetween isBlank text = word :: more) :
    ∃ front back, text = front ++ (word ++ back) ∧ Blank front ∧ word ≠ [] ∧
      (∀ c ∈ back.head?, isBlank c = true) ∧ partsBetween isBlank back = more := by
  have filled : ¬ Blank text := fun blank => by
    rw [partsBetween_of_blank blank] at parts
    cases parts
  obtain ⟨front, first, back, whole, blank, begins, ends, same⟩ := exists_first_part filled
  obtain ⟨rfl, rfl⟩ := List.cons.inj (parts.symm.trans same)
  exact ⟨front, back, whole, blank, begins, ends, rfl⟩

end Parts

end ReviewGate.Text
