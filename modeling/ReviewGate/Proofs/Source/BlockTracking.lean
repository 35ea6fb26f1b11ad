import ReviewGate.Proofs.Source.Numbering
import ReviewGate.Proofs.Text.Trim

/-!
# Open comments, line by line

A scan carries two things from line to line: whether a comment is open, and
the mark that closes it. They go together, since the first line is met outside
of comments with no mark, and every line keeps it so that there is a mark
exactly inside of comments, which then is one of the language (`fits_stateAt`).

What a state means can be said of the lines alone. A comment is open behind a
line exactly when some line up to it opened one: it was scanned outside of
comments, begins with an opening mark, holds the closing mark nowhere behind
that, and no line since holds the closing mark (`stateAt_eq_inside_iff`). The
induction is on the number of lines scanned, and what carries it is that the
mark in the state is the closing mark of the opening line.

All lines from there to the first that holds the closing mark are comments,
whatever else they hold. Outside, a line that is not blank is a comment when
it begins with an opening mark or the mark of a line comment, and an import or
code otherwise. Blank lines change nothing.
-/

set_option autoImplicit false

namespace ReviewGate.Source

open Text

/-! ## What the languages have in common -/

/-- Shapes of which no line begins with two opening marks, and whose marks
hold no white space. -/
structure LineShapes.Regular (shapes : LineShapes) : Prop where
  exclusive : ∀ first ∈ shapes.blocks, ∀ second ∈ shapes.blocks, ∀ line : Text,
    first.opener <+: line → second.opener <+: line → first = second
  opener_ne_nil : ∀ marks ∈ shapes.blocks, marks.opener ≠ []
  closer_ne_nil : ∀ marks ∈ shapes.blocks, marks.closer ≠ []
  closer_solid : ∀ marks ∈ shapes.blocks, Solid marks.closer

/-- Two beginnings of one line that are equally long are the same. -/
theorem eq_of_prefix {first second line : Text} (length : first.length = second.length)
    (left : first <+: line) (right : second <+: line) : first = second :=
  (List.prefix_of_prefix_length_le left right (Nat.le_of_eq length)).eq_of_length length

theorem blocks_scriptShapes : scriptShapes.blocks = [⟨['/', '*'], ['*', '/']⟩] := by
  simp [scriptShapes]

theorem blocks_pythonShapes :
    pythonShapes.blocks = [⟨['"', '"', '"'], ['"', '"', '"']⟩,
      ⟨['\x27', '\x27', '\x27'], ['\x27', '\x27', '\x27']⟩] := by
  simp [pythonShapes]

theorem regular_scriptShapes : scriptShapes.Regular := by
  refine ⟨?_, ?_, ?_, ?_⟩ <;> rw [blocks_scriptShapes]
  · intro first firstMember second secondMember _ _ _
    rw [List.mem_singleton.mp firstMember, List.mem_singleton.mp secondMember]
  all_goals
    intro marks member
    rw [List.mem_singleton.mp member]
    decide

theorem regular_pythonShapes : pythonShapes.Regular := by
  refine ⟨?_, ?_, ?_, ?_⟩ <;> rw [blocks_pythonShapes]
  · intro first firstMember second secondMember line left right
    -- both opening marks have three signs, so on one line they are the same
    have openers : first.opener.length = second.opener.length → first.opener = second.opener :=
      fun length => eq_of_prefix length left right
    rcases List.mem_pair.mp firstMember with rfl | rfl <;>
      rcases List.mem_pair.mp secondMember with rfl | rfl
    · rfl
    · exact absurd (openers rfl) (by decide)
    · exact absurd (openers rfl) (by decide)
    · rfl
  all_goals
    intro marks member
    rcases List.mem_pair.mp member with rfl | rfl <;> decide

theorem regular_shapes (language : Language) : language.shapes.Regular := by
  cases language with
  | typescript => exact regular_scriptShapes
  | javascript => exact regular_scriptShapes
  | python => exact regular_pythonShapes
  | unknown => exact ⟨nofun, nofun, nofun, nofun⟩

/-! ## One line -/

/-- The state behind a line that is met in a state. -/
def advance (shapes : LineShapes) (state : ScanState) (raw : Text) : ScanState :=
  (scanLine shapes state (trim raw)).2

/-- Whether a trimmed line begins with an opening mark or the mark of a line
comment. -/
def BeginsComment (shapes : LineShapes) (line : Text) : Prop :=
  (∃ marks ∈ shapes.blocks, marks.opener <+: line) ∨ ∃ mark ∈ shapes.lineComments, mark <+: line

section Step

variable {shapes : LineShapes} {raw : Text}

theorem isEmpty_trim_iff : (trim raw).isEmpty = true ↔ Blank raw := by
  rw [List.isEmpty_iff, trim_eq_nil_iff]

theorem scanLine_of_blank (blank : Blank raw) (state : ScanState) :
    scanLine shapes state (trim raw) = (.blank, state) := by
  rw [scanLine.eq_def, if_pos (isEmpty_trim_iff.mpr blank)]

theorem scanLine_outside (filled : ¬ Blank raw) :
    scanLine shapes .outside (trim raw) = scanOutside shapes .outside (trim raw) := by
  rw [scanLine.eq_def, if_neg (mt isEmpty_trim_iff.mp filled)]
  rfl

theorem scanLine_inside (filled : ¬ Blank raw) (closer : Text) :
    scanLine shapes (.inside closer) (trim raw) =
      (.comment, if occurs closer (trim raw) then .outside else .inside closer) := by
  rw [scanLine.eq_def, if_neg (mt isEmpty_trim_iff.mp filled)]
  rfl

/-- An open comment stays open on a line exactly when the line does not hold
its closing mark. -/
theorem advance_inside {closer : Text} (filled : closer ≠ []) (solid : Solid closer)
    (raw : Text) :
    advance shapes (.inside closer) raw =
      if occurs closer raw then .outside else .inside closer := by
  have same : occurs closer (trim raw) = occurs closer raw :=
    Bool.eq_iff_iff.mpr (by rw [occurs_iff, occurs_iff, infix_trim_iff solid.trimmed])
  by_cases blank : Blank raw
  · have empty : occurs closer (trim raw) = false := by
      rw [trim_eq_nil_iff.mpr blank, occurs]
      simpa using filled
    rw [advance, scanLine_of_blank blank, if_neg (by rw [← same, empty]; exact Bool.false_ne_true)]
  · rw [advance, scanLine_inside blank, same]

/-- **What opens a comment.** From outside of comments, a line leaves one open
exactly when it begins with an opening mark and does not hold the closing mark
behind it. -/
theorem advance_outside_iff (regular : shapes.Regular) {closer : Text} :
    advance shapes .outside raw = .inside closer ↔
      ∃ marks ∈ shapes.blocks, marks.closer = closer ∧ marks.opener <+: trim raw ∧
        ¬ marks.closer <:+: (trim raw).drop marks.opener.length := by
  by_cases blank : Blank raw
  · rw [advance, scanLine_of_blank blank, trim_eq_nil_iff.mpr blank]
    refine ⟨nofun, ?_⟩
    rintro ⟨marks, member, _, start, _⟩
    exact absurd (List.prefix_nil.mp start) (regular.opener_ne_nil marks member)
  · rw [advance, scanLine_outside blank, scanOutside]
    cases found : shapes.blocks.find? (·.opener.isPrefixOf (trim raw)) with
    | none =>
        have noOpener := List.find?_eq_none.mp found
        constructor
        · intro opened
          dsimp only at opened
          split at opened
          · cases opened
          · split at opened <;> cases opened
        · rintro ⟨marks, member, _, start, _⟩
          exact absurd (List.isPrefixOf_iff_prefix.mpr start) (noOpener marks member)
    | some marks =>
        have member := List.mem_of_find?_eq_some found
        have start : marks.opener <+: trim raw :=
          List.isPrefixOf_iff_prefix.mp (by simpa using List.find?_some found)
        dsimp only
        rw [afterOpener]
        constructor
        · intro opened
          split at opened
          · cases opened
          next unclosed =>
            cases opened
            exact ⟨marks, member, rfl, start, fun inside => unclosed ((occurs_iff _ _).mpr inside)⟩
        · rintro ⟨other, otherMember, rfl, otherStart, unclosed⟩
          cases regular.exclusive marks member other otherMember _ start otherStart
          rw [if_neg (mt (occurs_iff _ _).mp unclosed)]

variable (shapes) in
/-- The kind of a line outside of comments. -/
theorem kind_outside (filled : ¬ Blank raw) :
    let kind := (scanLine shapes .outside (trim raw)).1
    (kind = .comment ↔ BeginsComment shapes (trim raw)) ∧
      (kind = .comment ∨ kind = .imported ∨ kind = .code) := by
  rw [scanLine_outside filled, scanOutside]
  cases found : shapes.blocks.find? (·.opener.isPrefixOf (trim raw)) with
  | some marks =>
      have start : marks.opener <+: trim raw :=
        List.isPrefixOf_iff_prefix.mp (by simpa using List.find?_some found)
      have member := List.mem_of_find?_eq_some found
      exact ⟨⟨fun _ => .inl ⟨marks, member, start⟩, fun _ => rfl⟩, .inl rfl⟩
  | none =>
      have noOpener : ¬ ∃ marks ∈ shapes.blocks, marks.opener <+: trim raw := by
        rintro ⟨marks, member, start⟩
        exact absurd (List.isPrefixOf_iff_prefix.mpr start)
          (List.find?_eq_none.mp found marks member)
      have lineComment : shapes.lineComments.any (·.isPrefixOf (trim raw)) = true ↔
          ∃ mark ∈ shapes.lineComments, mark <+: trim raw := by
        simp only [List.any_eq_true, List.isPrefixOf_iff_prefix]
      rw [BeginsComment, or_iff_right noOpener, ← lineComment]
      dsimp only
      split
      next marked => exact ⟨⟨fun _ => marked, fun _ => rfl⟩, .inl rfl⟩
      next unmarked =>
        split
        · exact ⟨⟨nofun, fun marked => absurd marked unmarked⟩, .inr (.inl rfl)⟩
        · exact ⟨⟨nofun, fun marked => absurd marked unmarked⟩, .inr (.inr rfl)⟩

end Step

/-! ## The mode and the mark -/

/-- A state whose mode and mark go together: no mark outside of comments, and inside the closing
mark of a comment that the shapes know. -/
inductive LineShapes.Fits (shapes : LineShapes) : ScanState → Prop
  | outside : shapes.Fits .outside
  | inside (marks : BlockMarks) (known : marks ∈ shapes.blocks) :
      shapes.Fits (.inside marks.closer)

section Fits

variable {shapes : LineShapes} {state : ScanState}

theorem LineShapes.Fits.afterOpener {marks : BlockMarks} (known : marks ∈ shapes.blocks)
    (line : Text) : shapes.Fits (afterOpener marks line) := by
  unfold Source.afterOpener
  split
  · exact .outside
  · exact .inside marks known

/-- **Every line keeps the mode and the mark together.** -/
theorem LineShapes.Fits.scanLine (fits : shapes.Fits state) (line : Text) :
    shapes.Fits (scanLine shapes state line).2 := by
  unfold Source.scanLine
  split
  · exact fits
  split
  · unfold scanOutside
    split
    next found => exact .afterOpener (List.mem_of_find?_eq_some found) line
    · split
      · exact fits
      · split <;> exact fits
  · split
    · exact .outside
    · exact fits

theorem LineShapes.Fits.foldl_advance (fits : shapes.Fits state) (raws : List Text) :
    shapes.Fits (raws.foldl (advance shapes) state) := by
  induction raws generalizing state with
  | nil => exact fits
  | cons raw more ih => exact ih (fits.scanLine (trim raw))

/-- The mark of such a state is filled exactly inside of comments. -/
theorem LineShapes.Fits.closer_ne_nil_iff (fits : shapes.Fits state) (regular : shapes.Regular) :
    state.closer ≠ [] ↔ state.mode = .inBlock := by
  cases fits with
  | outside => exact ⟨fun filled => absurd rfl filled, nofun⟩
  | inside marks known => exact ⟨fun _ => rfl, fun _ => regular.closer_ne_nil marks known⟩

theorem LineShapes.Fits.eq_outside (fits : shapes.Fits state) (normal : state.mode = .normal) :
    state = .outside := by
  cases fits with
  | outside => rfl
  | inside marks known => cases normal

theorem LineShapes.Fits.eq_inside (fits : shapes.Fits state) (blocked : state.mode = .inBlock) :
    ∃ marks ∈ shapes.blocks, state = .inside marks.closer := by
  cases fits with
  | outside => cases blocked
  | inside marks known => exact ⟨marks, known, rfl⟩

end Fits

/-! ## All lines of a text -/

section Run

variable (shapes : LineShapes)

/-- The state behind the last line is the one that all lines lead to. -/
theorem final_scanFrom (number : Int) (state : ScanState) (raws : List Text) :
    (scanFrom shapes number state raws).final = raws.foldl (advance shapes) state := by
  induction raws generalizing number state with
  | nil => rfl
  | cons raw more ih => exact ih (number + 1) (advance shapes state raw)

/-- Each line gets its kind in the state that the lines in front of it lead
to. -/
theorem kind_scanFrom (number : Int) (state : ScanState) (raws : List Text) (index : Nat) :
    (scanFrom shapes number state raws).lines[index]?.map Line.kind =
      raws[index]?.map fun raw =>
        (scanLine shapes ((raws.take index).foldl (advance shapes) state) (trim raw)).1 := by
  induction raws generalizing number state index with
  | nil => rfl
  | cons raw more ih =>
      cases index with
      | zero => rfl
      | succ index => exact ih (number + 1) (advance shapes state raw) index

end Run

/-- The state in which the line at an index, counted from zero, is scanned:
the one that the lines in front of it lead to. -/
def stateAt (language : Language) (text : Text) (index : Nat) : ScanState :=
  ((Text.lines text).take index).foldl (advance language.shapes) .outside

/-- The kind of the line at an index. -/
def kindAt? (language : Language) (text : Text) (index : Nat) : Option LineKind :=
  (classify language text).lines[index]?.map Line.kind

/-- Whether the line at an index holds a mark. -/
def HoldsAt (text : Text) (index : Nat) (mark : Text) : Prop :=
  ∃ raw, (Text.lines text)[index]? = some raw ∧ mark <:+: raw

/-- Whether the line at an index opens a comment: it is scanned outside of
comments, begins with an opening mark of the language and does not hold the
closing mark behind it. -/
structure OpensAt (language : Language) (text : Text) (index : Nat) (marks : BlockMarks) :
    Prop where
  known : marks ∈ language.shapes.blocks
  outside : (stateAt language text index).mode = .normal
  opened : ∃ raw, (Text.lines text)[index]? = some raw ∧ marks.opener <+: trim raw ∧
    ¬ marks.closer <:+: (trim raw).drop marks.opener.length

/-- Whether a comment that waits for a mark was opened in front of an index
and not closed since. -/
def OpenSince (language : Language) (text : Text) (index : Nat) (closer : Text) : Prop :=
  ∃ start < index, ∃ marks, marks.closer = closer ∧ OpensAt language text start marks ∧
    ∀ later, start < later → later < index → ¬ HoldsAt text later closer

section Text

variable (language : Language) (text : Text)

/-- The mode and the mark go together behind every line. -/
theorem fits_stateAt (index : Nat) : language.shapes.Fits (stateAt language text index) :=
  LineShapes.Fits.outside.foldl_advance _

/-- The final state is the one behind the last line. -/
theorem final_classify :
    (classify language text).final = stateAt language text (Text.lines text).length := by
  rw [stateAt, List.take_length]
  exact final_scanFrom language.shapes 1 .outside (Text.lines text)

/-- A scan that ends outside of comments has no mark left over. -/
theorem final_eq_outside (normal : (classify language text).final.mode = .normal) :
    (classify language text).final = .outside := by
  rw [final_classify] at normal ⊢
  exact (fits_stateAt language text _).eq_outside normal

theorem stateAt_succ {index : Nat} {raw : Text} (found : (Text.lines text)[index]? = some raw) :
    stateAt language text (index + 1) =
      advance language.shapes (stateAt language text index) raw := by
  rw [stateAt, List.take_add_one, found, List.foldl_append]
  rfl

theorem kindAt?_eq {index : Nat} {raw : Text} (found : (Text.lines text)[index]? = some raw) :
    kindAt? language text index =
      some (scanLine language.shapes (stateAt language text index) (trim raw)).1 := by
  rw [kindAt?, classify, kind_scanFrom, found]
  rfl

theorem holdsAt_iff {index : Nat} {raw : Text} (found : (Text.lines text)[index]? = some raw)
    (mark : Text) : HoldsAt text index mark ↔ mark <:+: raw :=
  ⟨fun ⟨_, same, inside⟩ => Option.some.inj (found.symm.trans same) ▸ inside,
    fun inside => ⟨raw, found, inside⟩⟩

/-- One line further, a comment is open when it was open and the line does not
close it, or when the line opens it. -/
theorem openSince_succ_iff (index : Nat) (closer : Text) :
    OpenSince language text (index + 1) closer ↔
      (OpenSince language text index closer ∧ ¬ HoldsAt text index closer) ∨
        ∃ marks, marks.closer = closer ∧ OpensAt language text index marks := by
  constructor
  · rintro ⟨start, below, marks, same, opens, unclosed⟩
    rcases Nat.lt_or_eq_of_le (Nat.le_of_lt_succ below) with earlier | rfl
    · exact .inl ⟨⟨start, earlier, marks, same, opens, fun later after before =>
        unclosed later after (Nat.lt_succ_of_lt before)⟩,
        unclosed index earlier (Nat.lt_succ_self index)⟩
    · exact .inr ⟨marks, same, opens⟩
  · rintro (⟨⟨start, below, marks, same, opens, unclosed⟩, here⟩ | ⟨marks, same, opens⟩)
    · refine ⟨start, Nat.lt_succ_of_lt below, marks, same, opens, fun later after before => ?_⟩
      rcases Nat.lt_or_eq_of_le (Nat.le_of_lt_succ before) with earlier | rfl
      · exact unclosed later after earlier
      · exact here
    · exact ⟨index, Nat.lt_succ_self index, marks, same, opens, fun later after before => by omega⟩

/-- **A comment is open exactly since the line that opened it.** -/
theorem stateAt_eq_inside_iff {index : Nat} (within : index ≤ (Text.lines text).length)
    (closer : Text) :
    stateAt language text index = .inside closer ↔ OpenSince language text index closer := by
  have regular := regular_shapes language
  induction index generalizing closer with
  | zero => exact ⟨nofun, fun ⟨start, below, _⟩ => absurd below (Nat.not_lt_zero start)⟩
  | succ index ih =>
      have before : ∀ mark, stateAt language text index = .inside mark ↔
          OpenSince language text index mark := ih (Nat.le_of_succ_le within)
      obtain ⟨raw, found⟩ : ∃ raw, (Text.lines text)[index]? = some raw :=
        ⟨_, List.getElem?_eq_getElem (Nat.lt_of_succ_le within)⟩
      rw [stateAt_succ language text found, openSince_succ_iff, holdsAt_iff text found, ← before]
      cases mode : (stateAt language text index).mode with
      | normal =>
          have state := (fits_stateAt language text index).eq_outside mode
          rw [state, advance_outside_iff regular]
          constructor
          · rintro ⟨marks, known, same, opened⟩
            exact .inr ⟨marks, same, known, mode, raw, found, opened⟩
          · rintro (⟨blocked, _⟩ | ⟨marks, same, opens⟩)
            · cases blocked
            · obtain ⟨other, otherFound, opened⟩ := opens.opened
              cases Option.some.inj (found.symm.trans otherFound)
              exact ⟨marks, opens.known, same, opened⟩
      | inBlock =>
          obtain ⟨marks, known, state⟩ := (fits_stateAt language text index).eq_inside mode
          have noOpener : ¬ ∃ other : BlockMarks, other.closer = closer ∧
              OpensAt language text index other := by
            rintro ⟨other, _, otherOpens⟩
            have outside := otherOpens.outside
            rw [mode] at outside
            cases outside
          rw [state, advance_inside (regular.closer_ne_nil marks known)
            (regular.closer_solid marks known), or_iff_left noOpener, ← occurs_iff]
          by_cases closes : occurs marks.closer raw = true
          · rw [if_pos closes]
            refine ⟨nofun, fun ⟨blocked, stays⟩ => ?_⟩
            cases blocked
            exact absurd closes stays
          · rw [if_neg closes]
            refine ⟨fun blocked => ⟨blocked, ?_⟩, And.left⟩
            cases blocked
            exact closes

/-- A comment is open exactly when some line has opened one. -/
theorem mode_stateAt_eq_inBlock_iff {index : Nat} (within : index ≤ (Text.lines text).length) :
    (stateAt language text index).mode = .inBlock ↔
      ∃ closer, OpenSince language text index closer := by
  constructor
  · intro blocked
    obtain ⟨marks, _, state⟩ := (fits_stateAt language text index).eq_inside blocked
    exact ⟨marks.closer, (stateAt_eq_inside_iff language text within marks.closer).mp state⟩
  · rintro ⟨closer, opened⟩
    rw [(stateAt_eq_inside_iff language text within closer).mpr opened]
    rfl

/-- From the line that opens a comment up to the first that closes it, every
line that is not blank is a comment. -/
theorem kindAt?_of_open {start index : Nat} {marks : BlockMarks} {raw : Text}
    (opens : OpensAt language text start marks) (behind : start ≤ index)
    (found : (Text.lines text)[index]? = some raw) (filled : ¬ Blank raw)
    (unclosed : ∀ later, start < later → later < index → ¬ HoldsAt text later marks.closer) :
    kindAt? language text index = some .comment := by
  rw [kindAt?_eq language text found]
  rcases Nat.lt_or_eq_of_le behind with further | rfl
  · have within := Nat.le_of_lt (List.getElem?_eq_some_iff.mp found).1
    have state := (stateAt_eq_inside_iff language text within marks.closer).mpr
      ⟨start, further, marks, rfl, opens, unclosed⟩
    rw [state, scanLine_inside filled]
  · obtain ⟨other, otherFound, begins, _⟩ := opens.opened
    cases Option.some.inj (found.symm.trans otherFound)
    rw [(fits_stateAt language text start).eq_outside opens.outside]
    exact congrArg some
      ((kind_outside language.shapes filled).1.mpr (.inl ⟨marks, opens.known, begins⟩))

end Text

/-! ## Block tracking is exact -/

/-- What the states and the kinds of the lines of a text say about the
comments in it. Lines are counted from zero, and the state behind the line at
an index is the one in which the next line is scanned. -/
structure TracksBlocks (language : Language) (text : Text) : Prop where
  inBlock_iff : ∀ index < (Text.lines text).length,
    (stateAt language text (index + 1)).mode = .inBlock ↔
      ∃ closer, OpenSince language text (index + 1) closer
  waits_for : ∀ index < (Text.lines text).length, ∀ closer,
    OpenSince language text (index + 1) closer →
      (stateAt language text (index + 1)).closer = closer
  comment_inside : ∀ start marks index raw, OpensAt language text start marks → start ≤ index →
    (Text.lines text)[index]? = some raw → ¬ Blank raw →
    (∀ later, start < later → later < index → ¬ HoldsAt text later marks.closer) →
    kindAt? language text index = some .comment
  outside : ∀ index raw, (Text.lines text)[index]? = some raw → ¬ Blank raw →
    (stateAt language text index).mode = .normal →
    (kindAt? language text index = some .comment ↔ BeginsComment language.shapes (trim raw)) ∧
      (kindAt? language text index = some .comment ∨ kindAt? language text index = some .imported ∨
        kindAt? language text index = some .code)
  blank : ∀ index raw, (Text.lines text)[index]? = some raw → Blank raw →
    kindAt? language text index = some .blank ∧
      stateAt language text (index + 1) = stateAt language text index
  closer_ne_nil_iff : ∀ index ≤ (Text.lines text).length,
    (stateAt language text index).closer ≠ [] ↔ (stateAt language text index).mode = .inBlock
  closer_known : ∀ index ≤ (Text.lines text).length,
    (stateAt language text index).mode = .inBlock →
      ∃ marks ∈ language.shapes.blocks, marks.closer = (stateAt language text index).closer
  final : (classify language text).final = stateAt language text (Text.lines text).length

/-- **The states of a scan track comments exactly**, in every language and for
every text. -/
theorem classify_tracksBlocks (language : Language) (text : Text) :
    TracksBlocks language text where
  inBlock_iff _ within := mode_stateAt_eq_inBlock_iff language text within
  waits_for _ within closer opened := by
    rw [(stateAt_eq_inside_iff language text within closer).mpr opened]
    rfl
  comment_inside _ _ _ _ opens behind found filled unclosed :=
    kindAt?_of_open language text opens behind found filled unclosed
  outside index raw found filled normal := by
    obtain ⟨comment, kinds⟩ := kind_outside language.shapes filled
    rw [kindAt?_eq language text found, (fits_stateAt language text index).eq_outside normal]
    simpa only [Option.some.injEq] using And.intro comment kinds
  blank index raw found blank := by
    rw [kindAt?_eq language text found, stateAt_succ language text found, advance,
      scanLine_of_blank blank]
    exact ⟨rfl, rfl⟩
  closer_ne_nil_iff index _ :=
    (fits_stateAt language text index).closer_ne_nil_iff (regular_shapes language)
  closer_known index _ blocked := by
    obtain ⟨marks, known, state⟩ := (fits_stateAt language text index).eq_inside blocked
    exact ⟨marks, known, congrArg ScanState.closer state.symm⟩
  final := final_classify language text

end ReviewGate.Source
