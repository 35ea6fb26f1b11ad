import ReviewGate.Proofs.Source.BlockTracking
import ReviewGate.Proofs.Text.Lines

/-!
# Texts one below the other

A scan carries nothing but its state from line to line. Scanning two rows of
lines one below the other is therefore scanning the first row, and then the
second from the state behind the first (`scanFrom_append`), and the number it
starts with only moves the numbers of the lines (`scanFrom_shift`).

What stands below never changes the kind of a line above. If the upper text
ends outside of comments, nothing of it reaches into the lower one either: the
lines are those of the two texts, with the lower ones moved down, the final
state is that of the lower text, and the breakdowns add up
(`classify_append`). A scan that ends outside of comments has no closing mark
left over (`final_eq_outside`), so the lower text is scanned as from the start.
-/

set_option autoImplicit false

namespace ReviewGate.Source

open Text

/-! ## Lines further down -/

/-- A line that stands a number of lines further down. -/
def Line.shift (count : Int) (line : Line) : Line :=
  { line with number := line.number + count }

section Scan

variable (shapes : LineShapes)

/-- Lines are scanned alike wherever their numbers begin. -/
theorem scanFrom_shift (count number : Int) (state : ScanState) (raws : List Text) :
    scanFrom shapes (number + count) state raws =
      ⟨(scanFrom shapes number state raws).lines.map (Line.shift count),
        (scanFrom shapes number state raws).final⟩ := by
  induction raws generalizing number state with
  | nil => rfl
  | cons raw more ih =>
      have next : number + count + 1 = number + 1 + count := Int.add_right_comm number count 1
      simp only [scanFrom, next, ih, List.map_cons, Line.shift]

/-- **Two rows of lines are scanned one after the other**, the second from the
state behind the first. -/
theorem scanFrom_append (number : Int) (state : ScanState) (first second : List Text) :
    let upper := scanFrom shapes number state first
    let lower := scanFrom shapes (number + first.length) upper.final second
    scanFrom shapes number state (first ++ second) = ⟨upper.lines ++ lower.lines, lower.final⟩ := by
  dsimp only
  induction first generalizing number state with
  | nil => simp [scanFrom]
  | cons raw more ih =>
      have further : number + ((raw :: more).length : Int) = number + 1 + (more.length : Int) := by
        rw [List.length_cons]
        omega
      rw [further]
      simp only [List.cons_append, scanFrom, ih]

end Scan

/-! ## Breakdowns -/

/-- Breakdowns are added number by number. -/
instance : Add Breakdown where
  add first second := {
    total := first.total + second.total
    effective := first.effective + second.effective
    blank := first.blank + second.blank
    comment := first.comment + second.comment
    imports := first.imports + second.imports }

theorem breakdown_append (first second : List Line) :
    breakdown (first ++ second) = breakdown first + breakdown second := by
  change _ = Breakdown.mk _ _ _ _ _
  simp [breakdown, countKind]

/-- Moving lines down changes no number of a breakdown. -/
theorem breakdown_shift (count : Int) (lines : List Line) :
    breakdown (lines.map (Line.shift count)) = breakdown lines := by
  have kept : ∀ kind, countKind kind (lines.map (Line.shift count)) = countKind kind lines := by
    intro kind
    rw [countKind, List.countP_map]
    rfl
  simp only [breakdown, kept, List.length_map]

/-! ## Texts -/

/-- **Classification composes.** Text below a newline changes no line above it.
If the upper text ends outside of comments, both texts are classified as if
each stood alone. -/
theorem classify_append (language : Language) (first second : Text) :
    (classify language first).lines <+: (classify language (first ++ '\n' :: second)).lines ∧
      ((classify language first).final.mode = .normal →
        (classify language (first ++ '\n' :: second)).lines =
            (classify language first).lines ++
              (classify language second).lines.map (Line.shift (Text.lines first).length) ∧
          (classify language (first ++ '\n' :: second)).final =
            (classify language second).final ∧
          breakdown (classify language (first ++ '\n' :: second)).lines =
            breakdown (classify language first).lines +
              breakdown (classify language second).lines) := by
  have joined := scanFrom_append language.shapes 1 .outside (Text.lines first) (Text.lines second)
  rw [← lines_append] at joined
  refine ⟨⟨_, (congrArg Classification.lines joined).symm⟩, fun outside => ?_⟩
  have whole : classify language (first ++ '\n' :: second) =
      ⟨(classify language first).lines ++
        (classify language second).lines.map (Line.shift (Text.lines first).length),
        (classify language second).final⟩ := by
    refine joined.trans ?_
    have upper := final_eq_outside language first outside
    rw [classify] at upper
    rw [upper, scanFrom_shift]
    rfl
  rw [whole, breakdown_append, breakdown_shift]
  exact ⟨rfl, rfl, rfl⟩

/-- A closed comment above one that stays open. -/
theorem classify_append_open :
    let first : Text := ['/', '*', '\n', '*', '/']
    let second : Text := ['x', '\n', '/', '*', '\n', 'y']
    (classify .typescript first).final.mode = .normal ∧
      (classify .typescript (first ++ '\n' :: second)).lines =
        [⟨1, ['/', '*'], .comment⟩, ⟨2, ['*', '/'], .comment⟩, ⟨3, ['x'], .code⟩,
          ⟨4, ['/', '*'], .comment⟩, ⟨5, ['y'], .comment⟩] ∧
      (classify .typescript (first ++ '\n' :: second)).final = .inside ['*', '/'] ∧
      breakdown (classify .typescript (first ++ '\n' :: second)).lines = ⟨5, 1, 0, 4, 0⟩ := by
  intro first second
  have outside : (classify .typescript first).final.mode = .normal := by decide
  obtain ⟨lines, final, numbers⟩ := (classify_append .typescript first second).2 outside
  refine ⟨outside, lines.trans ?_, final.trans ?_, numbers.trans ?_⟩ <;> decide

end ReviewGate.Source
