import Mathlib.Data.List.Pairwise
import ReviewGate.Source.Boundary
import ReviewGate.Source.Scan

/-!
# Scanned lines keep their order

A scan gives every line of the text back, in order and unchanged, numbered in
steps of one from the number it starts with. The lines of a file therefore
carry the numbers from one to the number of its lines, and what is filtered
out of them, the code and the boundaries among it, is in increasing order.
-/

set_option autoImplicit false

namespace ReviewGate.Source

open Text

/-- Lines in the order of their numbers, no number twice. -/
def Increasing (lines : List Line) : Prop :=
  lines.Pairwise fun earlier later => earlier.number < later.number

theorem Increasing.weak {lines : List Line} (increasing : Increasing lines) :
    lines.Pairwise fun earlier later => earlier.number ≤ later.number :=
  List.Pairwise.imp Int.le_of_lt increasing

/-- No line of an increasing row is numbered below the first one. -/
theorem Increasing.head_le {lines : List Line} (increasing : Increasing lines)
    (filled : lines ≠ []) {line : Line} (member : line ∈ lines) :
    (lines.head filled).number ≤ line.number :=
  increasing.weak.rel_head_of_rel_head_head member (Int.le_refl _)

/-- No line of an increasing row is numbered above the last one. -/
theorem Increasing.le_getLast {lines : List Line} (increasing : Increasing lines)
    (filled : lines ≠ []) {line : Line} (member : line ∈ lines) :
    line.number ≤ (lines.getLast filled).number :=
  increasing.weak.rel_getLast_of_rel_getLast_getLast member (Int.le_refl _)

/-! ## What a scan keeps -/

section Scan

variable (shapes : LineShapes)

@[simp] theorem raw_scanFrom (number : Int) (state : ScanState) (raws : List Text) :
    (scanFrom shapes number state raws).lines.map Line.raw = raws := by
  induction raws generalizing number state with
  | nil => rfl
  | cons raw more ih => simp [scanFrom, ih]

@[simp] theorem length_scanFrom (number : Int) (state : ScanState) (raws : List Text) :
    (scanFrom shapes number state raws).lines.length = raws.length := by
  have kept := congrArg List.length (raw_scanFrom shapes number state raws)
  rwa [List.length_map] at kept

/-- A scan numbers its lines in steps of one. -/
theorem number_scanFrom (number : Int) (state : ScanState) (raws : List Text) :
    (scanFrom shapes number state raws).lines.map Line.number =
      (List.range raws.length).map fun index : Nat => number + (index : Int) := by
  induction raws generalizing number state with
  | nil => rfl
  | cons raw more ih =>
      have shifted : (List.range more.length).map (fun index : Nat => number + 1 + (index : Int)) =
          (List.range more.length).map fun index : Nat => number + ((index + 1 : Nat) : Int) :=
        List.map_congr_left fun index _ => by omega
      simp [scanFrom, ih, List.range_succ_eq_map, List.map_map, Function.comp_def, shifted]

end Scan

/-! ## The lines of a file -/

variable (language : Language) (text : Text)

theorem length_classify :
    (classify language text).lines.length = (Text.lines text).length := by
  simp [classify]

theorem number_classify :
    (classify language text).lines.map Line.number =
      (List.range (Text.lines text).length).map fun index : Nat => 1 + (index : Int) :=
  number_scanFrom language.shapes 1 .outside (Text.lines text)

/-- The numbers of the lines of a file run from one to the number of lines. -/
theorem number_mem_classify {line : Line} (member : line ∈ (classify language text).lines) :
    1 ≤ line.number ∧ line.number ≤ (Text.lines text).length := by
  have numbered := List.mem_map_of_mem (f := Line.number) member
  rw [number_classify] at numbered
  obtain ⟨index, below, same⟩ := List.mem_map.mp numbered
  rw [List.mem_range] at below
  omega

/-- The last line of a file has the number of lines for its number. -/
theorem getLast?_number_classify :
    (classify language text).lines.getLast?.map Line.number =
      some ((Text.lines text).length : Int) := by
  have some_ : (Text.lines text).length ≠ 0 := by
    rw [Text.lines, Text.length_splitWhere]
    exact Nat.succ_ne_zero _
  rw [← List.getLast?_map, number_classify, List.getLast?_map, List.getLast?_range, if_neg some_,
    Option.map_some]
  congr 1
  omega

theorem increasing_classify : Increasing (classify language text).lines := by
  have sorted : ((classify language text).lines.map Line.number).Pairwise (· < ·) := by
    rw [number_classify, List.pairwise_map]
    exact List.pairwise_lt_range.imp fun less => by omega
  exact List.pairwise_map.mp sorted

/-! ## Code and boundaries -/

theorem Increasing.code {lines : List Line} (increasing : Increasing lines) :
    Increasing (codeLines lines) :=
  List.Pairwise.filter _ increasing

theorem mem_codeLines {lines : List Line} {line : Line} :
    line ∈ codeLines lines ↔ line ∈ lines ∧ line.isCode = true :=
  List.mem_filter

/-- A boundary is a line of code. -/
theorem isCode_of_isBoundary {line : Line} (boundary : isBoundary line = true) :
    line.isCode = true :=
  (Bool.and_eq_true_iff.mp boundary).1

end ReviewGate.Source
