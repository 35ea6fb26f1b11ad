import Mathlib.Algebra.Group.Action.Defs
import Mathlib.Algebra.Order.BigOperators.Group.List
import ReviewGate.Budget.ConsoleReport
import ReviewGate.Proofs.Budget.SplitCover
import ReviewGate.Proofs.Console.Plain
import ReviewGate.Proofs.Number.Ceiling
import ReviewGate.Proofs.Steps

/-!
# Equal chunks are as few as the limit allows

Code without natural cuts is divided into chunks of one size, with a smaller one at the end perhaps.
Their number is the least that the limit allows: no division of the lines into parts within the
limit, in whatever order they are taken, has fewer parts (`ceil_div_le_length`).

That the number comes out right is not obvious, since the code does not divide by the limit but by
a size that is computed from the number. What a row of chunks holds lies between two multiples of
its size (`Even.lt_length_flatten`, `Even.length_flatten_le`), which fixes their number as a
quotient rounded up, and rounding up twice gives the number again.

The console prints the size once more, as the average of the units. It is computed from the numbers
of the report, and it is the size that all units but the last have.
-/

set_option autoImplicit false

namespace ReviewGate.Budget

open Source

/-! ## Rows of even pieces -/

section Even

variable {α : Type} {size : Nat}

/-- Pieces of one size, but for a last one that may be smaller and is not empty. -/
inductive Even (size : Nat) : List (List α) → Prop
  | last {piece : List α} (filled : piece ≠ []) (within : piece.length ≤ size) :
      Even size [piece]
  | full {piece : List α} {more : List (List α)} (whole : piece.length = size)
      (rest : Even size more) : Even size (piece :: more)

theorem even_chunksOf (positive : 0 < size) {items : List α} (filled : items ≠ []) :
    Even size (chunksOf size items) := by
  fun_induction chunksOf size items with
  | case1 items closed =>
      rcases closed with zero | empty
      · exact absurd zero (Nat.ne_of_gt positive)
      · exact absurd empty filled
  | case2 items _ ih =>
      by_cases single : items.length ≤ size
      · have ended : chunksOf size (items.drop size) = [] := by
          rw [List.drop_eq_nil_of_le single, chunksOf, if_pos (.inr rfl)]
        rw [ended, List.take_of_length_le single]
        exact .last filled single
      · refine .full (List.length_take_of_le (Nat.le_of_not_le single)) (ih ?_)
        exact fun empty => single (List.drop_eq_nil_iff.mp empty)

theorem Even.ne_nil {pieces : List (List α)} (even : Even size pieces) : pieces ≠ [] := by
  cases even <;> exact List.cons_ne_nil _ _

theorem Even.length_flatten_le {pieces : List (List α)} (even : Even size pieces) :
    pieces.flatten.length ≤ pieces.length * size := by
  induction even with
  | last filled within =>
      rw [List.flatten_singleton, List.length_singleton, Nat.one_mul]
      exact within
  | full whole rest ih =>
      rw [List.flatten_cons, List.length_append, List.length_cons, Nat.succ_mul]
      omega

/-- Without the last piece, the others do not hold as much. -/
theorem Even.lt_length_flatten {pieces : List (List α)} (even : Even size pieces) :
    (pieces.length - 1) * size < pieces.flatten.length := by
  induction even with
  | last filled within =>
      rw [List.flatten_singleton, List.length_singleton, Nat.sub_self, Nat.zero_mul]
      exact List.length_pos_iff.mpr filled
  | @full piece more whole rest ih =>
      obtain ⟨count, counted⟩ :=
        Nat.exists_eq_succ_of_ne_zero (List.length_eq_zero_iff.not.mpr rest.ne_nil)
      rw [counted, Nat.succ_sub_one] at ih
      rw [List.flatten_cons, List.length_append, List.length_cons, counted, Nat.succ_sub_one,
        Nat.succ_mul]
      omega

/-- Parts within a limit that hold some lines in whatever order are as many as the quotient of the
lines and the limit. -/
theorem ceil_div_le_length {limit : Nat} (positive : 0 < limit) {parts : List (List α)}
    {items : List α} (same : parts.flatten.Perm items)
    (within : ∀ part ∈ parts, part.length ≤ limit) :
    ⌈(items.length : ℚ) / limit⌉₊ ≤ parts.length := by
  refine (ceil_div_le_iff positive).mpr ?_
  rw [← same.length_eq, List.length_flatten]
  have bounded : ∀ length ∈ parts.map List.length, length ≤ limit := by
    intro length member
    obtain ⟨part, inside, rfl⟩ := List.mem_map.mp member
    exact within part inside
  have summed := List.sum_le_card_nsmul (parts.map List.length) limit bounded
  rwa [List.length_map, smul_eq_mul] at summed

end Even

/-! ## The units of the chunks -/

/-- A unit for a piece of some code. It runs from the first line of the piece to the last, tells how
many there are, and holds those lines of the code and no others. -/
structure Suggestion.Encloses (code piece : List Line) (unit : Suggestion) : Prop where
  first : piece.head?.map Line.number = some unit.first
  last : piece.getLast?.map Line.number = some unit.last
  estimate : unit.estimate = piece.length
  own : ∀ line ∈ code, unit.holds line.number = true ↔ line ∈ piece

theorem encloses_of_chunkUnit {front chunk back : List Line}
    (increasing : Increasing (front ++ (chunk ++ back))) {index : Nat} {unit : Suggestion}
    (made : chunkUnit chunk index = some unit) :
    unit.Encloses (front ++ (chunk ++ back)) chunk := by
  have inner : Increasing chunk :=
    (List.pairwise_append.mp (List.pairwise_append.mp increasing).2.1).1
  obtain ⟨inFront, behind⟩ := not_holds_chunkUnit increasing made
  obtain ⟨_, _, held, counted⟩ := chunkUnit_spec inner made
  have filled : chunk ≠ [] := by
    rintro rfl
    cases made
  rw [chunkUnit_of_ne_nil filled] at made
  refine ⟨?_, ?_, counted, fun line member => ⟨fun inside => ?_, held line⟩⟩
  · rw [List.head?_eq_some_head filled]
    cases made
    rfl
  · rw [List.getLast?_eq_some_getLast filled]
    cases made
    rfl
  · rcases List.mem_append.mp member with before | rest
    · exact absurd inside (inFront line before)
    · exact (List.mem_append.mp rest).resolve_right fun after => behind line after inside

theorem encloses_chunkUnits {chunks : List (List Line)} (filled : ∀ chunk ∈ chunks, chunk ≠ [])
    {front : List Line} (increasing : Increasing (front ++ chunks.flatten)) (start : Nat) :
    List.Forall₂ (fun chunk unit => unit.Encloses (front ++ chunks.flatten) chunk) chunks
      (chunkUnits start chunks) := by
  induction chunks generalizing front start with
  | nil => exact .nil
  | cons chunk more ih =>
      have made := chunkUnit_of_ne_nil (filled chunk List.mem_cons_self) start
      have further : Increasing ((front ++ chunk) ++ more.flatten) := by
        rwa [List.append_assoc, ← List.flatten_cons]
      have later := ih (fun other member => filled other (List.mem_cons_of_mem chunk member))
        further (start + 1)
      rw [chunkUnits_cons (filled chunk List.mem_cons_self)]
      rw [List.append_assoc, ← List.flatten_cons] at later
      exact .cons (encloses_of_chunkUnit increasing made) later

/-! ## The average in a report -/

/-- The averages among the lines of a report, each with the number of units it is of. -/
def averages (lines : List ReportLine) : List (Nat × Int) :=
  lines.filterMap fun
    | .average count size => some (count, size)
    | _ => none

/-- The lines of a file over its limit give the average of its units once, if there are any. -/
theorem averages_reportLines {counted : FileCount} (beyond : counted.exceeds = true)
    (split : counted.suggestions ≠ []) (limit : Int) :
    ∃ lines, counted.reportLines .exact limit = .ok lines ∧
      averages lines = [(counted.suggestions.length,
        ceilExact counted.breakdown.effective counted.suggestions.length)] := by
  have nonzero : counted.suggestions.length ≠ 0 := List.length_eq_zero_iff.not.mpr split
  have units : (counted.suggestions.map ReportLine.unit).filterMap (fun
      | .average count size => some (count, size)
      | _ => none) = ([] : List (Nat × Int)) :=
    List.filterMap_eq_nil_iff.mpr fun line member => by
      obtain ⟨unit, _, rfl⟩ := List.mem_map.mp member
      rfl
  simp only [FileCount.reportLines, if_pos beyond, splitLines, if_neg nonzero,
    ceil_exact (Nat.pos_of_ne_zero nonzero)]
  refine ⟨_, rfl, ?_⟩
  simp only [averages, List.filterMap_cons, List.filterMap_append, units]
  rfl

theorem mem_of_averages {lines : List ReportLine} {count : Nat} {size : Int}
    (member : (count, size) ∈ averages lines) : .average count size ∈ lines := by
  obtain ⟨line, inside, same⟩ := List.mem_filterMap.mp member
  split at same
  · cases same
    exact inside
  · cases same

/-- The printed line that gives the average of some units. -/
def averageLine (count size : Nat) : Text :=
  "  Result: ".toList ++ Text.ofNat count ++ " micro-tasks of ~".toList ++ Text.ofNat size ++
    " lines each".toList

theorem all_isPlain_averageLine (count size : Nat) :
    (averageLine count size).all Console.isPlain = true := by
  have head : "  Result: ".toList.all Console.isPlain = true := by decide
  have middle : " micro-tasks of ~".toList.all Console.isPlain = true := by decide
  have tail : " lines each".toList.all Console.isPlain = true := by decide
  unfold averageLine
  simp only [List.all_append, Console.all_isPlain_ofNat, head, middle, tail, Bool.and_self]

theorem renderLine_average {widths : Console.Widths} (colour : Bool) (count size : Nat) :
    Console.renderLine widths colour (ReportLine.average count size).pieces =
      averageLine count size ++ ['\n'] := by
  have pieces : (ReportLine.average count size).pieces =
      [Console.bare (averageLine count size)] := by
    unfold averageLine
    simp only [ReportLine.pieces, Text.ofInt_natCast]
  rw [Console.renderLine, pieces, Console.renderPieces_bare (all_isPlain_averageLine count size)]

/-- What stands among the lines of a file is printed with the report. -/
theorem infix_consoleReport {counts : List FileCount} {counted : FileCount} {line : ReportLine}
    {lines : List ReportLine} {widths : Console.Widths} {colour : Bool} {limit : Int}
    {report : Text} (member : counted ∈ counts) (own : counted.reportLines .exact limit = .ok lines)
    (inside : line ∈ lines) (made : consoleReport widths .exact colour limit counts = .ok report) :
    Console.renderLine widths colour line.pieces <:+: report := by
  obtain ⟨all, gathered, rendered⟩ := exists_of_bind_eq_ok made
  obtain ⟨files, listed, joined⟩ := exists_of_bind_eq_ok gathered
  cases rendered
  cases joined
  obtain ⟨shown, among, reported⟩ := exists_result_of_mem listed member
  cases own.symm.trans reported
  have printed : line.pieces ∈ (files.flatten ++ totalLines limit counts).map ReportLine.pieces :=
    List.mem_map_of_mem (List.mem_append_left _ (List.mem_flatten.mpr ⟨lines, among, inside⟩))
  rw [Console.render, List.flatMap_def]
  exact List.infix_of_mem_flatten (List.mem_map_of_mem printed)

/-- A report gives the average size of the units of a file over its limit. -/
theorem average_reported {file : FileCount} {count size : Nat} (beyond : file.exceeds = true)
    (units : file.suggestions.length = count) (filled : 0 < count)
    (average : ceilExact file.breakdown.effective count = size) :
    (∀ shown, ∃ lines, file.reportLines .exact shown = .ok lines ∧
      averages lines = [(count, (size : Int))]) ∧
    ∀ widths colour shown counts report, file ∈ counts →
      consoleReport widths .exact colour shown counts = .ok report →
      averageLine count size ++ ['\n'] <:+: report := by
  have given : ∀ shown, ∃ lines, file.reportLines .exact shown = .ok lines ∧
      averages lines = [(count, (size : Int))] := by
    intro shown
    have present : file.suggestions ≠ [] := List.ne_nil_of_length_pos (units ▸ filled)
    obtain ⟨lines, own, only⟩ := averages_reportLines beyond present shown
    rw [units, average] at only
    exact ⟨lines, own, only⟩
  refine ⟨given, fun widths colour shown counts report member made => ?_⟩
  obtain ⟨lines, own, only⟩ := given shown
  rw [← renderLine_average colour]
  exact infix_consoleReport member own (mem_of_averages (only ▸ List.mem_cons_self)) made

/-! ## Optimality -/

/-- **Equal chunks are optimal.** Some code in the order of its lines is divided, quotients being
exact, into the least number of units that stay within the limit, of equal size but for a smaller
last one. Each unit encloses its own lines, and a report on these units gives their size as the
average. -/
theorem equalChunks_optimal {code : List Line} (filled : code ≠ []) (increasing : Increasing code)
    (limit : Int) :
    let count := ⌈(code.length : ℚ) / (max limit 1 : Int)⌉₊
    let size := ⌈(code.length : ℚ) / count⌉₊
    ∃ units chunks, equalChunks .exact code limit = .ok units ∧ chunks.flatten = code ∧
      List.Forall₂ (fun chunk unit => unit.Encloses code chunk) chunks units ∧
      units.length = count ∧
      (∀ parts : List (List Line), parts.flatten.Perm code →
        (∀ part ∈ parts, (part.length : Int) ≤ max limit 1) → count ≤ parts.length) ∧
      Even size chunks ∧ 0 < size ∧ (size : Int) ≤ max limit 1 ∧
      ∀ counted : FileCount, counted.exceeds = true → counted.suggestions = units →
        counted.breakdown.effective = code.length →
        (∀ shown, ∃ lines, counted.reportLines .exact shown = .ok lines ∧
          averages lines = [(count, (size : Int))]) ∧
        ∀ widths colour shown counts report, counted ∈ counts →
          consoleReport widths .exact colour shown counts = .ok report →
          averageLine count size ++ ['\n'] <:+: report := by
  intro count size
  have positive : 0 < (max limit 1).toNat := by omega
  have bound : ((max limit 1).toNat : Int) = max limit 1 := Int.toNat_of_nonneg (by omega)
  have linesPositive := List.length_pos_iff.mpr filled
  have counted : count = ⌈(code.length : ℚ) / (max limit 1).toNat⌉₊ := by
    rw [← Int.cast_natCast (max limit 1).toNat, bound]
  have countPositive : 0 < count := counted ▸ ceil_div_pos linesPositive positive
  have sizePositive : 0 < size := ceil_div_pos linesPositive countPositive
  have within : size ≤ (max limit 1).toNat :=
    ceil_div_le_of_le_mul countPositive (counted ▸ le_ceil_div_mul positive)
  have sized : chunkSize .exact code.length limit = .ok size := by
    rw [chunkSize_exact linesPositive, toNat_ceilExact, toNat_ceilExact, ← counted]
  have whole := flatten_chunksOf sizePositive code
  have even : Even size (chunksOf size code) := even_chunksOf sizePositive filled
  have number : (chunksOf size code).length = count := by
    have quotient := eq_ceil_div sizePositive even.lt_length_flatten even.length_flatten_le
    rw [whole] at quotient
    exact quotient.trans (ceil_div_ceil_div linesPositive positive counted rfl)
  have ordered : Increasing ([] ++ (chunksOf size code).flatten) := whole.symm ▸ increasing
  have enclosed := encloses_chunkUnits (fun _ => ne_nil_of_mem_chunksOf) ordered 0
  rw [List.nil_append, whole] at enclosed
  refine ⟨chunkUnits 0 (chunksOf size code), chunksOf size code, ?_, whole, enclosed,
    enclosed.length_eq.symm.trans number, fun parts same limited => ?_, even, sizePositive,
    by omega, fun file beyond split effective => ?_⟩
  · rw [equalChunks, if_neg filled, sized]
    rfl
  · rw [counted]
    exact ceil_div_le_length positive same fun part member => by
      have small := limited part member
      omega
  · have units : file.suggestions.length = count := by
      rw [split, ← enclosed.length_eq, number]
    have average : ceilExact file.breakdown.effective count = size := by
      have natural := ceilExact_pos (Int.natCast_pos.mpr linesPositive) countPositive
      have rounded : (ceilExact code.length count).toNat = size := toNat_ceilExact _ _
      rw [effective]
      omega
    exact average_reported beyond units countPositive average

/-- Seven lines of code with gaps between them, at most three to a unit. -/
theorem equalChunks_optimal_gaps :
    let code : List Line := [1, 2, 4, 5, 7, 8, 10].map (⟨·, ['x'], .code⟩)
    code ≠ [] ∧ Increasing code ∧ ∃ units chunks, equalChunks .exact code 3 = .ok units ∧
      chunks.flatten = code ∧ units.length = 3 ∧ Even 3 chunks ∧
      ∀ parts : List (List Line), parts.flatten.Perm code →
        (∀ part ∈ parts, (part.length : Int) ≤ 3) → 3 ≤ parts.length := by
  intro code
  have filled : code ≠ [] := List.cons_ne_nil _ _
  have increasing : Increasing code := by
    unfold Increasing
    decide
  obtain ⟨units, chunks, made, whole, _, number, least, even, _⟩ :=
    equalChunks_optimal filled increasing 3
  have limit : ((max 3 1 : Int) : ℚ) = (3 : Nat) := by norm_num
  have three : 3 = ⌈(code.length : ℚ) / (3 : Nat)⌉₊ :=
    eq_ceil_div (by decide) (by decide) (by decide)
  rw [limit, ← three] at number least even
  rw [← three] at even
  exact ⟨filled, increasing, units, chunks, made, whole, number, even, least⟩

end ReviewGate.Budget
