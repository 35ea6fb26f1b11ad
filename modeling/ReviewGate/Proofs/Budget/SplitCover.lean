import ReviewGate.Proofs.Budget.Cover
import ReviewGate.Proofs.Number.Quotient

/-!
# A suggested split is an exact cover

A split is suggested in one of two ways. With at most one boundary the code
lines are cut into chunks; with more, each boundary opens a unit that runs to
the line in front of the next. Either way the units cover the code lines
exactly and are numbered without a gap (`suggestSplit_exactCover`).

Chunks are an exact cover because the exact quotients give them a positive
size. For boundaries the argument is on the spans between the starts of units:
the spans of an increasing row of starts follow each other without a gap up to
the last line, and each of them holds a line of code, since a boundary is one
and a unit in front of the first boundary is only opened when code stands
there. So no span is dropped, and the starts of the units are the boundaries
and, where code precedes them, line one.
-/

set_option autoImplicit false

namespace ReviewGate.Budget

open Source

/-! ## Equal chunks -/

/-- With exact quotients, the size of chunks is the number of lines over their number. -/
theorem chunkSize_exact {total : Nat} (positive : 0 < total) (limit : Int) :
    chunkSize .exact total limit =
      .ok (ceilExact total (ceilExact total (max limit 1).toNat).toNat).toNat := by
  have limitPositive : 0 < (max limit 1).toNat := by omega
  have count := ceilExact_pos (Int.natCast_pos.mpr positive) limitPositive
  have countPositive : 0 < (ceilExact total (max limit 1).toNat).toNat := by omega
  rw [chunkSize, chunkCount, ceil_exact limitPositive]
  change (do return (← Quotients.exact.ceil total _).toNat) = _
  rw [ceil_exact countPositive]
  rfl

/-- With exact quotients there is always a size for the chunks of some code. -/
theorem exists_chunkSize {total : Nat} (positive : 0 < total) (limit : Int) :
    ∃ size, chunkSize .exact total limit = .ok size ∧ 0 < size := by
  have limitPositive : 0 < (max limit 1).toNat := by omega
  have count := ceilExact_pos (Int.natCast_pos.mpr positive) limitPositive
  have countPositive : 0 < (ceilExact total (max limit 1).toNat).toNat := by omega
  have size := ceilExact_pos (Int.natCast_pos.mpr positive) countPositive
  exact ⟨_, chunkSize_exact positive limit, by omega⟩

/-- **Equal chunks of increasing lines cover them exactly.** -/
theorem equalChunks_cover {code : List Line} (increasing : Increasing code) (limit : Int) :
    ∃ units, equalChunks .exact code limit = .ok units ∧ ExactCover code units ∧
      Numbered "extracted-unit-".toList units := by
  by_cases empty : code = []
  · subst empty
    exact ⟨[], rfl, ExactCover.of_held .nil (by simp) (by simp) (by simp), rfl⟩
  · obtain ⟨size, sized, positive⟩ := exists_chunkSize (List.length_pos_iff.mpr empty) limit
    have whole := flatten_chunksOf positive code
    have filled : ∀ chunk ∈ chunksOf size code, chunk ≠ [] := fun _ => ne_nil_of_mem_chunksOf
    have named := name_chunkUnits filled 0
    refine ⟨chunkUnits 0 (chunksOf size code), ?_, ?_, ?_⟩
    · rw [equalChunks, if_neg empty, sized]
      rfl
    · have cover := exactCover_chunkUnits (whole.symm ▸ increasing) filled 0
      rwa [whole] at cover
    · have same := congrArg List.length named
      rw [List.length_map, List.length_map, List.length_range'] at same
      rw [Numbered, same, named, List.range_eq_range']

/-! ## Spans between starts -/

section Spans

variable (last : Int)

theorem fst_spansFrom (starts : List Int) : (spansFrom last starts).map Prod.fst = starts := by
  fun_induction spansFrom last starts with
  | case1 => rfl
  | case2 start => rfl
  | case3 start next more ih => rw [List.map_cons, ih]

/-- Each span ends in front of the next one. -/
theorem isChain_spansFrom (starts : List Int) :
    (spansFrom last starts).IsChain fun earlier later => later.1 = earlier.2 + 1 := by
  fun_induction spansFrom last starts with
  | case1 => exact .nil
  | case2 start => exact .singleton _
  | case3 start next more ih =>
      refine ih.cons fun later member => ?_
      have head : ((spansFrom last (next :: more)).head?).map Prod.fst = some next := by
        rw [← List.head?_map, fst_spansFrom, List.head?_cons]
      rw [Option.mem_def.mp member, Option.map_some, Option.some.injEq] at head
      rw [head]
      omega

theorem getLast?_spansFrom {starts : List Int} (filled : starts ≠ []) :
    (spansFrom last starts).getLast?.map Prod.snd = some last := by
  fun_induction spansFrom last starts with
  | case1 => exact absurd rfl filled
  | case2 start => rfl
  | case3 start next more ih =>
      have rest := ih (List.cons_ne_nil next more)
      cases spans : spansFrom last (next :: more) with
      | nil => rw [spans] at rest; cases rest
      | cons span others => rwa [spans] at rest

variable {last}

/-- A span of increasing starts does not end before it begins. -/
theorem upright_spansFrom {starts : List Int} (ascending : starts.Pairwise (· < ·))
    (bounded : ∀ start ∈ starts, start ≤ last) {span : Int × Int}
    (member : span ∈ spansFrom last starts) : span.1 ≤ span.2 := by
  fun_induction spansFrom last starts with
  | case1 => cases member
  | case2 start =>
      cases List.mem_singleton.mp member
      exact bounded start List.mem_cons_self
  | case3 start next more ih =>
      obtain ⟨below, rest⟩ := List.pairwise_cons.mp ascending
      rcases List.mem_cons.mp member with rfl | later
      · exact Int.le_sub_one_of_lt (below next List.mem_cons_self)
      · exact ih rest (fun other inside => bounded other (List.mem_cons_of_mem start inside)) later

/-- Every number from the first start up to the last line lies within a span. -/
theorem exists_span {first : Int} {starts : List Int} {number : Int} (lower : first ≤ number)
    (upper : number ≤ last) :
    ∃ span ∈ spansFrom last (first :: starts), span.1 ≤ number ∧ number ≤ span.2 := by
  induction starts generalizing first with
  | nil => exact ⟨_, List.mem_cons_self, lower, upper⟩
  | cons next more ih =>
      by_cases before : number < next
      · exact ⟨_, List.mem_cons_self, lower, Int.le_sub_one_of_lt before⟩
      · obtain ⟨span, member, inside⟩ := ih (Int.not_lt.mp before)
        exact ⟨span, List.mem_cons_of_mem _ member, inside⟩

/-- Spans of increasing starts are in order. -/
theorem ordered_spansFrom {starts : List Int} (ascending : starts.Pairwise (· < ·)) :
    (spansFrom last starts).Pairwise fun earlier later => earlier.2 < later.1 := by
  fun_induction spansFrom last starts with
  | case1 => exact .nil
  | case2 start => exact List.pairwise_singleton _ _
  | case3 start next more ih =>
      obtain ⟨_, rest⟩ := List.pairwise_cons.mp ascending
      refine List.pairwise_cons.mpr ⟨fun later member => ?_, ih rest⟩
      have started : later.1 ∈ next :: more := by
        rw [← fst_spansFrom last (next :: more)]
        exact List.mem_map_of_mem member
      rcases List.mem_cons.mp started with same | further
      · omega
      · have above := (List.pairwise_cons.mp rest).1 later.1 further
        omega

end Spans

/-! ## The units of spans -/

/-- The units of a row of spans over some code. -/
def spanUnits (code : List Line) (spans : List (Int × Int)) : List Suggestion :=
  spans.zipIdx.map fun (span, index) =>
    ⟨unitName "unit-".toList index, span.1, span.2, countWithin span code⟩

section SpanUnits

variable (code : List Line) (spans : List (Int × Int))

theorem first_spanUnits :
    (spanUnits code spans).map Suggestion.first = spans.map Prod.fst := by
  have starts := congrArg (List.map Prod.fst) (List.zipIdx_map_fst 0 spans)
  rw [List.map_map] at starts
  rw [spanUnits, List.map_map]
  exact starts

theorem last_spanUnits :
    (spanUnits code spans).map Suggestion.last = spans.map Prod.snd := by
  have ends := congrArg (List.map Prod.snd) (List.zipIdx_map_fst 0 spans)
  rw [List.map_map] at ends
  rw [spanUnits, List.map_map]
  exact ends

theorem numbered_spanUnits : Numbered "unit-".toList (spanUnits code spans) := by
  have length : (spanUnits code spans).length = spans.length := by
    rw [spanUnits, List.length_map, List.length_zipIdx]
  rw [Numbered, length, List.range_eq_range', ← List.zipIdx_map_snd 0 spans, List.map_map,
    spanUnits, List.map_map]
  rfl

/-- A relation between neighbouring spans holds between their units. -/
theorem isChain_spanUnits
    (chain : spans.IsChain fun earlier later => later.1 = earlier.2 + 1) :
    (spanUnits code spans).IsChain fun earlier later => later.first = earlier.last + 1 := by
  rw [← List.zipIdx_map_fst 0 spans, List.isChain_map] at chain
  exact (List.isChain_map _).mpr chain

variable {code spans}

/-- **Spans in order that hold all code, and some each, make an exact cover.** -/
theorem exactCover_spanUnits (ordered : spans.Pairwise fun earlier later => earlier.2 < later.1)
    (held : ∀ line ∈ code, ∃ span ∈ spans, span.1 ≤ line.number ∧ line.number ≤ span.2)
    (occupied : ∀ span ∈ spans, countWithin span code ≠ 0) :
    ExactCover code (spanUnits code spans) := by
  refine ExactCover.of_held ?_ ?_ ?_ ?_
  · rw [← List.zipIdx_map_fst 0 spans] at ordered
    exact List.pairwise_map.mpr (List.pairwise_map.mp ordered)
  · intro line member
    obtain ⟨span, spanMember, inside⟩ := held line member
    rw [← List.zipIdx_map_fst 0 spans] at spanMember
    obtain ⟨placed, placedMember, rfl⟩ := List.mem_map.mp spanMember
    exact ⟨_, List.mem_map_of_mem placedMember, Suggestion.holds_iff.mpr inside⟩
  · intro unit member
    obtain ⟨placed, _, rfl⟩ := List.mem_map.mp member
    rfl
  · intro unit member
    obtain ⟨placed, placedMember, rfl⟩ := List.mem_map.mp member
    have some_ := occupied placed.1 (List.fst_mem_of_mem_zipIdx placedMember)
    exact Int.natCast_pos.mpr (Nat.pos_of_ne_zero some_)

end SpanUnits

/-! ## Units at boundaries -/

/-- Some line of code stands in front of all boundaries. -/
def CodePrecedes (lines : List Line) : Prop :=
  ∃ line ∈ codeLines lines, ∀ start ∈ boundaryNumbers lines, line.number < start

/-- Units that follow each other without a gap up to the last line and begin
at the boundaries, behind a unit from line one on exactly when code precedes
them. -/
structure FollowsBoundaries (lines : List Line) (last : Int) (units : List Suggestion) :
    Prop where
  contiguous : units.IsChain fun earlier later => later.first = earlier.last + 1
  toTheEnd : units.getLast?.map Suggestion.last = some last
  leading : CodePrecedes lines → units.map Suggestion.first = 1 :: boundaryNumbers lines
  bare : ¬ CodePrecedes lines → units.map Suggestion.first = boundaryNumbers lines

/-- Starts in order from which every code line is reached and at each of which
a span with some code begins. -/
structure Opens (code : List Line) (last : Int) (starts : List Int) : Prop where
  ascending : starts.Pairwise (· < ·)
  reaches : ∀ line ∈ code, ∃ first more, starts = first :: more ∧ first ≤ line.number
  occupied : ∀ span ∈ spansFrom last starts,
    ∃ line ∈ code, span.1 ≤ line.number ∧ line.number ≤ span.2

theorem Opens.cover {code : List Line} {last : Int} {starts : List Int}
    (opens : Opens code last starts) (upTo : ∀ line ∈ code, line.number ≤ last) :
    ExactCover code (spanUnits code (spansFrom last starts)) := by
  refine exactCover_spanUnits (ordered_spansFrom opens.ascending) ?_ ?_
  · intro line member
    obtain ⟨first, more, rfl, lower⟩ := opens.reaches line member
    exact exists_span lower (upTo line member)
  · intro span member
    obtain ⟨line, lineMember, inside⟩ := opens.occupied span member
    exact Nat.ne_of_gt (List.countP_pos_iff.mpr ⟨line, lineMember, by simpa using inside⟩)

section Boundaries

variable {lines : List Line}

/-- At each boundary stands a line of code. -/
theorem exists_code_of_boundary {start : Int} (member : start ∈ boundaryNumbers lines) :
    ∃ line ∈ codeLines lines, line.number = start := by
  obtain ⟨line, found, rfl⟩ := List.mem_map.mp member
  obtain ⟨inside, boundary⟩ := List.mem_filter.mp found
  exact ⟨line, mem_codeLines.mpr ⟨inside, isCode_of_isBoundary boundary⟩, rfl⟩

theorem ascending_boundaryNumbers (increasing : Increasing lines) :
    (boundaryNumbers lines).Pairwise (· < ·) :=
  List.pairwise_map.mpr (List.Pairwise.filter _ increasing)

/-- Spans that begin at lines of code hold some code. -/
theorem occupied_of_lines {code : List Line} {last : Int} {starts : List Int}
    (ascending : starts.Pairwise (· < ·)) (upTo : ∀ line ∈ code, line.number ≤ last)
    (placed : ∀ start ∈ starts, ∃ line ∈ code, line.number = start) :
    ∀ span ∈ spansFrom last starts, ∃ line ∈ code, span.1 ≤ line.number ∧ line.number ≤ span.2 := by
  intro span member
  have started : span.1 ∈ starts := by
    rw [← fst_spansFrom last starts]
    exact List.mem_map_of_mem member
  have bounded : ∀ start ∈ starts, start ≤ last := fun start inside => by
    obtain ⟨line, lineMember, rfl⟩ := placed start inside
    exact upTo line lineMember
  obtain ⟨line, lineMember, same⟩ := placed span.1 started
  have upright := upright_spansFrom ascending bounded member
  exact ⟨line, lineMember, by omega, by omega⟩

/-- Code precedes the boundaries when its first line does. -/
theorem codePrecedes_iff (increasing : Increasing lines) {first : Line} {others : List Line}
    (coded : codeLines lines = first :: others) {start : Int} {more : List Int}
    (bounded : boundaryNumbers lines = start :: more) :
    CodePrecedes lines ↔ first.number < start := by
  have ascending := ascending_boundaryNumbers increasing
  have filled : codeLines lines ≠ [] := coded ▸ List.cons_ne_nil first others
  have head : (codeLines lines).head filled = first := by simp only [coded, List.head_cons]
  rw [bounded] at ascending
  constructor
  · rintro ⟨line, member, before⟩
    have least := increasing.code.head_le filled member
    have below := before start (bounded ▸ List.mem_cons_self)
    rw [head] at least
    omega
  · intro below
    refine ⟨first, coded ▸ List.mem_cons_self, fun other member => ?_⟩
    rw [bounded] at member
    rcases List.mem_cons.mp member with rfl | later
    · exact below
    · have above := (List.pairwise_cons.mp ascending).1 other later
      omega

theorem unitStarts_eq {first : Line} {others : List Line}
    (coded : codeLines lines = first :: others)
    (start : Int) (more : List Int) :
    unitStarts lines (start :: more) =
      if first.number < start then 1 :: start :: more else start :: more := by
  simp only [unitStarts, coded]

variable {last : Int}

/-- **The starts of the units open spans that hold all code.** -/
theorem opens_unitStarts (increasing : Increasing lines) (fromOne : ∀ line ∈ lines, 1 ≤ line.number)
    (upTo : ∀ line ∈ lines, line.number ≤ last) {first : Line} {others : List Line}
    (coded : codeLines lines = first :: others) {start : Int} {more : List Int}
    (bounded : boundaryNumbers lines = start :: more) :
    Opens (codeLines lines) last (unitStarts lines (start :: more)) := by
  have ascending := ascending_boundaryNumbers increasing
  have placed : ∀ other ∈ boundaryNumbers lines, ∃ line ∈ codeLines lines, line.number = other :=
    fun _ => exists_code_of_boundary
  have inside : ∀ line ∈ codeLines lines, line ∈ lines := fun _ member =>
    (mem_codeLines.mp member).1
  have upToCode : ∀ line ∈ codeLines lines, line.number ≤ last := fun line member =>
    upTo line (inside line member)
  have firstMember : first ∈ codeLines lines := coded ▸ List.mem_cons_self
  have spans := occupied_of_lines ascending upToCode placed
  rw [bounded] at ascending spans
  rw [unitStarts_eq coded]
  split
  next before =>
    have one := fromOne first (inside first firstMember)
    refine ⟨List.pairwise_cons.mpr ⟨fun other member => ?_, ascending⟩,
      fun line member => ⟨1, start :: more, rfl, fromOne line (inside line member)⟩, ?_⟩
    · rcases List.mem_cons.mp member with rfl | later
      · omega
      · have above := (List.pairwise_cons.mp ascending).1 other later
        omega
    · intro span member
      rcases List.mem_cons.mp member with rfl | later
      · exact ⟨first, firstMember, one, Int.le_sub_one_of_lt before⟩
      · exact spans span later
  next behind =>
    refine ⟨ascending, fun line member => ⟨start, more, rfl, ?_⟩, spans⟩
    have filled : codeLines lines ≠ [] := coded ▸ List.cons_ne_nil first others
    have least := increasing.code.head_le filled member
    have head : (codeLines lines).head filled = first := by simp only [coded, List.head_cons]
    rw [head] at least
    omega

/-- Where every span holds some code, none is dropped. -/
theorem boundaryUnits_eq (ends : lines.getLast?.map Line.number = some last)
    {boundaries : List Int} (opens : Opens (codeLines lines) last (unitStarts lines boundaries)) :
    boundaryUnits lines boundaries =
      spanUnits (codeLines lines) (spansFrom last (unitStarts lines boundaries)) := by
  have kept : (spansFrom last (unitStarts lines boundaries)).filter
      (countWithin · (codeLines lines) != 0) = spansFrom last (unitStarts lines boundaries) := by
    refine List.filter_eq_self.mpr fun span member => ?_
    obtain ⟨line, lineMember, within⟩ := opens.occupied span member
    have occupied : 0 < countWithin span (codeLines lines) :=
      List.countP_pos_iff.mpr ⟨line, lineMember, by simpa using within⟩
    exact bne_iff_ne.mpr (Nat.ne_of_gt occupied)
  simp only [boundaryUnits, ends, Option.getD_some, kept]
  rfl

/-- **Units at boundaries cover the code exactly and drop no boundary.** -/
theorem boundaryUnits_cover (increasing : Increasing lines)
    (fromOne : ∀ line ∈ lines, 1 ≤ line.number) (upTo : ∀ line ∈ lines, line.number ≤ last)
    (ends : lines.getLast?.map Line.number = some last) (filled : boundaryNumbers lines ≠ []) :
    ExactCover (codeLines lines) (boundaryUnits lines (boundaryNumbers lines)) ∧
      Numbered "unit-".toList (boundaryUnits lines (boundaryNumbers lines)) ∧
      FollowsBoundaries lines last (boundaryUnits lines (boundaryNumbers lines)) := by
  obtain ⟨start, more, bounded⟩ := List.exists_cons_of_ne_nil filled
  obtain ⟨line, lineMember, _⟩ := exists_code_of_boundary (bounded ▸ List.mem_cons_self)
  obtain ⟨first, others, coded⟩ := List.exists_cons_of_ne_nil (List.ne_nil_of_mem lineMember)
  have opens := opens_unitStarts increasing fromOne upTo coded bounded
  have precedes := codePrecedes_iff increasing coded bounded
  have units := boundaryUnits_eq ends opens
  have begun := first_spanUnits (codeLines lines)
    (spansFrom last (unitStarts lines (start :: more)))
  rw [fst_spansFrom] at begun
  have opened : unitStarts lines (start :: more) ≠ [] := by
    obtain ⟨one, rest, same, _⟩ := opens.reaches line lineMember
    exact same ▸ List.cons_ne_nil one rest
  rw [bounded, units]
  refine ⟨opens.cover fun line member => upTo line (mem_codeLines.mp member).1,
    numbered_spanUnits _ _, isChain_spanUnits _ _ (isChain_spansFrom last _), ?_, ?_, ?_⟩
  · rw [← List.getLast?_map, last_spanUnits, List.getLast?_map]
    exact getLast?_spansFrom last opened
  · intro before
    rw [bounded, begun, unitStarts_eq coded, if_pos (precedes.mp before)]
  · intro behind
    rw [bounded, begun, unitStarts_eq coded, if_neg (mt precedes.mpr behind)]

end Boundaries

/-! ## Suggested splits -/

/-- **A suggested split is an exact cover.** For every text in every language
and every limit, quotients being exact, a split exists: its units hold each
code line exactly once and tell how many they hold, and they are numbered
without a gap. With two or more boundaries the units also follow each other up
to the last line of the text, one from each boundary on and one more from line
one on exactly when code precedes the boundaries. -/
theorem suggestSplit_exactCover (language : Language) (text : Text) (limit : Int) :
    ∃ units, suggestSplit .exact (classify language text).lines limit = .ok units ∧
      ExactCover (codeLines (classify language text).lines) units ∧
      ((boundaryNumbers (classify language text).lines).length ≤ 1 →
        Numbered "extracted-unit-".toList units) ∧
      (2 ≤ (boundaryNumbers (classify language text).lines).length →
        Numbered "unit-".toList units ∧
          FollowsBoundaries (classify language text).lines (Text.lines text).length units) := by
  have increasing := increasing_classify language text
  by_cases few : (boundaryNumbers (classify language text).lines).length ≤ 1
  · obtain ⟨units, made, cover, numbered⟩ := equalChunks_cover increasing.code limit
    refine ⟨units, ?_, cover, fun _ => numbered, fun many => absurd few (by omega)⟩
    rw [suggestSplit, if_pos few, made]
  · have filled : boundaryNumbers (classify language text).lines ≠ [] := by
      intro empty
      exact few (by rw [empty]; exact Nat.zero_le 1)
    obtain ⟨cover, numbered, follows⟩ := boundaryUnits_cover increasing
      (fun line member => (number_mem_classify language text member).1)
      (fun line member => (number_mem_classify language text member).2)
      (getLast?_number_classify language text) filled
    exact ⟨_, by rw [suggestSplit, if_neg few], cover, fun few' => absurd few' few,
      fun _ => ⟨numbered, follows⟩⟩

end ReviewGate.Budget
