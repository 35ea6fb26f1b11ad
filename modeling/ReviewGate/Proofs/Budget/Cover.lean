import Mathlib.Algebra.Ring.Int.Defs
import Mathlib.Data.List.Chain
import ReviewGate.Budget.Split
import ReviewGate.Proofs.Source.Numbering

/-!
# Exact covers of the code lines

A suggested split is of use only when no line of code is lost and none is
moved twice. A list of units covers the code lines exactly when the units are
in order and apart from each other, every code line lies within exactly one
of them, and the estimate of each is the number of code lines within it.

It is enough that the units are in order, that each code line lies within
some unit, and that the estimates are right (`ExactCover.of_held`): order
makes the unit of a line unique, and counting the code lines unit by unit then
counts each of them once.

The second half is about chunks. A list cut into pieces of a positive size is
the row of its pieces, none of which is empty, and the units of the pieces of
an increasing row of lines are an exact cover of it (`exactCover_chunkUnits`).
-/

set_option autoImplicit false

namespace ReviewGate.Budget

open Source

/-- Whether the number of a line lies between the ends of a unit. -/
def Suggestion.holds (unit : Suggestion) (number : Int) : Bool :=
  unit.first ≤ number && number ≤ unit.last

theorem Suggestion.holds_iff {unit : Suggestion} {number : Int} :
    unit.holds number = true ↔ unit.first ≤ number ∧ number ≤ unit.last := by
  simp [holds]

/-- Units in order, each behind the end of all before it. -/
def InOrder (units : List Suggestion) : Prop :=
  units.Pairwise fun earlier later => earlier.last < later.first

/-- Units that hold every code line exactly once and tell how many they hold. -/
structure ExactCover (code : List Line) (units : List Suggestion) : Prop where
  upright : ∀ unit ∈ units, unit.first ≤ unit.last
  ordered : InOrder units
  once : ∀ line ∈ code, units.countP (·.holds line.number) = 1
  estimated : ∀ unit ∈ units, unit.estimate = code.countP (unit.holds ·.number)
  positive : ∀ unit ∈ units, 0 < unit.estimate
  complete : (units.map Suggestion.estimate).sum = code.length

/-- Units named by a stem and their numbers, from one on without a gap. -/
def Numbered (stem : Text) (units : List Suggestion) : Prop :=
  units.map Suggestion.name = (List.range units.length).map (unitName stem)

/-! ## From order and coverage to an exact cover -/

/-- Units in order hold no line twice. -/
theorem InOrder.countP_holds_le_one {units : List Suggestion} (ordered : InOrder units)
    (number : Int) : units.countP (·.holds number) ≤ 1 := by
  induction units with
  | nil => exact Nat.zero_le 1
  | cons unit more ih =>
      obtain ⟨ahead, rest⟩ := List.pairwise_cons.mp ordered
      by_cases held : unit.holds number = true
      · have apart : more.countP (·.holds number) = 0 := by
          refine List.countP_eq_zero.mpr fun later member inside => ?_
          have before := ahead later member
          have upper := (Suggestion.holds_iff.mp held).2
          have lower := (Suggestion.holds_iff.mp inside).1
          omega
        rw [List.countP_cons, apart, if_pos held]
      · rw [List.countP_cons, if_neg held, Nat.add_zero]
        exact ih rest

/-- Counting one more line adds one for each unit that holds it. -/
theorem sum_countP_cons (units : List Suggestion) (line : Line) (code : List Line) :
    (units.map fun unit => ((line :: code).countP (unit.holds ·.number) : Int)).sum =
      (units.map fun unit => (code.countP (unit.holds ·.number) : Int)).sum +
        units.countP (·.holds line.number) := by
  induction units with
  | nil => rfl
  | cons unit more ih =>
      simp only [List.map_cons, List.sum_cons, List.countP_cons] at ih ⊢
      omega

/-- Units that hold each line once hold as many lines as there are. -/
theorem sum_countP_holds {units : List Suggestion} {code : List Line}
    (once : ∀ line ∈ code, units.countP (·.holds line.number) = 1) :
    (units.map fun unit => (code.countP (unit.holds ·.number) : Int)).sum = code.length := by
  induction code with
  | nil => simp
  | cons line more ih =>
      rw [sum_countP_cons, once line List.mem_cons_self,
        ih fun other member => once other (List.mem_cons_of_mem line member), List.length_cons]
      rfl

/-- **Units in order that hold every code line cover the code exactly.** -/
theorem ExactCover.of_held {code : List Line} {units : List Suggestion}
    (ordered : InOrder units) (held : ∀ line ∈ code, ∃ unit ∈ units, unit.holds line.number = true)
    (estimated : ∀ unit ∈ units, unit.estimate = code.countP (unit.holds ·.number))
    (positive : ∀ unit ∈ units, 0 < unit.estimate) : ExactCover code units := by
  have once : ∀ line ∈ code, units.countP (·.holds line.number) = 1 := fun line member =>
    Nat.le_antisymm (ordered.countP_holds_le_one line.number)
      (List.one_le_countP_iff.mpr (held line member))
  refine ⟨fun unit member => ?_, ordered, once, estimated, positive, ?_⟩
  · have some_ := positive unit member
    rw [estimated unit member] at some_
    obtain ⟨line, _, inside⟩ := List.countP_pos_iff.mp (Int.natCast_pos.mp some_)
    have ends := Suggestion.holds_iff.mp inside
    omega
  · rw [← sum_countP_holds once, List.map_congr_left estimated]

/-! ## Pieces of a list -/

section Pieces

variable {α : Type}

/-- Cutting a list into pieces loses nothing and moves nothing. -/
theorem flatten_chunksOf {size : Nat} (positive : 0 < size) (items : List α) :
    (chunksOf size items).flatten = items := by
  fun_induction chunksOf size items with
  | case1 items closed =>
      rcases closed with zero | empty
      · exact absurd zero (Nat.ne_of_gt positive)
      · exact empty.symm
  | case2 items _ ih => rw [List.flatten_cons, ih, List.take_append_drop]

/-- No piece of a list is empty. -/
theorem ne_nil_of_mem_chunksOf {size : Nat} {items chunk : List α}
    (member : chunk ∈ chunksOf size items) : chunk ≠ [] := by
  fun_induction chunksOf size items with
  | case1 items _ => cases member
  | case2 items more ih =>
      rcases List.mem_cons.mp member with rfl | later
      · intro empty
        rcases List.take_eq_nil_iff.mp empty with zero | none_
        · exact more (.inl zero)
        · exact more (.inr none_)
      · exact ih later

end Pieces

/-! ## The units of chunks -/

/-- The units of a row of chunks, numbered from an index on. -/
def chunkUnits (start : Nat) (chunks : List (List Line)) : List Suggestion :=
  (chunks.zipIdx start).filterMap fun (chunk, index) => chunkUnit chunk index

theorem chunkUnit_of_ne_nil {chunk : List Line} (filled : chunk ≠ []) (index : Nat) :
    chunkUnit chunk index = some ⟨unitName "extracted-unit-".toList index,
      (chunk.head filled).number, (chunk.getLast filled).number, chunk.length⟩ := by
  simp only [chunkUnit, List.head?_eq_some_head filled, List.getLast?_eq_some_getLast filled]

theorem chunkUnits_cons {chunk : List Line} (filled : chunk ≠ []) (start : Nat)
    (more : List (List Line)) :
    chunkUnits start (chunk :: more) =
      ⟨unitName "extracted-unit-".toList start, (chunk.head filled).number,
        (chunk.getLast filled).number, chunk.length⟩ :: chunkUnits (start + 1) more := by
  simp [chunkUnits, chunkUnit_of_ne_nil filled]

/-- Every chunk of a row that holds no empty one makes a unit, numbered by its
place. -/
theorem name_chunkUnits {chunks : List (List Line)} (filled : ∀ chunk ∈ chunks, chunk ≠ [])
    (start : Nat) :
    (chunkUnits start chunks).map Suggestion.name =
      (List.range' start chunks.length).map (unitName "extracted-unit-".toList) := by
  induction chunks generalizing start with
  | nil => rfl
  | cons chunk more ih =>
      have rest := ih (fun other member => filled other (List.mem_cons_of_mem chunk member))
        (start + 1)
      rw [chunkUnits_cons (filled chunk List.mem_cons_self), List.map_cons, rest,
        List.length_cons, List.range'_succ, List.map_cons]

theorem exists_chunk_of_mem_chunkUnits {start : Nat} {chunks : List (List Line)}
    {unit : Suggestion} (member : unit ∈ chunkUnits start chunks) :
    ∃ chunk ∈ chunks, ∃ index, chunkUnit chunk index = some unit := by
  obtain ⟨⟨chunk, index⟩, placed, made⟩ := List.mem_filterMap.mp member
  exact ⟨chunk, List.fst_mem_of_mem_zipIdx placed, index, made⟩

/-- The unit of a chunk of an increasing row begins and ends at lines of the
chunk, holds all of its lines and counts them. -/
theorem chunkUnit_spec {chunk : List Line} (increasing : Increasing chunk) {index : Nat}
    {unit : Suggestion} (made : chunkUnit chunk index = some unit) :
    (∃ line ∈ chunk, line.number = unit.first) ∧ (∃ line ∈ chunk, line.number = unit.last) ∧
      (∀ line ∈ chunk, unit.holds line.number = true) ∧ unit.estimate = chunk.length := by
  have filled : chunk ≠ [] := by
    rintro rfl
    cases made
  rw [chunkUnit_of_ne_nil filled] at made
  cases made
  refine ⟨⟨_, List.head_mem filled, rfl⟩, ⟨_, List.getLast_mem filled, rfl⟩, ?_, rfl⟩
  intro line member
  exact Suggestion.holds_iff.mpr
    ⟨increasing.head_le filled member, increasing.le_getLast filled member⟩

/-- The unit of a chunk of an increasing row holds no line in front of the chunk
and none behind it. -/
theorem not_holds_chunkUnit {front chunk back : List Line}
    (increasing : Increasing (front ++ (chunk ++ back))) {index : Nat} {unit : Suggestion}
    (made : chunkUnit chunk index = some unit) :
    (∀ line ∈ front, ¬ unit.holds line.number = true) ∧
      ∀ line ∈ back, ¬ unit.holds line.number = true := by
  obtain ⟨_, rest, ahead⟩ := List.pairwise_append.mp increasing
  obtain ⟨inner, _, behind⟩ := List.pairwise_append.mp rest
  obtain ⟨⟨first, firstMember, firstNumber⟩, ⟨last, lastMember, lastNumber⟩, _, _⟩ :=
    chunkUnit_spec inner made
  constructor
  · intro line member inside
    have below := ahead line member first (List.mem_append_left back firstMember)
    have lower := (Suggestion.holds_iff.mp inside).1
    omega
  · intro line member inside
    have above := behind last lastMember line member
    have upper := (Suggestion.holds_iff.mp inside).2
    omega

/-- Among the lines of an increasing row, the unit of a chunk holds those of
the chunk and no others. -/
theorem countP_holds_chunkUnit {front chunk back : List Line}
    (increasing : Increasing (front ++ (chunk ++ back))) {index : Nat} {unit : Suggestion}
    (made : chunkUnit chunk index = some unit) :
    (front ++ (chunk ++ back)).countP (unit.holds ·.number) = chunk.length := by
  have inner : Increasing chunk :=
    (List.pairwise_append.mp (List.pairwise_append.mp increasing).2.1).1
  obtain ⟨inFront, behind⟩ := not_holds_chunkUnit increasing made
  rw [List.countP_append, List.countP_append, List.countP_eq_zero.mpr inFront,
    List.countP_eq_zero.mpr behind, List.countP_eq_length.mpr (chunkUnit_spec inner made).2.2.1]
  omega

/-- The units of the chunks of an increasing row are in order. -/
theorem inOrder_chunkUnits {chunks : List (List Line)} (increasing : Increasing chunks.flatten)
    (start : Nat) : InOrder (chunkUnits start chunks) := by
  obtain ⟨inner, apart⟩ := List.pairwise_flatten.mp increasing
  have placed : (chunks.zipIdx start).Pairwise fun earlier later =>
      ∀ line ∈ earlier.1, ∀ other ∈ later.1, line.number < other.number := by
    rw [← List.zipIdx_map_fst start chunks] at apart
    exact List.pairwise_map.mp apart
  refine List.pairwise_filterMap.mpr ?_
  refine placed.imp_of_mem ?_
  intro earlier later earlierMember laterMember before unit made other madeLater
  obtain ⟨_, ⟨last, lastMember, lastNumber⟩, _⟩ :=
    chunkUnit_spec (inner earlier.1 (List.fst_mem_of_mem_zipIdx earlierMember)) made
  obtain ⟨⟨first, firstMember, firstNumber⟩, _⟩ :=
    chunkUnit_spec (inner later.1 (List.fst_mem_of_mem_zipIdx laterMember)) madeLater
  have below := before last lastMember first firstMember
  omega

/-- **The units of the chunks of an increasing row cover it exactly.** -/
theorem exactCover_chunkUnits {chunks : List (List Line)}
    (increasing : Increasing chunks.flatten) (filled : ∀ chunk ∈ chunks, chunk ≠ [])
    (start : Nat) : ExactCover chunks.flatten (chunkUnits start chunks) := by
  have inner := (List.pairwise_flatten.mp increasing).1
  refine ExactCover.of_held (inOrder_chunkUnits increasing start) ?_ ?_ ?_
  · intro line member
    obtain ⟨chunk, chunkMember, inside⟩ := List.mem_flatten.mp member
    obtain ⟨place, below, same⟩ := List.getElem_of_mem chunkMember
    have made := chunkUnit_of_ne_nil (filled chunk chunkMember) (start + place)
    refine ⟨_, List.mem_filterMap.mpr ⟨(chunk, start + place), ?_, made⟩,
      (chunkUnit_spec (inner chunk chunkMember) made).2.2.1 line inside⟩
    rw [List.mk_add_mem_zipIdx_iff_getElem?]
    exact List.getElem?_eq_some_iff.mpr ⟨below, same⟩
  · intro unit member
    obtain ⟨chunk, chunkMember, index, made⟩ := exists_chunk_of_mem_chunkUnits member
    obtain ⟨front, back, rfl⟩ := List.append_of_mem chunkMember
    rw [List.flatten_append, List.flatten_cons] at increasing ⊢
    rw [countP_holds_chunkUnit increasing made,
      (chunkUnit_spec (inner chunk chunkMember) made).2.2.2]
  · intro unit member
    obtain ⟨chunk, chunkMember, index, made⟩ := exists_chunk_of_mem_chunkUnits member
    rw [(chunkUnit_spec (inner chunk chunkMember) made).2.2.2]
    exact Int.natCast_pos.mpr (List.length_pos_iff.mpr (filled chunk chunkMember))

end ReviewGate.Budget
