import Mathlib.Data.Char
import Mathlib.Data.List.Sort
import ReviewGate.Files.Discovery

/-!
# What a directory lists

The names in a directory are those of the entries directly below it (`mem_namesIn_iff`), each of
them once. Sorted they ascend strictly (`pairwise_sortedNames`), in the lexicographic order of
their characters. The order in which the entries of a tree stand is therefore lost: trees with the
same entries have the same entry everywhere and list the same names.
-/

set_option autoImplicit false

namespace ReviewGate

/-- The order of texts is the lexicographic order of their characters. -/
theorem Text.lt_iff_precedes {left right : Text} :
    left < right ↔ precedes left right = true ∧ left ≠ right := by
  induction left generalizing right with
  | nil => cases right <;> simp [precedes]
  | cons c left ih =>
      cases right with
      | nil => simp [precedes]
      | cons d right =>
          have codes : c < d ↔ c.toNat < d.toNat := Iff.rfl
          rw [List.cons_lt_cons_iff, ih, codes]
          simp only [precedes, Bool.or_eq_true, decide_eq_true_eq, Bool.and_eq_true, beq_iff_eq,
            ne_eq, List.cons.injEq, not_and]
          constructor
          · rintro (less | ⟨rfl, before, apart⟩)
            · exact ⟨.inl less, fun same => absurd less (same ▸ Nat.lt_irrefl _)⟩
            · exact ⟨.inr ⟨rfl, before⟩, fun _ => apart⟩
          · rintro ⟨less | ⟨same, before⟩, apart⟩
            · exact .inl less
            · exact .inr ⟨same, before, apart same⟩

namespace Files.Tree

variable {tree other : Tree} {location : Location} {name : Text} {entry : Entry}

theorem entry?_eq_some_iff :
    tree.entry? location = some entry ↔ (location, entry) ∈ tree.entries := by
  obtain ⟨entries, distinct⟩ := tree
  show entries.lookup location = some entry ↔ (location, entry) ∈ entries
  induction entries with
  | nil => simp
  | cons head more ih =>
      obtain ⟨place, stored⟩ := head
      rw [List.map_cons, List.nodup_cons] at distinct
      have ih := ih distinct.2
      rw [List.lookup_cons]
      by_cases same : location = place
      · subst same
        have absent : (location, entry) ∉ more := fun member =>
          distinct.1 (List.mem_map.mpr ⟨_, member, rfl⟩)
        simp [absent, eq_comm]
      · have differs : (location == place) = false := beq_eq_false_iff_ne.mpr same
        simp [differs, same, ih]

/-- The name that a location adds to that of its directory. -/
theorem lastName_eq_some_iff {place : Location} :
    (match place.getLast? with
      | some last => if place.dropLast = location then some last else none
      | none => none) = some name ↔ place = location ++ [name] := by
  rcases place.eq_nil_or_concat' with rfl | ⟨above, last, rfl⟩
  · simp
  · rw [List.getLast?_concat, List.dropLast_concat]
    by_cases same : above = location
    · simp [same]
    · simp [same]

theorem mem_namesIn_iff :
    name ∈ tree.namesIn location ↔ ∃ entry, tree.entry? (location ++ [name]) = some entry := by
  simp only [namesIn, List.mem_filterMap, entry?_eq_some_iff]
  constructor
  · rintro ⟨⟨place, entry⟩, member, listed⟩
    exact ⟨entry, lastName_eq_some_iff.mp listed ▸ member⟩
  · rintro ⟨entry, member⟩
    exact ⟨_, member, lastName_eq_some_iff.mpr rfl⟩

/-- No name is listed twice. -/
theorem nodup_namesIn : (tree.namesIn location).Nodup := by
  have listed : tree.namesIn location =
      (tree.entries.map Prod.fst).filterMap fun place => match place.getLast? with
        | some last => if place.dropLast = location then some last else none
        | none => none := by
    rw [List.filterMap_map]
    rfl
  rw [listed]
  refine tree.distinct.filterMap fun place place' name left right => ?_
  rw [lastName_eq_some_iff.mp left, lastName_eq_some_iff.mp right]

theorem mem_sortedNames_iff :
    name ∈ tree.sortedNames location ↔ ∃ entry, tree.entry? (location ++ [name]) = some entry := by
  rw [sortedNames, List.mem_mergeSort, mem_namesIn_iff]

theorem pairwise_sortedNames : (tree.sortedNames location).Pairwise (· < ·) := by
  have sorted : (tree.sortedNames location).Pairwise fun left right => Text.precedes left right :=
    List.pairwise_mergeSort Text.precedes_trans Text.precedes_total _
  have distinct : (tree.sortedNames location).Nodup :=
    (List.mergeSort_perm _ _).nodup_iff.mpr nodup_namesIn
  exact sorted.imp₂ (fun _ _ before apart => Text.lt_iff_precedes.mpr ⟨before, apart⟩) distinct

theorem le_foldl_length (entries : List (Location × Entry)) (most : Nat) :
    most ≤ entries.foldl (fun most entry => max most entry.1.length) most ∧
      ∀ entry ∈ entries,
        entry.1.length ≤ entries.foldl (fun most entry => max most entry.1.length) most := by
  induction entries generalizing most with
  | nil => simp
  | cons head more ih =>
      obtain ⟨least, below⟩ := ih (max most head.1.length)
      refine ⟨(le_max_left _ _).trans least, List.forall_mem_cons.mpr ⟨?_, below⟩⟩
      exact (le_max_right _ _).trans least

theorem length_le_depth (there : tree.entry? location = some entry) :
    location.length ≤ tree.depth :=
  (le_foldl_length tree.entries 0).2 _ (entry?_eq_some_iff.mp there)

/-! ## The order of the entries -/

section Reordered

variable (same : other.entries.Perm tree.entries)

include same

theorem entry?_reordered : other.entry? = tree.entry? := by
  funext location
  exact Option.ext fun entry => by rw [entry?_eq_some_iff, entry?_eq_some_iff, same.mem_iff]

theorem sortedNames_reordered : other.sortedNames = tree.sortedNames := by
  funext location
  refine List.Pairwise.eq_of_mem_iff pairwise_sortedNames pairwise_sortedNames fun name => ?_
  rw [mem_sortedNames_iff, mem_sortedNames_iff, entry?_reordered same]

end Reordered

end Files.Tree

end ReviewGate
