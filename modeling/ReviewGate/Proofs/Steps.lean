import Mathlib.Data.List.Forall2

/-!
# Steps that may fail

A row of steps stops at the first one that fails. So it succeeds when each of its steps does
(`exists_foldlM`, `exists_mapM`), its failure is the failure of a step (`exists_of_mapM_error`),
and what it gives is what the steps give (`forall₂_of_mapM`, `test_of_mem_filterM`).
-/

set_option autoImplicit false

namespace ReviewGate

variable {σ α β ε : Type}

theorem exists_of_bind_eq_ok {first : Except ε α} {next : α → Except ε β} {result : β}
    (done : first >>= next = .ok result) :
    ∃ value, first = .ok value ∧ next value = .ok result := by
  cases first with
  | error cause => cases done
  | ok value => exact ⟨value, rfl, done⟩

theorem toOption_eq_some_iff {result : Except ε α} {value : α} :
    result.toOption = some value ↔ result = .ok value := by
  cases result <;> simp [Except.toOption]

theorem toOption_eq_none_iff {result : Except ε α} :
    result.toOption = none ↔ ∃ cause, result = .error cause := by
  cases result <;> simp [Except.toOption]

/-! ## Folds -/

section Folds

variable {step : σ → α → Except ε σ} {items : List α} {start last : σ}

theorem exists_foldlM (proceeds : ∀ before item, ∃ after, step before item = .ok after)
    (items : List α) (start : σ) : ∃ last, items.foldlM step start = .ok last := by
  induction items generalizing start with
  | nil => exact ⟨start, rfl⟩
  | cons head rest ih =>
      obtain ⟨next, first⟩ := proceeds start head
      rw [List.foldlM_cons, first]
      exact ih next

/-- What one item establishes and the others leave alone holds at the end when that item comes,
and otherwise it is as it was at the start. -/
theorem established_foldlM {γ : Type} (field : σ → γ) (Holds : γ → Prop) {filler : α}
    (fills : ∀ before after, step before filler = .ok after → Holds (field after))
    (leaves : ∀ before item after, item ≠ filler → step before item = .ok after →
      field after = field before)
    (done : items.foldlM step start = .ok last) :
    (filler ∈ items → Holds (field last)) ∧ (filler ∉ items → field last = field start) := by
  classical
  induction items generalizing start with
  | nil =>
      cases done
      exact ⟨fun member => (nomatch member), fun _ => rfl⟩
  | cons head rest ih =>
      rw [List.foldlM_cons] at done
      obtain ⟨next, first, done⟩ := exists_of_bind_eq_ok done
      obtain ⟨comes, absent⟩ := ih done
      by_cases later : filler ∈ rest
      · exact ⟨fun _ => comes later, fun none => absurd (List.mem_cons_of_mem head later) none⟩
      · rw [absent later]
        by_cases own : head = filler
        · rw [own] at first
          exact ⟨fun _ => fills start next first, fun none => absurd (by simp [own]) none⟩
        · exact ⟨fun member => absurd (by simpa [Ne.symm own] using member) later,
            fun _ => leaves start head next own first⟩

end Folds

/-! ## Rows of results -/

section Rows

variable {make : α → Except ε β} {items : List α} {results : List β}

theorem exists_mapM (proceeds : ∀ item ∈ items, ∃ result, make item = .ok result) :
    ∃ results, items.mapM make = .ok results := by
  induction items with
  | nil => exact ⟨[], rfl⟩
  | cons head rest ih =>
      obtain ⟨first, made⟩ := proceeds head List.mem_cons_self
      obtain ⟨others, done⟩ :=
        ih fun item member => proceeds item (List.mem_cons_of_mem head member)
      exact ⟨first :: others, by rw [List.mapM_cons, made, done]; rfl⟩

theorem mapM_congr {other : α → Except ε β} (same : ∀ item ∈ items, make item = other item) :
    items.mapM make = items.mapM other := by
  induction items with
  | nil => rfl
  | cons head rest ih =>
      rw [List.mapM_cons, List.mapM_cons, same head List.mem_cons_self,
        ih fun item member => same item (List.mem_cons_of_mem head member)]

theorem exists_of_mapM_error {cause : ε} (failed : items.mapM make = .error cause) :
    ∃ item ∈ items, make item = .error cause := by
  induction items with
  | nil => cases failed
  | cons head rest ih =>
      rw [List.mapM_cons] at failed
      cases made : make head with
      | error other =>
          rw [made] at failed
          cases failed
          exact ⟨head, List.mem_cons_self, made⟩
      | ok first =>
          cases done : rest.mapM make with
          | error other =>
              rw [made, done] at failed
              cases failed
              obtain ⟨item, member, own⟩ := ih done
              exact ⟨item, List.mem_cons_of_mem head member, own⟩
          | ok others => rw [made, done] at failed; cases failed

theorem forall₂_of_mapM (done : items.mapM make = .ok results) :
    List.Forall₂ (fun item result => make item = .ok result) items results := by
  induction items generalizing results with
  | nil => cases done; exact .nil
  | cons head rest ih =>
      rw [List.mapM_cons] at done
      obtain ⟨first, made, done⟩ := exists_of_bind_eq_ok done
      obtain ⟨others, more, done⟩ := exists_of_bind_eq_ok done
      cases done
      exact .cons made (ih more)

/-- Every result is that of an item. -/
theorem exists_of_mem_mapM {result : β} (done : items.mapM make = .ok results)
    (member : result ∈ results) : ∃ item ∈ items, make item = .ok result := by
  have related := forall₂_of_mapM done
  clear done
  induction related with
  | nil => cases member
  | cons own _ ih =>
      cases member with
      | head => exact ⟨_, List.mem_cons_self, own⟩
      | tail _ later =>
          obtain ⟨item, inside, made⟩ := ih later
          exact ⟨item, List.mem_cons_of_mem _ inside, made⟩

/-- Every item has its result. -/
theorem exists_result_of_mem {item : α} (done : items.mapM make = .ok results)
    (member : item ∈ items) : ∃ result ∈ results, make item = .ok result := by
  have related := forall₂_of_mapM done
  clear done
  induction related with
  | nil => cases member
  | cons own _ ih =>
      cases member with
      | head => exact ⟨_, List.mem_cons_self, own⟩
      | tail _ later =>
          obtain ⟨result, inside, made⟩ := ih later
          exact ⟨result, List.mem_cons_of_mem _ inside, made⟩

/-- Where making cannot fail, what holds between an item and its result holds along the row. -/
theorem forall₂_map {make : α → β} {Holds : α → β → Prop} (holds : ∀ item, Holds item (make item))
    (items : List α) : List.Forall₂ Holds items (items.map make) := by
  rw [List.forall₂_map_right_iff, List.forall₂_same]
  exact fun item _ => holds item

/-- When each item has one of a kind in its group or none, the groups hold as many of the kind as
there are items with one. -/
theorem countP_flatten_of_forall₂ {groups : List (List β)} {Holds : α → List β → Prop}
    {isKind : β → Bool} {hasOne : α → Bool}
    (each : ∀ item group, Holds item group → group.countP isKind = if hasOne item then 1 else 0)
    (related : List.Forall₂ Holds items groups) :
    groups.flatten.countP isKind = items.countP hasOne := by
  induction related with
  | nil => rfl
  | cons own _ ih =>
      rw [List.flatten_cons, List.countP_append, List.countP_cons, ih, each _ _ own, Nat.add_comm]

end Rows

/-! ## Filters -/

section Filters

variable {test : α → Except ε Bool} {items kept : List α} {item : α}

theorem mem_filterAuxM {before : List α} (done : items.filterAuxM test before = .ok kept)
    (member : item ∈ kept) : item ∈ before ∨ test item = .ok true := by
  induction items generalizing before with
  | nil =>
      cases done
      exact .inl member
  | cons head rest ih =>
      rw [List.filterAuxM] at done
      obtain ⟨passes, tested, done⟩ := exists_of_bind_eq_ok done
      rcases ih done with inside | passed
      · cases passes with
        | false => exact .inl inside
        | true =>
            rcases List.mem_cons.mp inside with rfl | inside
            · exact .inr tested
            · exact .inl inside
      · exact .inr passed

/-- What a filter keeps passes its test. -/
theorem test_of_mem_filterM (done : items.filterM test = .ok kept) (member : item ∈ kept) :
    test item = .ok true := by
  rw [List.filterM] at done
  obtain ⟨backwards, filtered, done⟩ := exists_of_bind_eq_ok done
  cases done
  exact (mem_filterAuxM filtered (List.mem_reverse.mp member)).resolve_left List.not_mem_nil

end Filters

end ReviewGate
