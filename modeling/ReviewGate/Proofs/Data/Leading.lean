import ReviewGate.Data.Shown
import ReviewGate.Proofs.Steps

/-!
# What the text of a value depends on

Containers hold values, some of which are containers in their turn, so a value leads to the places
of containers (`Leads`). Its text is made from the containers at these places and from no others
(`shown_congr`): where two graphs have the same containers there, they show the value alike. A set
is shown in the order of a table, which holds nothing but its elements (`mem_of_mem_scattered`).
-/

set_option autoImplicit false

namespace ReviewGate.Data

/-! ## What containers hold -/

/-- The values that a container holds. -/
def Container.values : Container → List Value
  | .list items => items
  | .pairs items => items.flatMap fun (first, second) => [first, second]
  | .mapping members => members.flatMap fun (key, value) => [key, value]
  | .set elements => elements

/-- A value leads to a place when it is the container there, or when it holds a value that leads
to the place. -/
inductive Leads (graph : Graph) : Value → Nat → Prop
  | here (place : Nat) : Leads graph (.container place) place
  | inside {place target : Nat} {container : Container} {value : Value}
      (found : graph.containers[place]? = some container) (held : value ∈ container.values)
      (leads : Leads graph value target) : Leads graph (.container place) target

/-- Two graphs have the same containers wherever a value leads to. -/
def SameFrom (graph other : Graph) (value : Value) : Prop :=
  ∀ place, Leads graph value place → other.containers[place]? = graph.containers[place]?

/-! ## The order of a set -/

theorem mem_of_mem_scatterInto {table : Array (Option Value)} {element : Value × UInt64}
    {value : Value} (member : some value ∈ scatterInto table element) :
    some value ∈ table ∨ value = element.1 := by
  unfold scatterInto at member
  dsimp only at member
  split at member
  · rcases Array.mem_or_eq_of_mem_setIfInBounds member with old | new
    · exact .inl old
    · exact .inr (Option.some.inj new)
  · exact .inl member

theorem mem_of_mem_foldl_scatterInto {elements : List (Value × UInt64)}
    {table : Array (Option Value)} {value : Value}
    (member : some value ∈ elements.foldl scatterInto table) :
    some value ∈ table ∨ value ∈ elements.map Prod.fst := by
  induction elements generalizing table with
  | nil => exact .inl member
  | cons head rest ih =>
      rw [List.map_cons, List.mem_cons]
      rcases ih member with inside | later
      · rcases mem_of_mem_scatterInto inside with old | new
        · exact .inl old
        · exact .inr (.inl new)
      · exact .inr (.inr later)

theorem map_fst_of_mapM {elements : List Value} {known : List (Value × UInt64)}
    (told : elements.mapM (fun element => element.digits?.map fun digits => (element, digits)) =
      some known) : known.map Prod.fst = elements := by
  induction elements generalizing known with
  | nil =>
      cases told
      rfl
  | cons head rest ih =>
      rw [List.mapM_cons] at told
      obtain ⟨first, own, told⟩ := Option.bind_eq_some_iff.mp told
      obtain ⟨others, more, told⟩ := Option.bind_eq_some_iff.mp told
      obtain ⟨digits, -, rfl⟩ := Option.map_eq_some_iff.mp own
      cases told
      rw [List.map_cons, ih more]

/-- Nothing but the elements of a set is put in order. -/
theorem mem_of_mem_scattered {elements : List Value} {value : Value}
    (member : value ∈ scattered elements) : value ∈ elements := by
  unfold scattered at member
  split at member
  · exact member
  · next known told =>
    obtain ⟨_, inside, rfl⟩ := List.mem_filterMap.mp member
    rcases mem_of_mem_foldl_scatterInto (Array.mem_toList_iff.mp inside) with empty | listed
    · simp at empty
    · exact map_fst_of_mapM told ▸ listed

/-! ## Texts -/

section Texts

variable {graph other : Graph}

/-- The text of a container is made from the texts of what it holds. -/
theorem Container.shownWith_congr {left right : Value → Except Unshowable Text}
    (container : Container) (same : ∀ value ∈ container.values, left value = right value) :
    container.shownWith left = container.shownWith right := by
  cases container with
  | list items =>
      have each : ∀ item ∈ items, left item = right item := same
      rw [shownWith, shownWith, mapM_congr each]
  | pairs items =>
      rw [shownWith, shownWith, mapM_congr]
      rintro ⟨first, second⟩ member
      have held : ∀ value ∈ [first, second], left value = right value := fun value own =>
        same value (List.mem_flatMap.mpr ⟨_, member, own⟩)
      simp only [held first (by simp), held second (by simp)]
  | mapping members =>
      rw [shownWith, shownWith, mapM_congr]
      rintro ⟨key, own⟩ member
      have held : ∀ value ∈ [key, own], left value = right value := fun value part =>
        same value (List.mem_flatMap.mpr ⟨_, member, part⟩)
      simp only [held key (by simp), held own (by simp)]
  | set elements =>
      cases elements with
      | nil => rfl
      | cons head rest =>
          rw [shownWith, shownWith, mapM_congr]
          · exact fun value member => same value (mem_of_mem_scattered member)
          · exact nofun
          · exact nofun

theorem shownWithin_congr {value : Value} (same : SameFrom graph other value) (bound : Nat)
    (path : List Nat) :
    shownWithin other.containers bound path value =
      shownWithin graph.containers bound path value := by
  induction bound generalizing path value with
  | zero => rfl
  | succ bound ih =>
      cases value with
      | bool truth => cases truth <;> rfl
      | container place =>
          simp only [shownWithin, Value.shownWith, same place (.here place)]
          cases found : graph.containers[place]? with
          | none => rfl
          | some container =>
              dsimp only
              rw [container.shownWith_congr fun value held =>
                ih (fun target leads => same target (.inside found held leads)) (place :: path)]
      | _ => rfl

/-- **The text of a value depends only on the containers that it leads to.** -/
theorem shown_congr {value : Value} (same : SameFrom graph other value) :
    other.shown value = graph.shown value :=
  shownWithin_congr same maxShownDepth []

theorem container?_congr {value : Value} (same : SameFrom graph other value) :
    other.container? value = graph.container? value := by
  cases value with
  | container place => exact same place (.here place)
  | _ => rfl

end Texts

end ReviewGate.Data
