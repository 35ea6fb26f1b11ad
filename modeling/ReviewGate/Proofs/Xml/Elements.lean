import Mathlib.Data.List.Basic
import ReviewGate.Xml.Element

/-!
# The elements of a tree

A tree of elements is looked at from outside by its elements of a name and by the values that an
attribute has in it. Both are known of an element with children from its own tag and from the
children (`Element.elements_block`, `Element.values_block`).
-/

set_option autoImplicit false

namespace ReviewGate.Xml

/-- The name of an element. -/
def Element.name : Element → Text
  | .closed name _ => name
  | .inline name _ _ => name
  | .block name _ _ => name

/-- The attributes of an element. -/
def Element.attributes : Element → List Attribute
  | .closed _ attributes => attributes
  | .inline _ attributes _ => attributes
  | .block _ attributes _ => attributes

mutual

/-- An element with all that are below it, in the order of their tags. -/
def Element.all : Element → List Element
  | .closed name attributes => [.closed name attributes]
  | .inline name attributes text => [.inline name attributes text]
  | .block name attributes children => .block name attributes children :: allOf children

/-- All elements of a row of trees. -/
def allOf : List Element → List Element
  | [] => []
  | child :: more => child.all ++ allOf more

end

/-- The elements of a name in a tree. -/
def Element.elements (name : Text) (root : Element) : List Element :=
  root.all.filter (·.name = name)

/-- The values that an attribute has in a tree. -/
def Element.values (name : Text) (root : Element) : List Text :=
  root.all.flatMap fun element => (element.attributes.filter (·.name = name)).map Attribute.value

theorem allOf_eq_flatMap (children : List Element) :
    allOf children = children.flatMap Element.all := by
  induction children with
  | nil => rfl
  | cons child more ih => rw [allOf, ih, List.flatMap_cons]

/-- Leaves of one name are all there or not at all. -/
theorem elements_leaves {α : Type} {asked name : Text} (make : α → Element)
    (leaf : ∀ x, (make x).all = [make x]) (called : ∀ x, (make x).name = name) (found : List α) :
    (found.map make).flatMap (·.elements asked) =
      if name = asked then found.map make else [] := by
  rw [List.flatMap_map]
  by_cases same : name = asked
  · rw [if_pos same, ← List.flatMap_pure_eq_map]
    refine List.flatMap_congr fun x _ => ?_
    rw [Element.elements, leaf, List.filter_singleton, called, decide_eq_true same]
    rfl
  · rw [if_neg same]
    refine List.flatMap_eq_nil_iff.mpr fun x _ => ?_
    rw [Element.elements, leaf, List.filter_singleton, called, decide_eq_false same]
    rfl

/-- A name that no attribute has has no values. -/
theorem Element.values_eq_nil {asked : Text} {root : Element}
    (unused : ∀ element ∈ root.all, ∀ pair ∈ element.attributes, pair.name ≠ asked) :
    root.values asked = [] := by
  refine List.flatMap_eq_nil_iff.mpr fun element member => ?_
  rw [List.map_eq_nil_iff, List.filter_eq_nil_iff]
  intro pair inside same
  exact unused element member pair inside (of_decide_eq_true same)

section Block

variable (asked name : Text) (attributes : List Attribute) (children : List Element)

theorem Element.elements_block :
    (Element.block name attributes children).elements asked =
      (if name = asked then [.block name attributes children] else []) ++
        children.flatMap (·.elements asked) := by
  have below : (allOf children).filter (·.name = asked) = children.flatMap (·.elements asked) := by
    rw [allOf_eq_flatMap, List.filter_flatMap]
    rfl
  have top : (Element.block name attributes children).name = name := rfl
  rw [elements, all, List.filter_cons, below, top]
  by_cases same : name = asked
  · rw [if_pos (decide_eq_true same), if_pos same, List.singleton_append]
  · rw [if_neg (by simpa using same), if_neg same, List.nil_append]

theorem Element.values_block :
    (Element.block name attributes children).values asked =
      (attributes.filter (·.name = asked)).map Attribute.value ++
        children.flatMap (·.values asked) := by
  simp only [Element.values, Element.all, allOf_eq_flatMap, List.flatMap_cons, Element.attributes,
    List.flatMap_assoc]

end Block

end ReviewGate.Xml
