import ReviewGate.Text.Basic

/-!
# Classes of characters given by ranges

A class of characters beyond ASCII is data: a sorted list of closed ranges of code points.
Looking a character up stops at the first range that ends at or behind it, which is right
because the ranges are sorted and disjoint.
-/

set_option autoImplicit false

namespace ReviewGate.Text

/-- Whether a code point lies in one of the sorted, closed ranges. -/
def inSortedRanges (code : Nat) : List (Nat × Nat) → Bool
  | [] => false
  | (first, last) :: more => if code ≤ last then first ≤ code else inSortedRanges code more

/-- Whether a character lies in one of the sorted, closed ranges of code points. -/
def inRanges (ranges : List (Nat × Nat)) (c : Char) : Bool :=
  inSortedRanges c.toNat ranges

end ReviewGate.Text
