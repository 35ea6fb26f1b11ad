import ReviewGate.Text.Order

/-!
# Similar texts

Two texts are compared by the blocks that they have in common: the longest one, and then those on
its two sides. The similarity is the share of the characters of both texts that lie in common
blocks. `closest` picks from some names those that are most similar to a word, three at most, as
far as they share three fifths of their characters with it.
-/

set_option autoImplicit false

namespace ReviewGate.Text

/-- The length of the longest common beginning of two texts. -/
def commonStart : Text → Text → Nat
  | c :: left, d :: right => if c = d then commonStart left right + 1 else 0
  | _, _ => 0

/-- A block that two texts have in common: where it starts in each, and its length. -/
structure Block where
  left : Nat
  right : Nat
  length : Nat
  deriving DecidableEq, Repr

/-- The longer of two blocks, the first one when they are equally long. -/
def Block.longer (first second : Block) : Block :=
  if first.length < second.length then second else first

/-- The longest block with which a text begins, of several the first one in the other text. The
numbers are the places at which the two texts stand. -/
def longestAt (left : Nat) (text : Text) (right : Nat) : Text → Block
  | [] => ⟨left, right, 0⟩
  | d :: other =>
    Block.longer ⟨left, right, commonStart text (d :: other)⟩
      (longestAt left text (right + 1) other)

/-- The longest block that a text at a place has in common with another text. Of several it is the
first one in the first text, and then the first one in the second. -/
def longestBlock (left : Nat) (other : Text) : Text → Block
  | [] => ⟨left, 0, 0⟩
  | c :: text =>
    Block.longer (longestAt left (c :: text) 0 other) (longestBlock (left + 1) other text)

/-- The number of characters in common blocks. The bound is on the number of blocks. -/
def commonFrom : Nat → Text → Text → Nat
  | 0, _, _ => 0
  | bound + 1, text, other =>
    let block := longestBlock 0 other text
    if block.length = 0 then 0
    else
      commonFrom bound (text.take block.left) (other.take block.right) + block.length +
        commonFrom bound (text.drop (block.left + block.length))
          (other.drop (block.right + block.length))

/-- The number of characters of a text that lie in blocks that another text has as well. -/
def commonLength (text other : Text) : Nat :=
  commonFrom text.length text other

/-- A name with its similarity to a word: the characters in common blocks, and all of them. -/
structure Likeness where
  name : Text
  shared : Nat
  total : Nat

/-- The likeness of a name to a word. -/
def Likeness.of (word name : Text) : Likeness :=
  ⟨name, 2 * commonLength name word, name.length + word.length⟩

/-- Whether a name is similar to a word. -/
def Likeness.isClose (likeness : Likeness) : Bool :=
  3 * likeness.total ≤ 5 * likeness.shared

/-- The order of similarity, and for equally similar names the reverse order of texts. -/
def Likeness.atLeast (left right : Likeness) : Bool :=
  right.shared * left.total < left.shared * right.total ||
    (right.shared * left.total = left.shared * right.total && precedes right.name left.name)

/-- The names that are most similar to a word, three at most, in the order of texts. -/
def closest (word : Text) (names : List Text) : List Text :=
  let close := (names.map (Likeness.of word)).filter Likeness.isClose
  (((close.mergeSort Likeness.atLeast).take 3).map Likeness.name).mergeSort precedes

end ReviewGate.Text
