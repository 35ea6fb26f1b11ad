/-!
# Text

A text is the list of its characters. Everything the two checks look at is said on such lists:
a text falls into its lines, a piece of text occurs in another, and several texts are joined
with a separator. A text has one line more than it has newlines (`length_splitWhere`).
-/

set_option autoImplicit false

namespace ReviewGate

/-- A text, as the list of its characters. -/
abbrev Text := List Char

namespace Text

/-! ## Parts and lines -/

/-- The parts of a row between the members of a class. There is always at least one. -/
def splitWhere {α : Type} (separates : α → Bool) : List α → List (List α)
  | [] => [[]]
  | c :: rest =>
    if separates c then [] :: splitWhere separates rest
    else match splitWhere separates rest with
      | [] => [[c]]
      | part :: more => (c :: part) :: more

/-- The lines of a text, split at every newline. A text that ends in a newline has an empty last
line. -/
def lines (text : Text) : List Text :=
  splitWhere (· == '\n') text

/-- The text whose lines are given. -/
def unlines (texts : List Text) : Text :=
  List.intercalate ['\n'] texts

/-- The parts of a text between the characters of a class, as far as they are not empty. -/
def partsBetween (separates : Char → Bool) (text : Text) : List Text :=
  (splitWhere separates text).filter (! ·.isEmpty)

theorem splitWhere_ne_nil {α : Type} (separates : α → Bool) (text : List α) :
    splitWhere separates text ≠ [] := by
  cases text with
  | nil => simp [splitWhere]
  | cons c rest =>
    unfold splitWhere
    split
    · simp
    · split <;> simp

/-- There is one part more than there are separators. -/
theorem length_splitWhere {α : Type} (separates : α → Bool) (text : List α) :
    (splitWhere separates text).length = text.countP separates + 1 := by
  induction text with
  | nil => rfl
  | cons c rest ih =>
    unfold splitWhere
    by_cases separator : separates c = true
    · simp [separator, ih]
    · rw [if_neg separator, List.countP_cons_of_neg (by simpa using separator)]
      split
      · next empty => exact absurd empty (splitWhere_ne_nil separates rest)
      · next part more split => rw [split] at ih; simpa using ih

/-! ## Occurrence -/

/-- Whether `needle` occurs somewhere in a text. The empty text occurs everywhere. -/
def occurs (needle : Text) : Text → Bool
  | [] => needle.isEmpty
  | c :: rest => needle.isPrefixOf (c :: rest) || occurs needle rest

/-- Occurrence is being a contiguous part. -/
theorem occurs_iff (needle text : Text) : occurs needle text = true ↔ needle <:+: text := by
  induction text with
  | nil => simp [occurs]
  | cons c rest ih =>
    rw [occurs, Bool.or_eq_true, ih, List.isPrefixOf_iff_prefix, List.infix_cons_iff]

/-! ## Trimming -/

/-- The text without the characters of a class at its end. -/
def trimRightBy (drop : Char → Bool) (text : Text) : Text :=
  (text.reverse.dropWhile drop).reverse

/-- The text without the characters of a class at its two ends. -/
def trimBy (drop : Char → Bool) (text : Text) : Text :=
  trimRightBy drop (text.dropWhile drop)

/-! ## The last mark -/

/-- The part of a text from its last occurrence of a character on, when there is one. -/
def fromLast? (mark : Char) : Text → Option Text
  | [] => none
  | c :: rest =>
    match fromLast? mark rest with
    | some tail => some tail
    | none => if c = mark then some (c :: rest) else none

end Text

end ReviewGate
