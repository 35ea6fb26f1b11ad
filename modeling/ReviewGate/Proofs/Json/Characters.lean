import ReviewGate.Proofs.Json.Texts
import ReviewGate.Proofs.Text.Numeral

/-!
# Characters beyond ASCII

A charset decides which characters beyond ASCII stand for themselves. Words, numbers and the layout
have none, so a written value holds exactly those that are left in its texts, in their order
(`filter_isWide_writeAt`). In ASCII none are left (`isWide_of_mem_write_ascii`), and in the full
charset all are (`filter_isWide_write_full`).
-/

set_option autoImplicit false

namespace ReviewGate.Json

open Text

/-! ## Texts -/

theorem filter_isWide_writeChar (charset : Charset) (c : Char) :
    (writeChar charset c).filter isWide =
      if charset.allows c && isWide c then [c] else [] := by
  rcases writeChar_cases charset c with ⟨same, allows, _⟩ | ⟨escape, same, means, narrow⟩
  · rw [same, allows, Bool.true_and, List.filter_cons, List.filter_nil]
  · have unwritten : ¬(charset.allows c && isWide c) = true := by
      simpa using narrow
    rw [same, if_neg unwritten, List.filter_eq_nil_iff]
    rintro d member wide
    rcases List.mem_cons.mp member with rfl | inside
    · cases wide
    · rw [means.narrow d inside] at wide
      cases wide

/-- Of the characters beyond ASCII, those that a charset allows are left in a written text. -/
theorem filter_isWide_writeText (charset : Charset) (text : Text) :
    (writeText charset text).filter isWide =
      text.filter fun c => charset.allows c && isWide c := by
  have quote : ¬isWide '"' = true := by decide
  rw [writeText, List.cons_append, List.filter_cons_of_neg quote, List.filter_append,
    List.filter_cons_of_neg quote, List.filter_nil, List.append_nil]
  induction text with
  | nil => rfl
  | cons c text ih =>
      rw [List.flatMap_cons, List.filter_append, filter_isWide_writeChar, ih, List.filter_cons]
      split <;> rfl

/-! ## Values -/

mutual

/-- The texts of a value, in the order in which they are written. -/
def texts : Json → List Text
  | .string text => [text]
  | .array items => itemTexts items
  | .object members => memberTexts members
  | .null | .bool _ | .int _ | .decimal .. | .infinite _ | .nan => []

/-- The texts of the items of an array. -/
def itemTexts : List Json → List Text
  | [] => []
  | item :: more => texts item ++ itemTexts more

/-- The texts of the members of an object, each behind its name. -/
def memberTexts : List (Text × Json) → List Text
  | [] => []
  | (name, value) :: more => name :: texts value ++ memberTexts more

end

theorem isWide_of_isDigit {c : Char} (digit : c.isDigit = true) : isWide c = false := by
  have bounds := bounds_of_isDigit digit
  exact decide_eq_false (by omega)

theorem filter_isWide_eq_nil {text : Text} (narrow : ∀ c ∈ text, isWide c = false) :
    text.filter isWide = [] :=
  List.filter_eq_nil_iff.mpr fun c member => Bool.eq_false_iff.mp (narrow c member)

theorem filter_isWide_ofNat (n : Nat) : (ofNat n).filter isWide = [] :=
  filter_isWide_eq_nil fun _ member => isWide_of_isDigit (isDigit_of_mem_ofNat member)

theorem filter_isWide_ofInt (value : Int) : (ofInt value).filter isWide = [] := by
  cases value with
  | ofNat n => exact filter_isWide_ofNat n
  | negSucc n =>
      rw [ofInt, List.filter_cons_of_neg (by decide)]
      exact filter_isWide_ofNat (n + 1)

theorem filter_isWide_decimal (negative : Bool) (digits : Nat) (exponent : Int) :
    ((if negative then ['-'] else []) ++ ofNat digits ++ 'e' :: ofInt exponent).filter isWide =
      [] := by
  rw [List.filter_append, List.filter_append, filter_isWide_ofNat,
    List.filter_cons_of_neg (by decide), filter_isWide_ofInt, List.append_nil, List.append_nil]
  cases negative <;> rfl

theorem filter_isWide_newline (depth : Nat) : (newline depth).filter isWide = [] := by
  refine filter_isWide_eq_nil fun c member => ?_
  rcases List.mem_cons.mp member with rfl | blank
  · rfl
  · rw [List.eq_of_mem_replicate blank]
    rfl

section Values

variable (charset : Charset)

/-- What is left of the characters beyond ASCII in some texts. -/
def wideOf (texts : List Text) : Text :=
  texts.flatten.filter fun c => charset.allows c && isWide c

theorem wideOf_append (texts more : List Text) :
    wideOf charset (texts ++ more) = wideOf charset texts ++ wideOf charset more := by
  rw [wideOf, List.flatten_append, List.filter_append, wideOf, wideOf]

theorem filter_isWide_member (depth : Nat) (name written : Text) :
    (newline depth ++ writeText charset name ++ ':' :: ' ' :: written).filter isWide =
      wideOf charset [name] ++ written.filter isWide := by
  have colon : ¬isWide ':' = true := by decide
  have blank : ¬isWide ' ' = true := by decide
  rw [List.filter_append, List.filter_append, filter_isWide_newline, List.nil_append,
    filter_isWide_writeText, List.filter_cons_of_neg colon, List.filter_cons_of_neg blank, wideOf,
    List.flatten_singleton]

/-- The layout around the contents of a container holds nothing beyond ASCII. -/
theorem filter_isWide_container {opening closing : Char} (opens : ¬isWide opening = true)
    (closes : ¬isWide closing = true) (depth : Nat) (written : Text) :
    (opening :: written ++ newline depth ++ [closing]).filter isWide = written.filter isWide := by
  rw [List.filter_append, List.filter_append, filter_isWide_newline, List.filter_cons_of_neg opens,
    List.filter_cons_of_neg closes, List.filter_nil, List.append_nil, List.append_nil]

theorem filter_isWide_append_comma (written more : Text) :
    (written ++ ',' :: more).filter isWide = written.filter isWide ++ more.filter isWide := by
  rw [List.filter_append, List.filter_cons_of_neg (by decide)]

theorem filter_isWide_text (text : Text) :
    (writeText charset text).filter isWide = wideOf charset [text] := by
  rw [filter_isWide_writeText, wideOf, List.flatten_singleton]

mutual

theorem filter_isWide_writeAt (depth : Nat) : ∀ value,
    (writeAt charset depth value).filter isWide = wideOf charset (texts value)
  | .null | .bool true | .bool false | .nan | .infinite true | .infinite false => rfl
  | .int value => filter_isWide_ofInt value
  | .decimal negative digits exponent => filter_isWide_decimal negative digits exponent
  | .string text => filter_isWide_text charset text
  | .array [] => rfl
  | .array (item :: more) =>
      (filter_isWide_container (by decide) (by decide) depth _).trans
        (filter_isWide_writeItems (depth + 1) (item :: more))
  | .object [] => rfl
  | .object (member :: more) =>
      (filter_isWide_container (by decide) (by decide) depth _).trans
        (filter_isWide_writeMembers (depth + 1) (member :: more))

theorem filter_isWide_writeItems (depth : Nat) : ∀ items,
    (writeItems charset depth items).filter isWide = wideOf charset (itemTexts items)
  | [] => rfl
  | [item] => by
      rw [writeItems, List.filter_append, filter_isWide_newline, List.nil_append,
        filter_isWide_writeAt depth item, itemTexts, itemTexts, List.append_nil]
  | item :: next :: more => by
      rw [writeItems, filter_isWide_append_comma, List.filter_append, filter_isWide_newline,
        List.nil_append, filter_isWide_writeAt depth item, itemTexts, wideOf_append,
        filter_isWide_writeItems depth (next :: more)]

theorem filter_isWide_writeMembers (depth : Nat) : ∀ members,
    (writeMembers charset depth members).filter isWide = wideOf charset (memberTexts members)
  | [] => rfl
  | [(name, value)] => by
      rw [writeMembers, filter_isWide_member, filter_isWide_writeAt depth value, memberTexts,
        memberTexts, List.append_nil, ← wideOf_append, List.singleton_append]
  | (name, value) :: next :: more => by
      rw [writeMembers, filter_isWide_append_comma, filter_isWide_member,
        filter_isWide_writeAt depth value, filter_isWide_writeMembers depth (next :: more),
        ← wideOf_append, ← wideOf_append, List.singleton_append]
      rfl

end

end Values

theorem allows_ascii_and_isWide (c : Char) : (Charset.ascii.allows c && isWide c) = false := by
  simp only [Charset.allows, isWide, Bool.and_eq_false_iff, decide_eq_false_iff_not]
  omega

theorem allows_full_and_isWide (c : Char) :
    (Charset.full.allows c && isWide c) = isWide c := by
  simp only [Charset.allows, isWide, Bool.and_eq_right_iff_imp, decide_eq_true_eq]
  omega

/-- **Nothing beyond ASCII is written in ASCII.** -/
theorem isWide_of_mem_write_ascii {value : Json} {c : Char} (member : c ∈ write .ascii value) :
    isWide c = false := by
  have none : (write .ascii value).filter isWide = [] := by
    rw [write, filter_isWide_writeAt, wideOf]
    simp [allows_ascii_and_isWide]
  exact Bool.eq_false_iff.mpr (List.filter_eq_nil_iff.mp none c member)

/-- **In the full charset the characters beyond ASCII are those of the texts, as they are.** -/
theorem filter_isWide_write_full (value : Json) :
    (write .full value).filter isWide = (texts value).flatten.filter isWide := by
  rw [write, filter_isWide_writeAt, wideOf]
  simp only [allows_full_and_isWide]

end ReviewGate.Json
