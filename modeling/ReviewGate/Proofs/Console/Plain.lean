import ReviewGate.Console.Row
import ReviewGate.Proofs.Text.Numeral

/-!
# Plain lines

Printing drops some control characters and fills up tabs. A text without either is printed as it
is, and when it is a line of its own without a style, colour makes no difference to it
(`renderPieces_bare`). The labels of totals are such texts, and so are numerals
(`all_isPlain_ofNat`).
-/

set_option autoImplicit false

namespace ReviewGate.Console

variable {widths : Widths}

/-- Whether printing leaves a character as it is. -/
def isPlain (c : Char) : Bool :=
  ! isDropped c && c != '\t'

theorem expandTabs_plain {text : Text} (plain : text.all isPlain = true) (column : Nat) :
    (expandTabs widths column text).1 = text := by
  induction text generalizing column with
  | nil => rfl
  | cons c rest ih =>
      rw [List.all_cons, Bool.and_eq_true] at plain
      have noTab : c ≠ '\t' := by
        rintro rfl
        exact absurd plain.1 (by decide)
      show shownChar column c ++ (expandTabs widths (columnAfter widths column c) rest).1 = _
      rw [ih plain.2, shownChar, if_neg noTab, List.singleton_append]

theorem cleanText_plain {text : Text} (plain : text.all isPlain = true) (column : Nat) :
    (cleanText widths column text).1 = text := by
  have kept : text.filter (! isDropped ·) = text :=
    List.filter_eq_self.mpr fun c member =>
      (Bool.and_eq_true _ _ ▸ List.all_eq_true.mp plain c member).1
  rw [cleanText, kept, expandTabs_plain plain]

theorem expandTabs_append (column : Nat) (front back : Text) :
    (expandTabs widths column (front ++ back)).1 =
      (expandTabs widths column front).1 ++
        (expandTabs widths (expandTabs widths column front).2 back).1 := by
  induction front generalizing column with
  | nil => rfl
  | cons c rest ih =>
      show shownChar column c ++
        (expandTabs widths (columnAfter widths column c) (rest ++ back)).1 = _
      rw [ih, ← List.append_assoc]
      rfl

/-- What stands behind a text is printed from the column behind that. -/
theorem cleanText_append (column : Nat) (front back : Text) :
    (cleanText widths column (front ++ back)).1 =
      (cleanText widths column front).1 ++
        (cleanText widths (cleanText widths column front).2 back).1 := by
  rw [cleanText, List.filter_append, expandTabs_append]
  rfl

/-- A line of one piece without style is printed as it is. -/
theorem renderPieces_bare {text : Text} (plain : text.all isPlain = true) (colour : Bool) :
    renderPieces widths colour 0 [bare text] = text := by
  show (cleanText widths 0 text).1 ++ [] = text
  rw [cleanText_plain plain, List.append_nil]

theorem isPlain_of_isDigit {c : Char} (digit : c.isDigit = true) : isPlain c = true := by
  have low := (Text.bounds_of_isDigit digit).1
  have printed : isDropped c = false := by
    simp only [isDropped, Bool.or_eq_false_iff, beq_eq_false_iff_ne]
    omega
  have noTab : c ≠ '\t' := by
    rintro rfl
    exact absurd digit (by decide)
  simp [isPlain, printed, noTab]

theorem all_isPlain_ofNat (count : Nat) : (Text.ofNat count).all isPlain = true :=
  List.all_eq_true.mpr fun _ member => isPlain_of_isDigit (Text.isDigit_of_mem_ofNat member)

theorem all_isPlain_ofInt (number : Int) : (Text.ofInt number).all isPlain = true := by
  cases number with
  | ofNat count => exact all_isPlain_ofNat count
  | negSucc count =>
      show ('-' :: Text.ofNat (count + 1)).all isPlain = true
      rw [List.all_cons, all_isPlain_ofNat]
      decide

/-- A total is printed with its digits. -/
theorem renderPieces_count {label : Text} (plain : label.all isPlain = true) (count : Nat) :
    renderPieces widths false 0 [bare (label ++ Text.ofNat count)] = label ++ Text.ofNat count :=
  renderPieces_bare (by rw [List.all_append, plain, all_isPlain_ofNat, Bool.and_self]) false

end ReviewGate.Console
