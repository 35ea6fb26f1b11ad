import ReviewGate.Record.Document
import ReviewGate.Text.Digit
import ReviewGate.Text.Reading

/-!
# The alternatives of a decision

The alternatives are counted in the rows of tables, or, where there are no such rows, in the items
of lists. A row is a line that begins with a bar and holds at least two cells that are not empty,
each closed by a bar. Of the rows, the separators do not count, nor the row in front of a
separator, which is the head of a table, nor a row whose first cell speaks of alternatives. An
item is a bullet or a number with a point or bracket at the start of a line, white space, and some
character.
-/

set_option autoImplicit false

namespace ReviewGate.Record

open Text

/-! ## Tables -/

/-- What follows a cell that is not empty, with the bar that closes it. -/
def afterCell? (text : Text) : Option Text :=
  (afterSome? (fun c => c != '|' && c != '\n') text).bind (after? ['|'])

/-- A line that is a row of a table. -/
def isRow (line : Text) : Bool :=
  (((after? ['|'] line).bind afterCell?).bind afterCell?).isSome

/-- The cells of a row, without the white space around them. -/
def cells (row : Text) : List Text :=
  (splitWhere (· == '|') (trimBy (· == '|') (trim row))).map trim

/-- A cell of hyphens, possibly with colons at the ends. -/
def isSeparatorCell (cell : Text) : Bool :=
  let body := (after? [':'] cell).getD cell
  match afterSome? (· == '-') body with
  | some rest => (after? [':'] rest).getD rest == []
  | none => false

/-- A row that separates the head of a table from its body. -/
def isSeparator (row : Text) : Bool :=
  (cells row).all isSeparatorCell

/-- A row whose first cell speaks of alternatives. -/
def namesAlternatives (row : Text) : Bool :=
  occurs "alternative".toList (lower ((cells row).headD []))

/-- How many rows hold an alternative, each row seen with the one behind it. -/
def countDataRows : List Text → Nat
  | [] => 0
  | row :: more =>
    let isHead := (more.head?).any isSeparator
    (if isSeparator row || isHead || namesAlternatives row then 0 else 1) + countDataRows more

/-- How many alternatives the tables of a text hold. -/
def countTableRows (text : Text) : Nat :=
  countDataRows ((lines text).filter isRow)

/-! ## Lists -/

/-- What follows the mark of a list item. -/
def afterItemMark? (text : Text) : Option Text :=
  match text with
  | [] => none
  | c :: rest =>
    if c == '-' || c == '*' || c == '+' then some rest
    else
      (afterSome? isDecimalDigit text).bind fun rest => afterAny? [['.'], [')']] rest

/-- A list item at the beginning of a text, up to its first character. -/
def listItem? (text : Text) : Option (Match Unit) := do
  let body ← afterItemMark? text
  let rest ← afterBlank? body
  if rest.isEmpty then none
  else return ⟨(), text.length - rest.length + 1⟩

/-- How many list items a text holds. -/
def countListItems (text : Text) : Nat :=
  (scanLines listItem? text).length

/-! ## The section of alternatives -/

/-- The name of the section of alternatives. -/
def alternativesName : Text := "alternatives".toList

/-- How many alternatives a record lists. -/
def Document.countAlternatives (document : Document) : Nat :=
  let text := document.sectionText alternativesName
  let rows := countTableRows text
  if 0 < rows then rows else countListItems text

/-- The words that tell of a rejection. -/
def rejectionWords : List Text :=
  ["rejected".toList, "rejection".toList, "why rejected".toList, "not chosen".toList,
    "discarded".toList]

/-- Whether the section of alternatives tells why something was rejected. -/
def Document.explainsRejection (document : Document) : Bool :=
  let text := lower (document.sectionText alternativesName)
  rejectionWords.any (occurs · text)

end ReviewGate.Record
