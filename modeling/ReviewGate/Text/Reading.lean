import ReviewGate.Text.Blank

/-!
# Reading a text from the left

The shapes that lines are tested for are read from the left, one step after the other: a fixed
word, a run of characters of a class, an optional word with the white space behind it. A step
returns what is left of the text, or `none` when the text does not begin as the step asks. Runs
are always taken as long as possible, and no shape below needs a shorter one.
-/

set_option autoImplicit false

namespace ReviewGate.Text

/-- What follows the given beginning. -/
def after? (start text : Text) : Option Text :=
  if start.isPrefixOf text then some (text.drop start.length) else none

/-- What follows a run of one or more characters of a class. -/
def afterSome? (inClass : Char → Bool) : Text → Option Text
  | [] => none
  | c :: rest => if inClass c then some (rest.dropWhile inClass) else none

/-- What follows white space, of which there has to be some. -/
def afterBlank? (text : Text) : Option Text :=
  afterSome? isBlank text

/-- What follows the first of the given beginnings that the text has. -/
def afterAny? (starts : List Text) (text : Text) : Option Text :=
  starts.findSome? (after? · text)

/-- Skips a word with the white space behind it, when the text begins with both. -/
def skipWord (word text : Text) : Text :=
  ((after? word text).bind afterBlank?).getD text

/-- Whether the first character is in a class. -/
def startsIn (inClass : Char → Bool) : Text → Bool
  | [] => false
  | c :: _ => inClass c

end ReviewGate.Text
