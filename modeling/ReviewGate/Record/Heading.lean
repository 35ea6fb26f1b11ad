import ReviewGate.Text.Blank
import ReviewGate.Text.LineScan

/-!
# Headings of a decision record

A section of a record begins with two or three number signs at the start of a line, white space,
and the heading, which runs to the end of its line. The white space may run over the ends of
lines, so signs without a heading on their line take the next line that is not blank. At the end of
a text there may be nothing but white space behind the signs; then the heading is empty, provided
that some blank other than a newline stands behind the first one.

The title is the first heading with a single sign.
-/

set_option autoImplicit false

namespace ReviewGate.Record

open Text

/-- The heading behind white space, with the number of characters of both. -/
def headingBehindBlank? (text : Text) : Option (Match Text) :=
  let blank := text.takeWhile isBlank
  match blank, text.dropWhile isBlank with
  | [], _ => none
  | _ :: more, [] =>
    let taken := trimRightBy (· == '\n') more
    if taken.isEmpty then none else some ⟨[], 1 + taken.length⟩
  | _ :: _, rest =>
    let heading := rest.takeWhile (· != '\n')
    some ⟨trim heading, blank.length + heading.length⟩

/-- The heading of a section at the beginning of a text. -/
def sectionHeading? (text : Text) : Option (Match Text) :=
  let marks := (text.takeWhile (· == '#')).length
  if marks = 2 || marks = 3 then
    (headingBehindBlank? (text.drop marks)).map fun found => { found with length := marks + found.length }
  else none

/-- The headings of the sections of a text with their offsets. -/
def sectionHeadings (text : Text) : List (Found Text) :=
  scanLines sectionHeading? text

/-- The title on a line that has one. -/
def titleOn? : Text → Option Text
  | '#' :: c :: rest => if isBlank c then some (trim rest) else none
  | _ => none

/-- The title of a text, empty when no line has one. -/
def titleOf (text : Text) : Text :=
  ((lines text).findSome? titleOn?).getD []

end ReviewGate.Record
