import ReviewGate.Record.Header
import ReviewGate.Record.Heading
import ReviewGate.Text.Lower

/-!
# Decision records

A decision record is a text with a title, header values and sections. A section runs from its
heading to the next one or to the end of the text. Sections are found by their key, the lower-case
form of the heading. When a heading is repeated, the later section takes the place of the earlier
one under their common key, and the keys keep the order in which they first occur.

Reading never fails: what a text lacks is empty or absent.
-/

set_option autoImplicit false

namespace ReviewGate.Record

open Text

/-- A section: its heading, its text without the white space around it, and where it stands. -/
structure Section where
  heading : Text
  content : Text
  start : Nat
  stop : Nat
  deriving DecidableEq, Repr

/-- Sections by key, in the order in which the keys first occurred. -/
abbrev Sections := List (Text × Section)

/-- Stores a section under a key. A key that is already there keeps its place. -/
def Sections.put (key : Text) (value : Section) : Sections → Sections
  | [] => [(key, value)]
  | (other, old) :: more =>
    if other = key then (key, value) :: more else (other, old) :: Sections.put key value more

/-- A decision record. -/
structure Document where
  title : Text
  date : Option Text
  status : Option Text
  deciders : Option Text
  sections : Sections
  raw : Text
  path : Text

/-- The part of a text between two offsets. -/
def slice (text : Text) (start stop : Nat) : Text :=
  (text.drop start).take (stop - start)

/-- The sections that begin at the given headings, each up to the next. -/
def sectionsFrom (text : Text) : List (Found Text) → List Section
  | [] => []
  | [found] =>
    [⟨found.value, trim (slice text found.offset text.length), found.offset, text.length⟩]
  | found :: next :: more =>
    ⟨found.value, trim (slice text found.offset next.offset), found.offset, next.offset⟩ ::
      sectionsFrom text (next :: more)

/-- All sections of a text in the order in which they stand. -/
def sectionsOf (text : Text) : List Section :=
  sectionsFrom text (sectionHeadings text)

/-- The key under which a section is found. -/
def Section.key (part : Section) : Text :=
  lower part.heading

/-- Sections by key. -/
def indexed (parts : List Section) : Sections :=
  parts.foldl (fun found part => found.put part.key part) []

/-- Reads a decision record. -/
def Document.read (text path : Text) : Document where
  title := titleOf text
  date := headerValue? dateLabels text
  status := headerValue? statusLabels text
  deciders := headerValue? decidersLabels text
  sections := indexed (sectionsOf text)
  raw := text
  path := path

/-! ## Looking up a section -/

namespace Document

/-- The section of a name: the one with exactly this key, or else the first one whose key
contains the name. -/
def section? (document : Document) (name : Text) : Option Section :=
  let key := lower name
  match document.sections.lookup key with
  | some found => some found
  | none => (document.sections.find? fun entry => occurs key entry.1).map Prod.snd

/-- Whether there is a section of a name. -/
def hasSection (document : Document) (name : Text) : Bool :=
  (document.section? name).isSome

/-- The text of the section of a name, empty when there is none. -/
def sectionText (document : Document) (name : Text) : Text :=
  ((document.section? name).map Section.content).getD []

end Document

end ReviewGate.Record
