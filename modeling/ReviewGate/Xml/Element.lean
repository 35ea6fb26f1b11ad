import ReviewGate.Xml.Escape

/-!
# XML elements over several lines

An element is written in one of three layouts: closed by itself, with a text on one line, or with
its children on lines of their own, two blanks deeper. Attribute values and texts are escaped where
they are written, so an element may hold any text.
-/

set_option autoImplicit false

namespace ReviewGate.Xml

/-- An attribute with its value before escaping. -/
structure Attribute where
  name : Text
  value : Text
  deriving DecidableEq, Repr

/-- An element in one of the three layouts. -/
inductive Element
  | closed (name : Text) (attributes : List Attribute)
  | inline (name : Text) (attributes : List Attribute) (text : Text)
  | block (name : Text) (attributes : List Attribute) (children : List Element)

/-- An attribute behind a blank. -/
def writeAttribute (pair : Attribute) : Text :=
  ' ' :: pair.name ++ '=' :: '"' :: escape pair.value ++ ['"']

/-- The name of an element with its attributes, behind the bracket that opens the tag. -/
def writeTag (name : Text) (attributes : List Attribute) : Text :=
  '<' :: name ++ attributes.flatMap writeAttribute

/-- The closing tag of an element. -/
def writeClosing (name : Text) : Text :=
  '<' :: '/' :: name ++ ['>']

/-- The blanks in front of a line. -/
def indent (depth : Nat) : Text :=
  List.replicate (2 * depth) ' '

mutual

/-- The lines of an element at a depth. -/
def Element.lines (depth : Nat) : Element → List Text
  | .closed name attributes => [indent depth ++ writeTag name attributes ++ "/>".toList]
  | .inline name attributes text =>
    [indent depth ++ writeTag name attributes ++ '>' :: escape text ++ writeClosing name]
  | .block name attributes children =>
    (indent depth ++ writeTag name attributes ++ ['>']) ::
      (childLines (depth + 1) children ++ [indent depth ++ writeClosing name])

/-- The lines of the children of an element. -/
def childLines (depth : Nat) : List Element → List Text
  | [] => []
  | child :: more => child.lines depth ++ childLines depth more

end

/-- The declaration on the first line of a document. -/
def declaration : Text :=
  "<?xml version=\"1.0\" encoding=\"UTF-8\"?>".toList

/-- A document with the given root, without a newline at the end. -/
def document (root : Element) : Text :=
  Text.unlines (declaration :: root.lines 0)

end ReviewGate.Xml
