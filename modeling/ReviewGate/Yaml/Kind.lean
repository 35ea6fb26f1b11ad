import ReviewGate.Text.Point
import ReviewGate.Yaml.Number
import ReviewGate.Yaml.Timestamp

/-!
# Kinds

Every node has a kind. A tag names it; where there is none, or only a lone exclamation mark, the
kind of a list or mapping is that of its shape, and the kind of a scalar follows from its content
when it is plain. A newline at the end of the content does not count there.
-/

set_option autoImplicit false

namespace ReviewGate.Yaml

/-- The kinds of nodes. The last three have no data of their own. -/
inductive Kind
  | null
  | bool
  | int
  | float
  | timestamp
  | text
  | binary
  | list
  | orderedMapping
  | pairs
  | mapping
  | set
  | merge
  | equals
  | unknown
  deriving DecidableEq, Repr

/-- The start of the full form of the standard tags. -/
def standardTag : Text := "tag:yaml.org,2002:".toList

/-- The kinds that have a standard tag. -/
def standardKinds : List (String × Kind) :=
  [("null", .null), ("bool", .bool), ("int", .int), ("float", .float), ("timestamp", .timestamp),
    ("str", .text), ("binary", .binary), ("seq", .list), ("omap", .orderedMapping),
    ("pairs", .pairs), ("map", .mapping), ("set", .set), ("merge", .merge), ("value", .equals)]

/-- The kind that a tag names. -/
def Kind.ofTag (tag : Text) : Kind :=
  match standardKinds.find? fun (name, _) => standardTag ++ name.toList == tag with
  | some (_, kind) => kind
  | none => .unknown

/-- The truth values, in lower case. -/
def truthWords : List (Text × Bool) :=
  [("yes".toList, true), ("no".toList, false), ("true".toList, true), ("false".toList, false),
    ("on".toList, true), ("off".toList, false)]

/-- A word in lower case, with a capital, and in capitals. -/
def spellings (word : Text) : List Text :=
  [word, (word.take 1).map Char.toUpper ++ word.drop 1, word.map Char.toUpper]

/-- Whether a text is written like a truth value. -/
def isTruth (text : Text) : Bool :=
  truthWords.any fun (word, _) => (spellings word).contains text

/-- Whether a text that is not empty is written like nothing. -/
def isNull (text : Text) : Bool :=
  text == ['~'] || (spellings "null".toList).contains text

/-- The kind of a text that is not empty. -/
def Kind.ofText (word : Text) : Kind :=
  if isTruth word then .bool
  else if isDecimal word then .float
  else if isInteger word then .int
  else if word = "<<".toList then .merge
  else if isNull word then .null
  else if isTimestamp word then .timestamp
  else if word = ['='] then .equals
  else if word = ['!'] || word = ['&'] || word = ['*'] then .unknown
  else .text

/-- The kind of plain content. What holds a half of a pair can only be a text. -/
def Kind.ofPlain (content : Points) : Kind :=
  match Points.toText? content with
  | none => .text
  | some [] => .null
  | some word => .ofText (withoutNewline word)

/-- The kind of a scalar. -/
def Kind.ofScalar (tag : Option Text) (plain : Bool) (content : Points) : Kind :=
  match tag with
  | none => if plain then .ofPlain content else .text
  | some tag => if tag = ['!'] then .ofPlain content else .ofTag tag

/-- The kind of a list or mapping. -/
def Kind.ofCollection (standard : Kind) : Option Text → Kind
  | none => standard
  | some tag => if tag = ['!'] then standard else .ofTag tag

end ReviewGate.Yaml
