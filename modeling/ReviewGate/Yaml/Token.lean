import ReviewGate.Text.Point

/-!
# Tokens

The tokens of a YAML text. Brackets come in two kinds: those that are written, and those of blocks,
which follow from the indentation.
-/

set_option autoImplicit false

namespace ReviewGate.Yaml

/-- A tag as it is written: a handle, when there is one, and what stands behind it. -/
structure Tag where
  handle : Option Text
  suffix : Text
  deriving DecidableEq, Repr

/-- A line that says something about the document behind it. -/
inductive Directive
  | version (major : Nat)
  | handle (name meaning : Text)
  | other
  deriving DecidableEq, Repr

/-- A token. -/
inductive Token
  | directive (directive : Directive)
  | documentStart
  | documentEnd
  | openBlockList
  | openBlockMapping
  | closeBlock
  | openList
  | closeList
  | openMapping
  | closeMapping
  | entry
  | comma
  | key
  | value
  | alias (name : Text)
  | anchor (name : Text)
  | tag (tag : Tag)
  | scalar (content : Points) (plain : Bool)
  deriving DecidableEq, Repr

end ReviewGate.Yaml
