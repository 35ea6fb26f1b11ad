import ReviewGate.Text.Basic

/-!
# Escaping text in XML

Five characters have a meaning of their own in XML text and in attribute values. Each is written
as the entity that stands for it, whatever surrounds it, so escaping works character by character
and nothing is ever escaped twice.
-/

set_option autoImplicit false

namespace ReviewGate.Xml

/-- One character of an escaped text. -/
def escapeChar (c : Char) : Text :=
  if c = '&' then "&amp;".toList
  else if c = '<' then "&lt;".toList
  else if c = '>' then "&gt;".toList
  else if c = '"' then "&quot;".toList
  else if c = '\'' then "&apos;".toList
  else [c]

/-- A text as it is written inside elements and attribute values. -/
def escape (text : Text) : Text :=
  text.flatMap escapeChar

end ReviewGate.Xml
