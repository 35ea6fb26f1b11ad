import ReviewGate.Text.Portion
import ReviewGate.Yaml.Fault

/-!
# What can be read of a file

A YAML file is read in portions, the first two of them together. A portion has to be UTF-8 and may
hold no forbidden character. One that fails ends the text in front of it, and what fails shows only
when the text is read so far: a fault of the text in front comes first.
-/

set_option autoImplicit false

namespace ReviewGate.Yaml

/-- The text of a file as far as it can be read, and why no more of it can be. -/
structure Legible where
  text : Text
  fault : Option Fault

/-- The characters that a YAML text may hold. -/
def isAllowed (c : Char) : Bool :=
  let code := c.toNat
  code == 9 || code == 10 || (0x20 ≤ code && code ≤ 0x7E) || code == 0x85 ||
    (0xA0 ≤ code && code ≤ 0xFFFD) || 0x10000 ≤ code

namespace Legible

/-- What can be read of some portions, behind which there may be a fault. -/
def ofPortions (fault : Option Fault) : List Text → Legible
  | [] => ⟨[], fault⟩
  | portion :: more =>
    if portion.all isAllowed then
      let rest := ofPortions fault more
      ⟨portion ++ rest.text, rest.fault⟩
    else ⟨[], some (.malformed .forbiddenCharacter)⟩

/-- What can be read of some bytes. -/
def ofBytes (bytes : List UInt8) : Legible :=
  let portions := Text.portions bytes
  let fault := if portions.broken then some .notUtf8 else none
  match portions.complete with
  | first :: second :: more => ofPortions fault ((first ++ second) :: more)
  | few => if portions.broken then ⟨[], fault⟩ else ofPortions none few

end Legible

end ReviewGate.Yaml
