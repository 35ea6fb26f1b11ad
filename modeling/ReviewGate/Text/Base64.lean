import ReviewGate.Text.Basic

/-!
# Base 64

Four characters stand for three bytes, six bits each. A group that is not full is filled up with
equals signs, and behind a full group of that kind nothing more is read. Characters beyond the
alphabet are skipped, so the text may be broken into lines. A group that is left open is an error,
and so is a character beyond ASCII.
-/

set_option autoImplicit false

namespace ReviewGate.Text

/-- The six bits that a character of the alphabet stands for. -/
def sixBits? (c : Char) : Option Nat :=
  if c.isUpper then some (c.toNat - 'A'.toNat)
  else if c.isLower then some (c.toNat - 'a'.toNat + 26)
  else if c.isDigit then some (c.toNat - '0'.toNat + 52)
  else if c = '+' then some 62
  else if c = '/' then some 63
  else none

/-- What is known within a text: the bytes so far in reverse order, the number of characters in
the open group, its bits that are in no byte yet, and the equals signs at its end. -/
structure Base64Group where
  bytes : List UInt8
  place : Nat
  bits : Nat
  fillers : Nat

/-- The next six bits. -/
def Base64Group.add (group : Base64Group) (six : Nat) : Base64Group :=
  let byte (left right : Nat) : UInt8 := UInt8.ofNat (group.bits * left + six / right)
  match group.place with
  | 0 => ⟨group.bytes, 1, six, 0⟩
  | 1 => ⟨byte 4 16 :: group.bytes, 2, six % 16, 0⟩
  | 2 => ⟨byte 16 4 :: group.bytes, 3, six % 4, 0⟩
  | _ => ⟨byte 64 1 :: group.bytes, 0, 0, 0⟩

/-- The bytes of a text behind what is known. -/
def fromBase64From (group : Base64Group) : Text → Option (List UInt8)
  | [] => if group.place = 0 then some group.bytes.reverse else none
  | c :: rest =>
    if c = '=' then
      if group.place < 2 then fromBase64From group rest
      else if 4 ≤ group.place + group.fillers + 1 then some group.bytes.reverse
      else fromBase64From { group with fillers := group.fillers + 1 } rest
    else match sixBits? c with
      | some six => fromBase64From (group.add six) rest
      | none => fromBase64From group rest

/-- The bytes that a text stands for. -/
def fromBase64? (text : Text) : Option (List UInt8) :=
  if text.all (·.toNat < 128) then fromBase64From ⟨[], 0, 0, 0⟩ text else none

end ReviewGate.Text
