import ReviewGate.Text.Basic

/-!
# UTF-8

Bytes are decoded from the left by a small machine. Its state is what an unfinished sequence still
needs: how many bytes, in which range the next one has to be, and the bits collected so far. A
byte that does not continue an unfinished sequence ends it with an error and is then read as a
first byte itself, so an error never swallows a character behind it. Overlong forms, surrogates
and codes beyond the last character are excluded by the range of the second byte.

Decoding yields a character or an error for every sequence. A reader either puts the replacement
character for each error, or refuses bytes with errors.
-/

set_option autoImplicit false

namespace ReviewGate.Text

/-- What an unfinished sequence still needs. -/
structure Pending where
  bits : Nat
  needed : Nat
  low : Nat
  high : Nat
  deriving DecidableEq, Repr

/-- What a byte makes of a state: the characters and errors that are complete, and the next
state. -/
abbrev Decoded := List (Option Char) × Option Pending

/-- A first byte. -/
def decodeFirst (byte : Nat) : Decoded :=
  if byte < 0x80 then ([some (Char.ofNat byte)], none)
  else if byte < 0xC2 then ([none], none)
  else if byte < 0xE0 then ([], some ⟨byte - 0xC0, 1, 0x80, 0xBF⟩)
  else if byte = 0xE0 then ([], some ⟨0, 2, 0xA0, 0xBF⟩)
  else if byte = 0xED then ([], some ⟨byte - 0xE0, 2, 0x80, 0x9F⟩)
  else if byte < 0xF0 then ([], some ⟨byte - 0xE0, 2, 0x80, 0xBF⟩)
  else if byte = 0xF0 then ([], some ⟨0, 3, 0x90, 0xBF⟩)
  else if byte < 0xF4 then ([], some ⟨byte - 0xF0, 3, 0x80, 0xBF⟩)
  else if byte = 0xF4 then ([], some ⟨byte - 0xF0, 3, 0x80, 0x8F⟩)
  else ([none], none)

/-- A byte behind an unfinished sequence. -/
def decodeNext (pending : Pending) (byte : Nat) : Decoded :=
  if pending.low ≤ byte && byte ≤ pending.high then
    let bits := pending.bits * 64 + (byte - 0x80)
    if pending.needed ≤ 1 then ([some (Char.ofNat bits)], none)
    else ([], some ⟨bits, pending.needed - 1, 0x80, 0xBF⟩)
  else
    let fresh := decodeFirst byte
    (none :: fresh.1, fresh.2)

/-- A byte in a state. -/
def decodeByte : Option Pending → Nat → Decoded
  | none, byte => decodeFirst byte
  | some pending, byte => decodeNext pending byte

/-- The characters and errors of bytes, from a state on. -/
def decodeFrom (state : Option Pending) : List UInt8 → List (Option Char)
  | [] => if state.isSome then [none] else []
  | byte :: rest =>
    let step := decodeByte state byte.toNat
    step.1 ++ decodeFrom step.2 rest

/-- The replacement character. -/
def replacement : Char := '\uFFFD'

/-- The text of bytes, with the replacement character for every error. -/
def decodeReplacing (bytes : List UInt8) : Text :=
  (decodeFrom none bytes).map (·.getD replacement)

/-- The text of bytes, `none` when they have an error. -/
def decode? (bytes : List UInt8) : Option Text :=
  (decodeFrom none bytes).mapM id

/-- The bytes of a character. -/
def encodeChar (c : Char) : List UInt8 :=
  let code := c.toNat
  if code < 0x80 then [.ofNat code]
  else if code < 0x800 then [.ofNat (0xC0 + code / 64), .ofNat (0x80 + code % 64)]
  else if code < 0x10000 then
    [.ofNat (0xE0 + code / 4096), .ofNat (0x80 + code / 64 % 64), .ofNat (0x80 + code % 64)]
  else
    [.ofNat (0xF0 + code / 262144), .ofNat (0x80 + code / 4096 % 64),
      .ofNat (0x80 + code / 64 % 64), .ofNat (0x80 + code % 64)]

/-- The bytes of a text. -/
def encode (text : Text) : List UInt8 :=
  text.flatMap encodeChar

end ReviewGate.Text
