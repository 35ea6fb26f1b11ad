import ReviewGate.Text.LineEnd
import ReviewGate.Text.Utf8

/-!
# Reading text in portions

A long file is not decoded at once. It is handed out in portions of 4096 characters, and for each
portion only as many bytes are decoded as are needed for it, in steps of 8192 bytes or more. So a
byte that is not UTF-8 shows only when the portion that needs it is asked for, and the portions
in front of it are complete. Line ends are unified on the way; a carriage return at the end of a
step waits for what follows it.
-/

set_option autoImplicit false

namespace ReviewGate.Text

/-- The number of characters in a portion. -/
def portionLength : Nat := 4096

/-- What is known between two steps: the bytes that are left, the unfinished sequence, whether a
carriage return is waiting, the bytes and characters of the last step, the characters that are
decoded and not yet handed out, and whether the end has been seen. -/
structure Feed where
  bytes : List UInt8
  pending : Option Pending
  returnWaits : Bool
  lastBytes : Nat
  lastChars : Nat
  ready : Text
  ended : Bool

namespace Feed

/-- What is known in front of some bytes. -/
def start (bytes : List UInt8) : Feed :=
  ⟨bytes, none, false, 0, 0, [], false⟩

/-- How many bytes a step takes when a number of characters is needed: as many as the last step
suggests, and no less than 8192. -/
def stepSize (feed : Feed) (needed : Nat) : Nat :=
  max 8192
    (if feed.lastChars = 0 then needed
      else needed * max feed.lastBytes feed.lastChars / feed.lastChars)

/-- Decodes bytes behind an unfinished sequence, `none` when one of them is an error. -/
def decodeStep? (pending : Option Pending) (bytes : List UInt8) :
    Option (Text × Option Pending) := do
  let (chars, pending) ← bytes.foldlM
    (fun (chars, pending) byte => do
      let step := decodeByte pending byte.toNat
      let more ← step.1.mapM id
      return (more.reverse ++ chars, step.2))
    (([] : Text), pending)
  return (chars.reverse, pending)

/-- A step: decodes the next bytes. Where there are none, the end has been reached, and no sequence
may be unfinished. -/
def step? (needed : Nat) (feed : Feed) : Option Feed := do
  let taken := feed.bytes.take (feed.stepSize needed)
  let ended := taken.isEmpty
  let (decoded, pending) ← decodeStep? feed.pending taken
  if ended && pending.isSome then none
  else
    let decoded :=
      if feed.returnWaits && (ended || ! decoded.isEmpty) then '\r' :: decoded else decoded
    let waits := ! ended && (decoded.getLast? = some '\r' || (feed.returnWaits && decoded.isEmpty))
    let chars := unifyLineEnds (if waits then decoded.dropLast else decoded)
    return ⟨feed.bytes.drop taken.length, pending, waits, taken.length, chars.length,
      feed.ready ++ chars, ended⟩

/-- Steps until a portion is ready or the end has been reached. The bound is on the number of
steps. -/
def fill? : Nat → Feed → Option Feed
  | 0, feed => some feed
  | bound + 1, feed =>
    let ready := feed.ready.length
    if portionLength ≤ ready || feed.ended then some feed
    else (feed.step? (portionLength - ready)).bind (fill? bound)

end Feed

/-- The portions of a text, as far as it can be read, and whether it breaks off at a byte that is
not UTF-8. -/
structure Portions where
  complete : List Text
  broken : Bool
  deriving DecidableEq, Repr

/-- The portions behind what is known. The bound is on their number. -/
def portionsFrom (steps : Nat) : Nat → Feed → Portions
  | 0, _ => ⟨[], false⟩
  | bound + 1, feed =>
    match feed.fill? steps with
    | none => ⟨[], true⟩
    | some feed =>
      if feed.ready = [] then ⟨[], false⟩
      else
        let rest := portionsFrom steps bound { feed with ready := feed.ready.drop portionLength }
        ⟨feed.ready.take portionLength :: rest.complete, rest.broken⟩

/-- The portions of the text in some bytes. -/
def portions (bytes : List UInt8) : Portions :=
  portionsFrom (bytes.length + 2) (bytes.length + 2) (.start bytes)

end ReviewGate.Text
