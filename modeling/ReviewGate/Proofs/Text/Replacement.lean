import Mathlib.Algebra.Group.Nat.Defs
import ReviewGate.Proofs.Text.Utf8

/-!
# Replacing what is broken

Bytes that are not UTF-8 are read as far as they are: from the first byte on that belongs to no
character, the longest part that begins the code of one is replaced, or the byte alone when it
begins none (`Broken`). This says what decoding gives for all bytes, and it says so in terms of the
codes of characters alone (`replaces_iff`).

An unfinished sequence is described by what it spells: behind the bytes that were read, each way to
go on as it allows gives the code of a character (`Opens`). That is kept from byte to byte, and a
byte that it does not allow continues no code, for the codes are decoded.
-/

set_option autoImplicit false

namespace ReviewGate.Text

/-! ## Broken sequences -/

/-- Bytes that begin the code of a character. -/
def BeginsChar (bytes : List UInt8) : Prop := ∃ c, bytes <+: String.utf8EncodeChar c

/-- What is replaced in front of other bytes. No character stands there, and the bytes are the
longest part that begins one, or a single byte. -/
structure Broken (broken rest : List UInt8) : Prop where
  filled : broken ≠ []
  no_char : ∀ c, ¬ String.utf8EncodeChar c <+: broken ++ rest
  begins : broken.length = 1 ∨ BeginsChar broken
  longest : ∀ bytes, bytes <+: broken ++ rest → BeginsChar bytes → bytes.length ≤ broken.length

/-- A text is what bytes stand for when each of their broken parts is replaced by one character. -/
inductive Replaces : List UInt8 → Text → Prop
  | nil : Replaces [] []
  | char (c : Char) {rest : List UInt8} {text : Text} (later : Replaces rest text) :
      Replaces (String.utf8EncodeChar c ++ rest) (c :: text)
  | broken {broken rest : List UInt8} {text : Text} (breaks : Broken broken rest)
      (later : Replaces rest text) : Replaces (broken ++ rest) (replacement :: text)

theorem encodeChar_ne_nil (c : Char) : encodeChar c ≠ [] := by
  unfold encodeChar
  dsimp only
  split_ifs <;> exact List.cons_ne_nil _ _

/-- Where decoding gives an error, no character stands. -/
theorem not_prefix_of_error {bytes : List UInt8}
    (failed : (decodeFrom none bytes).head? = some none) (c : Char) :
    ¬ String.utf8EncodeChar c <+: bytes := by
  rintro ⟨rest, rfl⟩
  rw [← encodeChar_eq_utf8EncodeChar, decodeFrom_encodeChar] at failed
  cases failed

/-- Bytes are broken when decoding gives an error for them, as it does whatever stands behind the
next byte. -/
theorem broken_of_error {front rest : List UInt8} (filled : front ≠ [])
    (begins : front.length = 1 ∨ BeginsChar front)
    (failed : (decodeFrom none (front ++ rest)).head? = some none)
    (ends : ∀ byte ∈ rest.head?, ∀ more,
      (decodeFrom none (front ++ byte :: more)).head? = some none) : Broken front rest where
  filled := filled
  no_char := not_prefix_of_error failed
  begins := begins
  longest := by
    rintro bytes within ⟨c, spelled⟩
    by_contra longer
    cases rest with
    | nil => exact longer (List.append_nil front ▸ within).length_le
    | cons byte rest =>
        have next : front ++ [byte] <+: front ++ byte :: rest :=
          ⟨rest, by rw [List.append_assoc, List.singleton_append]⟩
        have covered : front ++ [byte] <+: bytes :=
          List.prefix_of_prefix_length_le next within (by
            rw [List.length_append, List.length_singleton]
            omega)
        obtain ⟨more, code⟩ := covered.trans spelled
        rw [List.append_assoc, List.singleton_append] at code
        have failed := ends byte rfl more
        rw [code] at failed
        exact not_prefix_of_error failed c List.prefix_rfl

/-! ## What an unfinished sequence spells -/

/-- The last bytes of a code, each with six bits of it. -/
def continuing : Nat → Nat → List UInt8
  | 0, _ => []
  | count + 1, code => .ofNat (0x80 + code / 64 ^ count % 64) :: continuing count code

theorem encodeChar_ofNat_one {code : Nat} (ascii : code < 0x80) :
    encodeChar (Char.ofNat code) = [.ofNat code] := by
  have value : (Char.ofNat code).toNat = code := toNat_ofNat_of_small ascii
  unfold encodeChar
  dsimp only
  rw [value, if_pos ascii]

theorem encodeChar_ofNat_two {code : Nat} (low : 0x80 ≤ code) (high : code < 0x800) :
    encodeChar (Char.ofNat code) = .ofNat (0xC0 + code / 64) :: continuing 1 code := by
  have value : (Char.ofNat code).toNat = code := toNat_ofNat (.inl (by omega))
  unfold encodeChar
  dsimp only
  rw [value, if_neg (by omega), if_pos high]
  simp [continuing]

theorem encodeChar_ofNat_three {code : Nat} (low : 0x800 ≤ code) (high : code < 0x10000)
    (valid : code.isValidChar) :
    encodeChar (Char.ofNat code) = .ofNat (0xE0 + code / 4096) :: continuing 2 code := by
  have value : (Char.ofNat code).toNat = code := toNat_ofNat valid
  unfold encodeChar
  dsimp only
  rw [value, if_neg (by omega), if_neg (by omega), if_pos high]
  simp [continuing]

theorem encodeChar_ofNat_four {code : Nat} (low : 0x10000 ≤ code) (high : code < 0x110000) :
    encodeChar (Char.ofNat code) = .ofNat (0xF0 + code / 262144) :: continuing 3 code := by
  have value : (Char.ofNat code).toNat = code := toNat_ofNat (.inr ⟨by omega, high⟩)
  unfold encodeChar
  dsimp only
  rw [value, if_neg (by omega), if_neg (by omega), if_neg (by omega)]
  simp [continuing]

/-- A sequence that lacks `count + 1` bytes is unfinished behind the bytes that it was read from.
Whatever goes on as it allows is the code of a character. -/
structure Opens (front : List UInt8) (bits count low high : Nat) : Prop where
  reads : ∀ rest, decodeFrom none (front ++ rest) =
    decodeFrom (some ⟨bits, count + 1, low, high⟩) rest
  filled : front ≠ []
  range : 0x80 ≤ low ∧ low ≤ high ∧ high ≤ 0xBF
  spells : ∀ code, code / 64 ^ (count + 1) = bits →
    low ≤ 0x80 + code / 64 ^ count % 64 → 0x80 + code / 64 ^ count % 64 ≤ high →
      encodeChar (Char.ofNat code) = front ++ continuing (count + 1) code

/-- The first byte of a sequence opens it. The range of the second byte leaves the codes of
characters that are written with no fewer bytes. -/
theorem Starts.exists_opens {byte : UInt8} {pending : Pending}
    (starts : Starts byte.toNat pending) (first : decodeFirst byte.toNat = ([], some pending)) :
    ∃ bits count low high, Opens [byte] bits count low high := by
  have reads (rest : List UInt8) :
      decodeFrom none ([byte] ++ rest) = decodeFrom (some pending) rest := by
    rw [List.singleton_append, decodeFrom_cons, decodeByte, first, List.nil_append]
  have spelled {value : Nat} (same : value = byte.toNat) : UInt8.ofNat value = byte := by
    rw [same, UInt8.ofNat_toNat]
  cases starts with
  | two low high =>
      refine ⟨_, 0, _, _, reads, List.cons_ne_nil byte [], by omega, ?_⟩
      intro code bits _ _
      rw [encodeChar_ofNat_two (by omega) (by omega), spelled (by omega)]
      rfl
  | three low high =>
      refine ⟨_, 1, _, _, reads, List.cons_ne_nil byte [], by split_ifs <;> omega, ?_⟩
      intro code bits lower upper
      have least : 0x800 ≤ code := by split at lower <;> omega
      have valid : code < 0xD800 ∨ 0xDFFF < code ∧ code < 0x110000 := by split at upper <;> omega
      rw [encodeChar_ofNat_three least (by omega) valid, spelled (by omega)]
      rfl
  | four low high =>
      refine ⟨_, 2, _, _, reads, List.cons_ne_nil byte [], by split_ifs <;> omega, ?_⟩
      intro code bits lower upper
      have least : 0x10000 ≤ code := by split at lower <;> omega
      have below : code < 0x110000 := by split at upper <;> omega
      rw [encodeChar_ofNat_four least below, spelled (by omega)]
      rfl

section Opened

variable {front : List UInt8} {bits count low high : Nat} {byte : UInt8}

/-- A byte that is allowed and not the last one goes on with the sequence. -/
theorem Opens.next (opens : Opens front bits (count + 1) low high) (lower : low ≤ byte.toNat)
    (upper : byte.toNat ≤ high) :
    Opens (front ++ [byte]) (bits * 64 + (byte.toNat - 0x80)) count 0x80 0xBF where
  reads rest := by
    have step : decodeFrom (some ⟨bits, count + 2, low, high⟩) (.ofNat byte.toNat :: rest) =
        decodeFrom (some ⟨bits * 64 + (byte.toNat - 0x80), count + 1, 0x80, 0xBF⟩) rest :=
      decodeFrom_of_more lower upper byte.toNat_lt (Nat.lt_add_left count Nat.one_lt_two) rest
    rw [UInt8.ofNat_toNat] at step
    rw [List.append_assoc, List.singleton_append, opens.reads, step]
  filled := List.append_ne_nil_of_left_ne_nil opens.filled [byte]
  range := by decide
  spells code spelled _ _ := by
    have range := opens.range
    have digit : 0x80 + code / 64 ^ (count + 1) % 64 = byte.toNat := by omega
    have leading : code / 64 ^ (count + 1 + 1) = bits := by
      rw [Nat.pow_succ, ← Nat.div_div_eq_div_mul]
      omega
    rw [opens.spells code leading (digit ▸ lower) (digit ▸ upper), continuing, digit,
      UInt8.ofNat_toNat, List.append_assoc, List.singleton_append]

/-- The last byte makes the code of a character. -/
theorem Opens.last (opens : Opens front bits 0 low high) (lower : low ≤ byte.toNat)
    (upper : byte.toNat ≤ high) :
    encodeChar (Char.ofNat (bits * 64 + (byte.toNat - 0x80))) = front ++ [byte] := by
  have range := opens.range
  have digit : 0x80 + (bits * 64 + (byte.toNat - 0x80)) / 64 ^ 0 % 64 = byte.toNat := by omega
  rw [opens.spells _ (by omega) (by omega) (by omega), continuing, digit, UInt8.ofNat_toNat]
  rfl

/-- Every unfinished sequence can be finished. -/
theorem Opens.begins (opens : Opens front bits count low high) : BeginsChar front := by
  obtain ⟨above, ordered, below⟩ := opens.range
  have positive : 0 < 64 ^ count := Nat.pow_pos (by decide)
  have next : (bits * 64 + (low - 0x80)) * 64 ^ count / 64 ^ count = bits * 64 + (low - 0x80) :=
    Nat.mul_div_cancel _ positive
  have leading : (bits * 64 + (low - 0x80)) * 64 ^ count / 64 ^ (count + 1) = bits := by
    rw [Nat.pow_succ, ← Nat.div_div_eq_div_mul, next]
    omega
  have code := opens.spells _ leading (by rw [next]; omega) (by rw [next]; omega)
  exact ⟨_, continuing (count + 1) _, by rw [← code, encodeChar_eq_utf8EncodeChar]⟩

end Opened

/-! ## Decoding with replacement -/

theorem decodeFrom_of_outside {pending : Pending} {byte : UInt8}
    (outside : ¬ (pending.low ≤ byte.toNat ∧ byte.toNat ≤ pending.high)) (rest : List UInt8) :
    decodeFrom (some pending) (byte :: rest) = none :: decodeFrom none (byte :: rest) := by
  have refused : ¬ (pending.low ≤ byte.toNat && byte.toNat ≤ pending.high) = true := by
    simpa using outside
  rw [decodeFrom_cons, decodeByte, decodeNext, if_neg refused, decodeFrom_cons, decodeByte]
  rfl

/-- What decoding does first with bytes: it gives the character that stands there, or an error for a
broken part. -/
inductive Decodes (bytes : List UInt8) : Prop
  | char (c : Char) (rest : List UInt8) (whole : bytes = encodeChar c ++ rest)
  | broken (front rest : List UInt8) (whole : bytes = front ++ rest) (breaks : Broken front rest)
      (next : decodeFrom none bytes = none :: decodeFrom none rest)

theorem Opens.decodes {front : List UInt8} {bits count low high : Nat}
    (opens : Opens front bits count low high) (rest : List UInt8) : Decodes (front ++ rest) := by
  induction rest generalizing front bits count low high with
  | nil =>
      have failed : decodeFrom none (front ++ []) = [none] := opens.reads []
      exact .broken front [] rfl
        (broken_of_error opens.filled (.inr opens.begins) (failed ▸ rfl) nofun) failed
  | cons byte rest ih =>
      by_cases within : low ≤ byte.toNat ∧ byte.toNat ≤ high
      · have behind : front ++ byte :: rest = (front ++ [byte]) ++ rest := by
          rw [List.append_assoc, List.singleton_append]
        cases count with
        | zero => exact .char _ rest (behind.trans (by rw [opens.last within.1 within.2]))
        | succ count => exact behind ▸ ih (opens.next within.1 within.2)
      · have failed (more : List UInt8) :
            decodeFrom none (front ++ byte :: more) = none :: decodeFrom none (byte :: more) :=
          (opens.reads _).trans (decodeFrom_of_outside within more)
        refine .broken front (byte :: rest) rfl ?_ (failed rest)
        refine broken_of_error opens.filled (.inr opens.begins) (failed rest ▸ rfl) ?_
        rintro _ ⟨⟩ more
        exact failed more ▸ rfl

theorem decodes_cons (byte : UInt8) (rest : List UInt8) : Decodes (byte :: rest) := by
  rcases decodeFirst_cases byte.toNat with ⟨ascii, first⟩ | first | ⟨pending, starts, first⟩
  · refine .char (Char.ofNat byte.toNat) rest ?_
    rw [encodeChar_ofNat_one ascii, UInt8.ofNat_toNat, List.singleton_append]
  · have failed (more : List UInt8) :
        decodeFrom none (byte :: more) = none :: decodeFrom none more := by
      rw [decodeFrom_cons, decodeByte, first, List.singleton_append]
    refine .broken [byte] rest rfl ?_ (failed rest)
    refine broken_of_error (List.cons_ne_nil byte []) (.inl rfl) (failed rest ▸ rfl) ?_
    intro next _ more
    exact failed (next :: more) ▸ rfl
  · obtain ⟨bits, count, low, high, opens⟩ := starts.exists_opens first
    exact opens.decodes rest

theorem decodeReplacing_encodeChar (c : Char) (rest : List UInt8) :
    decodeReplacing (encodeChar c ++ rest) = c :: decodeReplacing rest := by
  rw [decodeReplacing, decodeFrom_encodeChar]
  rfl

theorem decodeReplacing_of_error {bytes rest : List UInt8}
    (failed : decodeFrom none bytes = none :: decodeFrom none rest) :
    decodeReplacing bytes = replacement :: decodeReplacing rest := by
  rw [decodeReplacing, failed]
  rfl

theorem replaces_decodeReplacing (bytes : List UInt8) : Replaces bytes (decodeReplacing bytes) := by
  induction size : bytes.length using Nat.strongRecOn generalizing bytes with
  | _ total ih =>
      cases bytes with
      | nil => exact .nil
      | cons byte rest =>
          cases decodes_cons byte rest with
          | char c behind whole =>
              have shorter := List.length_pos_iff.mpr (encodeChar_ne_nil c)
              rw [whole, List.length_append] at size
              rw [whole, decodeReplacing_encodeChar, encodeChar_eq_utf8EncodeChar]
              exact .char c (ih behind.length (by omega) behind rfl)
          | broken front behind whole breaks failed =>
              have shorter := List.length_pos_iff.mpr breaks.filled
              rw [whole, List.length_append] at size
              rw [decodeReplacing_of_error failed, whole]
              exact .broken breaks (ih behind.length (by omega) behind rfl)

section Broken

variable {front rest front' rest' : List UInt8}

theorem Broken.length_le (breaks : Broken front rest) (other : Broken front' rest')
    (same : front ++ rest = front' ++ rest') : front.length ≤ front'.length := by
  rcases breaks.begins with single | begins
  · rw [single]
    exact List.length_pos_iff.mpr other.filled
  · exact other.longest front (same ▸ List.prefix_append front rest) begins

/-- The same bytes have one broken part in front. -/
theorem Broken.unique (breaks : Broken front rest) (other : Broken front' rest')
    (same : front ++ rest = front' ++ rest') : front = front' ∧ rest = rest' :=
  List.append_inj same (Nat.le_antisymm (breaks.length_le other same)
    (other.length_le breaks same.symm))

theorem decodeReplacing_of_broken (breaks : Broken front rest) :
    decodeReplacing (front ++ rest) = replacement :: decodeReplacing rest := by
  obtain ⟨byte, front, rfl⟩ := List.exists_cons_of_ne_nil breaks.filled
  cases decodes_cons byte (front ++ rest) with
  | char c behind whole =>
      rw [encodeChar_eq_utf8EncodeChar] at whole
      exact absurd ⟨behind, whole.symm⟩ (breaks.no_char c)
  | broken front' rest' whole others failed =>
      obtain ⟨_, rfl⟩ := breaks.unique others whole
      exact decodeReplacing_of_error failed

end Broken

/-- **Decoding replaces each broken part by one character**, and leaves all others. -/
theorem replaces_iff {bytes : List UInt8} {text : Text} :
    Replaces bytes text ↔ text = decodeReplacing bytes := by
  constructor
  · intro replaces
    induction replaces with
    | nil => rfl
    | char c later ih => rw [← encodeChar_eq_utf8EncodeChar, decodeReplacing_encodeChar, ← ih]
    | broken breaks later ih => rw [decodeReplacing_of_broken breaks, ← ih]
  · rintro rfl
    exact replaces_decodeReplacing bytes

end ReviewGate.Text
