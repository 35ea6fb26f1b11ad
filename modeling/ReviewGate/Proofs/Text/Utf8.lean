import Mathlib.Data.List.Basic
import ReviewGate.Text.Utf8

/-!
# Decoding UTF-8

No byte below 0x80 continues an unfinished sequence, so it ends one with an error and stands for
itself, whatever stands in front of it and behind it (`decodeFrom_append_cons`). The other way
round, the code of a sequence of several bytes is never below 0x80 (`Pending.Beyond`): the range of
the second byte excludes the overlong forms. So a byte completes a character below 0x80 only when it
is that character (`eq_of_mem_decodeByte`).

What is encoded, as the library does it, is decoded to the text that it was
(`decodeReplacing_encode`).
-/

set_option autoImplicit false

namespace ReviewGate.Text

/-! ## First bytes -/

/-- The first byte of a sequence of two. -/
theorem decodeFirst_of_two {byte : Nat} (low : 0xC2 ≤ byte) (high : byte < 0xE0) :
    decodeFirst byte = ([], some ⟨byte - 0xC0, 1, 0x80, 0xBF⟩) := by
  unfold decodeFirst
  rw [if_neg (by omega), if_neg (by omega), if_pos high]

/-- The first byte of a sequence of three. The next one excludes overlong forms and surrogates. -/
theorem decodeFirst_of_three {byte : Nat} (low : 0xE0 ≤ byte) (high : byte < 0xF0) :
    decodeFirst byte = ([], some ⟨byte - 0xE0, 2, if byte = 0xE0 then 0xA0 else 0x80,
      if byte = 0xED then 0x9F else 0xBF⟩) := by
  unfold decodeFirst
  rw [if_neg (by omega), if_neg (by omega), if_neg (by omega)]
  by_cases least : byte = 0xE0
  · subst least
    rfl
  by_cases surrogates : byte = 0xED
  · subst surrogates
    rfl
  · rw [if_neg least, if_neg surrogates, if_pos high, if_neg least, if_neg surrogates]

/-- The first byte of a sequence of four. The next one excludes overlong forms and codes beyond the
last character. -/
theorem decodeFirst_of_four {byte : Nat} (low : 0xF0 ≤ byte) (high : byte ≤ 0xF4) :
    decodeFirst byte = ([], some ⟨byte - 0xF0, 3, if byte = 0xF0 then 0x90 else 0x80,
      if byte = 0xF4 then 0x8F else 0xBF⟩) := by
  unfold decodeFirst
  rw [if_neg (by omega), if_neg (by omega), if_neg (by omega), if_neg (by omega), if_neg (by omega),
    if_neg (by omega)]
  by_cases least : byte = 0xF0
  · subst least
    rfl
  by_cases last : byte = 0xF4
  · subst last
    rfl
  · rw [if_neg least, if_pos (by omega), if_neg least, if_neg last]

/-- A first byte starts a sequence of two, three or four bytes, of which it leaves the others. -/
inductive Starts (byte : Nat) : Pending → Prop
  | two (low : 0xC2 ≤ byte) (high : byte < 0xE0) : Starts byte ⟨byte - 0xC0, 1, 0x80, 0xBF⟩
  | three (low : 0xE0 ≤ byte) (high : byte < 0xF0) :
      Starts byte ⟨byte - 0xE0, 2, if byte = 0xE0 then 0xA0 else 0x80,
        if byte = 0xED then 0x9F else 0xBF⟩
  | four (low : 0xF0 ≤ byte) (high : byte ≤ 0xF4) :
      Starts byte ⟨byte - 0xF0, 3, if byte = 0xF0 then 0x90 else 0x80,
        if byte = 0xF4 then 0x8F else 0xBF⟩

/-- A first byte is a character below 0x80, an error, or the start of a sequence. -/
theorem decodeFirst_cases (byte : Nat) :
    (byte < 0x80 ∧ decodeFirst byte = ([some (Char.ofNat byte)], none)) ∨
      decodeFirst byte = ([none], none) ∨
      ∃ pending, Starts byte pending ∧ decodeFirst byte = ([], some pending) := by
  by_cases one : byte < 0x80
  · exact .inl ⟨one, if_pos one⟩
  by_cases continuing : byte < 0xC2
  · exact .inr (.inl (by rw [decodeFirst, if_neg one, if_pos continuing]))
  by_cases two : byte < 0xE0
  · exact .inr (.inr ⟨_, .two (by omega) two, decodeFirst_of_two (by omega) two⟩)
  by_cases three : byte < 0xF0
  · exact .inr (.inr ⟨_, .three (by omega) three, decodeFirst_of_three (by omega) three⟩)
  by_cases four : byte ≤ 0xF4
  · exact .inr (.inr ⟨_, .four (by omega) four, decodeFirst_of_four (by omega) four⟩)
  · refine .inr (.inl ?_)
    rw [decodeFirst, if_neg one, if_neg continuing, if_neg two, if_neg (by omega),
      if_neg (by omega), if_neg three, if_neg (by omega), if_neg (by omega), if_neg (by omega)]

/-! ## Unfinished sequences -/

/-- An unfinished sequence that is continued by no byte below 0x80 and whose code is not below 0x80,
however it is continued: either the bits so far are enough, or the next byte makes them enough and
is not the last one. -/
structure Pending.Beyond (pending : Pending) : Prop where
  low : 0x80 ≤ pending.low
  bits : 2 ≤ pending.bits ∨ 2 ≤ pending.needed ∧ (1 ≤ pending.bits ∨ 0x82 ≤ pending.low)

/-- A state in which an unfinished sequence leads beyond 0x80. -/
def LeadsBeyond (state : Option Pending) : Prop := ∀ pending ∈ state, pending.Beyond

theorem leadsBeyond_none : LeadsBeyond none := nofun

theorem Starts.beyond {byte : Nat} {pending : Pending} (starts : Starts byte pending) :
    pending.Beyond := by
  cases starts with
  | two low high => exact ⟨Nat.le_refl _, by dsimp only; omega⟩
  | three low high => exact ⟨by dsimp only; split <;> omega, by dsimp only; split <;> omega⟩
  | four low high => exact ⟨by dsimp only; split <;> omega, by dsimp only; split <;> omega⟩

/-- A byte behind an unfinished sequence finishes or continues it, unless it is an error there and
is read as a first byte. -/
theorem decodeNext_cases {pending : Pending} (beyond : pending.Beyond) (byte : Nat) :
    (0x80 ≤ byte ∧ ∃ code, 0x80 ≤ code ∧
        decodeNext pending byte = ([some (Char.ofNat code)], none)) ∨
      (0x80 ≤ byte ∧ ∃ next : Pending, next.Beyond ∧ decodeNext pending byte = ([], some next)) ∨
      decodeNext pending byte = (none :: (decodeFirst byte).1, (decodeFirst byte).2) := by
  obtain ⟨low, bits⟩ := beyond
  unfold decodeNext
  split
  next within =>
    simp only [Bool.and_eq_true, decide_eq_true_eq] at within
    have behind : 0x80 ≤ byte := by omega
    dsimp only
    split
    next last => exact .inl ⟨behind, _, by omega, rfl⟩
    next more =>
      refine .inr (.inl ⟨behind, _, ⟨Nat.le_refl _, .inl ?_⟩, rfl⟩)
      dsimp only
      omega
  next => exact .inr (.inr rfl)

variable {state : Option Pending}

/-- What a byte makes of a state: below 0x80 it stands for itself, behind an error if a sequence was
unfinished. -/
theorem decodeByte_of_ascii (beyond : LeadsBeyond state) {byte : Nat} (ascii : byte < 0x80) :
    decodeByte state byte =
      ((if state.isSome then [none] else []) ++ [some (Char.ofNat byte)], none) := by
  have first : decodeFirst byte = ([some (Char.ofNat byte)], none) := if_pos ascii
  cases state with
  | none => exact first
  | some pending =>
      rcases decodeNext_cases (beyond pending rfl) byte with ⟨big, _⟩ | ⟨big, _⟩ | same
      · omega
      · omega
      · rw [decodeByte, same, first]
        rfl

theorem leadsBeyond_decodeByte (beyond : LeadsBeyond state) (byte : Nat) :
    LeadsBeyond (decodeByte state byte).2 := by
  have first : LeadsBeyond (decodeFirst byte).2 := by
    rcases decodeFirst_cases byte with ⟨_, same⟩ | same | ⟨next, starts, same⟩ <;> rw [same]
    · exact nofun
    · exact nofun
    · exact fun _ member => Option.some.inj member ▸ starts.beyond
  cases state with
  | none => exact first
  | some pending =>
      rcases decodeNext_cases (beyond pending rfl) byte with
        ⟨_, _, _, same⟩ | ⟨_, next, after, same⟩ | same <;> rw [decodeByte, same]
      · exact nofun
      · exact fun _ member => Option.some.inj member ▸ after
      · exact first

theorem toNat_ofNat {code : Nat} (valid : code.isValidChar) : (Char.ofNat code).toNat = code := by
  rw [Char.ofNat, dif_pos valid]
  rfl

theorem toNat_ofNat_of_small {code : Nat} (small : code < 0x80) : (Char.ofNat code).toNat = code :=
  toNat_ofNat (.inl (by omega))

/-- No code from 0x80 on is that of a character below, except that codes of no character are taken
for 0. -/
theorem ofNat_ne_of_ascii {code : Nat} {c : Char} (big : 0x80 ≤ code) (filled : 0 < c.toNat)
    (ascii : c.toNat < 0x80) : Char.ofNat code ≠ c := by
  rintro rfl
  by_cases valid : code.isValidChar
  · rw [toNat_ofNat valid] at ascii
    exact absurd ascii (Nat.not_lt.mpr big)
  · rw [Char.ofNat, dif_neg valid] at filled
    cases filled

/-- A byte completes a character below 0x80 only when it is that character. -/
theorem eq_of_mem_decodeByte (beyond : LeadsBeyond state) {byte : Nat} {c : Char}
    (filled : 0 < c.toNat) (ascii : c.toNat < 0x80)
    (member : some c ∈ (decodeByte state byte).1) : byte = c.toNat := by
  have first (member : some c ∈ (decodeFirst byte).1) : byte = c.toNat := by
    rcases decodeFirst_cases byte with ⟨small, same⟩ | same | ⟨_, _, same⟩ <;> rw [same] at member
    · cases Option.some.inj (List.mem_singleton.mp member)
      exact (toNat_ofNat_of_small (by omega)).symm
    · cases List.mem_singleton.mp member
    · cases member
  cases state with
  | none => exact first member
  | some pending =>
      rcases decodeNext_cases (beyond pending rfl) byte with
        ⟨_, code, big, same⟩ | ⟨_, _, _, same⟩ | same <;> rw [decodeByte, same] at member
      · have completed : c = Char.ofNat code := Option.some.inj (List.mem_singleton.mp member)
        exact absurd completed.symm (ofNat_ne_of_ascii big filled ascii)
      · cases member
      · exact first ((List.mem_cons.mp member).resolve_left nofun)

/-! ## Bytes below 0x80 -/

theorem decodeFrom_cons (state : Option Pending) (byte : UInt8) (rest : List UInt8) :
    decodeFrom state (byte :: rest) =
      (decodeByte state byte.toNat).1 ++ decodeFrom (decodeByte state byte.toNat).2 rest := rfl

/-- **A byte below 0x80 stands for itself** and keeps what stands in front of it apart from what
stands behind it. -/
theorem decodeFrom_append_cons (beyond : LeadsBeyond state) {byte : UInt8}
    (ascii : byte.toNat < 0x80) (front rest : List UInt8) :
    decodeFrom state (front ++ byte :: rest) =
      decodeFrom state front ++ some (Char.ofNat byte.toNat) :: decodeFrom none rest := by
  induction front generalizing state with
  | nil =>
      rw [List.nil_append, decodeFrom_cons, decodeByte_of_ascii beyond ascii, List.append_assoc]
      rfl
  | cons first front ih =>
      rw [List.cons_append, decodeFrom_cons, ih (leadsBeyond_decodeByte beyond first.toNat),
        decodeFrom_cons, List.append_assoc]

section Head

variable {c : Char}

/-- No character below 0x80 comes first where a sequence is unfinished. -/
theorem head?_decodeFrom_of_beyond (filled : 0 < c.toNat) (ascii : c.toNat < 0x80)
    {pending : Pending} (beyond : pending.Beyond) (bytes : List UInt8) :
    (decodeFrom (some pending) bytes).head? ≠ some (some c) := by
  induction bytes generalizing pending with
  | nil => exact nofun
  | cons byte rest ih =>
      rw [decodeFrom_cons, decodeByte]
      rcases decodeNext_cases beyond byte.toNat with
        ⟨_, code, big, same⟩ | ⟨_, next, after, same⟩ | same <;> rw [same]
      · intro head
        exact ofNat_ne_of_ascii big filled ascii (Option.some.inj (Option.some.inj head))
      · exact ih after
      · exact nofun

/-- A character below 0x80 comes first only where it is the first byte. -/
theorem eq_of_head?_decodeFrom (filled : 0 < c.toNat) (ascii : c.toNat < 0x80) {byte : UInt8}
    {rest : List UInt8} (head : (decodeFrom none (byte :: rest)).head? = some (some c)) :
    byte.toNat = c.toNat := by
  rw [decodeFrom_cons, decodeByte] at head
  rcases decodeFirst_cases byte.toNat with ⟨small, same⟩ | same | ⟨pending, starts, same⟩ <;>
    rw [same] at head
  · cases Option.some.inj (Option.some.inj head)
    exact (toNat_ofNat_of_small (by omega)).symm
  · cases Option.some.inj head
  · exact absurd head (head?_decodeFrom_of_beyond filled ascii starts.beyond rest)

end Head

/-! ## Encoded texts -/

/-- Encoding is the library's. -/
theorem encodeChar_eq_utf8EncodeChar (c : Char) : encodeChar c = String.utf8EncodeChar c := by
  have bound : c.toNat < 0x110000 := by
    rcases c.valid with low | ⟨_, below⟩
    · exact Nat.lt_trans low (by decide)
    · exact below
  unfold encodeChar String.utf8EncodeChar Char.toNat
  rw [Char.toNat] at bound
  generalize c.val.toNat = code at bound ⊢
  dsimp only
  by_cases one : code < 0x80
  · rw [if_pos one, if_pos (by omega)]
  by_cases two : code < 0x800
  · have first : 0xC0 + code / 64 = code / 64 % 32 + 192 := by omega
    rw [if_neg one, if_pos two, if_neg (by omega), if_pos (by omega), first, Nat.add_comm 0x80]
  by_cases three : code < 0x10000
  · have first : 0xE0 + code / 4096 = code / 4096 % 16 + 224 := by omega
    rw [if_neg one, if_neg two, if_pos three, if_neg (by omega), if_neg (by omega),
      if_pos (by omega), first, Nat.add_comm 0x80, Nat.add_comm 0x80]
  · have first : 0xF0 + code / 262144 = code / 262144 % 8 + 240 := by omega
    rw [if_neg one, if_neg two, if_neg three, if_neg (by omega), if_neg (by omega),
      if_neg (by omega), first, Nat.add_comm 0x80, Nat.add_comm 0x80, Nat.add_comm 0x80]

section Sequence

variable {byte bits needed low high : Nat}

theorem decodeFrom_of_first {pending : Pending} (small : byte < 256)
    (first : decodeFirst byte = ([], some pending)) (rest : List UInt8) :
    decodeFrom none (.ofNat byte :: rest) = decodeFrom (some pending) rest := by
  rw [decodeFrom_cons, UInt8.toNat_ofNat_of_lt' small, decodeByte, first, List.nil_append]

theorem decodeFrom_of_more (lower : low ≤ byte) (upper : byte ≤ high) (small : byte < 256)
    (more : 1 < needed) (rest : List UInt8) :
    decodeFrom (some ⟨bits, needed, low, high⟩) (.ofNat byte :: rest) =
      decodeFrom (some ⟨bits * 64 + (byte - 0x80), needed - 1, 0x80, 0xBF⟩) rest := by
  have within : (low ≤ byte && byte ≤ high) = true := by simp [lower, upper]
  rw [decodeFrom_cons, UInt8.toNat_ofNat_of_lt' small, decodeByte, decodeNext, if_pos within,
    if_neg (Nat.not_le.mpr more), List.nil_append]

theorem decodeFrom_of_last (lower : low ≤ byte) (upper : byte ≤ high) (small : byte < 256)
    (rest : List UInt8) :
    decodeFrom (some ⟨bits, 1, low, high⟩) (.ofNat byte :: rest) =
      some (Char.ofNat (bits * 64 + (byte - 0x80))) :: decodeFrom none rest := by
  have within : (low ≤ byte && byte ≤ high) = true := by simp [lower, upper]
  rw [decodeFrom_cons, UInt8.toNat_ofNat_of_lt' small, decodeByte, decodeNext, if_pos within,
    if_pos (Nat.le_refl 1), List.singleton_append]

end Sequence

/-- **The bytes of a character are decoded to it**, whatever stands behind them. -/
theorem decodeFrom_encodeChar (c : Char) (rest : List UInt8) :
    decodeFrom none (encodeChar c ++ rest) = some c :: decodeFrom none rest := by
  have valid : c.toNat < 0xD800 ∨ 0xDFFF < c.toNat ∧ c.toNat < 0x110000 := c.valid
  have same := Char.ofNat_toNat c
  unfold encodeChar
  generalize c.toNat = code at valid same ⊢
  subst same
  dsimp only
  split_ifs with one two three
  · rw [List.singleton_append, decodeFrom_cons,
      UInt8.toNat_ofNat_of_lt' (Nat.lt_trans one (by decide)), decodeByte, decodeFirst, if_pos one,
      List.singleton_append]
  · have whole : (0xC0 + code / 64 - 0xC0) * 64 + (0x80 + code % 64 - 0x80) = code := by omega
    rw [List.cons_append, List.singleton_append,
      decodeFrom_of_first (by omega) (decodeFirst_of_two (by omega) (by omega)),
      decodeFrom_of_last (by omega) (by omega) (by omega), whole]
  · have whole : ((0xE0 + code / 4096 - 0xE0) * 64 + (0x80 + code / 64 % 64 - 0x80)) * 64 +
        (0x80 + code % 64 - 0x80) = code := by omega
    rw [List.cons_append, List.cons_append, List.singleton_append,
      decodeFrom_of_first (by omega) (decodeFirst_of_three (by omega) (by omega)),
      decodeFrom_of_more (by split <;> omega) (by split <;> omega) (by omega) (by omega),
      decodeFrom_of_last (by omega) (by omega) (by omega), whole]
  · have whole : (((0xF0 + code / 262144 - 0xF0) * 64 + (0x80 + code / 4096 % 64 - 0x80)) * 64 +
        (0x80 + code / 64 % 64 - 0x80)) * 64 + (0x80 + code % 64 - 0x80) = code := by omega
    rw [List.cons_append, List.cons_append, List.cons_append, List.singleton_append,
      decodeFrom_of_first (by omega) (decodeFirst_of_four (by omega) (by omega)),
      decodeFrom_of_more (by split <;> omega) (by split <;> omega) (by omega) (by omega),
      decodeFrom_of_more (by omega) (by omega) (by omega) (by omega),
      decodeFrom_of_last (by omega) (by omega) (by omega), whole]

theorem decodeFrom_encode (text : Text) : decodeFrom none (encode text) = text.map some := by
  induction text with
  | nil => rfl
  | cons c text ih =>
      rw [encode, List.flatMap_cons, decodeFrom_encodeChar, ← encode, ih, List.map_cons]

/-- **What is encoded is decoded to the text that it was.** -/
theorem decodeReplacing_encode (text : Text) : decodeReplacing (encode text) = text := by
  rw [decodeReplacing, decodeFrom_encode, List.map_map]
  exact List.map_id text

theorem encode_eq_flatMap (text : Text) : encode text = text.flatMap String.utf8EncodeChar := by
  rw [encode, funext encodeChar_eq_utf8EncodeChar]

end ReviewGate.Text
