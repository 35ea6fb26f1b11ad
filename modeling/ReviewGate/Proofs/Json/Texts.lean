import Mathlib.Tactic.SplitIfs
import ReviewGate.Json.Printer
import ReviewGate.Json.Reader

/-!
# Written texts are read back

A character is written in one of two ways: as itself, or as an escape, which is a backslash and an
ASCII text that the reader takes for that character (`writeChar_cases`). The two charsets differ
only in which characters they escape, so one proof serves both. Where a character is escaped by its
code, the code is one UTF-16 unit that is no surrogate, or else a pair of surrogates from which the
code is computed back (`readEscape?_escapeCode`).
-/

set_option autoImplicit false

namespace ReviewGate.Json

/-! ## Codes -/

theorem hexValue?_hexDigit : ∀ value < 16, hexValue? (hexDigit value) = some value := by
  decide

theorem toNat_hexDigit_lt : ∀ value < 16, (hexDigit value).toNat < 128 := by
  decide

/-- A unit is read from its four digits. -/
theorem readUnit?_escapeUnit {unit : Nat} (small : unit < 0x10000) (rest : Text) :
    readUnit? ((escapeUnit unit).drop 2 ++ rest) = some (unit, rest) := by
  have digit (value : Nat) : hexValue? (hexDigit (value % 16)) = some (value % 16) :=
    hexValue?_hexDigit _ (Nat.mod_lt value (by decide))
  have whole : unit / 4096 % 16 * 4096 + unit / 256 % 16 * 256 + unit / 16 % 16 * 16 + unit % 16 =
      unit := by omega
  simp [escapeUnit, readUnit?, digit, whole]

/-- The code of a character is no surrogate. -/
theorem toNat_cases (c : Char) :
    c.toNat < 0xD800 ∨ 0xE000 ≤ c.toNat ∧ c.toNat < 0x110000 := by
  rcases c.valid with low | ⟨above, below⟩
  · exact .inl low
  · exact .inr ⟨Nat.succ_le_of_lt above, below⟩

/-- The twenty bits above the first plane are shared between the two units of a pair. -/
theorem readLowUnit?_escapeUnit {bits : Nat} (small : bits < 0x100000) (rest : Text) :
    readLowUnit? (0xD800 + bits / 0x400) (escapeUnit (0xDC00 + bits % 0x400) ++ rest) =
      some (Char.ofNat (0x10000 + bits), rest) := by
  have read : readUnit? ((escapeUnit (0xDC00 + bits % 0x400)).drop 2 ++ rest) =
      some (0xDC00 + bits % 0x400, rest) := readUnit?_escapeUnit (by omega) rest
  have low : 0xDC00 ≤ 0xDC00 + bits % 0x400 ∧ 0xDC00 + bits % 0x400 < 0xE000 := by omega
  have whole : 0x10000 + (0xD800 + bits / 0x400 - 0xD800) * 0x400 +
      (0xDC00 + bits % 0x400 - 0xDC00) = 0x10000 + bits := by omega
  change (readUnit? ((escapeUnit (0xDC00 + bits % 0x400)).drop 2 ++ rest)).bind _ = _
  rw [read, ← whole]
  simp [low]

/-- An escape by code is read as the character. -/
theorem readEscape?_escapeCode (c : Char) (rest : Text) :
    readEscape? ((escapeCode c).tail ++ rest) = some (c, rest) := by
  have valid := toNat_cases c
  by_cases single : c.toNat < 0x10000
  · have read : readUnit? ((escapeUnit c.toNat).drop 2 ++ rest) = some (c.toNat, rest) :=
      readUnit?_escapeUnit single rest
    have high : ¬(0xD800 ≤ c.toNat ∧ c.toNat < 0xDC00) := by omega
    have low : ¬(0xDC00 ≤ c.toNat ∧ c.toNat < 0xE000) := by omega
    rw [escapeCode, if_pos single]
    change (readUnit? ((escapeUnit c.toNat).drop 2 ++ rest)).bind _ = _
    rw [read]
    simp [high, low]
  · obtain ⟨bits, code, small⟩ : ∃ bits, c.toNat = 0x10000 + bits ∧ bits < 0x100000 :=
      ⟨c.toNat - 0x10000, by omega, by omega⟩
    have read : readUnit? ((escapeUnit (0xD800 + bits / 0x400)).drop 2 ++
          (escapeUnit (0xDC00 + bits % 0x400) ++ rest)) =
        some (0xD800 + bits / 0x400, escapeUnit (0xDC00 + bits % 0x400) ++ rest) :=
      readUnit?_escapeUnit (by omega) _
    have high : 0xD800 ≤ 0xD800 + bits / 0x400 ∧ 0xD800 + bits / 0x400 < 0xDC00 := by omega
    rw [escapeCode, if_neg single, code, Nat.add_sub_cancel_left]
    change (readUnit? ((escapeUnit (0xD800 + bits / 0x400)).drop 2 ++
      escapeUnit (0xDC00 + bits % 0x400) ++ rest)).bind _ = _
    rw [List.append_assoc, read]
    simp [high, readLowUnit?_escapeUnit small, ← code]

/-! ## Characters -/

/-- The characters beyond ASCII. -/
def isWide (c : Char) : Bool :=
  128 ≤ c.toNat

theorem isWide_of_mem_escapeUnit {unit : Nat} {d : Char} (member : d ∈ escapeUnit unit) :
    isWide d = false := by
  have digit (value : Nat) : isWide (hexDigit (value % 16)) = false :=
    decide_eq_false (Nat.not_le.mpr (toNat_hexDigit_lt _ (Nat.mod_lt value (by decide))))
  simp only [escapeUnit, List.mem_cons, List.not_mem_nil, or_false] at member
  rcases member with rfl | rfl | rfl | rfl | rfl | rfl
  · rfl
  · rfl
  all_goals exact digit _

theorem isWide_of_mem_escapeCode {c d : Char} (member : d ∈ escapeCode c) : isWide d = false := by
  rw [escapeCode] at member
  split at member
  · exact isWide_of_mem_escapeUnit member
  · exact (List.mem_append.mp member).elim isWide_of_mem_escapeUnit isWide_of_mem_escapeUnit

theorem cons_tail_escapeCode (c : Char) : escapeCode c = '\\' :: (escapeCode c).tail := by
  rw [escapeCode]
  split <;> rfl

/-- An escape, behind its backslash, that stands for a character. -/
structure IsEscape (c : Char) (escape : Text) : Prop where
  read (rest : Text) : readEscape? (escape ++ rest) = some (c, rest)
  narrow : ∀ d ∈ escape, isWide d = false

/-- **A character is written as itself or as an escape.** A charset has no escape for a character
beyond ASCII that it allows. -/
theorem writeChar_cases (charset : Charset) (c : Char) :
    (writeChar charset c = [c] ∧ charset.allows c = true ∧ c ≠ '"' ∧ c ≠ '\\') ∨
      ∃ escape, writeChar charset c = '\\' :: escape ∧ IsEscape c escape ∧
        (charset.allows c = true → isWide c = false) := by
  have named {sign : Char} (letter : Char) (read : ∀ rest, readEscape? (letter :: rest) =
      some (sign, rest)) (narrow : isWide letter = false) (ascii : isWide sign = false) :
      ∃ escape, ['\\', letter] = '\\' :: escape ∧ IsEscape sign escape ∧
        (charset.allows sign = true → isWide sign = false) :=
    ⟨[letter], rfl, ⟨read, by simpa using narrow⟩, fun _ => ascii⟩
  rw [writeChar]
  split_ifs with quote backslash newline returned tab back feed allowed
  · exact .inr (quote ▸ named '"' (fun _ => rfl) rfl rfl)
  · exact .inr (backslash ▸ named '\\' (fun _ => rfl) rfl rfl)
  · exact .inr (newline ▸ named 'n' (fun _ => rfl) rfl rfl)
  · exact .inr (returned ▸ named 'r' (fun _ => rfl) rfl rfl)
  · exact .inr (tab ▸ named 't' (fun _ => rfl) rfl rfl)
  · have same : Char.ofNat 8 = c := back ▸ Char.ofNat_toNat c
    exact .inr (same ▸ named 'b' (fun _ => rfl) rfl rfl)
  · have same : Char.ofNat 12 = c := feed ▸ Char.ofNat_toNat c
    exact .inr (same ▸ named 'f' (fun _ => rfl) rfl rfl)
  · exact .inl ⟨rfl, allowed, quote, backslash⟩
  · exact .inr ⟨(escapeCode c).tail, cons_tail_escapeCode c, ⟨readEscape?_escapeCode c,
      fun d member => isWide_of_mem_escapeCode (List.mem_of_mem_tail member)⟩,
      fun allows => absurd allows allowed⟩

theorem le_toNat_of_allows {charset : Charset} {c : Char} (allows : charset.allows c = true) :
    32 ≤ c.toNat := by
  cases charset <;> simp_all [Charset.allows]

/-- The form of a character is read as that character. -/
theorem readChars?_writeChar (charset : Charset) (c : Char) (bound : Nat) (rest : Text) :
    readChars? (bound + 1) (writeChar charset c ++ rest) =
      (readChars? bound rest).map fun (chars, rest) => (c :: chars, rest) := by
  rcases writeChar_cases charset c with ⟨same, allows, quote, backslash⟩ | ⟨escape, same, means, _⟩
  · have printable : ¬c.toNat < 32 := Nat.not_lt.mpr (le_toNat_of_allows allows)
    rw [same, List.singleton_append, readChars?, if_neg printable, Option.map_eq_bind]
    · rfl
    · exact quote
    · exact backslash
  · rw [same, List.cons_append, readChars?, means.read, Option.map_eq_bind]
    rfl

/-! ## Texts -/

theorem length_writeChar_pos (charset : Charset) (c : Char) :
    0 < (writeChar charset c).length := by
  rcases writeChar_cases charset c with ⟨same, _⟩ | ⟨escape, same, _⟩ <;> simp [same]

/-- The characters of a text are read up to the quote behind them. -/
theorem readChars?_flatMap (charset : Charset) (rest text : Text) (bound : Nat)
    (enough : (text.flatMap (writeChar charset)).length < bound) :
    readChars? bound (text.flatMap (writeChar charset) ++ '"' :: rest) = some (text, rest) := by
  induction text generalizing bound with
  | nil =>
      obtain ⟨more, rfl⟩ := Nat.exists_eq_add_of_lt enough
      rw [List.flatMap_nil, List.nil_append, readChars?]
  | cons c text ih =>
      obtain ⟨more, rfl⟩ : ∃ more, bound = more + 1 := ⟨bound - 1, by omega⟩
      have shorter : (text.flatMap (writeChar charset)).length < more := by
        have positive := length_writeChar_pos charset c
        rw [List.flatMap_cons, List.length_append] at enough
        omega
      rw [List.flatMap_cons, List.append_assoc, readChars?_writeChar, ih more shorter]
      rfl

/-- **A written text is read as the text.** -/
theorem readText?_writeText (charset : Charset) (text rest : Text) :
    readText? ((writeText charset text).tail ++ rest) = some (text, rest) := by
  rw [writeText, List.cons_append, List.tail_cons, List.append_assoc, List.singleton_append,
    readText?]
  exact readChars?_flatMap charset rest text _ (by rw [List.length_append]; omega)

end ReviewGate.Json
