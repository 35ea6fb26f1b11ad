import ReviewGate.Files.Reading
import ReviewGate.Proofs.Budget.Accounting
import ReviewGate.Proofs.Files.Following
import ReviewGate.Proofs.Text.LineEnd
import ReviewGate.Proofs.Text.Lines
import ReviewGate.Proofs.Text.Replacement

/-!
# The lines of a file

The bytes of a file are cut into rows at their line ends (`rows`), and the lines of the text that
the file is read as are these rows, each decoded on its own (`lines_sourceText`). So a sequence that
breaks off in front of a line end costs its own row a character, and there is a line for every row
whatever the bytes are (`readSource_readFrom`).

The induction goes from byte to byte with the unfinished sequence as its state. What is unfinished
belongs to the first row alone (`decodeRows`), since a line end finishes it.
-/

set_option autoImplicit false

namespace ReviewGate.Files

open Text (LeadsBeyond Pending decodeByte decodeFrom decodeReplacing lines withNewlines)

/-! ## Rows -/

/-- The number of line ends: pairs of carriage return and newline, and each of them alone. -/
def lineEnds : List UInt8 → Nat
  | [] => 0
  | 0x0D :: 0x0A :: rest => lineEnds rest + 1
  | 0x0D :: rest => lineEnds rest + 1
  | 0x0A :: rest => lineEnds rest + 1
  | _ :: rest => lineEnds rest

/-- The rows of bytes between line ends. -/
def rows : List UInt8 → List (List UInt8)
  | [] => [[]]
  | 0x0D :: 0x0A :: rest => [] :: rows rest
  | 0x0D :: rest => [] :: rows rest
  | 0x0A :: rest => [] :: rows rest
  | byte :: rest => (rows rest).modifyHead (byte :: ·)

theorem length_rows (bytes : List UInt8) : (rows bytes).length = lineEnds bytes + 1 := by
  fun_induction rows bytes with
  | case1 => rfl
  | case2 rest ih => simp [lineEnds, ih]
  | case3 rest alone ih => simp [lineEnds, ih]
  | case4 rest ih => simp [lineEnds, ih]
  | case5 byte rest pair ret newline ih =>
      simp [lineEnds, ih]

theorem rows_ne_nil (bytes : List UInt8) : rows bytes ≠ [] :=
  List.ne_nil_of_length_pos (length_rows bytes ▸ Nat.succ_pos _)

/-! ## Decoding rows -/

/-- The text of bytes behind an unfinished sequence. -/
def decodeBehind (state : Option Pending) (bytes : List UInt8) : Text :=
  (decodeFrom state bytes).map (·.getD Text.replacement)

/-- The texts of rows, the first of them behind an unfinished sequence. -/
def decodeRows (state : Option Pending) : List (List UInt8) → List Text
  | [] => []
  | row :: more => decodeBehind state row :: more.map decodeReplacing

theorem decodeRows_none (rows : List (List UInt8)) :
    decodeRows none rows = rows.map decodeReplacing := by
  cases rows <;> rfl

section Decoding

variable {state : Option Pending}

theorem decodeBehind_cons (state : Option Pending) (byte : UInt8) (rest : List UInt8) :
    decodeBehind state (byte :: rest) =
      (decodeByte state byte.toNat).1.map (·.getD Text.replacement) ++
        decodeBehind (decodeByte state byte.toNat).2 rest := by
  rw [decodeBehind, Text.decodeFrom_cons, List.map_append, decodeBehind]

/-- A sequence that breaks off costs a character that is beyond 0x80. -/
theorem not_mem_decodeBehind_nil (state : Option Pending) {c : Char} (ascii : c.toNat < 0x80) :
    c ∉ decodeBehind state [] := by
  intro member
  cases state with
  | none => cases member
  | some pending =>
      cases List.mem_singleton.mp member
      exact absurd ascii (by decide)

theorem decodeBehind_of_ascii (beyond : LeadsBeyond state) {byte : UInt8}
    (ascii : byte.toNat < 0x80) (rest : List UInt8) :
    decodeBehind state (byte :: rest) =
      decodeBehind state [] ++ Char.ofNat byte.toNat :: decodeReplacing rest := by
  have apart := Text.decodeFrom_append_cons beyond ascii [] rest
  rw [List.nil_append] at apart
  rw [decodeBehind, apart, List.map_append, List.map_cons]
  rfl

theorem decodeBehind_return (beyond : LeadsBeyond state) (rest : List UInt8) :
    decodeBehind state (0x0D :: rest) = decodeBehind state [] ++ '\r' :: decodeReplacing rest :=
  decodeBehind_of_ascii beyond (by decide) rest

theorem decodeBehind_newline (beyond : LeadsBeyond state) (rest : List UInt8) :
    decodeBehind state (0x0A :: rest) = decodeBehind state [] ++ '\n' :: decodeReplacing rest :=
  decodeBehind_of_ascii beyond (by decide) rest

/-- A character below 0x80 that a byte completes is that byte. -/
theorem eq_of_mem_decoded (beyond : LeadsBeyond state) {byte : Nat} {c : Char}
    (filled : 0 < c.toNat) (ascii : c.toNat < 0x80)
    (member : c ∈ (decodeByte state byte).1.map (·.getD Text.replacement)) : byte = c.toNat := by
  obtain ⟨decoded, within, same⟩ := List.mem_map.mp member
  cases decoded with
  | none =>
      rw [← same] at ascii
      exact absurd ascii (by decide)
  | some d =>
      obtain rfl : d = c := same
      exact Text.eq_of_mem_decodeByte beyond filled ascii within

/-- A text begins with a newline only where its bytes do. -/
theorem exists_of_head?_decodeReplacing {bytes : List UInt8}
    (head : (decodeReplacing bytes).head? = some '\n') : ∃ rest, bytes = 0x0A :: rest := by
  cases bytes with
  | nil => cases head
  | cons byte rest =>
      rw [decodeReplacing, List.head?_map] at head
      obtain ⟨decoded, first, same⟩ := Option.map_eq_some_iff.mp head
      cases decoded with
      | none => exact absurd same (by decide)
      | some d =>
          obtain rfl : d = '\n' := same
          have value := Text.eq_of_head?_decodeFrom (by decide) (by decide) first
          exact ⟨rest, congrArg (· :: rest) (UInt8.toNat_inj.mp value)⟩

theorem withNewlines_decodeBehind_nil (state : Option Pending) (text : Text) :
    withNewlines (decodeBehind state [] ++ text) = decodeBehind state [] ++ withNewlines text :=
  Text.withNewlines_append (not_mem_decodeBehind_nil state (by decide)) text

/-- A line end finishes the first line, and the rows behind it are decoded from the beginning. -/
theorem lines_finished (state : Option Pending) {rest : List UInt8}
    (behind : lines (withNewlines (decodeReplacing rest)) = decodeRows none (rows rest)) :
    lines (decodeBehind state [] ++ '\n' :: withNewlines (decodeReplacing rest)) =
      decodeRows state ([] :: rows rest) := by
  rw [Text.lines_line (not_mem_decodeBehind_nil state (by decide)), behind, decodeRows_none]
  rfl

/-- **The lines of a text are the rows of its bytes**, the first of them behind what is
unfinished. -/
theorem lines_decodeBehind (beyond : LeadsBeyond state) (bytes : List UInt8) :
    lines (withNewlines (decodeBehind state bytes)) = decodeRows state (rows bytes) := by
  induction bytes using rows.induct generalizing state with
  | case1 =>
      have whole := withNewlines_decodeBehind_nil state []
      rw [List.append_nil, withNewlines, List.append_nil] at whole
      rw [whole, Text.lines_of_single (not_mem_decodeBehind_nil state (by decide))]
      rfl
  | case2 rest ih =>
      have newline : decodeReplacing (0x0A :: rest) = '\n' :: decodeReplacing rest :=
        decodeBehind_newline Text.leadsBeyond_none rest
      rw [decodeBehind_return beyond, withNewlines_decodeBehind_nil, newline,
        Text.withNewlines_pair, rows]
      exact lines_finished state (ih Text.leadsBeyond_none)
  | case3 rest alone ih =>
      have other : (decodeReplacing rest).head? ≠ some '\n' := by
        intro head
        obtain ⟨more, same⟩ := exists_of_head?_decodeReplacing head
        exact alone more same
      rw [decodeBehind_return beyond, withNewlines_decodeBehind_nil,
        Text.withNewlines_return other, rows]
      · exact lines_finished state (ih Text.leadsBeyond_none)
      · exact alone
  | case4 rest ih =>
      rw [decodeBehind_newline beyond, withNewlines_decodeBehind_nil,
        Text.withNewlines_cons (by decide), rows]
      exact lines_finished state (ih Text.leadsBeyond_none)
  | case5 byte rest pair ret newline ih =>
      have single {c : Char} (filled : 0 < c.toNat) (ascii : c.toNat < 0x80)
          (other : byte ≠ UInt8.ofNat c.toNat) :
          c ∉ (decodeByte state byte.toNat).1.map (·.getD Text.replacement) := by
        intro member
        have same := eq_of_mem_decoded beyond filled ascii member
        exact other (UInt8.ofNat_toNat.symm.trans (congrArg UInt8.ofNat same))
      obtain ⟨row, more, parts⟩ := List.exists_cons_of_ne_nil (rows_ne_nil rest)
      have later := ih (Text.leadsBeyond_decodeByte beyond byte.toNat)
      rw [parts, decodeRows] at later
      rw [decodeBehind_cons, Text.withNewlines_append (single (by decide) (by decide) ret),
        Text.lines_append_of_single (single (by decide) (by decide) newline), later,
        rows, parts, List.modifyHead_cons, List.modifyHead_cons, decodeRows, decodeBehind_cons]
      · exact pair
      · exact ret
      · exact newline

/-- **A file has a line for every row of its bytes.** -/
theorem lines_sourceText (bytes : List UInt8) :
    lines (sourceText bytes) = (rows bytes).map decodeReplacing := by
  rw [sourceText, Text.unifyLineEnds_eq_withNewlines, ← decodeRows_none]
  exact lines_decodeBehind Text.leadsBeyond_none bytes

end Decoding

/-! ## Texts of files -/

/-- What a text says of the bytes that it was read from. Its lines are the rows of the bytes, each
with its own broken parts replaced. So they are counted as many lines as line ends and one more;
only where there are more code lines than a double can tell is there no count. What was encoded is
read as the text that it was, but for its line ends, and a mark in front is read as a character. -/
structure ReadFrom (bytes : List UInt8) (text : Text) : Prop where
  noReturn : '\r' ∉ text
  newlines : text.count '\n' = lineEnds bytes
  replaced : List.Forall₂ Text.Replaces (rows bytes) (lines text)
  total : ∀ (reading : Quotients) (written : Text) (limit : Int),
    (∃ count, Budget.countSource reading text written limit = .ok count ∧
      count.breakdown.total = lineEnds bytes + 1) ∨
    (reading = .double ∧ Double.safeBound ≤ Budget.effectiveLines written text ∧
      Budget.countSource reading text written limit = .error .overflow)
  encoded : ∀ source : Text, bytes = source.flatMap String.utf8EncodeChar →
    text = withNewlines source
  marked : ∀ rest, bytes = 0xEF :: 0xBB :: 0xBF :: rest → text = '\uFEFF' :: sourceText rest

theorem count_sourceText (bytes : List UInt8) :
    (sourceText bytes).count '\n' = lineEnds bytes := by
  have counted := congrArg List.length (lines_sourceText bytes)
  rw [lines, Text.length_splitWhere, List.length_map, length_rows] at counted
  exact Nat.succ.inj counted

/-- Encoded texts are read as they were, with unified line ends. -/
theorem sourceText_encode (source : Text) :
    sourceText (Text.encode source) = withNewlines source := by
  rw [sourceText, Text.decodeReplacing_encode, Text.unifyLineEnds_eq_withNewlines]

/-- Only the pair of return and newline, in this order, is one line end. -/
example : sourceText (Text.encode "é\r\n\n\r€".toList) = "é\n\n\n€".toList := by
  decide

theorem sourceText_marked (rest : List UInt8) :
    sourceText (0xEF :: 0xBB :: 0xBF :: rest) = '\uFEFF' :: sourceText rest := by
  have mark : Text.encodeChar '\uFEFF' ++ rest = 0xEF :: 0xBB :: 0xBF :: rest := rfl
  rw [sourceText, ← mark, Text.decodeReplacing_encodeChar]
  rfl

theorem readFrom_sourceText (bytes : List UInt8) : ReadFrom bytes (sourceText bytes) where
  noReturn := by
    rw [sourceText, Text.unifyLineEnds_eq_withNewlines]
    exact Text.not_mem_withNewlines _
  newlines := count_sourceText bytes
  replaced := by
    rw [lines_sourceText, List.forall₂_map_right_iff, List.forall₂_same]
    exact fun row _ => Text.replaces_iff.mpr rfl
  total reading written limit := by
    cases counted : Budget.countSource reading (sourceText bytes) written limit with
    | ok count =>
        have accounts := Budget.accountsFor_of_countSource counted
        exact .inl ⟨count, rfl, accounts.total.trans (by rw [count_sourceText])⟩
    | error cause =>
        obtain ⟨read, large, rfl⟩ := Budget.eq_overflow_of_countSource counted
        exact .inr ⟨read, large, rfl⟩
  encoded source same := by
    rw [same, ← Text.encode_eq_flatMap, sourceText_encode]
  marked rest same := by
    rw [same, sourceText_marked]

/-- **A file is read whatever its bytes are**, with a line for each of their rows. -/
theorem readSource_readFrom {space : Workspace} {path : Path} {bytes : List UInt8}
    (readable : space.readBytes path = .ok bytes) :
    ∃ text, space.readSource path = .ok text ∧ ReadFrom bytes text :=
  ⟨sourceText bytes, by rw [Workspace.readSource, readable]; rfl, readFrom_sourceText bytes⟩

/-- Sequences that break off in front of each kind of line end, and at the end of the file. -/
def brokenOff : List UInt8 :=
  [0x78, 0xE2, 0x82, 0x0D, 0x0A, 0xF0, 0x9F, 0x98, 0x0D, 0xED, 0xA0, 0x0A, 0x0D, 0x0D, 0x0A, 0xC2]

/-- A tree with a source file of such sequences. -/
def spaceOfBrokenOff : Workspace where
  tree := ⟨[(["a.py".toList], .file brokenOff)], by decide⟩
  here := []

/-- No line is lost and none is added. Two bytes of a surrogate are two broken parts. -/
theorem readSource_brokenOff :
    spaceOfBrokenOff.readBytes (Path.read "a.py".toList) = .ok brokenOff ∧
      spaceOfBrokenOff.readSource (Path.read "a.py".toList) =
        .ok "x\uFFFD\n\uFFFD\n\uFFFD\uFFFD\n\n\n\uFFFD".toList ∧
      ReadFrom brokenOff "x\uFFFD\n\uFFFD\n\uFFFD\uFFFD\n\n\n\uFFFD".toList := by
  have direct : spaceOfBrokenOff.IsDirect (Path.read "a.py".toList) "a.py".toList :=
    ⟨rfl, by decide, by decide, by decide, rfl⟩
  have readable : spaceOfBrokenOff.readBytes (Path.read "a.py".toList) = .ok brokenOff :=
    direct.readBytes_file rfl rfl
  have text : sourceText brokenOff = "x\uFFFD\n\uFFFD\n\uFFFD\uFFFD\n\n\n\uFFFD".toList := by
    decide +kernel
  have read : spaceOfBrokenOff.readSource (Path.read "a.py".toList) =
      .ok "x\uFFFD\n\uFFFD\n\uFFFD\uFFFD\n\n\n\uFFFD".toList := by
    rw [Workspace.readSource, readable, ← text]
    rfl
  obtain ⟨text, same, said⟩ := readSource_readFrom readable
  cases read.symm.trans same
  exact ⟨readable, read, said⟩

end ReviewGate.Files
