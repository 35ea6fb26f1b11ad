import ReviewGate.Proofs.Json.Numbers
import ReviewGate.Proofs.Json.Texts

/-!
# Written values are read back

What stands behind a value is a comma, the beginning of a line or the end of the text, and with none
of these a number goes on (`Ends`). A text is readable as a value when the value is read from in
front of any such text, with that text left over (`Reads`); for items and members it is the end of
their container that stands behind them (`ReadsItems`, `ReadsMembers`). Each kind of value has its
lemma, which says that its form is readable when the forms of its parts are. The reader carries a
bound, for which the length of the form is enough.

Items and members begin on a line of their own, where the reader skips white space. No value begins
with a character that would be skipped or taken for the end of an array (`closers`), and so nothing
of a value is lost there. By induction on the value every written value is readable
(`reads_writeAt`), and it is read as itself (`read?_write`).
-/

set_option autoImplicit false

namespace ReviewGate.Json

open Text

/-! ## White space -/

/-- The white space of the grammar. -/
def spaces : List Char := [' ', '\n', '\r', '\t']

theorem skipSpace_cons {c : Char} (visible : c ∉ spaces) (rest : Text) :
    skipSpace (c :: rest) = c :: rest := by
  refine List.dropWhile_cons_of_neg ?_
  simpa [spaces, and_assoc] using visible

/-- The beginning of a line is white space. -/
theorem skipSpace_newline (depth : Nat) (text : Text) :
    skipSpace (newline depth ++ text) = skipSpace text := by
  refine List.dropWhile_append_of_pos fun c member => ?_
  rcases List.mem_cons.mp member with rfl | blank
  · rfl
  · rw [List.eq_of_mem_replicate blank]
    rfl

theorem ends_newline (depth : Nat) (text : Text) : Ends (newline depth ++ text) := by
  rintro c ⟨⟩
  decide

theorem ends_comma (text : Text) : Ends (',' :: text) := by
  rintro c ⟨⟩
  decide

theorem skipSpace_skipSpace (text : Text) : skipSpace (skipSpace text) = skipSpace text :=
  List.dropWhile_idempotent _ text

/-! ## Readable texts -/

/-- The signs with which no value begins: white space and the end of an array. -/
def closers : List Char := ']' :: spaces

/-- A text that is read as a value in front of everything with which no number goes on. -/
structure Reads (written : Text) (value : Json) : Prop where
  opens : ∃ c more, written = c :: more ∧ c ∉ closers
  read (bound : Nat) (rest : Text) : written.length ≤ bound + 1 → Ends rest →
    readValue? (bound + 1) (written ++ rest) = some (value, rest)

/-- A text that is read as the items of an array, each behind the beginning of a line. -/
structure ReadsItems (written : Text) (items : List Json) : Prop where
  opens (rest : Text) : ∃ c more, skipSpace (written ++ rest) = c :: more ∧ c ≠ ']'
  read (bound depth : Nat) (rest : Text) : written.length ≤ bound →
    readItems? bound (written ++ (newline depth ++ ']' :: rest)) = some (items, rest)

/-- A text that is read as the members of an object, each behind the beginning of a line. -/
structure ReadsMembers (written : Text) (members : List (Text × Json)) : Prop where
  opens (rest : Text) : ∃ c more, skipSpace (written ++ rest) = c :: more ∧ c ≠ '}'
  read (bound depth : Nat) (rest : Text) : written.length ≤ bound →
    readMembers? bound (written ++ (newline depth ++ '}' :: rest)) = some (members, rest)

theorem Reads.skipSpace {written : Text} {value : Json} (reads : Reads written value)
    (rest : Text) : Json.skipSpace (written ++ rest) = written ++ rest := by
  obtain ⟨c, more, rfl, opens⟩ := reads.opens
  exact skipSpace_cons (fun blank => opens (List.mem_cons_of_mem ']' blank)) _

theorem Reads.length_pos {written : Text} {value : Json} (reads : Reads written value) :
    0 < written.length := by
  obtain ⟨c, more, rfl, _⟩ := reads.opens
  exact Nat.succ_pos _

/-! ## Words, numbers and texts -/

/-- A fixed word is read as what it stands for. -/
theorem reads_word : ∀ fixed ∈ fixedWords, Reads fixed.1 fixed.2 := by
  simp only [fixedWords, List.forall_mem_cons]
  refine ⟨?_, ?_, ?_, ?_, ?_, ?_, nofun⟩
  all_goals exact ⟨⟨_, _, rfl, by decide⟩, fun bound rest _ _ => rfl⟩

/-- The beginnings of numbers. -/
inductive Numeric : Text → Prop
  | digit {c : Char} (digit : c.isDigit = true) (rest : Text) : Numeric (c :: rest)
  | minus {c : Char} (digit : c.isDigit = true) (rest : Text) : Numeric ('-' :: c :: rest)

namespace Numeric

variable {text : Text}

theorem append (numeric : Numeric text) (rest : Text) : Numeric (text ++ rest) := by
  cases numeric with
  | digit digit more => exact .digit digit (more ++ rest)
  | minus digit more => exact .minus digit (more ++ rest)

theorem any_isDigit (numeric : Numeric text) : (text.take 2).any Char.isDigit = true := by
  cases numeric with
  | @digit c digit rest => exact List.any_eq_true.mpr ⟨c, List.mem_cons_self, digit⟩
  | @minus c digit rest =>
      exact List.any_eq_true.mpr ⟨c, List.mem_cons_of_mem _ List.mem_cons_self, digit⟩

/-- No fixed word begins like a number, since its first two characters are no digits. -/
theorem readWord?_eq_none (numeric : Numeric text) : readWord? text = none := by
  have letters : ∀ fixed ∈ fixedWords, 2 ≤ fixed.1.length ∧
      (fixed.1.take 2).any Char.isDigit = false := by decide
  rw [readWord?, List.findSome?_eq_none_iff]
  rintro ⟨word, value⟩ member
  obtain ⟨long, wordless⟩ := letters (word, value) member
  have other : ¬word.isPrefixOf text = true := by
    intro start
    obtain ⟨rest, rfl⟩ := List.isPrefixOf_iff_prefix.mp start
    have digit := numeric.any_isDigit
    rw [List.take_append_of_le_length long, wordless] at digit
    cases digit
  change (after? word text).map _ = none
  rw [after?, if_neg other, Option.map_none]

theorem opens (numeric : Numeric text) : ∃ c more, text = c :: more ∧ c ∉ closers := by
  cases numeric with
  | @digit c digit rest =>
      have free : closers.any Char.isDigit = false := by decide
      exact ⟨c, rest, rfl, fun closer => List.any_eq_false.mp free c closer digit⟩
  | minus _ rest => exact ⟨_, _, rfl, by decide⟩

theorem reads {value : Json} (numeric : Numeric text)
    (read : ∀ rest, Ends rest → readNumber? (text ++ rest) = some (value, rest)) :
    Reads text value := by
  refine ⟨numeric.opens, fun bound rest _ ends => ?_⟩
  rw [readValue?, (numeric.append rest).readWord?_eq_none]
  · exact read rest ends
  all_goals
    intro more begins
    cases begins ▸ numeric.append rest with
    | digit digit => cases digit

end Numeric

theorem numeric_ofNat (n : Nat) : Numeric (ofNat n) := by
  obtain ⟨c, more, written, digit⟩ := exists_cons_ofNat n
  exact written ▸ .digit digit more

theorem numeric_minus (n : Nat) : Numeric ('-' :: ofNat n) := by
  obtain ⟨c, more, written, digit⟩ := exists_cons_ofNat n
  exact written ▸ .minus digit more

theorem reads_int (value : Int) : Reads (ofInt value) (.int value) := by
  have numeric : Numeric (ofInt value) := by
    cases value with
    | ofNat n => exact numeric_ofNat n
    | negSucc n => exact numeric_minus (n + 1)
  exact numeric.reads fun rest ends => readNumber?_ofInt value ends

theorem reads_decimal (negative : Bool) (digits : Nat) (exponent : Int) :
    Reads ((if negative then ['-'] else []) ++ ofNat digits ++ 'e' :: ofInt exponent)
      (.decimal negative digits exponent) := by
  have numeric : Numeric ((if negative then ['-'] else []) ++ ofNat digits) := by
    cases negative with
    | false => exact numeric_ofNat digits
    | true => exact numeric_minus digits
  exact (numeric.append _).reads fun rest ends => readNumber?_decimal negative digits exponent ends

theorem reads_text (charset : Charset) (text : Text) :
    Reads (writeText charset text) (.string text) := by
  refine ⟨⟨'"', _, rfl, by decide⟩, fun bound rest _ _ => ?_⟩
  change (readText? ((writeText charset text).tail ++ rest)).bind _ = _
  rw [readText?_writeText]
  rfl

/-! ## Arrays -/

theorem readItems?_skipSpace (bound : Nat) (text : Text) :
    readItems? bound (skipSpace text) = readItems? bound text := by
  cases bound with
  | zero => rfl
  | succ bound => rw [readItems?, readItems?, skipSpace_skipSpace]

theorem reads_array {written : Text} {items : List Json} (reads : ReadsItems written items)
    (depth : Nat) : Reads ('[' :: written ++ newline depth ++ [']']) (.array items) := by
  refine ⟨⟨'[', _, rfl, by decide⟩, fun bound rest enough _ => ?_⟩
  have read := reads.read bound depth rest (by simp at enough; omega)
  obtain ⟨c, more, begins, opens⟩ := reads.opens (newline depth ++ ']' :: rest)
  rw [← readItems?_skipSpace, begins] at read
  have behind : written ++ newline depth ++ [']'] ++ rest =
      written ++ (newline depth ++ ']' :: rest) := by simp
  rw [List.cons_append, List.cons_append, List.cons_append, behind, readValue?, begins]
  split
  next closed => exact absurd (List.cons.inj closed).1 opens
  next => rw [read]; rfl

section Items

variable {written : Text} {item : Json} (reads : Reads written item) (depth : Nat)
include reads

theorem Reads.line (rest : Text) :
    Json.skipSpace (newline depth ++ written ++ rest) = written ++ rest := by
  rw [List.append_assoc, skipSpace_newline, reads.skipSpace]

theorem Reads.line_opens (rest : Text) :
    ∃ c more, Json.skipSpace (newline depth ++ written ++ rest) = c :: more ∧ c ≠ ']' := by
  obtain ⟨c, more, rfl, opens⟩ := reads.opens
  rw [reads.line]
  exact ⟨c, more ++ rest, rfl, fun closer => opens (closer ▸ by decide)⟩

theorem readsItems_singleton : ReadsItems (newline depth ++ written) [item] := by
  refine ⟨reads.line_opens depth, fun bound below rest enough => ?_⟩
  have positive := reads.length_pos
  rw [newline, List.cons_append, List.length_cons, List.length_append] at enough
  obtain ⟨bound, rfl⟩ : ∃ more, bound = more + 2 := ⟨bound - 2, by omega⟩
  rw [readItems?, reads.line, reads.read bound _ (by omega) (ends_newline below _)]
  simp [skipSpace_newline, skipSpace_cons, spaces]

theorem readsItems_cons {behind : Text} {more : List Json} (following : ReadsItems behind more) :
    ReadsItems (newline depth ++ written ++ ',' :: behind) (item :: more) := by
  constructor
  · intro rest
    rw [List.append_assoc]
    exact reads.line_opens depth _
  · intro bound below rest enough
    have positive := reads.length_pos
    rw [newline, List.cons_append, List.cons_append, List.length_cons, List.length_append,
      List.length_append, List.length_cons] at enough
    obtain ⟨bound, rfl⟩ : ∃ more, bound = more + 2 := ⟨bound - 2, by omega⟩
    have read := following.read (bound + 1) below rest (by omega)
    rw [readItems?, List.append_assoc, List.cons_append, reads.line,
      reads.read bound _ (by omega) (ends_comma _)]
    simp [skipSpace_cons, spaces, read]

end Items

/-! ## Objects -/

theorem readMembers?_skipSpace (bound : Nat) (text : Text) :
    readMembers? bound (skipSpace text) = readMembers? bound text := by
  cases bound with
  | zero => rfl
  | succ bound => rw [readMembers?, readMembers?, skipSpace_skipSpace]

theorem reads_object {written : Text} {members : List (Text × Json)}
    (reads : ReadsMembers written members) (depth : Nat) :
    Reads ('{' :: written ++ newline depth ++ ['}']) (.object members) := by
  refine ⟨⟨'{', _, rfl, by decide⟩, fun bound rest enough _ => ?_⟩
  have read := reads.read bound depth rest (by simp at enough; omega)
  obtain ⟨c, more, begins, opens⟩ := reads.opens (newline depth ++ '}' :: rest)
  rw [← readMembers?_skipSpace, begins] at read
  have behind : written ++ newline depth ++ ['}'] ++ rest =
      written ++ (newline depth ++ '}' :: rest) := by simp
  rw [List.cons_append, List.cons_append, List.cons_append, behind, readValue?, begins]
  split
  next closed => exact absurd (List.cons.inj closed).1 opens
  next => rw [read]; rfl

section Members

variable (charset : Charset) {written : Text} {value : Json} (reads : Reads written value)
  (depth : Nat) (name : Text)

/-- On a line of its own a member begins with its name. -/
theorem skipSpace_member (text rest : Text) :
    skipSpace (newline depth ++ writeText charset name ++ text ++ rest) =
      '"' :: ((writeText charset name).tail ++ (text ++ rest)) := by
  rw [List.append_assoc, List.append_assoc, skipSpace_newline]
  exact skipSpace_cons (by decide) _

include reads

/-- A member is read, and then what stands behind it. -/
theorem readMembers?_member {bound : Nat} {rest : Text} (enough : written.length ≤ bound + 1)
    (ends : Ends rest) :
    readMembers? (bound + 2)
        (newline depth ++ writeText charset name ++ ':' :: ' ' :: written ++ rest) =
      match skipSpace rest with
      | '}' :: rest => some ([(name, value)], rest)
      | ',' :: rest => (readMembers? (bound + 1) rest).map fun (more, rest) =>
        ((name, value) :: more, rest)
      | _ => none := by
  have gap (text : Text) : skipSpace (' ' :: text) = skipSpace text := rfl
  rw [readMembers?, skipSpace_member]
  simp only [readText?_writeText, Option.bind_eq_bind, Option.bind_some, List.cons_append,
    skipSpace_cons (show ':' ∉ spaces by decide), gap, reads.skipSpace,
    reads.read bound rest enough ends, Option.map_eq_bind]
  rfl

theorem readsMembers_singleton :
    ReadsMembers (newline depth ++ writeText charset name ++ ':' :: ' ' :: written)
      [(name, value)] := by
  constructor
  · intro rest
    exact ⟨'"', _, skipSpace_member charset depth name _ rest, by decide⟩
  · intro bound below rest enough
    rw [newline, List.cons_append, List.cons_append, List.length_cons, List.length_append,
      List.length_cons, List.length_cons] at enough
    obtain ⟨bound, rfl⟩ : ∃ more, bound = more + 2 := ⟨bound - 2, by omega⟩
    rw [readMembers?_member charset reads depth name (by omega) (ends_newline below _)]
    simp [skipSpace_newline, skipSpace_cons, spaces]

theorem readsMembers_cons {behind : Text} {more : List (Text × Json)}
    (following : ReadsMembers behind more) :
    ReadsMembers
      (newline depth ++ writeText charset name ++ ':' :: ' ' :: written ++ ',' :: behind)
      ((name, value) :: more) := by
  constructor
  · intro rest
    rw [List.append_assoc _ (',' :: behind)]
    exact ⟨'"', _, skipSpace_member charset depth name _ _, by decide⟩
  · intro bound below rest enough
    rw [newline, List.cons_append, List.cons_append, List.cons_append, List.length_cons,
      List.length_append, List.length_append, List.length_cons, List.length_cons,
      List.length_cons] at enough
    obtain ⟨bound, rfl⟩ : ∃ more, bound = more + 2 := ⟨bound - 2, by omega⟩
    have read := following.read (bound + 1) below rest (by omega)
    rw [List.append_assoc _ (',' :: behind), List.cons_append,
      readMembers?_member charset reads depth name (by omega) (ends_comma _)]
    simp [skipSpace_cons, spaces, read]

end Members

/-! ## All values -/

section Values

variable (charset : Charset)

mutual

theorem reads_writeAt (depth : Nat) : ∀ value, Reads (writeAt charset depth value) value
  | .null => reads_word ("null".toList, .null) (by simp [fixedWords])
  | .bool true => reads_word ("true".toList, .bool true) (by simp [fixedWords])
  | .bool false => reads_word ("false".toList, .bool false) (by simp [fixedWords])
  | .nan => reads_word ("NaN".toList, .nan) (by simp [fixedWords])
  | .infinite false => reads_word ("Infinity".toList, .infinite false) (by simp [fixedWords])
  | .infinite true => reads_word ("-Infinity".toList, .infinite true) (by simp [fixedWords])
  | .int value => reads_int value
  | .decimal negative digits exponent => reads_decimal negative digits exponent
  | .string text => reads_text charset text
  | .array [] => ⟨⟨'[', _, rfl, by decide⟩, fun _ _ _ _ => rfl⟩
  | .array (item :: more) =>
      reads_array (readsItems_writeItems (depth + 1) (item :: more) nofun) depth
  | .object [] => ⟨⟨'{', _, rfl, by decide⟩, fun _ _ _ _ => rfl⟩
  | .object (member :: more) =>
      reads_object (readsMembers_writeMembers (depth + 1) (member :: more) nofun) depth

theorem readsItems_writeItems (depth : Nat) : ∀ items, items ≠ [] →
    ReadsItems (writeItems charset depth items) items
  | [], filled => absurd rfl filled
  | [item], _ => readsItems_singleton (reads_writeAt depth item) depth
  | item :: next :: more, _ =>
      readsItems_cons (reads_writeAt depth item) depth
        (readsItems_writeItems depth (next :: more) nofun)

theorem readsMembers_writeMembers (depth : Nat) : ∀ members, members ≠ [] →
    ReadsMembers (writeMembers charset depth members) members
  | [], filled => absurd rfl filled
  | [(name, value)], _ =>
      readsMembers_singleton charset (reads_writeAt depth value) depth name
  | (name, value) :: next :: more, _ =>
      readsMembers_cons charset (reads_writeAt depth value) depth name
        (readsMembers_writeMembers depth (next :: more) nofun)

end

/-- **A written value is read as the value.** -/
theorem read?_write (value : Json) : read? (write charset value) = some value := by
  have reads : Reads (write charset value) value := reads_writeAt charset 0 value
  have ends : Ends [] := nofun
  have read := reads.read (2 * (write charset value).length + 1) [] (by omega) ends
  have start := reads.skipSpace []
  rw [List.append_nil] at read start
  rw [read?, start, read]
  rfl

end Values

end ReviewGate.Json
