import ReviewGate.Proofs.Text.Lines
import ReviewGate.Proofs.Text.Reading
import ReviewGate.Record.Alternatives

/-!
# Rows of tables line by line

A row of a table is a line that begins with a bar and holds two cells, each
closed by a bar. Rows are counted one after the other, each seen with the row
behind it, and this need not be the line below it: a row does not count as an
alternative when the next row is a separator, even where other lines stand
between the two.

`countTableRows_add` says how far this is from a count by lines. A line lists an
alternative when it is a row that is no separator, does not stand directly above
one, and does not speak of alternatives in its first cell. Of these lines all
count but the detached heads, which have a separator for their next row.
-/

set_option autoImplicit false

namespace ReviewGate.Record

open Text

/-! ## Rows -/

/-- The text of a cell: one or more characters other than bars and newlines. -/
abbrev IsCell (text : Text) : Prop := Run (fun c => c != '|' && c != '\n') text

/-- A row of a table with its first cell: a bar and two cells that are not
empty, each closed by a bar. -/
def RowWith (line first : Text) : Prop :=
  ∃ second rest, line = '|' :: (first ++ '|' :: (second ++ '|' :: rest)) ∧
    IsCell first ∧ IsCell second

/-- A row of a table. -/
def TableRow (line : Text) : Prop := ∃ first, RowWith line first

theorem afterCell?_eq_some_iff {text rest : Text} :
    afterCell? text = some rest ↔ ∃ cell, IsCell cell ∧ text = cell ++ '|' :: rest := by
  rw [afterCell?, Option.bind_eq_some_iff]
  constructor
  · rintro ⟨behind, read, closed⟩
    obtain ⟨cell, isCell, rfl⟩ := exists_of_afterSome? read
    exact ⟨cell, isCell, by rw [after?_eq_some_iff.mp closed]; rfl⟩
  · rintro ⟨cell, isCell, rfl⟩
    refine ⟨'|' :: rest, afterSome?_append isCell ?_, after?_append ['|'] rest⟩
    rintro _ ⟨⟩
    rfl

theorem isRow_iff {line : Text} : isRow line = true ↔ TableRow line := by
  rw [isRow, Option.isSome_iff_exists]
  simp only [Option.bind_eq_some_iff, afterCell?_eq_some_iff, after?_eq_some_iff]
  constructor
  · rintro ⟨rest, _, ⟨_, rfl, first, isFirst, rfl⟩, second, isSecond, rfl⟩
    exact ⟨first, second, rest, rfl, isFirst, isSecond⟩
  · rintro ⟨first, second, rest, rfl, isFirst, isSecond⟩
    exact ⟨rest, _, ⟨_, rfl, first, isFirst, rfl⟩, second, isSecond, rfl⟩

instance (line : Text) : Decidable (TableRow line) := decidable_of_iff _ isRow_iff

/-! ## Cells -/

/-- Trimming at the end stops at the last character outside the class. -/
theorem rdropWhile_append_cons {drop : Char → Bool} {c : Char} (outside : drop c = false)
    (front rest : Text) :
    (front ++ c :: rest).rdropWhile drop = front ++ c :: rest.rdropWhile drop := by
  induction rest using List.reverseRecOn with
  | nil => simp [outside]
  | append_singleton rest last ih =>
      rw [← List.cons_append, ← List.append_assoc, List.rdropWhile_concat, List.rdropWhile_concat,
        ih]
      split <;> simp

/-- A row without its bars and the white space at its ends begins with its first
cell and the bar behind it. -/
theorem exists_trimBy_trim {line first : Text} (row : RowWith line first) :
    ∃ rest, trimBy (· == '|') (trim line) = first ++ '|' :: rest := by
  obtain ⟨second, rest, rfl, isFirst, isSecond⟩ := row
  obtain ⟨d, others, rfl, begins⟩ := isFirst.exists_cons
  obtain ⟨mid, c, rfl⟩ := (List.eq_nil_or_concat' second).resolve_left isSecond.filled
  have ends := isSecond.all c (List.mem_append_right mid List.mem_cons_self)
  simp only [Bool.and_eq_true, bne_iff_ne] at begins ends
  have trimmed : trim ('|' :: (d :: others ++ '|' :: (mid ++ [c] ++ '|' :: rest))) =
      '|' :: (d :: others ++ '|' :: (mid ++ c :: '|' :: rest.rdropWhile isBlank)) := by
    have whole : '|' :: (d :: others ++ '|' :: (mid ++ [c] ++ '|' :: rest)) =
        ('|' :: (d :: others ++ '|' :: (mid ++ [c]))) ++ '|' :: rest := by simp
    rw [trim_eq_rdropWhile, List.dropWhile_cons_of_neg (by decide), whole,
      rdropWhile_append_cons (by decide)]
    simp
  have cut : trimBy (· == '|')
        ('|' :: (d :: others ++ '|' :: (mid ++ c :: '|' :: rest.rdropWhile isBlank))) =
      (d :: others ++ '|' :: (mid ++ c :: '|' :: rest.rdropWhile isBlank)).rdropWhile
        (· == '|') := by
    have left : ('|' :: (d :: others ++ '|' :: (mid ++ c :: '|' ::
          rest.rdropWhile isBlank))).dropWhile (· == '|') =
        d :: others ++ '|' :: (mid ++ c :: '|' :: rest.rdropWhile isBlank) := by
      rw [List.dropWhile_cons_of_pos (by decide), List.cons_append,
        List.dropWhile_cons_of_neg (by simpa using begins.1)]
    exact congrArg (List.rdropWhile (· == '|')) left
  refine ⟨mid ++ c :: ('|' :: rest.rdropWhile isBlank).rdropWhile (· == '|'), ?_⟩
  have outside : (c == '|') = false := beq_eq_false_iff_ne.mpr ends.1
  have kept := @rdropWhile_append_cons (· == '|') c outside (d :: others ++ '|' :: mid)
    ('|' :: rest.rdropWhile isBlank)
  rw [trimmed, cut]
  simpa using kept

/-- **The first cell of a row** is what stands between its first two bars. -/
theorem headD_cells {line first : Text} (row : RowWith line first) :
    (cells line).headD [] = trim first := by
  have isFirst : IsCell first := by
    obtain ⟨_, _, _, isFirst, _⟩ := row
    exact isFirst
  obtain ⟨rest, whole⟩ := exists_trimBy_trim row
  rw [cells, whole, splitWhere_eq_splitOnP, ← List.splitOn_eq_splitOnP,
    List.splitOn_append_cons_self_of_not_mem (isFirst.not_mem (by decide))]
  rfl

/-! ## Separators -/

/-- A cell of hyphens, with a colon at each end or not. -/
def SeparatorCell (cell : Text) : Prop :=
  ∃ left ∈ [[], [':']], ∃ hyphens, Run (· == '-') hyphens ∧ ∃ right ∈ [[], [':']],
    cell = left ++ (hyphens ++ right)

theorem isSeparatorCell_iff {cell : Text} : isSeparatorCell cell = true ↔ SeparatorCell cell := by
  constructor
  · intro isCell
    unfold isSeparatorCell at isCell
    dsimp only at isCell
    have front : ∃ left ∈ [[], [':']], cell = left ++ (after? [':'] cell).getD cell := by
      cases read : after? [':'] cell with
      | none => exact ⟨[], List.mem_cons_self, rfl⟩
      | some rest =>
          exact ⟨[':'], List.mem_cons_of_mem _ List.mem_cons_self, after?_eq_some_iff.mp read⟩
    obtain ⟨left, isLeft, whole⟩ := front
    refine ⟨left, isLeft, ?_⟩
    split at isCell
    next rest read =>
      obtain ⟨hyphens, run, body⟩ := exists_of_afterSome? read
      rw [body] at whole
      refine ⟨hyphens, run, rest, ?_, whole⟩
      cases ending : after? [':'] rest with
      | none =>
          rw [ending] at isCell
          have nothing : rest = [] := by simpa using isCell
          simp [nothing]
      | some last =>
          rw [ending] at isCell
          have same := after?_eq_some_iff.mp ending
          have nothing : last = [] := by simpa using isCell
          simp [same, nothing]
    next => cases isCell
  · rintro ⟨left, isLeft, hyphens, run, right, isRight, rfl⟩
    have body : (after? [':'] (left ++ (hyphens ++ right))).getD (left ++ (hyphens ++ right)) =
        hyphens ++ right := by
      rcases List.mem_pair.mp isLeft with rfl | rfl
      · obtain ⟨c, more, rfl, hyphen⟩ := run.exists_cons
        obtain rfl := eq_of_beq hyphen
        rfl
      · rw [after?_append, Option.getD_some]
    have ends : ∀ c ∈ right.head?, (c == '-') = false := by
      rcases List.mem_pair.mp isRight with rfl | rfl
      · exact nofun
      · rintro _ ⟨⟩
        rfl
    unfold isSeparatorCell
    dsimp only
    rw [body, afterSome?_append run ends]
    rcases List.mem_pair.mp isRight with rfl | rfl <;> rfl

/-- A row of which all cells are hyphens. -/
def SeparatorRow (line : Text) : Prop :=
  TableRow line ∧ ∀ cell ∈ cells line, SeparatorCell cell

theorem separatorRow_iff {line : Text} :
    SeparatorRow line ↔ isRow line = true ∧ isSeparator line = true := by
  simp [SeparatorRow, isRow_iff, isSeparator, isSeparatorCell_iff]

instance (line : Text) : Decidable (SeparatorRow line) := decidable_of_iff' _ separatorRow_iff

/-! ## Lines that list an alternative -/

/-- How many lines have a property, each seen with the lines below it. -/
def countLines (holds : Text → List Text → Prop) [∀ line below, Decidable (holds line below)] :
    List Text → Nat
  | [] => 0
  | line :: below => (if holds line below then 1 else 0) + countLines holds below

/-- A line that lists an alternative: a row that is no separator, does not stand
directly above one, and does not speak of alternatives in its first cell. -/
structure DataLine (line : Text) (below : List Text) : Prop where
  row : ∃ first, RowWith line first ∧ ¬ "alternative".toList <:+: lower (trim first)
  other : ¬ SeparatorRow line
  notAbove : ∀ next ∈ below.head?, ¬ SeparatorRow next

/-- A line that lists an alternative, with a separator for the next row, which
stands below other lines. -/
structure DetachedHead (line : Text) (below : List Text) : Prop where
  data : DataLine line below
  nextRow : ∃ between next rest, below = between ++ next :: rest ∧
    (∀ other ∈ between, ¬ TableRow other) ∧ SeparatorRow next

section Count

variable {line : Text} {below : List Text}

theorem namesAlternatives_iff {first : Text} (row : RowWith line first) :
    namesAlternatives line = true ↔ "alternative".toList <:+: lower (trim first) := by
  rw [namesAlternatives, occurs_iff, headD_cells row]

theorem dataLine_iff :
    DataLine line below ↔ isRow line = true ∧ isSeparator line = false ∧
      namesAlternatives line = false ∧ ∀ next ∈ below.head?, ¬ SeparatorRow next := by
  constructor
  · rintro ⟨⟨first, row, silent⟩, other, notAbove⟩
    have isRow : isRow line = true := isRow_iff.mpr ⟨first, row⟩
    rw [← namesAlternatives_iff row, Bool.not_eq_true] at silent
    refine ⟨isRow, ?_, silent, notAbove⟩
    exact Bool.eq_false_iff.mpr fun separator => other (separatorRow_iff.mpr ⟨isRow, separator⟩)
  · rintro ⟨isRow, noSeparator, silent, notAbove⟩
    obtain ⟨first, row⟩ := isRow_iff.mp isRow
    refine ⟨⟨first, row, ?_⟩, fun other => ?_, notAbove⟩
    · rw [← namesAlternatives_iff row, silent]
      exact Bool.false_ne_true
    · rw [(separatorRow_iff.mp other).2] at noSeparator
      cases noSeparator

instance (line : Text) (below : List Text) : Decidable (DataLine line below) :=
  decidable_of_iff' _ dataLine_iff

/-- The next row is a separator. -/
theorem nextRow_iff :
    (∃ between next rest, below = between ++ next :: rest ∧
        (∀ other ∈ between, ¬ TableRow other) ∧ SeparatorRow next) ↔
      (below.find? isRow).any isSeparator = true := by
  constructor
  · rintro ⟨between, next, rest, rfl, none, separator⟩
    obtain ⟨isRow, isSeparator⟩ := separatorRow_iff.mp separator
    have found : (between ++ next :: rest).find? Record.isRow = some next := by
      refine List.find?_eq_some_iff_append.mpr ⟨isRow, between, rest, rfl, fun other member => ?_⟩
      rw [Bool.not_eq_true', Bool.eq_false_iff]
      exact mt isRow_iff.mp (none other member)
    rw [found]
    exact isSeparator
  · intro some
    obtain ⟨next, found, isSeparator⟩ := (Option.any_eq_true ..).mp some
    obtain ⟨isRow, between, rest, rfl, none⟩ := List.find?_eq_some_iff_append.mp found
    refine ⟨between, next, rest, rfl, fun other member row => ?_,
      separatorRow_iff.mpr ⟨isRow, isSeparator⟩⟩
    have lacks := none other member
    rw [isRow_iff.mpr row] at lacks
    cases lacks

theorem detachedHead_iff :
    DetachedHead line below ↔
      DataLine line below ∧ (below.find? isRow).any isSeparator = true :=
  ⟨fun ⟨data, nextRow⟩ => ⟨data, nextRow_iff.mp nextRow⟩,
    fun ⟨data, nextRow⟩ => ⟨data, nextRow_iff.mpr nextRow⟩⟩

instance (line : Text) (below : List Text) : Decidable (DetachedHead line below) :=
  decidable_of_iff' _ detachedHead_iff

/-- A separator directly below is the next row. -/
theorem any_find?_of_head? {next : Text} (first : next ∈ below.head?)
    (separator : SeparatorRow next) : (below.find? isRow).any isSeparator = true := by
  obtain ⟨rest, rfl⟩ := List.head?_eq_some_iff.mp first
  exact nextRow_iff.mp ⟨[], next, rest, rfl, nofun, separator⟩

/-- A row counts when it lists an alternative and is no detached head. -/
theorem counts_iff (row : isRow line = true) :
    (isSeparator line || (below.find? isRow).any isSeparator || namesAlternatives line) = false ↔
      DataLine line below ∧ ¬ DetachedHead line below := by
  rw [Bool.or_eq_false_iff, Bool.or_eq_false_iff, detachedHead_iff]
  constructor
  · rintro ⟨⟨other, behind⟩, silent⟩
    have notAbove : ∀ next ∈ below.head?, ¬ SeparatorRow next := by
      intro next first separator
      rw [any_find?_of_head? first separator] at behind
      cases behind
    refine ⟨dataLine_iff.mpr ⟨row, other, silent, notAbove⟩, fun detached => ?_⟩
    rw [detached.2] at behind
    cases behind
  · rintro ⟨data, attached⟩
    obtain ⟨_, other, silent, _⟩ := dataLine_iff.mp data
    exact ⟨⟨other, Bool.eq_false_iff.mpr fun behind => attached ⟨data, behind⟩⟩, silent⟩

/-- **All lines that list an alternative are counted but the detached heads.** -/
theorem countTableRows_add (texts : List Text) :
    countDataRows (texts.filter isRow) + countLines DetachedHead texts =
      countLines DataLine texts := by
  induction texts with
  | nil => rfl
  | cons line below ih =>
      rw [countLines, countLines, ← ih]
      by_cases row : isRow line = true
      · rw [List.filter_cons_of_pos row, countDataRows, List.head?_filter]
        have counts : (if isSeparator line || (below.find? isRow).any isSeparator ||
              namesAlternatives line then 0 else 1) + (if DetachedHead line below then 1 else 0) =
            if DataLine line below then 1 else 0 := by
          by_cases counted : DataLine line below ∧ ¬ DetachedHead line below
          · rw [(counts_iff row).mpr counted, if_pos counted.1, if_neg counted.2]
            rfl
          · rw [eq_true_of_ne_false (mt (counts_iff row).mp counted), if_pos rfl]
            by_cases detached : DetachedHead line below
            · rw [if_pos detached, if_pos detached.data]
            · rw [if_neg detached, if_neg fun data => counted ⟨data, detached⟩]
        omega
      · have none : ¬ DataLine line below := fun data => row (dataLine_iff.mp data).1
        rw [List.filter_cons_of_neg row, if_neg none,
          if_neg fun detached : DetachedHead line below => none detached.data]
        omega

end Count

end ReviewGate.Record
