import ReviewGate.Proofs.Record.TableRows
import ReviewGate.Proofs.Text.FilledLine

/-!
# How many alternatives a record lists

Where the section of alternatives has no rows that count, the items of its lists
are counted. An item is meant to be a line: a bullet or a number with a sign,
white space and a character behind it. The scan finds these lines, but a mark
with nothing but white space behind it takes the next line that is not blank, so
it is an item as well, and that line is passed over (`countListItems_eq`). There
are never less items than lines with an item, and as many exactly when bare
marks take nothing but such lines (`countP_le_length_items`).

`Document.countAlternatives_read` joins this with the count of table rows.
-/

set_option autoImplicit false

namespace ReviewGate.Record

open Text

/-! ## Marks of items -/

/-- The mark of a list item: a bullet, or digits with a point or a bracket. -/
inductive ItemMark : Text → Prop
  | bullet {c : Char} (member : c ∈ ['-', '*', '+']) : ItemMark [c]
  | number {digits : Text} {c : Char} (run : Run isDecimalDigit digits)
      (member : c ∈ ['.', ')']) : ItemMark (digits ++ [c])

theorem ItemMark.single {mark : Text} (isMark : ItemMark mark) : '\n' ∉ mark := by
  cases isMark with
  | bullet member =>
      intro inside
      rw [← List.mem_singleton.mp inside] at member
      revert member
      decide
  | number run member =>
      intro inside
      rcases List.mem_append.mp inside with digit | sign
      · exact run.not_mem (by decide) digit
      · rw [← List.mem_singleton.mp sign] at member
        revert member
        decide

theorem not_bullet_of_digit {c : Char} (digit : isDecimalDigit c = true) :
    c ∉ ['-', '*', '+'] := by
  intro member
  exact absurd digit (Bool.eq_false_iff.mp (outside_of_mem member (by decide)))

/-- A mark is read off the beginning of a text. -/
theorem afterItemMark?_eq_some_iff {text rest : Text} :
    afterItemMark? text = some rest ↔ ∃ mark, ItemMark mark ∧ text = mark ++ rest := by
  constructor
  · intro read
    cases text with
    | nil => cases read
    | cons c more =>
        rw [afterItemMark?] at read
        split at read
        next bullet =>
          cases read
          refine ⟨[c], .bullet ?_, rfl⟩
          simpa [or_assoc] using bullet
        next =>
          obtain ⟨behind, digits, sign⟩ := Option.bind_eq_some_iff.mp read
          obtain ⟨run, isRun, whole⟩ := exists_of_afterSome? digits
          obtain ⟨start, member, begins⟩ := List.exists_of_findSome?_eq_some sign
          rw [whole, after?_eq_some_iff.mp begins]
          rcases List.mem_pair.mp member with rfl | rfl
          · exact ⟨run ++ ['.'], .number isRun (by simp), by simp⟩
          · exact ⟨run ++ [')'], .number isRun (by simp), by simp⟩
  · rintro ⟨mark, isMark, rfl⟩
    cases isMark with
    | bullet member =>
        simp only [List.mem_cons, List.not_mem_nil, or_false] at member
        rcases member with rfl | rfl | rfl <;> rfl
    | @number digits c run member =>
        obtain ⟨d, others, rfl, digit⟩ := run.exists_cons
        have other : ¬ (d == '-' || d == '*' || d == '+') = true := by
          simpa [or_assoc] using not_bullet_of_digit digit
        have ends : ∀ sign ∈ (c :: rest).head?, isDecimalDigit sign = false := by
          rintro _ ⟨⟩
          exact outside_of_mem member (by decide)
        have taken : afterSome? isDecimalDigit (d :: others ++ c :: rest) = some (c :: rest) :=
          afterSome?_append run ends
        rw [List.append_assoc, List.singleton_append, List.cons_append, afterItemMark?,
          if_neg other, ← List.cons_append, taken, Option.bind_some]
        rcases List.mem_pair.mp member with rfl | rfl <;> rfl

/-- A mark stands on the first of some lines. -/
theorem afterItemMark?_unlines (line : Text) (below : List Text) :
    afterItemMark? (unlines (line :: below)) =
      (afterItemMark? line).map fun body => unlines (body :: below) := by
  cases read : afterItemMark? line with
  | some body =>
      obtain ⟨mark, isMark, rfl⟩ := afterItemMark?_eq_some_iff.mp read
      exact afterItemMark?_eq_some_iff.mpr ⟨mark, isMark, unlines_append_cons mark body below⟩
  | none =>
      rw [Option.map_none, Option.eq_none_iff_forall_ne_some]
      intro rest found
      obtain ⟨mark, isMark, same⟩ := afterItemMark?_eq_some_iff.mp found
      obtain ⟨behind, whole, ends⟩ := exists_unlines_cons line below
      -- a mark that is longer than the line would hold the newline behind it
      have within : ∃ more, line = mark ++ more := by
        rcases List.append_eq_append_iff.mp (whole.symm.trans same) with
          ⟨beyond, rfl, tail⟩ | ⟨more, parts, _⟩
        · cases beyond with
          | nil => exact ⟨[], by simp⟩
          | cons c beyond =>
              obtain rfl := ends c (by rw [tail]; rfl)
              exact absurd (by simp) isMark.single
        · exact ⟨more, parts⟩
      obtain ⟨more, parts⟩ := within
      rw [afterItemMark?_eq_some_iff.mpr ⟨mark, isMark, parts⟩] at read
      cases read

/-! ## Items line by line -/

/-- A line with an item: a mark, white space and a character. -/
def ItemLine (line : Text) : Prop :=
  ∃ mark gap c rest, line = mark ++ (gap ++ c :: rest) ∧ ItemMark mark ∧ Gap gap ∧
    isBlank c = false

/-- A line with a mark and nothing but white space behind it. -/
def BareMark (line : Text) : Prop :=
  ∃ mark gap, line = mark ++ gap ∧ ItemMark mark ∧ Blank gap

/-- The item that a line has together with the lines below it. -/
def itemFrom? (line : Text) (below : List Text) : Option (Reach Unit) :=
  (afterItemMark? line).bind fun body =>
    if body.head?.all isBlank then
      (firstFilled? (body :: below)).map fun target => ⟨(), target.below⟩
    else none

section Lines

variable {line : Text} {below : List Text}

theorem bareMark_iff : BareMark line ↔ ∃ body, afterItemMark? line = some body ∧ Blank body := by
  simp only [afterItemMark?_eq_some_iff, BareMark]
  constructor
  · rintro ⟨mark, gap, rfl, isMark, blank⟩
    exact ⟨gap, ⟨mark, isMark, rfl⟩, blank⟩
  · rintro ⟨gap, ⟨mark, isMark, rfl⟩, blank⟩
    exact ⟨mark, gap, rfl, isMark, blank⟩

theorem itemLine_iff :
    ItemLine line ↔ ∃ body, afterItemMark? line = some body ∧
      (∀ c ∈ body.head?, isBlank c = true) ∧ ¬ Blank body := by
  simp only [afterItemMark?_eq_some_iff]
  constructor
  · rintro ⟨mark, gap, c, rest, rfl, isMark, isGap, solid⟩
    refine ⟨gap ++ c :: rest, ⟨mark, isMark, rfl⟩, isGap.head _, fun all => ?_⟩
    exact all.not_mem solid (List.mem_append_right gap List.mem_cons_self)
  · rintro ⟨body, ⟨mark, isMark, rfl⟩, begins, filled⟩
    obtain ⟨gap, c, rest, rfl, blank, solid⟩ := exists_of_not_blank filled
    exact ⟨mark, gap, c, rest, rfl, isMark, ⟨ne_nil_of_blank_head solid begins, blank⟩, solid⟩

theorem not_bareMark_of_itemLine (item : ItemLine line) : ¬ BareMark line := by
  intro bare
  obtain ⟨body, read, _, filled⟩ := itemLine_iff.mp item
  obtain ⟨other, again, blank⟩ := bareMark_iff.mp bare
  rw [Option.some.inj (read.symm.trans again)] at filled
  exact filled blank

theorem not_bareMark_of_blank (blank : Blank line) : ¬ BareMark line := by
  rintro ⟨mark, gap, rfl, isMark, _⟩
  have mem : ∃ c ∈ mark, isBlank c = false := by
    cases isMark with
    | @bullet c member => exact ⟨c, List.mem_cons_self, outside_of_mem member (by decide)⟩
    | @number digits c run member => exact ⟨c, by simp, outside_of_mem member (by decide)⟩
  obtain ⟨c, inside, solid⟩ := mem
  exact blank.not_mem solid (List.mem_append_left gap inside)

/-- An item on the line is taken as it is. -/
theorem itemFrom?_of_itemLine (item : ItemLine line) : itemFrom? line below = some ⟨(), 0⟩ := by
  obtain ⟨body, read, begins, filled⟩ := itemLine_iff.mp item
  rw [itemFrom?, read, Option.bind_some, if_pos ((Option.all_eq_true ..).mpr begins),
    firstFilled?_of_filled filled]
  rfl

/-- A bare mark takes the first line below that is not blank. -/
theorem itemFrom?_of_bareMark (bare : BareMark line) :
    itemFrom? line below = (firstFilled? below).map fun target => ⟨(), target.below + 1⟩ := by
  obtain ⟨body, read, blank⟩ := bareMark_iff.mp bare
  have begins : ∀ c ∈ body.head?, isBlank c = true := fun c first =>
    blank c (List.mem_of_mem_head? first)
  rw [itemFrom?, read, Option.bind_some, if_pos ((Option.all_eq_true ..).mpr begins),
    firstFilled?_of_blank blank, Option.map_map]
  rfl

/-- Other lines have no item. -/
theorem itemFrom?_of_not (item : ¬ ItemLine line) (bare : ¬ BareMark line) :
    itemFrom? line below = none := by
  rw [itemFrom?]
  cases read : afterItemMark? line with
  | none => rfl
  | some body =>
      have filled : ¬ Blank body := fun blank => bare (bareMark_iff.mpr ⟨body, read, blank⟩)
      have begins : ¬ ∀ c ∈ body.head?, isBlank c = true := fun begins =>
        item (itemLine_iff.mpr ⟨body, read, begins, filled⟩)
      rw [Option.bind_some, if_neg (mt (Option.all_eq_true ..).mp begins)]

instance (line : Text) : Decidable (ItemLine line) :=
  decidable_of_iff ((itemFrom? line []).isSome = true) <| by
    by_cases item : ItemLine line
    · rw [itemFrom?_of_itemLine item]
      exact iff_of_true rfl item
    · refine iff_of_false (fun found => ?_) item
      by_cases bare : BareMark line
      · rw [itemFrom?_of_bareMark bare] at found
        cases found
      · rw [itemFrom?_of_not item bare] at found
        cases found

theorem listItem?_eq (text : Text) :
    listItem? text = (afterItemMark? text).bind fun body => (afterBlank? body).bind fun rest =>
      if rest.isEmpty then none else some ⟨(), text.length - rest.length + 1⟩ := rfl

/-- No item where a character stands directly behind the mark. -/
theorem afterBlank?_of_solid {text : Text} (begins : ¬ ∀ c ∈ text.head?, isBlank c = true) :
    afterBlank? text = none := by
  cases text with
  | nil => rfl
  | cons c rest =>
      rw [afterBlank?, afterSome?, if_neg]
      rintro blank
      refine begins ?_
      rintro _ ⟨⟩
      exact blank

/-- White space alone leaves nothing. -/
theorem eq_nil_of_afterBlank? {text rest : Text} (blank : Blank text)
    (read : afterBlank? text = some rest) : rest = [] := by
  cases text with
  | nil => cases read
  | cons c more =>
      have all : ∀ d ∈ more, isBlank d = true := fun d member =>
        blank d (List.mem_cons_of_mem c member)
      rw [afterBlank?, afterSome?, if_pos (blank c List.mem_cons_self),
        List.dropWhile_eq_nil_iff.mpr all] at read
      exact (Option.some.inj read).symm

/-- **List items are read off a line and those below it.** -/
theorem readOff_items (texts : List Text) : ReadOff listItem? itemFrom? texts := by
  refine ⟨fun line below _ nothing => ?_, fun line below found _ finding => ?_⟩
  · rw [listItem?_eq, afterItemMark?_unlines]
    cases read : afterItemMark? line with
    | none => rfl
    | some body =>
        rw [itemFrom?, read, Option.bind_some] at nothing
        rw [Option.map_some, Option.bind_some]
        by_cases begins : ∀ c ∈ body.head?, isBlank c = true
        · rw [if_pos ((Option.all_eq_true ..).mpr begins)] at nothing
          have unfilled := firstFilled?_eq_none_iff.mp (Option.map_eq_none_iff.mp nothing)
          have blank := blank_unlines unfilled
          cases rest : afterBlank? (unlines (body :: below)) with
          | none => rfl
          | some rest => rw [eq_nil_of_afterBlank? blank rest]; rfl
        · have solid : ¬ ∀ c ∈ (unlines (body :: below)).head?, isBlank c = true := by
            obtain ⟨rest, whole, _⟩ := exists_unlines_cons body below
            rw [whole]
            cases body with
            | nil => exact absurd nofun begins
            | cons c body => exact begins
          rw [afterBlank?_of_solid solid]
          rfl
  · obtain ⟨body, read, finding⟩ := Option.bind_eq_some_iff.mp finding
    split at finding
    next opens =>
      have begins : ∀ c ∈ body.head?, isBlank c = true := (Option.all_eq_true ..).mp opens
      obtain ⟨target, first, rfl⟩ := Option.map_eq_some_iff.mp finding
      obtain ⟨mark, isMark, rfl⟩ := afterItemMark?_eq_some_iff.mp read
      obtain ⟨gap, front, c, tail, rest, whole, _, _, blank, _, solid, _, taken⟩ :=
        exists_of_firstFilled? first
      have parted : gap ≠ [] :=
        ne_nil_of_blank_head solid (whole ▸ blank_head_unlines begins below)
      have ends : ∀ d ∈ (c :: tail ++ rest).head?, isBlank d = false := by
        rintro _ ⟨⟩
        exact solid
      have behind : afterBlank? (gap ++ (c :: tail ++ rest)) = some (c :: tail ++ rest) :=
        afterSome?_append ⟨parted, blank⟩ ends
      refine ⟨mark.length + (gap.length + 1), ?_, .inl ?_⟩
      · rw [listItem?_eq, afterItemMark?_unlines, read, Option.map_some, Option.bind_some,
          whole, behind, unlines_append_cons, whole]
        simp only [Option.bind_some, List.cons_append, List.isEmpty_cons, List.length_append]
        refine congrArg some (congrArg (Match.mk ()) ?_)
        omega
      · rw [linesTaken_append (Nat.succ_pos gap.length)]
        exact taken 0 (Nat.zero_le tail.length)
    next => cases finding

end Lines

/-- The items of lists on some lines. -/
def itemsOn (texts : List Text) : List (Found Unit) := foundBelow itemFrom? 0 0 texts

/-- **List items are found line by line**, each with a look at the lines below. -/
theorem countListItems_eq (text : Text) : countListItems text = (itemsOn (lines text)).length := by
  have single : ∀ line ∈ lines text, '\n' ∉ line := fun line => not_mem_of_mem_lines
  have found := scanLines_eq_foundBelow rfl single (readOff_items (lines text))
  rw [unlines_lines] at found
  rw [countListItems, found, itemsOn]

/-! ## Lines with an item -/

/-- Bare marks take nothing but lines with an item. -/
def MarksTakeItems (texts : List Text) : Prop :=
  ∀ line below, line :: below <:+ texts → BareMark line →
    ∀ target, firstFilled? below = some target → ItemLine target.value

section Count

variable {line : Text} {texts : List Text}

theorem marksTakeItems_cons :
    MarksTakeItems (line :: texts) ↔
      (BareMark line → ∀ target, firstFilled? texts = some target → ItemLine target.value) ∧
        MarksTakeItems texts := by
  simp only [MarksTakeItems, List.suffix_cons_iff, List.cons.injEq, or_imp, forall_and, and_imp]
  refine and_congr_left fun _ => ⟨fun first => first line texts rfl rfl, ?_⟩
  rintro first _ _ rfl rfl
  exact first

theorem marksTakeItems_cons_of_not (bare : ¬ BareMark line) :
    MarksTakeItems (line :: texts) ↔ MarksTakeItems texts := by
  rw [marksTakeItems_cons]
  exact and_iff_right fun mark => absurd mark bare

theorem marksTakeItems_append {front : List Text} (blank : ∀ line ∈ front, Blank line) :
    MarksTakeItems (front ++ texts) ↔ MarksTakeItems texts := by
  induction front with
  | nil => rfl
  | cons line front ih =>
      obtain ⟨here, later⟩ := List.forall_mem_cons.mp blank
      rw [List.cons_append, marksTakeItems_cons_of_not (not_bareMark_of_blank here), ih later]

theorem not_itemLine_of_blank (blank : Blank line) : ¬ ItemLine line := by
  rintro ⟨mark, gap, c, rest, rfl, _, _, solid⟩
  exact blank.not_mem solid (by simp)

/-- Behind a bare mark and the line that it takes, the count goes on. -/
theorem countP_bareMark {target : Reach Text} (first : firstFilled? texts = some target) :
    texts.countP (ItemLine ·) = (texts.drop (target.below + 1)).countP (ItemLine ·) +
        (if ItemLine target.value then 1 else 0) ∧
      (ItemLine target.value →
        (MarksTakeItems texts ↔ MarksTakeItems (texts.drop (target.below + 1)))) := by
  obtain ⟨front, more, rfl, blank, _, length⟩ := exists_append_of_firstFilled? first
  have rest : (front ++ target.value :: more).drop (target.below + 1) = more := by
    rw [← length, List.drop_length_add_append, List.drop_one, List.tail_cons]
  have nowhere : front.countP (ItemLine ·) = 0 := by
    rw [List.countP_eq_zero]
    intro line member
    simpa using not_itemLine_of_blank (blank line member)
  refine ⟨?_, fun item => ?_⟩
  · rw [rest, List.countP_append, nowhere, Nat.zero_add, List.countP_cons]
    simp
  · rw [rest, marksTakeItems_append blank,
      marksTakeItems_cons_of_not (not_bareMark_of_itemLine item)]

/-- **There are never less items than lines with an item**, and as many exactly
when bare marks take nothing but such lines. The first `taken` lines belong to
an item in front of them. -/
theorem countP_le_length_items (texts : List Text) (taken offset : Nat) :
    (texts.drop taken).countP (ItemLine ·) ≤ (foundBelow itemFrom? taken offset texts).length ∧
      ((foundBelow itemFrom? taken offset texts).length =
          (texts.drop taken).countP (ItemLine ·) ↔ MarksTakeItems (texts.drop taken)) := by
  induction texts generalizing taken offset with
  | nil =>
      have takes : MarksTakeItems [] := fun line below suffix =>
        absurd (List.suffix_nil.mp suffix) (List.cons_ne_nil line below)
      have none : foundBelow itemFrom? taken offset [] = [] := by cases taken <;> rfl
      rw [List.drop_nil, none]
      exact ⟨Nat.le_refl 0, iff_of_true rfl takes⟩
  | cons line below ih =>
      cases taken with
      | succ taken => exact ih taken _
      | zero =>
          rw [List.drop_zero, foundBelow]
          by_cases item : ItemLine line
          · obtain ⟨le, same⟩ := ih 0 (offset + line.length + 1)
            have counted : (line :: below).countP (ItemLine ·) = below.countP (ItemLine ·) + 1 :=
              List.countP_cons_of_pos (by simpa using item)
            rw [itemFrom?_of_itemLine item, counted,
              marksTakeItems_cons_of_not (not_bareMark_of_itemLine item), List.length_cons,
              Nat.add_right_cancel_iff]
            exact ⟨Nat.succ_le_succ le, same⟩
          · rw [List.countP_cons_of_neg (by simpa using item)]
            by_cases bare : BareMark line
            · rw [itemFrom?_of_bareMark bare, marksTakeItems_cons]
              cases first : firstFilled? below with
              | none =>
                  obtain ⟨le, same⟩ := ih 0 (offset + line.length + 1)
                  refine ⟨le, same.trans (and_iff_right ?_).symm⟩
                  intro _ target taken
                  cases taken
              | some target =>
                  obtain ⟨le, same⟩ := ih (target.below + 1) (offset + line.length + 1)
                  obtain ⟨count, takes⟩ := countP_bareMark first
                  rw [Option.map_some, List.length_cons, count]
                  dsimp only
                  by_cases taken : ItemLine target.value
                  · rw [if_pos taken, takes taken, Nat.add_right_cancel_iff, same]
                    refine ⟨Nat.succ_le_succ le, (and_iff_right fun _ => ?_).symm⟩
                    rintro _ ⟨⟩
                    exact taken
                  · rw [if_neg taken]
                    refine ⟨by omega, iff_of_false (by omega) fun takes => ?_⟩
                    exact taken (takes.1 bare target rfl)
            · rw [itemFrom?_of_not item bare, marksTakeItems_cons_of_not bare]
              exact ih 0 (offset + line.length + 1)

end Count

/-! ## The count of alternatives -/

/-- How many alternatives lines list: those on rows of tables, or else the lines
with an item. -/
def listedOn (texts : List Text) : Nat :=
  if 0 < countLines DataLine texts then countLines DataLine texts else texts.countP (ItemLine ·)

/-- How many alternatives are counted on lines: those on rows of tables without
the detached heads, or else the items of lists. -/
def countedOn (texts : List Text) : Nat :=
  if countLines DetachedHead texts < countLines DataLine texts then
    countLines DataLine texts - countLines DetachedHead texts
  else (itemsOn texts).length

/-- When as many alternatives are counted as the lines list. -/
theorem countedOn_eq_listedOn_iff (texts : List Text) :
    countedOn texts = listedOn texts ↔
      if 0 < countLines DataLine texts then
        countLines DetachedHead texts = 0 ∨
          (countLines DetachedHead texts = countLines DataLine texts ∧
            (itemsOn texts).length = countLines DataLine texts)
      else MarksTakeItems texts := by
  have within : countLines DetachedHead texts ≤ countLines DataLine texts := by
    rw [← countTableRows_add texts]
    exact Nat.le_add_left ..
  rw [countedOn, listedOn]
  by_cases filled : 0 < countLines DataLine texts
  · rw [if_pos filled, if_pos filled]
    by_cases counts : countLines DetachedHead texts < countLines DataLine texts
    · rw [if_pos counts]
      omega
    · rw [if_neg counts]
      omega
  · rw [if_neg filled, if_neg filled, if_neg (by omega)]
    exact (countP_le_length_items texts 0 0).2

/-- The alternatives of a record are counted on the lines of their section. -/
theorem Document.countAlternatives_eq (document : Document) :
    document.countAlternatives = countedOn (lines (document.sectionText alternativesName)) := by
  have rows := countTableRows_add (lines (document.sectionText alternativesName))
  rw [Document.countAlternatives, countedOn, countListItems_eq, countTableRows]
  by_cases counts : 0 < countDataRows
      ((lines (document.sectionText alternativesName)).filter isRow)
  · rw [if_pos counts, if_pos (by omega)]
    omega
  · rw [if_neg counts, if_neg (by omega)]

/-- **The alternatives of a record are counted line by line.** Without a section
of alternatives there are none. In the section, the rows that list one count,
without the detached heads, and where none of them counts the items of lists do.
There are never less items than lines with one. So as many are counted as the
lines list exactly when no head is detached, where there are rows, and when bare
marks take nothing but lines with an item, where there are none; but for the
case that all heads are detached and there happen to be as many items as rows. -/
theorem Document.countAlternatives_read (text path : Text) :
    ((Document.read text path).section? alternativesName = none →
        (Document.read text path).countAlternatives = 0) ∧
      ∀ part, (Document.read text path).section? alternativesName = some part →
        (Document.read text path).countAlternatives = countedOn (lines part.content) ∧
        (lines part.content).countP (ItemLine ·) ≤ (itemsOn (lines part.content)).length ∧
        ((Document.read text path).countAlternatives = listedOn (lines part.content) ↔
          if 0 < countLines DataLine (lines part.content) then
            countLines DetachedHead (lines part.content) = 0 ∨
              (countLines DetachedHead (lines part.content) =
                  countLines DataLine (lines part.content) ∧
                (itemsOn (lines part.content)).length = countLines DataLine (lines part.content))
          else MarksTakeItems (lines part.content)) := by
  have counted := Document.countAlternatives_eq (Document.read text path)
  unfold Document.sectionText at counted
  refine ⟨fun absent => ?_, fun part found => ?_⟩
  · rw [counted, absent]
    rfl
  · rw [found, Option.map_some, Option.getD_some] at counted
    rw [counted]
    exact ⟨rfl, (countP_le_length_items _ 0 0).1, countedOn_eq_listedOn_iff _⟩

/-- A record with a table and a list of alternatives. -/
def tableAndList : Text :=
  "## Alternatives\n| Option | Why |\n|---|---|\n| A | x |\n\n- note\n".toList

/-- Where the separator stands below its head, the row behind it counts. -/
theorem Document.countAlternatives_read_table :
    (Document.read tableAndList []).countAlternatives = 1 := by
  have found : ∃ part, (Document.read tableAndList []).section? alternativesName = some part ∧
      countLines DetachedHead (lines part.content) = 0 ∧
      countLines DataLine (lines part.content) = 1 :=
    ⟨⟨"Alternatives".toList, trim tableAndList, 0, 61⟩, by decide +kernel⟩
  obtain ⟨part, found, attached, rows⟩ := found
  have counted := ((Document.countAlternatives_read tableAndList []).2 part found).1
  rw [counted, countedOn, attached, rows]
  rfl

/-- A record with text between the head of a table and a separator. -/
def detachedTable : Text :=
  "## Alternatives\n| A | x |\nprose\n|---|---|\n| B | y |\n".toList

/-- A record with a bare mark in front of text. -/
def bareMarkList : Text :=
  "## Alternatives\n-\nsome text\n- B\n".toList

/-- The row in front of the text does not count, and the bare mark does. -/
theorem Document.countAlternatives_differs :
    listedOn (lines ((Document.read detachedTable []).sectionText alternativesName)) = 2 ∧
      (Document.read detachedTable []).countAlternatives = 1 ∧
      listedOn (lines ((Document.read bareMarkList []).sectionText alternativesName)) = 1 ∧
      (Document.read bareMarkList []).countAlternatives = 2 := by
  decide +kernel

end ReviewGate.Record
