import ReviewGate.Proofs.Text.Lines
import ReviewGate.Text.LineScan

/-!
# What a scan for shapes finds

A scan finds shapes that stand at the beginnings of lines, from the left and
without overlap. `Scans` says so as a relation: from a position on, either no
line begins with the shape, or the first one that does is a finding, and the
rest is what is found behind its end. The function fulfils the relation
(`scans_scanLines`), and what is needed of it later is read off the relation:
that findings stand in the text, that each begins behind the end of the one
before, and that no place where a line begins with the shape is overlooked,
unless an earlier finding reaches over it.

A scan looks ahead, so text behind the end may change what it finds. Where that
can touch the last finding at most, all others are found in the longer text as
well (`Scans.longer`).

Where the shape can be read off a line and those below it, a scan goes line by
line (`scanLines_eq_foundBelow`): what is read begins where its line does, and
the lines that it takes are passed over. Where the shape takes whole lines or
nothing, it finds what is on each line alone (`scanLines_unlines`).
-/

set_option autoImplicit false

namespace ReviewGate.Text

/-- Whether a line of a text begins at an offset: at the beginning of the text
and behind every newline. -/
def LineStart (text : Text) (offset : Nat) : Prop :=
  offset = 0 ∨ text[offset - 1]? = some '\n'

/-- What a text that goes on with a character looks like one character later. -/
theorem of_drop_eq_cons {α : Type} {items rest : List α} {offset : Nat} {item : α}
    (here : items.drop offset = item :: rest) :
    offset < items.length ∧ items[offset]? = some item ∧ items.drop (offset + 1) = rest := by
  have found : items[offset]? = some item := by
    have first := congrArg (·[0]?) here
    rwa [List.getElem?_drop, List.getElem?_cons_zero] at first
  refine ⟨(List.getElem?_eq_some_iff.mp found).1, found, ?_⟩
  rw [← List.tail_drop, here, List.tail_cons]

/-- Behind a character, a line begins when the character is a newline. -/
theorem lineStart_succ_iff {text : Text} {offset : Nat} {c : Char}
    (found : text[offset]? = some c) : LineStart text (offset + 1) ↔ (c == '\n') = true := by
  rw [LineStart, Nat.add_sub_cancel, found, Option.some.injEq, beq_iff_eq]
  exact or_iff_right (Nat.succ_ne_zero offset)

section Scan

variable {α : Type} (shape : Text → Option (Match α)) (text : Text)

/-! ## The relation -/

/-- No line that begins in a range of offsets begins with the shape. -/
def NoneBetween (start stop : Nat) : Prop :=
  ∀ offset, start ≤ offset → offset < stop → LineStart text offset →
    shape (text.drop offset) = none

/-- A finding stands in a text where a line begins with the shape, with its
value and over a number of characters. -/
structure Found.Stands (found : Found α) (length : Nat) : Prop where
  within : found.offset < text.length
  lineStart : LineStart text found.offset
  matched : shape (text.drop found.offset) = some ⟨found.value, length⟩

/-- The findings from a position on: the first line that begins with the shape
is the first of them, and the others follow behind its end. -/
inductive Scans : Nat → List (Found α) → Prop where
  | done {position : Nat} (nothing : NoneBetween shape text position text.length) :
      Scans position []
  | found {position : Nat} {first : Found α} {length : Nat} {more : List (Found α)}
      (behind : position ≤ first.offset) (stands : first.Stands shape text length)
      (nothing : NoneBetween shape text position first.offset)
      (rest : Scans (first.offset + max length 1) more) : Scans position (first :: more)

variable {shape text}

/-- Where nothing begins between, a scan may as well start earlier. -/
theorem Scans.earlier {position start : Nat} {founds : List (Found α)} (before : start ≤ position)
    (between : NoneBetween shape text start position) (scans : Scans shape text position founds) :
    Scans shape text start founds := by
  have joined : ∀ stop, NoneBetween shape text position stop → NoneBetween shape text start stop :=
    fun stop later offset lower upper atStart =>
      (Nat.lt_or_ge offset position).elim (fun less => between offset lower less atStart)
        (fun more => later offset more upper atStart)
  cases scans with
  | done nothing => exact .done (joined _ nothing)
  | found behind stands nothing rest =>
      exact .found (Nat.le_trans before behind) stands (joined _ nothing) rest

theorem scans_scanLinesFrom {rest : Text} {offset taken : Nat} {atLineStart : Bool}
    (here : text.drop offset = rest) (flagged : LineStart text offset ↔ atLineStart = true) :
    Scans shape text (offset + taken) (scanLinesFrom shape taken offset atLineStart rest) := by
  induction rest generalizing offset taken atLineStart with
  | nil =>
      have past := List.drop_eq_nil_iff.mp here
      exact .done fun place lower upper _ => by omega
  | cons c rest ih =>
      obtain ⟨within, found, next⟩ := of_drop_eq_cons here
      have later : ∀ less, Scans shape text (offset + 1 + less)
          (scanLinesFrom shape less (offset + 1) (c == '\n') rest) :=
        fun less => ih next (lineStart_succ_iff found)
      cases taken with
      | succ taken =>
          rw [scanLinesFrom, ← Nat.succ_add_eq_add_succ]
          exact later taken
      | zero =>
          rw [scanLinesFrom]
          split
          next first matched =>
            split at matched
            next begins =>
              have stands : Found.Stands shape text ⟨offset, first.value⟩ first.length :=
                ⟨within, flagged.mpr begins, here ▸ matched⟩
              have rest := later (first.length - 1)
              rw [show offset + 1 + (first.length - 1) = offset + max first.length 1 by omega]
                at rest
              exact .found (Nat.le_refl _) stands
                (fun _ lower upper _ => absurd upper (Nat.not_lt.mpr lower)) rest
            next => cases matched
          next unmatched =>
            refine (later 0).earlier (Nat.le_succ offset) fun place lower upper begins => ?_
            obtain rfl : place = offset := by omega
            rwa [if_pos (flagged.mp begins), ← here] at unmatched

/-- **A scan of a text finds what the relation says, from its beginning on.** -/
theorem scans_scanLines : Scans shape text 0 (scanLines shape text) := by
  have whole : text.drop 0 = text := List.drop_zero
  have flagged : LineStart text 0 ↔ true = true := ⟨fun _ => rfl, fun _ => .inl rfl⟩
  change Scans shape text (0 + 0) (scanLinesFrom shape 0 0 true text)
  exact scans_scanLinesFrom whole flagged

/-! ## What the relation says -/

/-- Every finding stands in the text, behind the position of the scan. -/
theorem Scans.stands {position : Nat} {founds : List (Found α)}
    (scans : Scans shape text position founds) {found : Found α} (member : found ∈ founds) :
    position ≤ found.offset ∧ ∃ length, found.Stands shape text length := by
  induction scans with
  | done => cases member
  | found behind stands _ _ ih =>
      rcases List.mem_cons.mp member with rfl | later
      · exact ⟨behind, _, stands⟩
      · obtain ⟨further, standing⟩ := ih later
        exact ⟨by omega, standing⟩

/-- A finding takes the same number of characters wherever it is looked at. -/
theorem Found.Stands.length_eq {found : Found α} {length other : Nat}
    (stands : found.Stands shape text length) (again : found.Stands shape text other) :
    length = other :=
  congrArg Match.length (Option.some.inj (stands.matched.symm.trans again.matched))

/-- Each finding begins behind the ends of all before it. -/
theorem Scans.pairwise {position : Nat} {founds : List (Found α)}
    (scans : Scans shape text position founds) :
    founds.Pairwise fun earlier later => earlier.offset < later.offset ∧
      ∀ length, earlier.Stands shape text length → earlier.offset + length ≤ later.offset := by
  induction scans with
  | done => exact .nil
  | found behind stands _ rest ih =>
      refine List.pairwise_cons.mpr ⟨fun later member => ?_, ih⟩
      have further := (rest.stands member).1
      refine ⟨by omega, fun length again => ?_⟩
      cases stands.length_eq again
      omega

/-! ## Longer texts -/

/-- Whether what follows a text can change what a scan finds in it at the last
finding at most: the shape stays wherever it stands, and in front of a line
that begins with it nothing changes. -/
structure Settled (shape : Text → Option (Match α)) (text tail : Text) : Prop where
  stays : ∀ offset < text.length, shape (text.drop offset) ≠ none →
    shape (text.drop offset ++ tail) ≠ none
  same : ∀ offset later, offset < later → later < text.length → LineStart text later →
    shape (text.drop later) ≠ none → shape (text.drop offset ++ tail) = shape (text.drop offset)

section Longer

variable {tail : Text}

/-- What stands behind a text begins no line in it. -/
theorem lineStart_append_iff {offset : Nat} (within : offset ≤ text.length) :
    LineStart (text ++ tail) offset ↔ LineStart text offset := by
  rcases Nat.eq_zero_or_pos offset with rfl | positive
  · exact ⟨fun _ => .inl rfl, fun _ => .inl rfl⟩
  · rw [LineStart, LineStart, List.getElem?_append_left (by omega)]

variable (settled : Settled shape text tail)

include settled

/-- Where a finding stands, a line of the longer text begins with the shape. -/
theorem Settled.begins {found : Found α} {length : Nat} (stands : found.Stands shape text length) :
    found.offset < (text ++ tail).length ∧ LineStart (text ++ tail) found.offset ∧
      shape ((text ++ tail).drop found.offset) ≠ none := by
  have within := stands.within
  refine ⟨?_, (lineStart_append_iff (Nat.le_of_lt within)).mpr stands.lineStart, ?_⟩
  · rw [List.length_append]
    omega
  · rw [List.drop_append_of_le_length (Nat.le_of_lt within)]
    refine settled.stays _ within ?_
    rw [stands.matched]
    exact Option.some_ne_none _

/-- In front of a finding, the longer text does not differ. -/
theorem Settled.shape_eq {found : Found α} {length offset : Nat}
    (stands : found.Stands shape text length) (before : offset < found.offset) :
    shape ((text ++ tail).drop offset) = shape (text.drop offset) := by
  have within := stands.within
  rw [List.drop_append_of_le_length (by omega)]
  refine settled.same offset found.offset before within stands.lineStart ?_
  rw [stands.matched]
  exact Option.some_ne_none _

/-- The first finding has its place in the longer text, too. -/
theorem Settled.offset_eq {position length size : Nat} {first other : Found α}
    (behind : position ≤ first.offset) (stands : first.Stands shape text length)
    (nothing : NoneBetween shape text position first.offset) (below : position ≤ other.offset)
    (standing : other.Stands shape (text ++ tail) size)
    (clear : NoneBetween shape (text ++ tail) position other.offset) :
    other.offset = first.offset := by
  have within := stands.within
  rcases Nat.lt_trichotomy other.offset first.offset with before | same | after
  · have start := (lineStart_append_iff (by omega)).mp standing.lineStart
    have found := standing.matched
    rw [settled.shape_eq stands before, nothing _ below before start] at found
    cases found
  · exact same
  · obtain ⟨_, start, still⟩ := settled.begins stands
    exact absurd (clear _ behind after start) still

/-- **A scan of a longer text finds the same** up to the last finding in the
shorter one, which keeps its place but may find something else there. -/
theorem Scans.longer {position : Nat} {founds others : List (Found α)}
    (scans : Scans shape text position founds) (longer : Scans shape (text ++ tail) position others)
    (filled : founds ≠ []) :
    ∃ front last first rest, founds = front ++ [last] ∧ others = front ++ first :: rest ∧
      first.offset = last.offset := by
  induction scans generalizing others with
  | done => exact absurd rfl filled
  | @found position one length more behind stands nothing rest ih =>
      cases longer with
      | done clear =>
          obtain ⟨inside, start, still⟩ := settled.begins stands
          exact absurd (clear _ behind inside start) still
      | @found _ other size others below standing clear further =>
          have place := settled.offset_eq behind stands nothing below standing clear
          cases more with
          | nil => exact ⟨[], one, other, others, rfl, rfl, place⟩
          | cons next later =>
              -- the finding further down settles what is found here
              obtain ⟨past, _, stance⟩ := rest.stands List.mem_cons_self
              have found := standing.matched
              rw [place, settled.shape_eq stance (by omega), stands.matched] at found
              obtain ⟨same, rfl⟩ := Match.mk.injEq .. ▸ Option.some.inj found
              obtain rfl : one = other := by
                cases one
                cases other
                cases place
                cases same
                rfl
              obtain ⟨front, last, first, rest, whole, longer, offset⟩ :=
                ih further (List.cons_ne_nil next later)
              exact ⟨one :: front, last, first, rest, by rw [whole]; rfl, by rw [longer]; rfl,
                offset⟩

end Longer

/-! ## Line by line -/

deriving instance DecidableEq for Found

/-- What a shape finds on a line, and how many of the lines below it takes as
well. -/
structure Reach (α : Type) where
  value : α
  below : Nat

/-- What is found on lines when each is read with the lines below it. The first
`taken` lines belong to the finding in front of them. -/
def foundBelow (read : Text → List Text → Option (Reach α)) :
    Nat → Nat → List Text → List (Found α)
  | _, _, [] => []
  | taken + 1, offset, line :: more => foundBelow read taken (offset + line.length + 1) more
  | 0, offset, line :: more =>
      match read line more with
      | some found =>
          ⟨offset, found.value⟩ :: foundBelow read found.below (offset + line.length + 1) more
      | none => foundBelow read 0 (offset + line.length + 1) more

/-- On how many lines a number of characters stand, from the beginning of the
lines on. The newline behind a line is the last of its characters. -/
def linesTaken : Nat → List Text → Nat
  | _, [] => 0
  | length, line :: more =>
      if length = 0 then 0 else linesTaken (length - (line.length + 1)) more + 1

/-- A shape is read off lines: at the beginning of each there is what is read
off it and the lines below, on as many lines as are read, unless nothing more
is read behind it. -/
structure ReadOff (shape : Text → Option (Match α)) (read : Text → List Text → Option (Reach α))
    (texts : List Text) : Prop where
  nothing : ∀ line more, line :: more <:+ texts → read line more = none →
    shape (unlines (line :: more)) = none
  finding : ∀ line more found, line :: more <:+ texts → read line more = some found →
    ∃ length, shape (unlines (line :: more)) = some ⟨found.value, length⟩ ∧
      (linesTaken length (line :: more) = found.below + 1 ∨
        ∀ next rest, next :: rest <:+ more → read next rest = none)

section Lines

variable {read : Text → List Text → Option (Reach α)} {texts : List Text}

theorem ReadOff.tail {line : Text} (reads : ReadOff shape read (line :: texts)) :
    ReadOff shape read texts where
  nothing next more suffix := reads.nothing next more (suffix.trans (List.suffix_cons line texts))
  finding next more found suffix :=
    reads.finding next more found (suffix.trans (List.suffix_cons line texts))

/-- A line and the lines below it are passed over together with a number of
characters that belong to the last match. -/
theorem scanLinesFrom_pass {line : Text} (single : '\n' ∉ line) (taken offset : Nat)
    (more : List Text) :
    scanLinesFrom shape taken offset false (unlines (line :: more)) =
      scanLinesFrom shape (taken - (line.length + 1)) (offset + line.length + 1) true
        (unlines more) := by
  induction line generalizing taken offset with
  | nil =>
      cases more with
      | nil => rfl
      | cons next more =>
          rw [unlines_cons [] (List.cons_ne_nil next more)]
          cases taken <;> rfl
  | cons c line ih =>
      obtain ⟨different, later⟩ := List.ne_and_not_mem_of_not_mem_cons single
      have solid : (c == '\n') = false := beq_eq_false_iff_ne.mpr different.symm
      have whole : unlines ((c :: line) :: more) = c :: unlines (line :: more) :=
        unlines_append_cons [c] line more
      rw [whole, List.length_cons,
        show offset + (line.length + 1) + 1 = offset + 1 + line.length + 1 by omega]
      cases taken with
      | zero =>
          have skipped := ih later 0 (offset + 1)
          rw [Nat.zero_sub] at skipped
          rw [scanLinesFrom, solid, Nat.zero_sub]
          exact skipped
      | succ taken =>
          rw [scanLinesFrom, solid, Nat.succ_sub_succ]
          exact ih later taken (offset + 1)

/-- Where a line begins and nothing is matched, a scan goes on as within a line. -/
theorem scanLinesFrom_of_none {rest : Text} (unmatched : shape rest = none) (offset : Nat) :
    scanLinesFrom shape 0 offset true rest = scanLinesFrom shape 0 offset false rest := by
  cases rest with
  | nil => rfl
  | cons c rest => simp [scanLinesFrom, unmatched]

/-- Where a line begins with a match, a scan goes on as within a line that the
match takes. -/
theorem scanLinesFrom_of_some {rest : Text} {value : α} {length : Nat} (filled : rest ≠ [])
    (matched : shape rest = some ⟨value, length⟩) (offset : Nat) :
    scanLinesFrom shape 0 offset true rest =
      ⟨offset, value⟩ :: scanLinesFrom shape (max length 1) offset false rest := by
  obtain ⟨c, rest, rfl⟩ := List.exists_cons_of_ne_nil filled
  obtain ⟨less, more⟩ : ∃ less, max length 1 = less + 1 ∧ length - 1 = less :=
    ⟨length - 1, by omega, rfl⟩
  simp [scanLinesFrom, matched, more]

/-- Within a match it does not matter whether a line begins. -/
theorem scanLinesFrom_taken {taken : Nat} (within : taken ≠ 0) (offset : Nat) (rest : Text) :
    scanLinesFrom shape taken offset true rest = scanLinesFrom shape taken offset false rest := by
  obtain ⟨taken, rfl⟩ := Nat.exists_eq_succ_of_ne_zero within
  cases rest <;> rfl

/-- Where nothing is read, nothing is found. -/
theorem foundBelow_of_nothing
    (nothing : ∀ line more, line :: more <:+ texts → read line more = none) (taken offset : Nat) :
    foundBelow read taken offset texts = [] := by
  induction texts generalizing taken offset with
  | nil => cases taken <;> rfl
  | cons line more ih =>
      have later := ih fun next rest suffix =>
        nothing next rest (suffix.trans (List.suffix_cons line more))
      cases taken with
      | zero =>
          rw [foundBelow, nothing line more List.suffix_rfl]
          exact later 0 _
      | succ taken => exact later taken _

/-- From the beginning of a line on, a scan finds what is read off the lines,
where the first of them may belong to the last match. -/
theorem scanLinesFrom_unlines (empty : read [] [] = none) (single : ∀ line ∈ texts, '\n' ∉ line)
    (reads : ReadOff shape read texts) (taken offset : Nat) :
    scanLinesFrom shape taken offset true (unlines texts) =
      foundBelow read (linesTaken taken texts) offset texts := by
  induction texts generalizing taken offset with
  | nil => cases taken <;> rfl
  | cons line more ih =>
      have others : ∀ next ∈ more, '\n' ∉ next := (List.forall_mem_cons.mp single).2
      have later := ih others reads.tail
      have pass (taken : Nat) : scanLinesFrom shape taken offset false (unlines (line :: more)) =
          foundBelow read (linesTaken (taken - (line.length + 1)) more) (offset + line.length + 1)
            more :=
        (scanLinesFrom_pass (single line List.mem_cons_self) taken offset more).trans (later _ _)
      rw [linesTaken]
      by_cases within : taken = 0
      · rw [if_pos within, within, foundBelow]
        cases found : read line more with
        | none =>
            have unmatched := reads.nothing line more List.suffix_rfl found
            rw [scanLinesFrom_of_none unmatched, pass, Nat.zero_sub]
            cases more <;> rfl
        | some first =>
            obtain ⟨length, matched, reach⟩ := reads.finding line more first List.suffix_rfl found
            have filled : unlines (line :: more) ≠ [] := by
              intro nothing
              obtain ⟨rfl, rfl⟩ := unlines_eq_nil nothing
              rw [empty] at found
              cases found
            rw [scanLinesFrom_of_some filled matched, pass]
            refine congrArg (_ :: ·) ?_
            rcases reach with taken | nothing
            · rw [linesTaken] at taken
              split at taken
              · cases taken
              · rw [Nat.max_eq_left (by omega), Nat.succ.inj taken]
            · rw [foundBelow_of_nothing nothing, foundBelow_of_nothing nothing]
      · rw [scanLinesFrom_taken within, pass, if_neg within, foundBelow]

/-- Characters of the first line stand on one line. -/
theorem linesTaken_line {length : Nat} {line : Text} (filled : 0 < length)
    (within : length ≤ line.length) (more : List Text) : linesTaken length (line :: more) = 1 := by
  have none : linesTaken 0 more = 0 := by cases more <;> rfl
  rw [linesTaken, if_neg (Nat.ne_of_gt filled), Nat.sub_eq_zero_of_le (by omega), none]

/-- Behind a line and its newline one line more is counted. -/
theorem linesTaken_below (length : Nat) (line : Text) (more : List Text) :
    linesTaken (line.length + 1 + length) (line :: more) = linesTaken length more + 1 := by
  rw [linesTaken, if_neg (by omega), Nat.add_sub_cancel_left]

/-- What stands at the beginning of the first line takes no line of its own. -/
theorem linesTaken_append {length : Nat} (filled : 0 < length) (front line : Text)
    (more : List Text) :
    linesTaken (front.length + length) ((front ++ line) :: more) =
      linesTaken length (line :: more) := by
  rw [linesTaken, linesTaken, if_neg (by omega), if_neg (by omega), List.length_append,
    show front.length + length - (front.length + line.length + 1) = length - (line.length + 1) by
      omega]

/-- **A scan goes line by line**: it finds what is read off the lines. -/
theorem scanLines_eq_foundBelow (empty : read [] [] = none)
    (single : ∀ line ∈ texts, '\n' ∉ line) (reads : ReadOff shape read texts) :
    scanLines shape (unlines texts) = foundBelow read 0 0 texts := by
  have taken : linesTaken 0 texts = 0 := by cases texts <;> rfl
  have found := scanLinesFrom_unlines empty single reads 0 0
  rwa [taken] at found

end Lines

/-! ## Lines alone -/

/-- Behind a line the shape takes the line as a whole, with a value, or
nothing. -/
def TakesLine (shape : Text → Option (Match α)) (line : Text) (value : Option α) : Prop :=
  ∀ rest, EndsLine rest → shape (line ++ rest) = value.map (⟨·, line.length⟩)

/-- What a shape takes behind a line is what it finds on the line alone. -/
theorem TakesLine.value_eq {line : Text} {value : Option α} (takes : TakesLine shape line value) :
    (shape line).map Match.value = value := by
  have alone := takes [] nofun
  rw [List.append_nil] at alone
  rw [alone]
  cases value <;> rfl

/-- What is found on lines, at the offsets where they begin. -/
def foundOn (read : Text → Option α) : Nat → List Text → List (Found α)
  | _, [] => []
  | offset, line :: more =>
      (read line).toList.map (⟨offset, ·⟩) ++ foundOn read (offset + line.length + 1) more

/-- Lines on which nothing is found are passed over. -/
theorem foundOn_append_of_none {read : Text → Option α} {texts : List Text} (filled : texts ≠ [])
    (nothing : ∀ line ∈ texts, read line = none) (offset : Nat) (more : List Text) :
    foundOn read offset (texts ++ more) =
      foundOn read (offset + (unlines texts).length + 1) more := by
  induction texts generalizing offset with
  | nil => exact absurd rfl filled
  | cons line others ih =>
      rw [List.cons_append, foundOn, nothing line List.mem_cons_self]
      cases others with
      | nil => rw [unlines_singleton]; rfl
      | cons next others =>
          have later := ih (List.cons_ne_nil next others)
            (fun other member => nothing other (List.mem_cons_of_mem line member))
          refine (later (offset + line.length + 1)).trans (congrArg (foundOn read · more) ?_)
          rw [unlines_cons line (List.cons_ne_nil next others), List.length_append,
            List.length_cons]
          omega

/-- What is read off each line alone is found at its beginning. -/
theorem foundBelow_alone (read : Text → Option α) (offset : Nat) (texts : List Text) :
    foundBelow (fun line _ => (read line).map (⟨·, 0⟩)) 0 offset texts =
      foundOn read offset texts := by
  induction texts generalizing offset with
  | nil => rfl
  | cons line more ih =>
      rw [foundBelow, foundOn, ← ih]
      cases read line <;> rfl

theorem le_offset_foundOn (read : Text → Option α) (offset : Nat) (texts : List Text) :
    ∀ found ∈ foundOn read offset texts, offset ≤ found.offset := by
  induction texts generalizing offset with
  | nil => intro found member; cases member
  | cons line more ih =>
      intro found member
      rcases List.mem_append.mp member with here | below
      · obtain ⟨value, _, rfl⟩ := List.mem_map.mp here
        exact Nat.le_refl offset
      · have later := ih _ found below
        omega

/-- What is read off lines and those below them is what is on the lines alone
exactly when nothing is read off a line with nothing on it. -/
theorem foundBelow_eq_foundOn_iff {read : Text → List Text → Option (Reach α)}
    {readOn : Text → Option α}
    (agrees : ∀ line more value, readOn line = some value → read line more = some ⟨value, 0⟩)
    (offset : Nat) (texts : List Text) :
    foundBelow read 0 offset texts = foundOn readOn offset texts ↔
      ∀ line more, line :: more <:+ texts → readOn line = none → read line more = none := by
  induction texts generalizing offset with
  | nil =>
      refine iff_of_true rfl fun line more suffix => ?_
      exact absurd (List.suffix_nil.mp suffix) (List.cons_ne_nil line more)
  | cons line more ih =>
      have split : (∀ other below, other :: below <:+ line :: more → readOn other = none →
            read other below = none) ↔
          (readOn line = none → read line more = none) ∧
            ∀ other below, other :: below <:+ more → readOn other = none →
              read other below = none := by
        simp only [List.suffix_cons_iff, List.cons.injEq, or_imp, forall_and, and_imp]
        refine and_congr_left fun _ => ⟨fun first => first line more rfl rfl, ?_⟩
        rintro first _ _ rfl rfl
        exact first
      rw [split, ← ih (offset + line.length + 1), foundBelow, foundOn]
      cases here : readOn line with
      | some value => simp [agrees line more value here]
      | none =>
          cases reading : read line more with
          | none => simp
          | some found =>
              -- the finding at this line is in front of all that is on the lines below
              have later := le_offset_foundOn readOn (offset + line.length + 1) more
              simp only [Option.toList_none, List.map_nil, List.nil_append, reduceCtorEq,
                imp_false, not_true_eq_false, false_and, iff_false]
              intro same
              have := later ⟨offset, found.value⟩ (same ▸ List.mem_cons_self)
              dsimp only at this
              omega

/-- **A scan finds what is on the lines** where the shape takes whole lines or
nothing. -/
theorem scanLines_unlines {read : Text → Option α} (empty : read [] = none) {texts : List Text}
    (single : ∀ line ∈ texts, '\n' ∉ line)
    (takes : ∀ line ∈ texts, TakesLine shape line (read line)) :
    scanLines shape (unlines texts) = foundOn read 0 texts := by
  have matched (line : Text) (more : List Text) (suffix : line :: more <:+ texts) :
      shape (unlines (line :: more)) = (read line).map (⟨·, line.length⟩) := by
    obtain ⟨rest, whole, ends⟩ := exists_unlines_cons line more
    rw [whole]
    exact takes line (suffix.subset List.mem_cons_self) rest ends
  have reads : ReadOff shape (fun line _ => (read line).map (⟨·, 0⟩)) texts := by
    refine ⟨fun line more suffix nothing => ?_, fun line more found suffix some => ?_⟩
    · rw [matched line more suffix, Option.map_eq_none_iff.mp nothing, Option.map_none]
    · obtain ⟨value, here, rfl⟩ := Option.map_eq_some_iff.mp some
      have filled : line ≠ [] := by
        rintro rfl
        rw [empty] at here
        cases here
      refine ⟨line.length, by rw [matched line more suffix, here, Option.map_some], .inl ?_⟩
      exact linesTaken_line (List.length_pos_iff.mpr filled) (Nat.le_refl _) more
  rw [scanLines_eq_foundBelow (by rw [empty]; rfl) single reads, foundBelow_alone]

end Scan

end ReviewGate.Text
