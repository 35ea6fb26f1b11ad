import Mathlib.Data.List.Nodup
import Mathlib.Data.List.Pairwise
import ReviewGate.Proofs.Record.Heading
import ReviewGate.Proofs.Text.LineScan
import ReviewGate.Record.Document

/-!
# The sections of a record

Reading a record cuts its text at the lines that begin with a section heading,
so the sections tile the text from the first such line to the end
(`tilesText_sectionsOf`). They are stored by key. Storing replaces what is
under a key and leaves the order of the keys alone (`keys_put`,
`lookup_put`), so under each key there is the last section with that key
(`lookup_indexed`), and the keys stand in the order in which they first occur
(`keys_indexed`).

The stored sections are some of the sections of the text, so they lie apart,
and when no key occurs twice they are all of them.
-/

set_option autoImplicit false

namespace ReviewGate.Record

open Text

/-! ## Storing under keys -/

section Store

variable {key : Text} {value : Section} {entries : Sections}

theorem put_of_not_mem (absent : key ∉ entries.map Prod.fst) :
    Sections.put key value entries = entries ++ [(key, value)] := by
  induction entries with
  | nil => rfl
  | cons entry more ih =>
      obtain ⟨different, later⟩ := List.ne_and_not_mem_of_not_mem_cons absent
      rw [Sections.put, if_neg different.symm, ih later, List.cons_append]

theorem keys_put_of_mem (present : key ∈ entries.map Prod.fst) :
    (Sections.put key value entries).map Prod.fst = entries.map Prod.fst := by
  induction entries with
  | nil => cases present
  | cons entry more ih =>
      rw [Sections.put]
      split
      next same => rw [List.map_cons, List.map_cons, same]
      next different =>
        have later := (List.mem_cons.mp present).resolve_left fun same => different same.symm
        rw [List.map_cons, ih later, List.map_cons]

/-- Storing keeps the order of the keys. A new key comes last. -/
theorem keys_put :
    (Sections.put key value entries).map Prod.fst =
      entries.map Prod.fst ++ if key ∈ entries.map Prod.fst then [] else [key] := by
  split
  next present => rw [keys_put_of_mem present, List.append_nil]
  next absent => rw [put_of_not_mem absent, List.map_append, List.map_singleton]

theorem nodup_keys_put (nodup : (entries.map Prod.fst).Nodup) :
    ((Sections.put key value entries).map Prod.fst).Nodup := by
  rw [keys_put]
  split
  next => rwa [List.append_nil]
  next absent =>
    rw [← List.concat_eq_append]
    exact List.Nodup.concat absent nodup

theorem lookup_entry (asked name : Text) (old : Section) (more : Sections) :
    List.lookup asked ((name, old) :: more) =
      if asked = name then some old else List.lookup asked more := by
  rw [List.lookup_cons]
  split
  next same => rw [if_pos (eq_of_beq same)]
  next different => rw [if_neg (ne_of_beq_false different)]

theorem lookup_put (asked : Text) :
    (Sections.put key value entries).lookup asked =
      if asked = key then some value else entries.lookup asked := by
  induction entries with
  | nil => exact lookup_entry asked key value []
  | cons entry more ih =>
      obtain ⟨name, old⟩ := entry
      rw [Sections.put]
      split
      next same =>
        subst same
        rw [lookup_entry, lookup_entry]
        split <;> rfl
      next different =>
        rw [lookup_entry, lookup_entry, ih]
        by_cases here : asked = name
        · rw [if_pos here, if_pos here, if_neg (here ▸ different)]
        · rw [if_neg here, if_neg here]

theorem mem_put {entry : Text × Section} (member : entry ∈ Sections.put key value entries) :
    entry = (key, value) ∨ entry ∈ entries := by
  induction entries with
  | nil => exact .inl (List.mem_singleton.mp member)
  | cons first more ih =>
      rw [Sections.put] at member
      split at member
      next =>
        rcases List.mem_cons.mp member with same | later
        · exact .inl same
        · exact .inr (List.mem_cons_of_mem first later)
      next =>
        rcases List.mem_cons.mp member with same | later
        · exact .inr (List.mem_cons.mpr (.inl same))
        · exact (ih later).imp_right (List.mem_cons_of_mem first)

end Store

section Index

variable (parts : List Section)

theorem indexed_concat (part : Section) :
    indexed (parts ++ [part]) = Sections.put part.key part (indexed parts) :=
  List.foldl_concat ..

/-- Every entry is one of the sections under its own key. -/
theorem mem_indexed {entry : Text × Section} (member : entry ∈ indexed parts) :
    entry.1 = entry.2.key ∧ entry.2 ∈ parts := by
  induction parts using List.reverseRecOn with
  | nil => cases member
  | append_singleton parts part ih =>
      rw [indexed_concat] at member
      rcases mem_put member with rfl | earlier
      · exact ⟨rfl, List.mem_append_right parts List.mem_cons_self⟩
      · exact (ih earlier).imp_right (List.mem_append_left [part])

theorem nodup_keys_indexed : ((indexed parts).map Prod.fst).Nodup := by
  induction parts using List.reverseRecOn with
  | nil => exact List.nodup_nil
  | append_singleton parts part ih =>
      rw [indexed_concat]
      exact nodup_keys_put ih

/-- **The keys stand in the order in which they first occur.** -/
theorem keys_indexed : (indexed parts).map Prod.fst = (parts.map Section.key).eraseDups := by
  induction parts using List.reverseRecOn with
  | nil => rfl
  | append_singleton parts part ih =>
      rw [indexed_concat, keys_put, ih, List.map_append, List.eraseDups_append, List.map_singleton]
      refine congrArg _ ?_
      have left : [part.key].removeAll (parts.map Section.key) =
          if part.key ∈ (parts.map Section.key).eraseDups then [] else [part.key] := by
        by_cases present : part.key ∈ parts.map Section.key <;>
          simp [List.removeAll, -List.mem_map, present]
      rw [left]
      split <;> rfl

/-- **Under a key there is the last section with that key.** -/
theorem lookup_indexed (key : Text) :
    (indexed parts).lookup key = (parts.filter (·.key = key)).getLast? := by
  induction parts using List.reverseRecOn with
  | nil => rfl
  | append_singleton parts part ih =>
      rw [indexed_concat, lookup_put, ih, List.filter_append]
      by_cases same : part.key = key
      · simp [same]
      · simp [same, Ne.symm same]

/-- Sections with different keys are all kept. -/
theorem indexed_of_nodup (nodup : (parts.map Section.key).Nodup) :
    indexed parts = parts.map fun part => (part.key, part) := by
  induction parts using List.reverseRecOn with
  | nil => rfl
  | append_singleton parts part ih =>
      rw [List.map_append, List.map_singleton] at nodup
      have earlier := ih (List.nodup_append.mp nodup).1
      have absent : part.key ∉ (indexed parts).map Prod.fst := by
        rw [keys_indexed, List.mem_eraseDups]
        intro member
        exact (List.nodup_append.mp nodup).2.2 _ member _ List.mem_cons_self rfl
      rw [indexed_concat, put_of_not_mem absent, earlier, List.map_append, List.map_singleton]

end Index

/-! ## Where sections stand -/

/-- A section as it stands in a text: it begins on a line with two number
signs, holds all up to where it stops and no further heading, and its content
is that part of the text, trimmed. -/
structure Section.Stands (text : Text) (part : Section) : Prop where
  start_lt_stop : part.start < part.stop
  stop_le : part.stop ≤ text.length
  lineStart : LineStart text part.start
  marks : slice text part.start (part.start + 2) = ['#', '#']
  heading : ∃ length, sectionHeading? (text.drop part.start) = some ⟨part.heading, length⟩ ∧
    NoneBetween sectionHeading? text (part.start + length) part.stop
  content_eq : part.content = trim (slice text part.start part.stop)
  content_ne_nil : part.content ≠ []
  marks_prefix : ['#', '#'] <+: part.content
  heading_infix : part.heading <:+: part.content

/-- Sections that follow each other without gaps up to an offset. -/
def Tiles (stop : Nat) : Nat → List Section → Prop
  | start, [] => start = stop
  | start, part :: more => part.start = start ∧ part.start < part.stop ∧ Tiles stop part.stop more

/-- Sections that tile a text from the first line with a heading to the end. -/
def TilesText (text : Text) (parts : List Section) : Prop :=
  ∃ first ≤ text.length, NoneBetween sectionHeading? text 0 first ∧ Tiles text.length first parts

/-- Two sections of which one stops before the other begins. -/
def Section.Apart (one other : Section) : Prop :=
  one.stop ≤ other.start ∨ other.stop ≤ one.start

instance : Std.Symm Section.Apart := ⟨fun _ _ => Or.symm⟩

section Cut

variable {text : Text}

/-- A section whose heading stands in the text stands in the text. -/
theorem stands_of_found {found : Found Text} {length stop : Nat}
    (stands : found.Stands sectionHeading? text length) (behind : found.offset + length ≤ stop)
    (within : stop ≤ text.length)
    (nothing : NoneBetween sectionHeading? text (found.offset + length) stop) :
    Section.Stands text
      ⟨found.value, trim (slice text found.offset stop), found.offset, stop⟩ := by
  obtain ⟨marks, member, taken, rest, whole, size, inside, trimmed⟩ :=
    exists_of_sectionHeading? stands.matched
  dsimp only at size inside trimmed
  have begins := prefix_of_mem_sectionMarks member
  have signs : 2 ≤ marks.length := begins.length_le
  -- the part of the text holds at least what the heading takes
  have holds : marks ++ taken <+: slice text found.offset stop := by
    rw [slice, List.prefix_take_iff, whole]
    refine ⟨⟨rest, List.append_assoc marks taken rest⟩, ?_⟩
    rw [List.length_append]
    omega
  have start : ['#', '#'] <+: trim (slice text found.offset stop) :=
    prefix_trim (List.cons_ne_nil _ _) rfl
      (begins.trans ((List.prefix_append marks taken).trans holds))
  exact {
    start_lt_stop := by dsimp only; omega
    stop_le := within
    lineStart := stands.lineStart
    marks := by
      dsimp only
      rw [slice, Nat.add_sub_cancel_left, whole]
      obtain ⟨more, rfl⟩ := begins
      rfl
    heading := ⟨length, stands.matched, nothing⟩
    content_eq := rfl
    content_ne_nil := start.ne_nil (List.cons_ne_nil _ _)
    marks_prefix := start
    heading_infix := (infix_trim_iff trimmed _).mpr
      (inside.trans ((List.suffix_append marks taken).isInfix.trans holds.isInfix)) }

/-- A heading takes characters of the text, and some. -/
theorem length_of_found {found : Found Text} {length : Nat}
    (stands : found.Stands sectionHeading? text length) :
    0 < length ∧ found.offset + length ≤ text.length := by
  obtain ⟨marks, member, taken, rest, whole, size, _, _⟩ :=
    exists_of_sectionHeading? stands.matched
  have filled : 2 ≤ marks.length := (prefix_of_mem_sectionMarks member).length_le
  have within := congrArg List.length whole
  rw [List.length_drop, List.length_append, List.length_append] at within
  have inside := stands.within
  dsimp only at size
  exact ⟨by omega, by omega⟩

/-- Where the first of some findings stands, or the end of the text. -/
def nextOffset (text : Text) : List (Found Text) → Nat
  | [] => text.length
  | next :: _ => next.offset

theorem sectionsFrom_cons (found : Found Text) (more : List (Found Text)) :
    sectionsFrom text (found :: more) =
      ⟨found.value, trim (slice text found.offset (nextOffset text more)), found.offset,
        nextOffset text more⟩ :: sectionsFrom text more := by
  cases more <;> rfl

/-- Sections begin at the findings they are made of, with what is found for their
headings. -/
theorem found_sectionsFrom (text : Text) (founds : List (Found Text)) :
    (sectionsFrom text founds).map (fun part => ⟨part.start, part.heading⟩) = founds := by
  induction founds with
  | nil => rfl
  | cons found more ih => rw [sectionsFrom_cons, List.map_cons, ih]

/-- Up to the first finding of a scan nothing begins. -/
theorem nextOffset_of_scans {position : Nat} {founds : List (Found Text)}
    (scans : Scans sectionHeading? text position founds) (within : position ≤ text.length) :
    position ≤ nextOffset text founds ∧ nextOffset text founds ≤ text.length ∧
      NoneBetween sectionHeading? text position (nextOffset text founds) := by
  cases scans with
  | done nothing => exact ⟨within, Nat.le_refl _, nothing⟩
  | found behind stands nothing _ => exact ⟨behind, Nat.le_of_lt stands.within, nothing⟩

/-- The sections at the findings of a scan tile the text from the first finding
on, and each stands in the text. -/
theorem sectionsFrom_of_scans {position : Nat} {founds : List (Found Text)}
    (scans : Scans sectionHeading? text position founds) :
    Tiles text.length (nextOffset text founds) (sectionsFrom text founds) ∧
      ∀ part ∈ sectionsFrom text founds, part.Stands text := by
  induction scans with
  | done => exact ⟨rfl, nofun⟩
  | @found position first length more behind stands nothing rest ih =>
      obtain ⟨filled, within⟩ := length_of_found stands
      rw [Nat.max_eq_left filled] at rest
      obtain ⟨later, last, between⟩ := nextOffset_of_scans rest within
      have standing := stands_of_found stands later last between
      rw [sectionsFrom_cons]
      refine ⟨⟨rfl, standing.start_lt_stop, ih.1⟩, fun part member => ?_⟩
      rcases List.mem_cons.mp member with rfl | further
      · exact standing
      · exact ih.2 part further

theorem stands_of_mem_sectionsOf {part : Section} (member : part ∈ sectionsOf text) :
    part.Stands text :=
  (sectionsFrom_of_scans scans_scanLines).2 part member

/-- **The sections of a text tile it** from the first line with a heading to
the end. -/
theorem tilesText_sectionsOf (text : Text) : TilesText text (sectionsOf text) := by
  have scans : Scans sectionHeading? text 0 (sectionHeadings text) := scans_scanLines
  obtain ⟨_, within, nothing⟩ := nextOffset_of_scans scans (Nat.zero_le _)
  exact ⟨_, within, nothing, (sectionsFrom_of_scans scans).1⟩

end Cut

/-- Tiles lie apart from each other. -/
theorem Tiles.pairwise {start stop : Nat} {parts : List Section} (tiles : Tiles stop start parts) :
    (∀ part ∈ parts, start ≤ part.start) ∧ parts.Pairwise Section.Apart := by
  induction parts generalizing start with
  | nil => exact ⟨nofun, .nil⟩
  | cons first more ih =>
      obtain ⟨rfl, filled, rest⟩ := tiles
      obtain ⟨behind, apart⟩ := ih rest
      refine ⟨fun part member => ?_, List.pairwise_cons.mpr ⟨fun part later => ?_, apart⟩⟩
      · rcases List.mem_cons.mp member with rfl | later
        · exact Nat.le_refl _
        · exact Nat.le_trans (Nat.le_of_lt filled) (behind part later)
      · exact .inl (behind part later)

/-! ## The sections of a record -/

/-- How the sections of a record are those of a text. The sections of the text
tile it, repeated ones included. Under each key there is the last of them with
that key, the keys stand in the order in which they first occur, and when no
key occurs twice the stored sections tile the text. -/
structure Sections.Of (text : Text) (sections : Sections) : Prop where
  occurrences : TilesText text (sectionsOf text) ∧ ∀ part ∈ sectionsOf text, part.Stands text
  key_eq : ∀ entry ∈ sections, entry.1 = lower entry.2.heading
  stands : ∀ entry ∈ sections, entry.2.Stands text
  apart : sections.Pairwise fun one other => one.2.Apart other.2
  lookup_eq : ∀ key, sections.lookup key = ((sectionsOf text).filter (·.key = key)).getLast?
  keys_nodup : (sections.map Prod.fst).Nodup
  keys_eq : sections.map Prod.fst = ((sectionsOf text).map Section.key).eraseDups
  tilesText : ((sectionsOf text).map Section.key).Nodup → TilesText text (sections.map Prod.snd)

theorem apart_indexed (text : Text) :
    (indexed (sectionsOf text)).Pairwise fun one other => one.2.Apart other.2 := by
  obtain ⟨_, _, _, tiles⟩ := tilesText_sectionsOf text
  have distinct : (indexed (sectionsOf text)).Pairwise (·.1 ≠ ·.1) :=
    List.pairwise_map.mp (nodup_keys_indexed (sectionsOf text))
  refine distinct.imp_of_mem fun {one other} first second different => ?_
  obtain ⟨keyOne, memberOne⟩ := mem_indexed _ first
  obtain ⟨keyOther, memberOther⟩ := mem_indexed _ second
  refine tiles.pairwise.2.forall memberOne memberOther fun same => different ?_
  rw [keyOne, keyOther, same]

/-- **The sections of a record that is read** stand in its text under their
keys, apart from each other, the last one of each key in the order of the
first ones. -/
theorem Document.sections_read (text path : Text) :
    (Document.read text path).sections.Of text where
  occurrences := ⟨tilesText_sectionsOf text, fun _ => stands_of_mem_sectionsOf⟩
  key_eq entry member := (mem_indexed _ member).1
  stands entry member := stands_of_mem_sectionsOf (mem_indexed _ member).2
  apart := apart_indexed text
  lookup_eq := lookup_indexed (sectionsOf text)
  keys_nodup := nodup_keys_indexed (sectionsOf text)
  keys_eq := keys_indexed (sectionsOf text)
  tilesText nodup := by
    have all : (Document.read text path).sections.map Prod.snd = sectionsOf text := by
      rw [Document.read, indexed_of_nodup _ nodup, List.map_map]
      exact List.map_id _
    exact all ▸ tilesText_sectionsOf text

end ReviewGate.Record
