import ReviewGate.Proofs.Record.Sections

/-!
# Which section a name finds

When no key is the name itself, the first key that contains the name decides,
and the keys stand in the order in which they first occur. What is stored under
the key is the last section that has it. So the section that is found belongs
to the heading that matches first (`Document.section?_read`), but it need not
be the matching section that stands first: a repeated heading keeps the place
of its key and moves the section behind others that match as well.

Among the stored sections the one that is found is the first that matches
exactly when all other matching headings in front of it are repeated behind it.

A name that is a key finds what is stored under it, so every heading finds the
last section that has its key. No section is empty, so asking for the text of a
section also tells whether there is one (`Document.lookup_read`).
-/

set_option autoImplicit false

namespace ReviewGate.Record

open Text

/-! ## The first key -/

/-- Repetitions do not change which element is the first with a property. -/
theorem find?_eraseDups (property : Text → Bool) (keys : List Text) :
    keys.eraseDups.find? property = keys.find? property := by
  induction keys using List.reverseRecOn with
  | nil => rfl
  | append_singleton keys key ih =>
      rw [List.eraseDups_append, List.find?_append, List.find?_append, ih]
      by_cases present : key ∈ keys
      · -- a repeated key has the property only if there is one in front of it
        have left : [key].removeAll keys = [] := by simp [List.removeAll, present]
        rw [left, List.eraseDups_nil, List.find?_nil, Option.or_none]
        cases earlier : keys.find? property with
        | some _ => rfl
        | none =>
            have lacks := List.find?_eq_none.mp earlier key present
            rw [List.find?_cons_of_neg lacks, List.find?_nil, Option.or_none]
      · have left : [key].removeAll keys = [key] := by simp [List.removeAll, present]
        rw [left]
        rfl

/-- Every entry is found under its key. -/
theorem lookup_of_mem {entries : Sections} (nodup : (entries.map Prod.fst).Nodup) {key : Text}
    {part : Section} (member : (key, part) ∈ entries) : entries.lookup key = some part := by
  induction entries with
  | nil => cases member
  | cons entry more ih =>
      obtain ⟨absent, distinct⟩ := List.nodup_cons.mp nodup
      rw [lookup_entry]
      rcases List.mem_cons.mp member with rfl | later
      · exact if_pos rfl
      · have different : key ≠ entry.1 := fun same =>
          absent (same ▸ List.mem_map_of_mem later)
        rw [if_neg different, ih distinct later]

/-- Under the key of a section something is stored. -/
theorem exists_lookup_indexed {parts : List Section} {part : Section} (member : part ∈ parts) :
    ∃ stored, (indexed parts).lookup part.key = some stored := by
  rw [← Option.isSome_iff_exists, lookup_indexed, List.getLast?_isSome]
  exact List.ne_nil_of_mem (List.mem_filter.mpr ⟨member, decide_eq_true rfl⟩)

section Index

variable (parts : List Section) (property : Text → Bool)

/-- **The first key with a property is that of the first section with it**, and
under it there is the last section with that key. -/
theorem find?_indexed :
    ((indexed parts).find? fun entry => property entry.1).map Prod.snd =
      (parts.find? fun part => property part.key).bind fun first =>
        (parts.filter (·.key = first.key)).getLast? := by
  have keys : ((indexed parts).find? fun entry => property entry.1).map Prod.fst =
      (parts.find? fun part => property part.key).map Section.key := by
    rw [← Function.comp_def property, ← List.find?_map, keys_indexed, find?_eraseDups,
      List.find?_map, Function.comp_def]
  cases found : (indexed parts).find? fun entry => property entry.1 with
  | none =>
      rw [found, Option.map_none, eq_comm, Option.map_eq_none_iff] at keys
      rw [keys]
      rfl
  | some entry =>
      rw [found, Option.map_some, eq_comm, Option.map_eq_some_iff] at keys
      obtain ⟨first, isFirst, same⟩ := keys
      rw [isFirst, Option.map_some, Option.bind_some, same, ← lookup_indexed]
      exact (lookup_of_mem (nodup_keys_indexed parts) (List.mem_of_find?_eq_some found)).symm

end Index

/-! ## First and last sections -/

/-- Sections in the order in which they stand. -/
def Ascending (parts : List Section) : Prop :=
  parts.Pairwise fun one other => one.start < other.start

/-- The section with a property that stands first among some. -/
structure Section.FirstAmong (parts : List Section) (property : Section → Prop)
    (part : Section) : Prop where
  mem : part ∈ parts
  holds : property part
  le : ∀ other ∈ parts, property other → part.start ≤ other.start

/-- The section with a property that stands last among some. -/
structure Section.LastAmong (parts : List Section) (property : Section → Prop)
    (part : Section) : Prop where
  mem : part ∈ parts
  holds : property part
  ge : ∀ other ∈ parts, property other → other.start ≤ part.start

theorem Tiles.ascending {start stop : Nat} {parts : List Section}
    (tiles : Tiles stop start parts) : Ascending parts := by
  induction parts generalizing start with
  | nil => exact .nil
  | cons first more ih =>
      obtain ⟨rfl, filled, rest⟩ := tiles
      refine List.pairwise_cons.mpr ⟨fun part later => ?_, ih rest⟩
      exact Nat.lt_of_lt_of_le filled (rest.pairwise.1 part later)

theorem ascending_sectionsOf (text : Text) : Ascending (sectionsOf text) := by
  obtain ⟨_, _, _, tiles⟩ := tilesText_sectionsOf text
  exact tiles.ascending

namespace Ascending

variable {parts : List Section} (ascending : Ascending parts)
include ascending

theorem eq_of_start_eq {one other : Section} (first : one ∈ parts) (second : other ∈ parts)
    (same : one.start = other.start) : one = other := by
  have distinct : (parts.map Section.start).Nodup :=
    List.pairwise_map.mpr (ascending.imp Nat.ne_of_lt)
  exact List.inj_on_of_nodup_map distinct first second same

/-- What is found first stands first. -/
theorem firstAmong {property : Section → Bool} {first : Section}
    (found : parts.find? property = some first) :
    Section.FirstAmong parts (property · = true) first := by
  obtain ⟨holds, front, back, rfl, lacking⟩ := List.find?_eq_some_iff_append.mp found
  refine ⟨List.mem_of_find?_eq_some found, holds, fun other member has => ?_⟩
  rcases List.mem_append.mp member with before | behind
  · have lacks := lacking other before
    rw [has] at lacks
    cases lacks
  · rcases List.mem_cons.mp behind with rfl | later
    · exact Nat.le_refl _
    · have tail := (List.pairwise_append.mp ascending).2.1
      exact Nat.le_of_lt (List.rel_of_pairwise_cons tail later)

theorem lastAmong {property : Section → Prop} [DecidablePred property] {last : Section}
    (found : (parts.filter (property ·)).getLast? = some last) :
    Section.LastAmong parts property last := by
  obtain ⟨front, whole⟩ := List.getLast?_eq_some_iff.mp found
  have ordered : Ascending (front ++ [last]) := whole ▸ List.Pairwise.filter _ ascending
  have mem_iff (part : Section) : part ∈ front ++ [last] ↔ part ∈ parts ∧ property part := by
    rw [← whole, List.mem_filter, decide_eq_true_iff]
  obtain ⟨mem, holds⟩ := (mem_iff last).mp (List.mem_append_right front List.mem_cons_self)
  refine ⟨mem, holds, fun other member has => ?_⟩
  rcases List.mem_append.mp ((mem_iff other).mpr ⟨member, has⟩) with before | here
  · exact Nat.le_of_lt ((List.pairwise_append.mp ordered).2.2 other before last
      List.mem_cons_self)
  · rw [List.mem_singleton.mp here]

/-- A section is stored when it is the last one with its key. -/
theorem mem_stored_iff {part : Section} :
    part ∈ (indexed parts).map Prod.snd ↔ Section.LastAmong parts (·.key = part.key) part := by
  constructor
  · intro member
    obtain ⟨entry, stored, rfl⟩ := List.mem_map.mp member
    have under := lookup_of_mem (nodup_keys_indexed parts) stored
    rw [(mem_indexed parts stored).1, lookup_indexed] at under
    exact ascending.lastAmong under
  · intro last
    obtain ⟨stored, found⟩ := exists_lookup_indexed last.mem
    have other := ascending.lastAmong ((lookup_indexed parts part.key).symm.trans found)
    have same : part = stored := ascending.eq_of_start_eq last.mem other.mem
      (Nat.le_antisymm (other.ge part last.mem rfl) (last.ge stored other.mem other.holds))
    obtain ⟨front, back, whole, _⟩ := List.lookup_eq_some_iff.mp found
    rw [whole, same]
    exact List.mem_map_of_mem (f := Prod.snd) (List.mem_append_right front List.mem_cons_self)

end Ascending

/-! ## The section of a name -/

/-- The key of a section contains a name, letter case apart. -/
def Section.Matches (name : Text) (part : Section) : Prop :=
  lower name <:+: part.key

/-- The stored section under the key that matches first is the first stored one
that matches exactly when the other matching keys in front of it come again
behind it. -/
theorem Ascending.firstAmong_stored_iff {parts : List Section} (ascending : Ascending parts)
    {name : Text} {first found : Section} (isFirst : first.Matches name)
    (isLast : Section.LastAmong parts (·.key = first.key) found) :
    Section.FirstAmong ((indexed parts).map Prod.snd) (·.Matches name) found ↔
      ∀ other ∈ parts, other.Matches name → other.key ≠ found.key → other.start < found.start →
        ∃ again ∈ parts, again.key = other.key ∧ found.start < again.start := by
  have matching : found.Matches name := by rwa [Section.Matches, isLast.holds]
  constructor
  · intro least other member holds different _
    obtain ⟨again, stored⟩ := exists_lookup_indexed member
    rw [lookup_indexed] at stored
    obtain ⟨present, same, last⟩ := ascending.lastAmong stored
    refine ⟨again, present, same, Nat.lt_of_le_of_ne ?_ fun equal => different ?_⟩
    · refine least.le again ?_ (by rwa [Section.Matches, same])
      exact ascending.mem_stored_iff.mpr ⟨present, rfl, fun one among key =>
        last one among (key.trans same)⟩
    · rw [ascending.eq_of_start_eq isLast.mem present equal, same]
  · intro repeated
    refine ⟨ascending.mem_stored_iff.mpr (isLast.holds ▸ isLast), matching, ?_⟩
    intro other stored holds
    obtain ⟨present, _, last⟩ := ascending.mem_stored_iff.mp stored
    by_contra behind
    by_cases same : other.key = found.key
    · exact behind (last found isLast.mem same.symm)
    · obtain ⟨again, member, key, further⟩ :=
        repeated other present holds same (Nat.lt_of_not_le behind)
      have := last again member key
      omega

section Lookup

variable {text path name : Text}

/-- A name that is no key finds what is stored under the key of the first
section that matches. -/
theorem Document.section?_read
    (inexact : lower name ∉ (Document.read text path).sections.map Prod.fst) :
    (Document.read text path).section? name =
      ((sectionsOf text).find? fun part => occurs (lower name) part.key).bind fun first =>
        ((sectionsOf text).filter (·.key = first.key)).getLast? := by
  have absent : (Document.read text path).sections.lookup (lower name) = none := by
    rw [List.lookup_eq_none_iff]
    intro entry member
    exact bne_iff_ne.mpr fun same => inexact (same ▸ List.mem_map_of_mem member)
  unfold Document.section?
  dsimp only
  rw [absent]
  exact find?_indexed (sectionsOf text) (occurs (lower name))

/-- **A name that is no key finds nothing only when no heading of the text
contains it**, and otherwise the last section with the heading that matches
first. Among the sections that are stored, this is the matching one that stands
first exactly when every other matching heading in front of it is repeated
behind it. -/
theorem Document.section?_eq_first_iff
    (inexact : lower name ∉ (Document.read text path).sections.map Prod.fst) :
    ((Document.read text path).section? name = none ↔
        ∀ part ∈ sectionsOf text, ¬ part.Matches name) ∧
      ∀ found, (Document.read text path).section? name = some found →
        (∃ first, Section.FirstAmong (sectionsOf text) (·.Matches name) first ∧
          Section.LastAmong (sectionsOf text) (·.key = first.key) found) ∧
        (Section.FirstAmong ((Document.read text path).sections.map Prod.snd)
            (·.Matches name) found ↔
          ∀ other ∈ sectionsOf text, other.Matches name → other.key ≠ found.key →
            other.start < found.start →
              ∃ again ∈ sectionsOf text, again.key = other.key ∧ found.start < again.start) := by
  have ascending := ascending_sectionsOf text
  rw [Document.section?_read inexact]
  cases search : (sectionsOf text).find? fun part => occurs (lower name) part.key with
  | none =>
      have lacking := List.find?_eq_none.mp search
      refine ⟨iff_of_true rfl fun part member holds => ?_, fun _ found => nomatch found⟩
      exact lacking part member ((occurs_iff _ _).mpr holds)
  | some first =>
      have isFirst : Section.FirstAmong (sectionsOf text) (·.Matches name) first := by
        obtain ⟨mem, holds, le⟩ := ascending.firstAmong search
        exact ⟨mem, (occurs_iff _ _).mp holds, fun other member has =>
          le other member ((occurs_iff _ _).mpr has)⟩
      obtain ⟨stored, under⟩ := exists_lookup_indexed isFirst.mem
      rw [lookup_indexed] at under
      rw [Option.bind_some, under]
      refine ⟨iff_of_false nofun fun lacking => lacking first isFirst.mem isFirst.holds, ?_⟩
      rintro _ ⟨⟩
      have isLast := ascending.lastAmong under
      refine ⟨⟨first, isFirst, isLast⟩, ?_⟩
      exact ascending.firstAmong_stored_iff isFirst.holds isLast

/-- A record with two headings that match. -/
def twoAlternatives : Text :=
  "## Alternatives A\nx\n## Alternatives B\ny\n".toList

theorem Document.section?_eq_first_iff_two :
    lower "alternatives".toList ∉ (Document.read twoAlternatives []).sections.map Prod.fst ∧
      ∃ found, (Document.read twoAlternatives []).section? "alternatives".toList = some found ∧
        found.heading = "Alternatives A".toList ∧
        Section.FirstAmong ((Document.read twoAlternatives []).sections.map Prod.snd)
          (·.Matches "alternatives".toList) found := by
  have inexact : lower "alternatives".toList ∉
      (Document.read twoAlternatives []).sections.map Prod.fst := by decide +kernel
  have search : (Document.read twoAlternatives []).section? "alternatives".toList =
      some ⟨"Alternatives A".toList, "## Alternatives A\nx".toList, 0, 20⟩ := by decide +kernel
  refine ⟨inexact, _, search, rfl, ?_⟩
  -- nothing stands in front of the first heading
  exact ((Document.section?_eq_first_iff inexact).2 _ search).2.mpr fun other _ _ _ before =>
    absurd before (Nat.not_lt_zero other.start)

/-- The same with the first heading once more at the end. -/
def repeatedAlternatives : Text :=
  twoAlternatives ++ "## Alternatives A\nz\n".toList

/-- The repetition at the end is found, and not the other heading in front of
it, although both are stored. -/
theorem Document.section?_passes_over_first :
    lower "alternatives".toList ∉
        (Document.read repeatedAlternatives []).sections.map Prod.fst ∧
      ∃ found, (Document.read repeatedAlternatives []).section? "alternatives".toList =
          some found ∧
        ¬ Section.FirstAmong ((Document.read repeatedAlternatives []).sections.map Prod.snd)
          (·.Matches "alternatives".toList) found := by
  refine ⟨by decide +kernel,
    ⟨"Alternatives A".toList, "## Alternatives A\nz".toList, 40, 60⟩, by decide +kernel, ?_⟩
  intro least
  have behind := least.le ⟨"Alternatives B".toList, "## Alternatives B\ny".toList, 20, 40⟩
    (by decide +kernel) (by unfold Section.Matches; decide +kernel)
  exact absurd behind (by decide)

end Lookup

/-! ## Keys and headings -/

/-- What is found for a name is stored under a key that contains it. -/
theorem Document.exists_mem_of_section? {document : Document} {name : Text} {part : Section}
    (found : document.section? name = some part) :
    ∃ key, (key, part) ∈ document.sections ∧ lower name <:+: key := by
  unfold Document.section? at found
  dsimp only at found
  split at found
  next exact =>
    cases found
    obtain ⟨front, back, whole, _⟩ := List.lookup_eq_some_iff.mp exact
    exact ⟨lower name, whole ▸ List.mem_append_right front List.mem_cons_self, List.infix_rfl⟩
  next =>
    obtain ⟨entry, first, rfl⟩ := Option.map_eq_some_iff.mp found
    have holds := List.find?_some first
    exact ⟨entry.1, List.mem_of_find?_eq_some first, (occurs_iff _ _).mp holds⟩

/-- A document has a section of a name when the name occurs in a key. -/
theorem Document.hasSection_iff {document : Document} {name : Text} :
    document.hasSection name = true ↔ ∃ entry ∈ document.sections, lower name <:+: entry.1 := by
  constructor
  · intro present
    obtain ⟨part, found⟩ := Option.isSome_iff_exists.mp present
    obtain ⟨key, member, inside⟩ := Document.exists_mem_of_section? found
    exact ⟨(key, part), member, inside⟩
  · rintro ⟨entry, member, inside⟩
    unfold Document.hasSection Document.section?
    dsimp only
    split
    · rfl
    · rw [Option.isSome_map, List.find?_isSome]
      exact ⟨entry, member, (occurs_iff _ _).mpr inside⟩

section Names

variable {text path name : Text}

/-- What is stored under the name itself is found, whatever other keys contain it. -/
theorem Document.section?_of_lookup {document : Document} {part : Section}
    (exact : document.sections.lookup (lower name) = some part) :
    document.section? name = some part := by
  unfold Document.section?
  dsimp only
  rw [exact]

/-- No section is empty, so a name has a section when there is text for it. -/
theorem Document.hasSection_iff_sectionText :
    (Document.read text path).hasSection name = true ↔
      (Document.read text path).sectionText name ≠ [] := by
  unfold Document.hasSection Document.sectionText
  cases found : (Document.read text path).section? name with
  | none => simp
  | some part =>
      obtain ⟨key, member, _⟩ := Document.exists_mem_of_section? found
      have stands := stands_of_mem_sectionsOf (mem_indexed (sectionsOf text) member).2
      exact iff_of_true rfl stands.content_ne_nil

/-- A heading finds the last section with its key. -/
theorem Document.exists_section?_heading (path : Text) {part : Section}
    (member : part ∈ sectionsOf text) :
    ∃ last, (Document.read text path).section? part.heading = some last ∧
      Section.LastAmong (sectionsOf text) (·.key = part.key) last := by
  obtain ⟨last, stored⟩ := exists_lookup_indexed member
  refine ⟨last, Document.section?_of_lookup stored, ?_⟩
  rw [lookup_indexed] at stored
  exact (ascending_sectionsOf text).lastAmong stored

/-- **A name has a section exactly when there is text for it**, and exactly when
some key contains it. What is stored under the name itself is found first, and
every heading of the text finds the last section with its key. -/
theorem Document.lookup_read (text path : Text) :
    (∀ name,
        ((Document.read text path).hasSection name = true ↔
          (Document.read text path).sectionText name ≠ []) ∧
        ((Document.read text path).hasSection name = true ↔
          ∃ entry ∈ (Document.read text path).sections, lower name <:+: entry.1)) ∧
      (∀ name part, (lower name, part) ∈ (Document.read text path).sections →
        (Document.read text path).section? name = some part) ∧
      ∀ part ∈ sectionsOf text,
        (Document.read text path).hasSection part.heading = true ∧
          ∃ last, (Document.read text path).section? part.heading = some last ∧
            Section.LastAmong (sectionsOf text) (·.key = part.key) last := by
  refine ⟨fun name => ⟨Document.hasSection_iff_sectionText, Document.hasSection_iff⟩,
    fun name part stored => ?_, fun part member => ?_⟩
  · have distinct : ((Document.read text path).sections.map Prod.fst).Nodup :=
      nodup_keys_indexed (sectionsOf text)
    exact Document.section?_of_lookup (lookup_of_mem distinct stored)
  · obtain ⟨last, found, isLast⟩ := Document.exists_section?_heading path member
    exact ⟨Option.isSome_iff_exists.mpr ⟨last, found⟩, last, found, isLast⟩

/-- A record in which one heading contains another. -/
def contextMap : Text :=
  "## Context Map\nx\n## Context\ny\n".toList

/-- The exact heading is found, although the other one stands in front of it. -/
theorem Document.lookup_read_contextMap :
    (Document.read contextMap []).section? "CONTEXT".toList =
      some ⟨"Context".toList, "## Context\ny".toList, 17, 30⟩ := by
  refine (Document.lookup_read contextMap []).2.1 _ _ ?_
  decide +kernel

end Names

end ReviewGate.Record
