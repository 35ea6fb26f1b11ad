import Mathlib.Data.List.Lex
import ReviewGate.Proofs.Files.Following

/-!
# The walk through a directory

A walk visits the entries of a directory and what stands below them, through real directories
only. Which entries these are is said without a walk (`Tree.Visits`), and so is which directories
it enters (`Tree.Enters`). It fails at entries that cannot be looked up, and at directories that may
not be listed or for which there is no room (`Workspace.Obstacle`).

One step of a walk is the meeting with an entry, of which there are four kinds (`Meeting`). What is
known of a whole walk follows from these by induction: whatever is met belongs to a visited entry
or is an obstacle (`exists_metAt_of_mem_walk`), without failures every visited entry is met
(`met_of_visits`) and every directory is entered (`open_of_enters`), and the sources that are met
ascend (`pairwise_walk`), although each directory is sorted by itself. Paths are compared part by
part, and what stands below a name begins with it.

A link is not entered, so links back up the tree do not lead deeper than the tree is.
-/

set_option autoImplicit false

namespace ReviewGate.Files

/-! ## What there is to find -/

/-- The path of what stands below a directory under a row of names. -/
def Path.descend (path : Path) (names : List Text) : Path :=
  ⟨path.root, path.parts ++ names⟩

/-- Paths are ordered part by part. -/
instance : LT Path :=
  ⟨fun left right => left.key < right.key⟩

/-- The names under which a search in a directory meets entries. It enters real directories only,
and these only when it is recursive. -/
inductive Tree.Visits (tree : Tree) (recursive : Bool) : Location → List Text → Prop
  | entry {location : Location} {name : Text} {entry : Entry}
      (there : tree.entry? (location ++ [name]) = some entry) :
      Visits tree recursive location [name]
  | inside {location : Location} {name : Text} {names : List Text} (deep : recursive = true)
      (there : tree.entry? (location ++ [name]) = some .directory)
      (visited : Visits tree recursive (location ++ [name]) names) :
      Visits tree recursive location (name :: names)

/-- The names under which a search in a directory enters directories, first of all itself. -/
inductive Tree.Enters (tree : Tree) (recursive : Bool) : Location → List Text → Prop
  | here {location : Location} : Enters tree recursive location []
  | inside {location : Location} {name : Text} {names : List Text} (deep : recursive = true)
      (there : tree.entry? (location ++ [name]) = some .directory)
      (entered : Enters tree recursive (location ++ [name]) names) :
      Enters tree recursive location (name :: names)

/-- What can end a search in a directory with an error: an entry that cannot be looked up, a
directory that may not be listed, and one that is nested too deep for the room there is. -/
inductive Workspace.Obstacle (space : Workspace) (recursive : Bool) (room : Nat) (path : Path)
    (location : Location) : FileError → Prop
  | unseen {names : List Text} {error : FileError}
      (visited : space.tree.Visits recursive location names)
      (probed : space.probe (path.descend names) = .error error) :
      Obstacle space recursive room path location error
  | closed {names : List Text} (entered : space.tree.Enters recursive location names)
      (closed : space.rights.reads (location ++ names) = false) :
      Obstacle space recursive room path location ⟨.denied, (path.descend names).text⟩
  | deep {names : List Text} (entered : space.tree.Enters recursive location names)
      (deep : room ≤ names.length) :
      Obstacle space recursive room path location ⟨.tooDeep, (path.descend names).text⟩

namespace Path

variable {path : Path} {name : Text}

theorem descend_child (names : List Text) :
    (path.child name).descend names = path.descend (name :: names) := by
  simp [descend, child]

@[simp] theorem descend_nil : path.descend [] = path := by
  simp [descend]

theorem descend_lt_descend {left right : Text} (before : left < right) (lefts rights : List Text) :
    path.descend (left :: lefts) < path.descend (right :: rights) := by
  have behind : ∀ front : List Text, front ++ left :: lefts < front ++ right :: rights :=
    fun front => List.Lex.append_left _ (List.Lex.rel before) front
  show (path.descend (left :: lefts)).key < (path.descend (right :: rights)).key
  unfold key descend
  by_cases relative : path.root = []
  · rw [if_pos relative, if_pos relative]
    exact behind path.parts
  · rw [if_neg relative, if_neg relative]
    exact behind (path.root :: path.parts)

instance : Std.Irrefl fun left right : Path => left < right :=
  ⟨fun path => lt_irrefl path.key⟩

instance : Std.Antisymm fun left right : Path => left < right :=
  ⟨fun left right before after =>
    absurd after (lt_asymm (a := left.key) (b := right.key) before)⟩

end Path

namespace Workspace

variable {space : Workspace} {recursive : Bool} {path : Path} {location : Location} {name : Text}

/-! ## One entry -/

/-- What a walk meets at an entry, and behind it when it enters that. -/
def meet (space : Workspace) (recursive : Bool) (path : Path) (location : Location)
    (inside : List Met) : List Met :=
  match space.probe path, space.tree.entry? location with
  | .error error, _ => [.unusable error]
  | .ok (some .directory), some (.link _) => [.linkedDirectory path]
  | .ok (some .directory), _ => if recursive then inside else [.directory path]
  | .ok _, _ => if path.isSource then [.source path] else []

theorem walk_succ (room : Nat) (path : Path) (location : Location) :
    space.walk recursive (room + 1) path location =
      if ! space.rights.reads location then [.unusable ⟨.denied, path.text⟩]
      else (space.tree.sortedNames location).flatMap fun name =>
        space.meet recursive (path.child name) (location ++ [name])
          (space.walk recursive room (path.child name) (location ++ [name])) := rfl

/-- The ways in which a walk meets an entry. -/
inductive Meeting (space : Workspace) (recursive : Bool) (path : Path) (location : Location)
    (inside : List Met) : List Met → Prop
  | unusable {error : FileError} (probed : space.probe path = .error error) :
      Meeting space recursive path location inside [.unusable error]
  | directory (there : space.tree.entry? location = some .directory)
      (probed : space.probe path = .ok (some .directory)) (leads : space.Leads path location) :
      Meeting space recursive path location inside
        (if recursive then inside else [.directory path])
  | linkedDirectory {target : Text} (there : space.tree.entry? location = some (.link target))
      (probed : space.probe path = .ok (some .directory)) :
      Meeting space recursive path location inside [.linkedDirectory path]
  | other {found : Option Entry} (there : space.tree.entry? location ≠ some .directory)
      (probed : space.probe path = .ok found) (plain : found ≠ some .directory) :
      Meeting space recursive path location inside (if path.isSource then [.source path] else [])

theorem Meeting.of_other {inside : List Met} {found : Option Entry}
    (there : space.tree.entry? location ≠ some .directory) (probed : space.probe path = .ok found)
    (plain : found ≠ some .directory) :
    Meeting space recursive path location inside (space.meet recursive path location inside) := by
  have shown : space.meet recursive path location inside =
      if path.isSource then [.source path] else [] := by
    rw [meet, probed]
    split <;> simp_all
  rw [shown]
  exact .other there probed plain

theorem Leads.meeting (recursive : Bool) (leads : space.Leads path location)
    (valid : IsName name) {entry : Entry}
    (there : space.tree.entry? (location ++ [name]) = some entry) (inside : List Met) :
    Meeting space recursive (path.child name) (location ++ [name]) inside
      (space.meet recursive (path.child name) (location ++ [name]) inside) := by
  cases probed : space.probe (path.child name) with
  | error error =>
      rw [meet, probed]
      exact .unusable probed
  | ok found =>
      cases entry with
      | link target =>
          by_cases directory : found = some .directory
          · subst directory
            rw [meet, probed, there]
            exact .linkedDirectory there probed
          · exact .of_other (by simp [there]) probed directory
      | file bytes =>
          rcases leads.probe_child valid there (by simp) with ⟨error, long⟩ | ⟨own, _⟩
          · cases probed.symm.trans long
          · cases probed.symm.trans own
            exact .of_other (by simp [there]) probed (by simp)
      | directory =>
          rcases leads.probe_child valid there (by simp) with ⟨error, long⟩ | ⟨own, onward⟩
          · cases probed.symm.trans long
          · rw [meet, own, there]
            exact .directory there own (onward rfl)

/-! ## The whole walk -/

/-- What a search may meet at a path, failures left out. -/
def MetAt (space : Workspace) (path : Path) : Met → Prop
  | .source found => found = path ∧ space.isDirectory path = false ∧ path.isSource = true
  | .linkedDirectory found => found = path ∧ space.isDirectory path = true
  | .directory found => found = path ∧ space.isDirectory path = true
  | .unusable _ => False

variable {inside met : List Met} {item : Met} {room : Nat} {error : FileError}

/-- An obstacle below a directory that is entered is one of the directory above. -/
theorem Obstacle.above (deep : recursive = true)
    (there : space.tree.entry? (location ++ [name]) = some .directory)
    (obstacle : space.Obstacle recursive room (path.child name) (location ++ [name]) error) :
    space.Obstacle recursive (room + 1) path location error := by
  cases obstacle with
  | unseen visited probed =>
      exact .unseen (.inside deep there visited) (Path.descend_child _ ▸ probed)
  | closed entered closed =>
      rw [Path.descend_child]
      exact .closed (.inside deep there entered) (by simpa using closed)
  | deep entered long =>
      rw [Path.descend_child]
      exact .deep (.inside deep there entered) (Nat.succ_le_succ long)

/-- Whatever is met at an entry or behind it belongs to a visited entry or is an obstacle, if that
holds of what is met behind it. -/
theorem Leads.exists_metAt (named : space.tree.WellNamed) (leads : space.Leads path location)
    (listed : name ∈ space.tree.sortedNames location)
    (within : space.Leads (path.child name) (location ++ [name]) → ∀ item ∈ inside,
      (∃ names, space.tree.Visits recursive (location ++ [name]) names ∧
        space.MetAt ((path.child name).descend names) item) ∨
      ∃ error, item = .unusable error ∧
        space.Obstacle recursive room (path.child name) (location ++ [name]) error)
    (member : item ∈ space.meet recursive (path.child name) (location ++ [name]) inside) :
    (∃ names, space.tree.Visits recursive location (name :: names) ∧
      space.MetAt (path.descend (name :: names)) item) ∨
    ∃ error, item = .unusable error ∧ space.Obstacle recursive (room + 1) path location error := by
  obtain ⟨entry, there⟩ := Tree.mem_sortedNames_iff.mp listed
  have here : space.tree.Visits recursive location [name] := .entry there
  have clear := leads.clear_child (named.isName there)
  have meeting := leads.meeting recursive (named.isName there) there inside
  generalize space.meet recursive (path.child name) (location ++ [name]) inside = met
    at meeting member
  cases meeting with
  | unusable probed =>
      exact .inr ⟨_, List.mem_singleton.mp member, .unseen here probed⟩
  | directory there probed onward =>
      split at member
      · next deep =>
        rcases within onward item member with ⟨names, visited, found⟩ | ⟨error, same, obstacle⟩
        · exact .inl ⟨names, .inside deep there visited, Path.descend_child names ▸ found⟩
        · exact .inr ⟨error, same, obstacle.above deep there⟩
      · rw [List.mem_singleton.mp member]
        exact .inl ⟨[], here, rfl, (isDirectory_iff clear probed).mpr rfl⟩
  | linkedDirectory there probed =>
      rw [List.mem_singleton.mp member]
      exact .inl ⟨[], here, rfl, (isDirectory_iff clear probed).mpr rfl⟩
  | other there probed plain =>
      split at member
      · next source =>
        rw [List.mem_singleton.mp member]
        have file := (isDirectory_iff clear probed).not.mpr plain
        exact .inl ⟨[], here, rfl, Bool.not_eq_true _ ▸ file, source⟩
      · cases member

theorem mem_sources_iff {source : Path} :
    source ∈ met.filterMap Met.source? ↔ .source source ∈ met := by
  rw [List.mem_filterMap]
  constructor
  · rintro ⟨item, member, same⟩
    cases item with
    | source found =>
        cases same
        exact member
    | _ => cases same
  · exact fun member => ⟨_, member, rfl⟩

/-- The sources that are met at an entry or behind it ascend when those behind it do. -/
theorem Meeting.pairwise (meeting : Meeting space recursive path location inside met)
    (within : space.Leads path location →
      (inside.filterMap Met.source?).Pairwise (· < ·)) :
    (met.filterMap Met.source?).Pairwise (· < ·) := by
  cases meeting with
  | unusable _ => exact .nil
  | directory _ _ leads =>
      split
      · exact within leads
      · exact .nil
  | linkedDirectory _ _ => exact .nil
  | other _ _ _ =>
      split
      · exact List.pairwise_singleton ..
      · exact .nil

/-- The meetings of which a walk through a directory consists. -/
theorem mem_walk_iff : item ∈ space.walk recursive (room + 1) path location ↔
    (space.rights.reads location = false ∧ item = .unusable ⟨.denied, path.text⟩) ∨
      space.rights.reads location = true ∧ ∃ name ∈ space.tree.sortedNames location,
        item ∈ space.meet recursive (path.child name) (location ++ [name])
          (space.walk recursive room (path.child name) (location ++ [name])) := by
  rw [walk_succ]
  cases space.rights.reads location <;> simp

/-- A source is met at an entry of the directory or behind it. -/
theorem exists_meet_of_source {source : Path}
    (member : .source source ∈ space.walk recursive (room + 1) path location) :
    ∃ name ∈ space.tree.sortedNames location,
      .source source ∈ space.meet recursive (path.child name) (location ++ [name])
        (space.walk recursive room (path.child name) (location ++ [name])) := by
  rcases mem_walk_iff.mp member with ⟨_, failed⟩ | ⟨_, met⟩
  · cases failed
  · exact met

/-- A walk without a failure has room for its directory and may list it. -/
theorem open_of_usable
    (usable : ∀ error, .unusable error ∉ space.walk recursive room path location) :
    ∃ less, room = less + 1 ∧ space.rights.reads location = true := by
  cases room with
  | zero => exact absurd List.mem_cons_self (usable _)
  | succ less =>
      refine ⟨less, rfl, Bool.not_eq_false _ ▸ fun closed => ?_⟩
      exact usable _ (mem_walk_iff.mpr (.inl ⟨closed, rfl⟩))

section Walk

variable (named : space.tree.WellNamed)

include named

/-- **Whatever is met belongs to a visited entry, or is an obstacle.** -/
theorem exists_metAt_of_mem_walk (leads : space.Leads path location)
    (member : item ∈ space.walk recursive room path location) :
    (∃ names, space.tree.Visits recursive location names ∧
      space.MetAt (path.descend names) item) ∨
    ∃ error, item = .unusable error ∧ space.Obstacle recursive room path location error := by
  induction room generalizing path location item with
  | zero =>
      refine .inr ⟨_, List.mem_singleton.mp member, ?_⟩
      have obstacle : space.Obstacle recursive 0 path location
          ⟨.tooDeep, (path.descend []).text⟩ := .deep .here (Nat.zero_le 0)
      simpa using obstacle
  | succ room ih =>
      rcases mem_walk_iff.mp member with ⟨closed, same⟩ | ⟨_, name, listed, member⟩
      · refine .inr ⟨_, same, ?_⟩
        have obstacle : space.Obstacle recursive (room + 1) path location
            ⟨.denied, (path.descend []).text⟩ := .closed .here (by simpa using closed)
        simpa using obstacle
      · refine (leads.exists_metAt named listed (fun onward _ member => ih onward member)
          member).imp_left ?_
        exact fun ⟨names, found⟩ => ⟨name :: names, found⟩

/-- The meeting with an entry is part of a walk without failures. -/
theorem Leads.meeting_in_walk (leads : space.Leads path location)
    (usable : ∀ error, .unusable error ∉ space.walk recursive room path location)
    {entry : Entry} (there : space.tree.entry? (location ++ [name]) = some entry) :
    ∃ less met, room = less + 1 ∧
      Meeting space recursive (path.child name) (location ++ [name])
        (space.walk recursive less (path.child name) (location ++ [name])) met ∧
      ∀ item ∈ met, item ∈ space.walk recursive room path location := by
  obtain ⟨less, rfl, reads⟩ := open_of_usable usable
  refine ⟨less, _, rfl, leads.meeting recursive (named.isName there) there _, ?_⟩
  intro item member
  exact mem_walk_iff.mpr (.inr ⟨reads, name, Tree.mem_sortedNames_iff.mpr ⟨entry, there⟩, member⟩)

/-- **Every visited entry is met** when there is no failure. -/
theorem met_of_visits {names : List Text} (visited : space.tree.Visits recursive location names) :
    ∀ {room : Nat} {path : Path}, space.Leads path location →
      (∀ error, .unusable error ∉ space.walk recursive room path location) →
      (∃ found, space.probe (path.descend names) = .ok found) ∧
        (space.isDirectory (path.descend names) = false → (path.descend names).isSource = true →
          .source (path.descend names) ∈ space.walk recursive room path location) := by
  induction visited with
  | entry there =>
      intro room path leads usable
      obtain ⟨less, met, _, meeting, part⟩ := leads.meeting_in_walk named usable there
      have clear := leads.clear_child (named.isName there)
      cases meeting with
      | unusable probed => exact absurd (part _ List.mem_cons_self) (usable _)
      | directory there probed _ | linkedDirectory there probed =>
          refine ⟨⟨_, probed⟩, fun file => ?_⟩
          have directory := (isDirectory_iff clear probed).mpr rfl
          cases directory.symm.trans file
      | other there probed plain =>
          refine ⟨⟨_, probed⟩, fun _ source => part _ ?_⟩
          have suffix : (path.child _).isSource = true := source
          rw [if_pos suffix]
          exact List.mem_cons_self
  | inside recursively there visited ih =>
      intro room path leads usable
      obtain ⟨less, met, _, meeting, part⟩ := leads.meeting_in_walk named usable there
      rw [← Path.descend_child]
      cases meeting with
      | unusable probed => exact absurd (part _ List.mem_cons_self) (usable _)
      | directory _ probed onward =>
          rw [if_pos recursively] at part
          obtain ⟨found, met⟩ := ih onward fun error member => usable error (part _ member)
          exact ⟨found, fun file source => part _ (met file source)⟩
      | linkedDirectory link _ => cases there.symm.trans link
      | other plain _ _ => exact absurd there plain

/-- **Every directory is entered** when there is no failure: it may be listed, and there is room. -/
theorem open_of_enters {names : List Text} (entered : space.tree.Enters recursive location names) :
    ∀ {room : Nat} {path : Path}, space.Leads path location →
      (∀ error, .unusable error ∉ space.walk recursive room path location) →
      space.rights.reads (location ++ names) = true ∧ names.length < room := by
  -- The induction is on the way to the directory, on which each one takes up room.
  induction entered with
  | here =>
      intro room path leads usable
      obtain ⟨less, rfl, reads⟩ := open_of_usable usable
      rw [List.append_nil]
      exact ⟨reads, Nat.succ_pos less⟩
  | inside recursively there entered ih =>
      intro room path leads usable
      obtain ⟨less, met, rfl, meeting, part⟩ := leads.meeting_in_walk named usable there
      cases meeting with
      | unusable probed => exact absurd (part _ List.mem_cons_self) (usable _)
      | directory _ probed onward =>
          rw [if_pos recursively] at part
          obtain ⟨reads, shallow⟩ := ih onward fun error member => usable error (part _ member)
          rw [List.append_assoc] at reads
          exact ⟨reads, Nat.succ_lt_succ shallow⟩
      | linkedDirectory link _ => cases there.symm.trans link
      | other plain _ _ => exact absurd there plain

/-- A walk that meets an obstacle fails. -/
theorem Obstacle.not_usable (leads : space.Leads path location)
    (obstacle : space.Obstacle recursive room path location error) :
    ¬ ∀ error, .unusable error ∉ space.walk recursive room path location := by
  intro usable
  cases obstacle with
  | unseen visited probed =>
      obtain ⟨found, seen⟩ := (met_of_visits named visited leads usable).1
      cases probed.symm.trans seen
  | closed entered closed =>
      cases closed.symm.trans (open_of_enters named entered leads usable).1
  | deep entered long =>
      exact absurd (open_of_enters named entered leads usable).2 (Nat.not_lt.mpr long)

/-- Sources that are met under different names of a directory stand in the order of these. -/
theorem source_lt_source {left right : Text} {first second : Path}
    (leads : space.Leads path location) (before : left < right)
    (listedLeft : left ∈ space.tree.sortedNames location)
    (listedRight : right ∈ space.tree.sortedNames location)
    (firstMet : .source first ∈ space.meet recursive (path.child left) (location ++ [left])
      (space.walk recursive room (path.child left) (location ++ [left])))
    (secondMet : .source second ∈ space.meet recursive (path.child right) (location ++ [right])
      (space.walk recursive room (path.child right) (location ++ [right]))) : first < second := by
  have under : ∀ {name : Text} {source : Path}, name ∈ space.tree.sortedNames location →
      .source source ∈ space.meet recursive (path.child name) (location ++ [name])
        (space.walk recursive room (path.child name) (location ++ [name])) →
      ∃ names, source = path.descend (name :: names) := by
    intro name source listed met
    rcases leads.exists_metAt named listed
      (fun onward _ member => exists_metAt_of_mem_walk named onward member) met with
      ⟨names, _, same, _⟩ | ⟨error, failed, _⟩
    · exact ⟨names, same⟩
    · cases failed
  obtain ⟨lefts, rfl⟩ := under listedLeft firstMet
  obtain ⟨rights, rfl⟩ := under listedRight secondMet
  exact Path.descend_lt_descend before lefts rights

/-- **What is met ascends.** -/
theorem pairwise_walk (leads : space.Leads path location) :
    ((space.walk recursive room path location).filterMap Met.source?).Pairwise (· < ·) := by
  induction room generalizing path location with
  | zero => exact .nil
  | succ room ih =>
      rw [walk_succ]
      split
      · exact .nil
      rw [List.filterMap_flatMap, List.pairwise_flatMap]
      refine ⟨fun name listed => ?_, ?_⟩
      · obtain ⟨entry, there⟩ := Tree.mem_sortedNames_iff.mp listed
        exact (leads.meeting recursive (named.isName there) there _).pairwise ih
      · refine Tree.pairwise_sortedNames.imp_of_mem fun listed listed' before => ?_
        intro first firstMet second secondMet
        exact source_lt_source named leads before listed listed' (mem_sources_iff.mp firstMet)
          (mem_sources_iff.mp secondMet)

end Walk

end Workspace

end ReviewGate.Files
