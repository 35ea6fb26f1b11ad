import Mathlib
import ReviewGate.Proofs.Files.Walk

/-!
# The source files below a directory

What a search has to find are the visited entries that are no directories and have a supported
suffix (`IsSourceBelow`). It finds exactly these, in the order of their paths, whatever the order
in which the entries of the tree stand (`sourceFiles_exact`).

It ends with an error at an entry that cannot be looked up, and that may be one to be found: a link
to a name that is too long has a suffix like any other file (`sourceFiles_fails_behind_long_link`).
It ends as well at a directory that may not be listed, and at one for which the call stack has no
room. There are no other obstacles, and links back up the tree are none: no directory that is
entered is nested deeper than the tree.

Searches in given trees are computed with the equations of the functions that they call. That is
what the whole library is imported for.
-/

set_option autoImplicit false

namespace ReviewGate.Files.Workspace

variable {space : Workspace} {recursive : Bool} {path : Path} {location : Location}
  {met : List Met} {item : Met}

/-! ## What comes of a walk -/

theorem failure?_eq_some_iff {error : FileError} :
    item.failure? = some error ↔ item = .unusable error := by
  cases item <;> simp [Met.failure?]

/-- A walk gives the sources that it meets, or fails with an entry that cannot be looked up. -/
theorem files_ofWalk_cases (target : Path) (met : List Met) :
    (∀ error, .unusable error ∉ met) ∧
        (Finding.ofWalk target met).files = .ok (met.filterMap Met.source?) ∨
      ∃ error, .unusable error ∈ met ∧
        (Finding.ofWalk target met).files = .error (.unusable error) := by
  cases first : met.findSome? Met.failure? with
  | none =>
      have none : ∀ item ∈ met, item.failure? = none := List.findSome?_eq_none_iff.mp first
      have all : met.takeWhile (·.failure?.isNone) = met :=
        List.takeWhile_eq_self_iff.mpr fun item member => by rw [none item member]; rfl
      refine .inl ⟨fun error member => (nomatch none _ member), ?_⟩
      rw [Finding.ofWalk, first, all]
  | some error =>
      obtain ⟨item, member, failed⟩ := List.exists_of_findSome?_eq_some first
      refine .inr ⟨error, failure?_eq_some_iff.mp failed ▸ member, ?_⟩
      rw [Finding.ofWalk, first]

/-! ## The order in which entries stand -/

section Reordered

variable {other : Tree} (same : other.entries.Perm space.tree.entries)

include same

theorem locate_reordered : { space with tree := other }.locate = space.locate := by
  funext path
  simp only [locate_eq, Tree.locateFrom_congr (Tree.entry?_reordered same)]
  rfl

theorem probe_reordered : { space with tree := other }.probe = space.probe := by
  funext path
  simp only [probe, locate_reordered same]

theorem walk_reordered (room : Nat) :
    { space with tree := other }.walk recursive room path location =
      space.walk recursive room path location := by
  induction room generalizing path location with
  | zero => rfl
  | succ room ih =>
      simp only [walk, probe_reordered same, ih, Tree.sortedNames_reordered same,
        Tree.entry?_reordered same]

theorem sourceFiles_reordered : { space with tree := other }.sourceFiles = space.sourceFiles := by
  funext target recursive
  simp only [sourceFiles, probe_reordered same, walk_reordered same, locate_reordered same]

end Reordered

/-! ## What a search finds -/

/-- The sources that a search in a directory is to find: visited entries that are no directories
and have a supported suffix. -/
def IsSourceBelow (space : Workspace) (recursive : Bool) (target : Path) (location : Location)
    (path : Path) : Prop :=
  ∃ names, space.tree.Visits recursive location names ∧ path = target.descend names ∧
    space.isDirectory path = false ∧ path.isSource = true

/-- A search in a directory meets no obstacle. -/
def Searchable (space : Workspace) (recursive : Bool) (target : Path) (location : Location) :
    Prop :=
  ∀ error, ¬ space.Obstacle recursive space.nesting target location error

/-- A directory that a search enters is the one in which it starts, or stands in the tree. -/
theorem entry?_of_enters {names : List Text}
    (entered : space.tree.Enters recursive location names) :
    names = [] ∨ space.tree.entry? (location ++ names) = some .directory := by
  induction entered with
  | here => exact .inl rfl
  | @inside location name names _ there _ ih =>
      refine .inr ?_
      rcases ih with rfl | below
      · exact there
      · rwa [List.append_assoc] at below

/-- A search enters no directory that is nested deeper than the tree. -/
theorem length_le_depth_of_enters {names : List Text}
    (entered : space.tree.Enters recursive location names) :
    names.length ≤ space.tree.depth := by
  rcases entry?_of_enters entered with rfl | there
  · exact Nat.zero_le _
  · have deep := Tree.length_le_depth there
    rw [List.length_append] at deep
    omega

/-- Entries directly in a directory are those whose paths have it as their parent. -/
theorem visits_false_iff {target : Path} {names : List Text} :
    space.tree.Visits false location names ↔
      space.tree.Visits true location names ∧ (target.descend names).parent = target := by
  constructor
  · intro visited
    cases visited with
    | entry there => exact ⟨.entry there, by simp [Path.descend, Path.parent]⟩
    | inside deep _ _ => cases deep
  · rintro ⟨visited, above⟩
    cases visited with
    | entry there => exact .entry there
    | inside _ _ visited =>
        have parts := congrArg (fun path => path.parts.length) above
        cases visited <;> simp [Path.descend, Path.parent] at parts

/-- The sources directly in a directory are those of all below it that have it as their parent. -/
theorem isSourceBelow_false_iff {target source : Path} :
    space.IsSourceBelow false target location source ↔
      space.IsSourceBelow true target location source ∧ source.parent = target := by
  constructor
  · rintro ⟨names, visited, rfl, kind⟩
    obtain ⟨visited, above⟩ := visits_false_iff.mp visited
    exact ⟨⟨names, visited, rfl, kind⟩, above⟩
  · rintro ⟨⟨names, visited, rfl, kind⟩, above⟩
    exact ⟨names, visits_false_iff.mpr ⟨visited, above⟩, rfl, kind⟩

theorem enters_of_direct {names : List Text} (entered : space.tree.Enters false location names) :
    space.tree.Enters true location names := by
  cases entered with
  | here => exact .here
  | inside deep _ _ => cases deep

theorem Searchable.direct {target : Path} (searchable : space.Searchable true target location) :
    space.Searchable false target location := by
  intro error obstacle
  cases obstacle with
  | unseen visited probed =>
      have below : _ ∧ (target.descend _).parent = target := visits_false_iff.mp visited
      exact searchable error (.unseen below.1 probed)
  | closed entered closed => exact searchable _ (.closed (enters_of_direct entered) closed)
  | deep entered long => exact searchable _ (.deep (enters_of_direct entered) long)

section Search

variable {target : Path} (named : space.tree.WellNamed) (leads : space.Leads target location)

section

include named leads

theorem searchable_iff :
    space.Searchable recursive target location ↔ ∀ error,
      .unusable error ∉ space.walk recursive space.nesting target location := by
  constructor
  · intro searchable error member
    rcases exists_metAt_of_mem_walk named leads member with ⟨_, _, met⟩ | ⟨error, same, obstacle⟩
    · exact met
    · exact searchable error obstacle
  · exact fun usable error obstacle => obstacle.not_usable named leads usable

theorem mem_sources_walk_iff {source : Path}
    (searchable : space.Searchable recursive target location) :
    source ∈ (space.walk recursive space.nesting target location).filterMap Met.source? ↔
      space.IsSourceBelow recursive target location source := by
  rw [mem_sources_iff]
  constructor
  · intro member
    rcases exists_metAt_of_mem_walk named leads member with
      ⟨names, visited, rfl, file, suffix⟩ | ⟨_, failed, _⟩
    · exact ⟨names, visited, rfl, file, suffix⟩
    · cases failed
  · rintro ⟨names, visited, rfl, file, suffix⟩
    have usable := (searchable_iff named leads).mp searchable
    exact (met_of_visits named visited leads usable).2 file suffix

end

variable (directory : space.probe target = .ok (some .directory))
  (located : space.locate target = .ok (.found location .directory))

include directory located

/-- A search in a directory is a walk from where that is. -/
theorem sourceFiles_of_directory (recursive : Bool) :
    space.sourceFiles target recursive =
      .ofWalk target (space.walk recursive space.nesting target location) := by
  rw [sourceFiles, directory, located]

include named leads

/-- What a search in a directory finds, and when it finds anything. -/
theorem files_sourceFiles_iff {files : List Path} :
    (space.sourceFiles target recursive).files = .ok files ↔
      space.Searchable recursive target location ∧ files =
        (space.walk recursive space.nesting target location).filterMap Met.source? := by
  rw [sourceFiles_of_directory directory located, searchable_iff named leads]
  rcases files_ofWalk_cases target _ with ⟨usable, given⟩ | ⟨error, member, failed⟩
  · rw [given, and_iff_right usable, Except.ok.injEq, eq_comm]
  · rw [failed]
    exact ⟨fun given => (nomatch given), fun ⟨usable, _⟩ => absurd member (usable error)⟩

/-- What is found ascends and is what there is to find. -/
theorem pairwise_and_mem_sourceFiles {files : List Path}
    (found : (space.sourceFiles target recursive).files = .ok files) :
    files.Pairwise (· < ·) ∧
      ∀ path, path ∈ files ↔ space.IsSourceBelow recursive target location path := by
  obtain ⟨searchable, rfl⟩ := (files_sourceFiles_iff named leads directory located).mp found
  exact ⟨pairwise_walk named leads, fun path => mem_sources_walk_iff named leads searchable⟩

/-- A search fails with the error of an obstacle. -/
theorem exists_of_sourceFiles {failure : SearchFailure}
    (failed : (space.sourceFiles target recursive).files = .error failure) :
    ∃ error, space.Obstacle recursive space.nesting target location error ∧
      failure = .unusable error := by
  rw [sourceFiles_of_directory directory located] at failed
  rcases files_ofWalk_cases target _ with ⟨_, given⟩ | ⟨error, member, own⟩
  · cases given.symm.trans failed
  · cases own.symm.trans failed
    rcases exists_metAt_of_mem_walk named leads member with ⟨_, _, met⟩ | ⟨_, same, obstacle⟩
    · exact absurd met id
    · cases same
      exact ⟨error, obstacle, rfl⟩

/-- What is found directly in a directory is what is found below it with this parent. -/
theorem sourceFiles_direct {files : List Path}
    (found : (space.sourceFiles target true).files = .ok files) :
    (space.sourceFiles target false).files = .ok (files.filter (·.parent = target)) := by
  obtain ⟨searchable, _⟩ := (files_sourceFiles_iff named leads directory located).mp found
  obtain ⟨direct, shown⟩ : ∃ direct, (space.sourceFiles target false).files = .ok direct :=
    ⟨_, (files_sourceFiles_iff named leads directory located).mpr ⟨searchable.direct, rfl⟩⟩
  obtain ⟨ascending, all⟩ := pairwise_and_mem_sourceFiles named leads directory located found
  obtain ⟨ascending', own⟩ := pairwise_and_mem_sourceFiles named leads directory located shown
  rw [shown]
  congr 1
  refine ascending'.eq_of_mem_iff (ascending.filter _) fun path => ?_
  rw [own, isSourceBelow_false_iff, List.mem_filter, all, decide_eq_true_iff]

end Search

/-- **The search for source files is exact and ordered.** In a directory it succeeds when there is
no obstacle, and else fails with the error of one. What it finds ascends strictly and consists of
the sources below the directory; directly in it are those of them that have it as their parent. No
directory that it enters is nested deeper than the tree, and the order in which the entries of the
tree stand does not matter. -/
theorem sourceFiles_exact {target : Path} (named : space.tree.WellNamed)
    (directory : space.probe target = .ok (some .directory)) :
    ∃ location, space.locate target = .ok (.found location .directory) ∧
      (∀ recursive,
        ((∃ files, (space.sourceFiles target recursive).files = .ok files) ↔
          space.Searchable recursive target location) ∧
        (∀ failure, (space.sourceFiles target recursive).files = .error failure →
          ∃ error, space.Obstacle recursive space.nesting target location error ∧
            failure = .unusable error) ∧
        (∀ names, space.tree.Enters recursive location names →
          names.length ≤ space.tree.depth) ∧
        ∀ files, (space.sourceFiles target recursive).files = .ok files →
          files.Pairwise (· < ·) ∧
            ∀ path, path ∈ files ↔ space.IsSourceBelow recursive target location path) ∧
      (∀ files, (space.sourceFiles target true).files = .ok files →
        (space.sourceFiles target false).files = .ok (files.filter (·.parent = target))) ∧
      ∀ other : Tree, other.entries.Perm space.tree.entries →
        { space with tree := other }.sourceFiles target = space.sourceFiles target := by
  obtain ⟨location, located, leads⟩ := exists_leads directory
  refine ⟨location, located, fun recursive => ⟨⟨?_, ?_⟩, ?_, ?_, ?_⟩, ?_, ?_⟩
  · rintro ⟨files, found⟩
    exact ((files_sourceFiles_iff named leads directory located).mp found).1
  · intro searchable
    exact ⟨_, (files_sourceFiles_iff named leads directory located).mpr ⟨searchable, rfl⟩⟩
  · exact fun failure => exists_of_sourceFiles named leads directory located
  · exact fun names => length_le_depth_of_enters
  · exact fun files => pairwise_and_mem_sourceFiles named leads directory located
  · exact fun files => sourceFiles_direct named leads directory located
  · exact fun other same => congrFun (sourceFiles_reordered same) target

/-- A tree whose entries stand in no order, with a link back up and a link to nothing. -/
def looped : Workspace where
  tree := ⟨[(["d".toList, "b.py".toList], .file []), (["d".toList], .directory),
    (["d".toList, "a".toList, "x.ts".toList], .file []),
    (["d".toList, "z.PY".toList], .link "nowhere".toList),
    (["d".toList, "a.py".toList], .file []), (["d".toList, "a".toList], .directory),
    (["d".toList, "a".toList, "up.py".toList], .link "..".toList)], by decide⟩
  here := []

/-- What stands below `a` comes in front of `a.py`, though a slash comes behind a dot. -/
theorem sourceFiles_exact_looped :
    looped.tree.WellNamed ∧ looped.probe ⟨[], ["d".toList]⟩ = .ok (some .directory) ∧
      (looped.sourceFiles ⟨[], ["d".toList]⟩ true).files =
        .ok [⟨[], ["d".toList, "a".toList, "x.ts".toList]⟩, ⟨[], ["d".toList, "a.py".toList]⟩,
          ⟨[], ["d".toList, "b.py".toList]⟩, ⟨[], ["d".toList, "z.PY".toList]⟩] ∧
      (looped.sourceFiles ⟨[], ["d".toList]⟩ false).files =
        .ok [⟨[], ["d".toList, "a.py".toList]⟩, ⟨[], ["d".toList, "b.py".toList]⟩,
          ⟨[], ["d".toList, "z.PY".toList]⟩] := by
  have named : looped.tree.WellNamed := by decide
  have directory : looped.probe ⟨[], ["d".toList]⟩ = .ok (some .directory) := by cbv
  have found : (looped.sourceFiles ⟨[], ["d".toList]⟩ true).files =
      .ok [⟨[], ["d".toList, "a".toList, "x.ts".toList]⟩, ⟨[], ["d".toList, "a.py".toList]⟩,
        ⟨[], ["d".toList, "b.py".toList]⟩, ⟨[], ["d".toList, "z.PY".toList]⟩] := by cbv
  obtain ⟨_, _, _, direct, _⟩ := sourceFiles_exact named directory
  exact ⟨named, directory, found, direct _ found⟩

/-- A directory with a source file and a link to a name of more than 255 bytes. -/
def longLinked : Workspace where
  tree := ⟨[(["d".toList], .directory),
    (["d".toList, "l.py".toList], .link (List.replicate 256 'a' ++ ".py".toList)),
    (["d".toList, "x.py".toList], .file [])], by decide⟩
  here := []

set_option maxRecDepth 4000 in
/-- A link to a name that is too long ends the search, though it is an entry like any other. -/
theorem sourceFiles_fails_behind_long_link :
    longLinked.tree.WellNamed ∧ longLinked.probe ⟨[], ["d".toList]⟩ = .ok (some .directory) ∧
      (longLinked.sourceFiles ⟨[], ["d".toList]⟩ true).files =
        .error (.unusable ⟨.nameTooLong, "d/l.py".toList⟩) :=
  ⟨by decide, by cbv, by cbv⟩

end ReviewGate.Files.Workspace
