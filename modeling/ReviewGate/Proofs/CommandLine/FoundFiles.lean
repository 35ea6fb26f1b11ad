import ReviewGate.CommandLine.BudgetCheck
import ReviewGate.CommandLine.RecordCheck
import ReviewGate.Proofs.CommandLine.Checking
import ReviewGate.Proofs.Files.Languages

/-!
# Files behind found paths

A check reads what a search has found, and a path that leads to no file ends it without a report, as
does a file that may not be read. The search for records looks behind every path, so all that it
finds are files. The search for sources only leaves directories out. What it finds are files and
links to nothing (`isFile_or_isDeadLink`): an entry that is no link is behind its own path, and a
path that leads nowhere is therefore that of a link.

So, where files may be read, the check of records reads all that was found, and the check of line
budgets does so exactly when no link to nothing with a supported suffix is among the entries that
its search visits (`found_are_files_iff`).
-/

set_option autoImplicit false

namespace ReviewGate

namespace Files

/-- Following names never ends at a link. -/
theorem Tree.ne_link_of_locateFrom {tree : Tree} {enters : Location → Bool} {links : Nat}
    {here location : Location} {names : List Text} {entry : Entry} {linked : Text}
    (found : tree.locateFrom enters false links here names = .ok (.found location entry)) :
    entry ≠ .link linked := by
  fun_induction tree.locateFrom enters false links here names with
  | case1 =>
      cases found
      exact Entry.noConfusion
  | case10 =>
      obtain ⟨-, rfl⟩ : _ ∧ _ = entry := by simpa using found
      exact Entry.noConfusion
  | case3 _ _ _ _ _ _ ih | case4 _ _ _ _ _ ih | case9 _ _ _ _ _ _ _ _ _ _ _ ih
  | case13 _ _ _ _ _ _ _ _ _ _ _ _ _ ih => exact ih found
  | _ => simp at found

/-- Names of entries bring no NUL into a path. -/
theorem Path.holdsNul_descend {path : Path} {names : List Text} (clear : path.holdsNul = false)
    (valid : ∀ name ∈ names, IsName name) : (path.descend names).holdsNul = false := by
  rw [holdsNul, List.any_eq_false] at clear ⊢
  intro name member
  rcases List.mem_append.mp member with above | below
  · exact clear name above
  · simpa using (valid name below).noNul

namespace Workspace

variable {space : Workspace} {recursive : Bool} {target path : Path} {location : Location}
  {files : List Path}

/-! ## What a path leads to -/

/-- A path leads to a file. -/
def IsFile (space : Workspace) (path : Path) : Prop :=
  ∃ bytes, space.probe path = .ok (some (.file bytes))

/-- What stands behind a path is a file or a directory. -/
theorem isFile_of_probe {entry : Entry} (probed : space.probe path = .ok (some entry))
    (plain : entry ≠ .directory) : space.IsFile path := by
  obtain ⟨_, location, located⟩ := probe_eq_some_iff.mp probed
  cases entry with
  | file bytes => exact ⟨bytes, probed⟩
  | directory => exact absurd rfl plain
  | link linked =>
      rw [locate_eq] at located
      split at located
      · cases located
      · exact absurd rfl (Tree.ne_link_of_locateFrom located)

/-- What stands at a path may be read. -/
def MayRead (space : Workspace) (path : Path) : Prop :=
  ∀ location entry, space.locate path = .ok (.found location entry) →
    space.rights.reads location = true

/-- **Files that may be read are what is read.** -/
theorem isFile_and_mayRead_iff :
    space.IsFile path ∧ space.MayRead path ↔ ∃ text, space.readSource path = .ok text := by
  constructor
  · rintro ⟨⟨bytes, probed⟩, allowed⟩
    obtain ⟨clear, location, located⟩ := probe_eq_some_iff.mp probed
    refine ⟨sourceText bytes, ?_⟩
    rw [readSource, readBytes, if_neg (by simp [clear]), located]
    dsimp only
    rw [if_neg (by simp [allowed _ _ located])]
    rfl
  · rintro ⟨text, read⟩
    rw [readSource, readBytes] at read
    split at read
    · cases read
    · next clear =>
      split at read
      · next location entry located =>
        split at read
        · cases read
        · next allowed =>
          cases entry with
          | file bytes =>
              refine ⟨⟨bytes, probe_eq_some_iff.mpr
                ⟨Bool.not_eq_true _ ▸ clear, location, located⟩⟩, fun _ _ other => ?_⟩
              cases located.symm.trans other
              simpa using allowed
          | _ => cases read
      all_goals cases read

/-- A target that can be looked up is a directory from which names lead on, or a file. -/
theorem leads_or_isFile {entry : Entry} (probed : space.probe target = .ok (some entry)) :
    (∃ location, entry = .directory ∧ space.locate target = .ok (.found location .directory) ∧
      space.Leads target location) ∨
      space.IsFile target ∧ ∀ location, space.locate target ≠ .ok (.found location .directory) := by
  by_cases directory : entry = .directory
  · subst directory
    obtain ⟨location, located, leads⟩ := exists_leads probed
    exact .inl ⟨location, rfl, located, leads⟩
  · refine .inr ⟨isFile_of_probe probed directory, fun location other => ?_⟩
    obtain ⟨_, _, located⟩ := probe_eq_some_iff.mp probed
    cases other.symm.trans located
    exact directory rfl

/-! ## Records -/

/-- **A search for records finds files.** -/
theorem isFile_of_mem_recordFiles (found : (space.recordFiles target).files = .ok files)
    (member : path ∈ files) : space.IsFile path := by
  rw [recordFiles] at found
  split at found
  · cases found
  · rw [recordsIn] at found
    split at found
    · next listed kept =>
      cases found
      obtain ⟨name, listed, rfl⟩ := List.mem_map.mp member
      rw [recordNames] at kept
      split at kept
      · cases kept
      have passes := test_of_mem_filterM kept (List.mem_mergeSort.mp listed)
      rw [isRecord] at passes
      obtain ⟨entry, probed, passes⟩ := exists_of_bind_eq_ok passes
      split at passes
      · exact ⟨_, probed⟩
      · cases passes
    · cases found
  · next entry probed other =>
    cases found
    split at member
    · rw [List.mem_singleton.mp member]
      rcases leads_or_isFile probed with ⟨location, directory, located, _⟩ | ⟨file, _⟩
      · exact absurd directory (other location _ located)
      · exact file
    · cases member
  · cases found

/-! ## Sources -/

/-- A link to nothing with a supported suffix, among the entries that a search visits. -/
def IsDeadLink (space : Workspace) (recursive : Bool) (target path : Path) : Prop :=
  ∃ location names linked, space.locate target = .ok (.found location .directory) ∧
    space.tree.Visits recursive location names ∧ path = target.descend names ∧
    space.tree.entry? (location ++ names) = some (.link linked) ∧ path.isSource = true ∧
    space.probe path = .ok none

section Walk

variable (named : space.tree.WellNamed)

include named

/-- **A source that a walk meets is a file, or a link to nothing.** -/
theorem isFile_or_link_of_mem_walk {room : Nat} {source : Path}
    (leads : space.Leads path location)
    (member : .source source ∈ space.walk recursive room path location) :
    space.IsFile source ∨ ∃ names linked, space.tree.Visits recursive location names ∧
      source = path.descend names ∧
      space.tree.entry? (location ++ names) = some (.link linked) ∧
      space.probe source = .ok none := by
  -- Directories are entered, so only the last name of the way to the source can be a link.
  induction room generalizing path location with
  | zero => cases List.mem_singleton.mp member
  | succ room ih =>
      obtain ⟨name, listed, member⟩ := exists_meet_of_source member
      obtain ⟨entry, stored⟩ := Tree.mem_sortedNames_iff.mp listed
      have valid := named.isName stored
      have meeting := leads.meeting recursive valid stored
        (space.walk recursive room (path.child name) (location ++ [name]))
      generalize space.meet recursive (path.child name) (location ++ [name]) _ = met
        at meeting member
      cases meeting with
      | unusable _ => cases List.mem_singleton.mp member
      | linkedDirectory _ _ => cases List.mem_singleton.mp member
      | directory there _ onward =>
          split at member
          · next deep =>
            refine (ih onward member).imp_right ?_
            rintro ⟨names, linked, visited, rfl, link, dead⟩
            refine ⟨name :: names, linked, .inside deep there visited,
              Path.descend_child names, ?_, dead⟩
            rwa [List.append_assoc] at link
          · cases List.mem_singleton.mp member
      | @other reached there probed plain =>
          split at member
          · cases List.mem_singleton.mp member
            cases entry with
            | directory => exact absurd stored there
            | file bytes =>
                rcases leads.probe_child valid stored (by simp) with ⟨error, long⟩ | ⟨own, _⟩
                · cases long.symm.trans probed
                · exact .inl ⟨bytes, own⟩
            | link linked =>
                cases reached with
                | none => exact .inr ⟨[name], linked, .entry stored, rfl, stored, probed⟩
                | some entry =>
                    exact .inl (isFile_of_probe probed fun same => plain (congrArg some same))
          · cases member

end Walk

/-- A search starts in a directory, or gives its target. -/
theorem walks_or_given (found : (space.sourceFiles target recursive).files = .ok files) :
    (∃ location, space.probe target = .ok (some .directory) ∧
      space.locate target = .ok (.found location .directory) ∧ space.Leads target location) ∨
      (∀ location, space.locate target ≠ .ok (.found location .directory)) ∧
        ∀ path ∈ files, space.IsFile path := by
  rw [sourceFiles] at found
  split at found
  · cases found
  · next probed located =>
    obtain ⟨location, located, leads⟩ := exists_leads probed
    exact .inl ⟨location, probed, located, leads⟩
  · next entry probed other =>
    cases found
    rcases leads_or_isFile probed with ⟨location, directory, located, _⟩ | ⟨file, none⟩
    · exact absurd directory (other location _ located)
    · refine .inr ⟨none, fun path member => ?_⟩
      split at member
      · exact List.mem_singleton.mp member ▸ file
      · cases member
  · cases found

section Search

variable (named : space.tree.WellNamed)
  (found : (space.sourceFiles target recursive).files = .ok files)

include named found

/-- **A search for sources finds files and links to nothing.** -/
theorem isFile_or_isDeadLink (member : path ∈ files) :
    space.IsFile path ∨ space.IsDeadLink recursive target path := by
  rcases walks_or_given found with ⟨location, directory, located, leads⟩ | ⟨_, all⟩
  · have suffix := isSource_of_mem_sourceFiles found member
    obtain ⟨_, rfl⟩ := (files_sourceFiles_iff named leads directory located).mp found
    refine (isFile_or_link_of_mem_walk named leads (mem_sources_iff.mp member)).imp_right ?_
    rintro ⟨names, linked, visited, rfl, link, nothing⟩
    exact ⟨location, names, linked, located, visited, rfl, link, suffix, nothing⟩
  · exact .inl (all path member)

/-- Links to nothing are found like files. -/
theorem IsDeadLink.mem (dead : space.IsDeadLink recursive target path) : path ∈ files := by
  obtain ⟨location, names, linked, located, visited, rfl, link, suffix, nothing⟩ := dead
  rcases walks_or_given found with ⟨_, directory, own, leads⟩ | ⟨none, _⟩
  · cases own.symm.trans located
    have valid : ∀ name ∈ names, IsName name := fun name member =>
      named _ (Tree.entry?_eq_some_iff.mp link) name (List.mem_append_right location member)
    have plain : space.isDirectory (target.descend names) = false := by
      have clear := Path.holdsNul_descend leads.clear valid
      exact Bool.not_eq_true _ ▸ (isDirectory_iff clear nothing).not.mpr nofun
    obtain ⟨_, all⟩ := pairwise_and_mem_sourceFiles named leads directory located found
    exact (all _).mpr ⟨names, visited, rfl, plain, suffix⟩
  · exact absurd located (none location)

/-- **A search for sources finds nothing but files when it visits no link to nothing.** -/
theorem forall_isFile_iff :
    (∀ path ∈ files, space.IsFile path) ↔ ∀ path, ¬ space.IsDeadLink recursive target path := by
  constructor
  · intro all path dead
    obtain ⟨bytes, probed⟩ := all path (dead.mem named found)
    obtain ⟨_, _, _, _, _, _, _, _, nothing⟩ := dead
    cases nothing.symm.trans probed
  · intro none path member
    exact (isFile_or_isDeadLink named found member).resolve_right (none path)

end Search

end Workspace

end Files

namespace CommandLine

open Files (FileError Path Workspace)

/-! ## Reading what was found -/

section Reading

variable {α : Type} {space : Workspace} {files : List Path} (examine : Path → Text → Examined α)

/-- Files that may be read are all read, so nothing but a computation fails when they are
examined. -/
theorem results_of_files (all : ∀ path ∈ files, space.IsFile path)
    (allowed : ∀ path ∈ files, space.MayRead path) :
    ∃ sources, readAll space files = .ok sources ∧
      (examineAll space examine files).results =
        (sources.mapM fun (path, text) => (examine path text).result).mapError .arithmetic := by
  obtain ⟨sources, read⟩ : ∃ sources, readAll space files = .ok sources := by
    refine exists_mapM fun path member => ?_
    obtain ⟨text, read⟩ :=
      Workspace.isFile_and_mayRead_iff.mp ⟨all path member, allowed path member⟩
    exact ⟨(path, text), by rw [read]; rfl⟩
  exact ⟨sources, read, Check.results_of_readAll read⟩

/-- A computation that fails is no failure to read. -/
theorem unreadable_ne_mapError {β : Type} (computed : Except ArithmeticError β)
    (error : FileError) :
    computed.mapError CheckFailure.arithmetic ≠ .error (.unreadable error) := by
  cases computed <;> exact nofun

/-- A path without a file behind it ends examining. -/
theorem results_of_no_file {path : Path} (member : path ∈ files) (none : ¬ space.IsFile path) :
    ∃ failure, (examineAll space examine files).results = .error failure := by
  cases read : readAll space files with
  | error error => exact Check.results_of_unread read
  | ok sources =>
      obtain ⟨source, _, opened⟩ := exists_result_of_mem read member
      cases own : space.readSource path with
      | error error =>
          rw [own] at opened
          cases opened
      | ok text => exact absurd (Workspace.isFile_and_mayRead_iff.mpr ⟨text, own⟩).1 none

end Reading

/-- **All that is found are files when no link to nothing is visited.** A search for records finds
files, which are all assessed when they may be read. What a search for sources finds are files and
links to nothing, and these are the links with a supported suffix that it visits. Without any, no
file that may be read fails to be read when the lines are counted; with one, there are no counts. -/
theorem found_are_files_iff {space : Workspace} (named : space.tree.WellNamed) (target : Path) :
    (∀ files, (space.recordFiles target).files = .ok files →
      (∀ path ∈ files, space.IsFile path) ∧
        ((∀ path ∈ files, space.MayRead path) →
          ∃ results, (examineAll space assessFile files).results = .ok results)) ∧
    ∀ recursive files, (space.sourceFiles target recursive).files = .ok files →
      (∀ path ∈ files, space.IsFile path ∨ space.IsDeadLink recursive target path) ∧
      ((∀ path ∈ files, space.IsFile path) ↔
        ∀ path, ¬ space.IsDeadLink recursive target path) ∧
      ((∀ path, ¬ space.IsDeadLink recursive target path) →
        (∀ path ∈ files, space.MayRead path) → ∀ limit error,
          (examineAll space (countFile limit) files).results ≠ .error (.unreadable error)) ∧
      ∀ path, space.IsDeadLink recursive target path → ∀ limit,
        ∃ failure, (examineAll space (countFile limit) files).results = .error failure := by
  refine ⟨fun files found => ?_, fun recursive files found => ?_⟩
  · have all : ∀ path ∈ files, space.IsFile path := fun path =>
      Workspace.isFile_of_mem_recordFiles found
    refine ⟨all, fun allowed => ?_⟩
    obtain ⟨sources, _, examined⟩ := results_of_files assessFile all allowed
    have assessed : ∀ source ∈ sources, ∃ result, (assessFile source.1 source.2).result =
        .ok result := fun _ _ => ⟨_, rfl⟩
    obtain ⟨results, made⟩ := exists_mapM assessed
    exact ⟨results, examined.trans (congrArg (Except.mapError _) made)⟩
  · have files_iff := Workspace.forall_isFile_iff named found
    refine ⟨fun path => Workspace.isFile_or_isDeadLink named found, files_iff, ?_, ?_⟩
    · intro none allowed limit error unreadable
      obtain ⟨sources, _, examined⟩ :=
        results_of_files (countFile limit) (files_iff.mpr none) allowed
      exact unreadable_ne_mapError _ error (examined.symm.trans unreadable)
    · intro path dead limit
      refine results_of_no_file (countFile limit) (dead.mem named found) ?_
      rintro ⟨bytes, probed⟩
      obtain ⟨_, _, _, _, _, _, _, _, nothing⟩ := dead
      cases nothing.symm.trans probed

/-- Two directories, one of which has links to nothing. -/
def linkedSpace : Workspace where
  tree := ⟨[(["d".toList], .directory), (["d".toList, "a.md".toList], .file []),
    (["d".toList, "b.md".toList], .link "a.md".toList),
    (["d".toList, "n.md".toList], .link "nowhere".toList),
    (["d".toList, "a.py".toList], .file []),
    (["d".toList, "z.py".toList], .link "nowhere".toList),
    (["s".toList], .directory), (["s".toList, "a.py".toList], .file []),
    (["s".toList, "below".toList], .directory),
    (["s".toList, "below".toList, "l.ts".toList], .link "../a.py".toList)], by decide⟩
  here := []

theorem found_are_files_iff_linked :
    linkedSpace.tree.WellNamed ∧
      (linkedSpace.recordFiles ⟨[], ["d".toList]⟩).files =
        .ok [⟨[], ["d".toList, "a.md".toList]⟩, ⟨[], ["d".toList, "b.md".toList]⟩] ∧
      linkedSpace.IsFile ⟨[], ["d".toList, "b.md".toList]⟩ ∧
      (linkedSpace.sourceFiles ⟨[], ["s".toList]⟩ true).files =
        .ok [⟨[], ["s".toList, "a.py".toList]⟩, ⟨[], ["s".toList, "below".toList, "l.ts".toList]⟩] ∧
      ∀ limit error, (examineAll linkedSpace (countFile limit) [⟨[], ["s".toList, "a.py".toList]⟩,
        ⟨[], ["s".toList, "below".toList, "l.ts".toList]⟩]).results ≠
          .error (.unreadable error) := by
  have named : linkedSpace.tree.WellNamed := by decide
  obtain ⟨ofRecords, _⟩ := found_are_files_iff named ⟨[], ["d".toList]⟩
  obtain ⟨_, ofSources⟩ := found_are_files_iff named ⟨[], ["s".toList]⟩
  have records : (linkedSpace.recordFiles ⟨[], ["d".toList]⟩).files =
      .ok [⟨[], ["d".toList, "a.md".toList]⟩, ⟨[], ["d".toList, "b.md".toList]⟩] := by cbv
  have sources : (linkedSpace.sourceFiles ⟨[], ["s".toList]⟩ true).files =
      .ok [⟨[], ["s".toList, "a.py".toList]⟩,
        ⟨[], ["s".toList, "below".toList, "l.ts".toList]⟩] := by cbv
  have all : ∀ path ∈ [(⟨[], ["s".toList, "a.py".toList]⟩ : Path),
      ⟨[], ["s".toList, "below".toList, "l.ts".toList]⟩], linkedSpace.IsFile path := by
    intro path member
    rcases List.mem_pair.mp member with rfl | rfl <;> exact ⟨[], by cbv⟩
  obtain ⟨_, files_iff, read, _⟩ := ofSources true _ sources
  exact ⟨named, records, (ofRecords _ records).1 _ (by simp), sources,
    read (files_iff.mp all) fun _ _ _ _ _ => rfl⟩

/-- A link to nothing is found as a source file and ends the check, though one to a record is
passed over. -/
theorem link_to_nothing_ends_check :
    (linkedSpace.sourceFiles ⟨[], ["d".toList]⟩ false).files =
        .ok [⟨[], ["d".toList, "a.py".toList]⟩, ⟨[], ["d".toList, "z.py".toList]⟩] ∧
      linkedSpace.probe ⟨[], ["d".toList, "z.py".toList]⟩ = .ok none ∧
      (examineAll linkedSpace (countFile 50) [⟨[], ["d".toList, "a.py".toList]⟩,
        ⟨[], ["d".toList, "z.py".toList]⟩]).results =
          .error (.unreadable ⟨.notFound, "d/z.py".toList⟩) := by
  have opened : linkedSpace.readSource ⟨[], ["d".toList, "a.py".toList]⟩ = .ok [] := by cbv
  have unread : linkedSpace.readSource ⟨[], ["d".toList, "z.py".toList]⟩ =
      .error ⟨.notFound, "d/z.py".toList⟩ := by cbv
  obtain ⟨count, counted⟩ : ∃ count,
      (countFile 50 ⟨[], ["d".toList, "a.py".toList]⟩ []).result = .ok count := ⟨_, rfl⟩
  refine ⟨by cbv, by cbv, ?_⟩
  rw [examineAll, opened]
  dsimp only
  rw [counted]
  dsimp only
  rw [examineAll, unread]
  rfl

end CommandLine

end ReviewGate
