import Mathlib.Data.List.Basic
import ReviewGate.Proofs.Files.Listing

/-!
# Paths that lead to directories

A path is followed from its first name on, and links take the place of their names. Once it has
led to a directory, what stands behind it is looked up from there (`Workspace.Leads`), with the
links that are left. So the path of an entry of that directory leads to the entry, unless it is a
link or the path cannot be looked up (`Leads.probe_child`), and that of a directory in it leads on.

The simplest paths are single names in the directory where they start (`Workspace.IsDirect`). A file
is found and read under its name.
-/

set_option autoImplicit false

namespace ReviewGate.Files

namespace Tree

variable {tree : Tree} {enters : Location → Bool} {links : Nat} {here location : Location}
  {name : Text} {rest : List Text}

/-- Whether a name leads to an entry of the directory in which it is looked up. -/
def IsStep (name : Text) : Prop :=
  isStay name = false ∧ name ≠ ['.', '.']

theorem IsStep.isShut (step : IsStep name) : isShut enters here name = ! enters here := by
  have named : name ≠ [] := fun empty => absurd step.1 (by simp [empty, isStay])
  simp [Tree.isShut, named]

theorem locateFrom_stay (stay : isStay name = true) (allowed : ¬ isShut enters here name = true) :
    tree.locateFrom enters false links here (name :: rest) =
      tree.locateFrom enters false links here rest := by
  rw [locateFrom, if_neg allowed, if_pos stay]

theorem locateFrom_up (allowed : ¬ isShut enters here ['.', '.'] = true) :
    tree.locateFrom enters false links here (['.', '.'] :: rest) =
      tree.locateFrom enters false links here.dropLast rest := by
  rw [locateFrom, if_neg allowed, if_neg (by decide), if_pos rfl]

/-- A name of an entry is looked up in a directory that may be entered. -/
theorem locateFrom_shut (step : IsStep name) (shut : enters here = false) :
    tree.locateFrom enters false links here (name :: rest) = .error .denied := by
  rw [locateFrom, if_pos (by simp [step.isShut, shut])]

theorem locateFrom_step (step : IsStep name) (allowed : ¬ isShut enters here name = true) :
    tree.locateFrom enters false links here (name :: rest) =
      if maxNameLength < byteLength name then .error .nameTooLong
      else match tree.entry? (here ++ [name]) with
        | none => if rest = [] then .ok (.vacant (here ++ [name])) else .error .notFound
        | some .directory => tree.locateFrom enters false links (here ++ [name]) rest
        | some (.file bytes) =>
          if rest = [] then .ok (.found (here ++ [name]) (.file bytes)) else .error .notDirectory
        | some (.link target) =>
          match links with
          | 0 => .error .tooManyLinks
          | links + 1 =>
            tree.locateFrom enters false links (if (Path.read target).root = [] then here else [])
              (stepsOf target ++ rest) := by
  rw [locateFrom, if_neg allowed, if_neg (by simp [step.1]), if_neg step.2]
  exact if_neg (by simp)

theorem locateFrom_append {parts : List Text}
    (found : tree.locateFrom enters false links here parts = .ok (.found location .directory)) :
    ∃ left, ∀ names, tree.locateFrom enters false links here (parts ++ names) =
      tree.locateFrom enters false left location names := by
  -- A path that leads to a directory is not cut off by a vacant place or a file.
  fun_induction tree.locateFrom enters false links here parts with
  | case1 links here =>
      cases found
      exact ⟨links, fun _ => rfl⟩
  | case3 links here name rest allowed stay ih =>
      obtain ⟨left, leads⟩ := ih found
      exact ⟨left, fun names => by rw [List.cons_append, locateFrom_stay stay allowed, leads]⟩
  | case4 links here rest allowed _ ih =>
      obtain ⟨left, leads⟩ := ih found
      exact ⟨left, fun names => by rw [List.cons_append, locateFrom_up allowed, leads]⟩
  | case9 links here name rest allowed stay up _ short there entry ih =>
      obtain ⟨left, leads⟩ := ih found
      refine ⟨left, fun names => ?_⟩
      rw [List.cons_append, locateFrom_step ⟨by simpa using stay, up⟩ allowed, if_neg short, entry]
      exact leads names
  | case13 here name rest allowed stay up _ short there target entry links start ih =>
      obtain ⟨left, leads⟩ := ih found
      refine ⟨left, fun names => ?_⟩
      rw [List.cons_append, locateFrom_step ⟨by simpa using stay, up⟩ allowed, if_neg short, entry,
        ← leads, List.append_assoc]
      rfl
  | _ => simp at found

/-- Only the entries of a tree tell where a path leads. -/
theorem locateFrom_congr {other : Tree} (entries : other.entry? = tree.entry?) (links : Nat)
    (here : Location) (names : List Text) :
    other.locateFrom enters false links here names =
      tree.locateFrom enters false links here names := by
  match names with
  | [] => rw [locateFrom, locateFrom]
  | name :: rest =>
      by_cases allowed : isShut enters here name = true
      · rw [locateFrom, if_pos allowed, locateFrom, if_pos allowed]
      by_cases stay : isStay name = true
      · rw [locateFrom_stay stay allowed, locateFrom_stay stay allowed, locateFrom_congr entries]
      by_cases up : name = ['.', '.']
      · subst up
        rw [locateFrom_up allowed, locateFrom_up allowed, locateFrom_congr entries]
      have step : IsStep name := ⟨Bool.not_eq_true _ ▸ stay, up⟩
      rw [locateFrom_step step allowed, locateFrom_step step allowed, entries]
      split
      · rfl
      split
      · rfl
      · exact locateFrom_congr entries links _ rest
      · rfl
      · cases links with
        | zero => rfl
        | succ links => exact locateFrom_congr entries links _ _
termination_by (links, names.length)

end Tree

instance (name : Text) : Decidable (Tree.IsStep name) :=
  inferInstanceAs (Decidable (_ ∧ _))

/-- A name that an entry of a directory can have. -/
structure IsName (name : Text) : Prop where
  step : Tree.IsStep name
  noSlash : '/' ∉ name
  noNul : '\x00' ∉ name

instance (name : Text) : Decidable (IsName name) :=
  decidable_of_iff (Tree.IsStep name ∧ '/' ∉ name ∧ '\x00' ∉ name)
    ⟨fun ⟨step, noSlash, noNul⟩ => ⟨step, noSlash, noNul⟩,
      fun ⟨step, noSlash, noNul⟩ => ⟨step, noSlash, noNul⟩⟩

namespace Tree

/-- All entries of a tree have names that entries can have. -/
def WellNamed (tree : Tree) : Prop :=
  ∀ stored ∈ tree.entries, ∀ name ∈ stored.1, IsName name

instance (tree : Tree) : Decidable tree.WellNamed :=
  inferInstanceAs (Decidable (∀ stored ∈ tree.entries, ∀ name ∈ stored.1, IsName name))

theorem WellNamed.isName {tree : Tree} (named : tree.WellNamed) {location : Location}
    {name : Text} {entry : Entry} (there : tree.entry? (location ++ [name]) = some entry) :
    IsName name :=
  named _ (entry?_eq_some_iff.mp there) name (List.mem_append_right _ List.mem_cons_self)

end Tree

namespace Workspace

variable {space : Workspace} {path : Path} {location : Location} {name : Text} {entry : Entry}

/-- Names behind a path are looked up from a location. -/
structure Leads (space : Workspace) (path : Path) (location : Location) : Prop where
  clear : path.holdsNul = false
  onward : ∃ links, ∀ names,
    space.tree.locateFrom space.rights.enters false Tree.maxLinks (space.start path)
        (path.parts ++ names) =
      space.tree.locateFrom space.rights.enters false links location names

theorem probe_of_clear (clear : path.holdsNul = false) :
    space.probe path = match space.locate path with
      | .ok (.found _ entry) => .ok (some entry)
      | .error .nameTooLong => .error ⟨.nameTooLong, path.text⟩
      | .error .denied => .error ⟨.denied, path.text⟩
      | _ => .ok none :=
  if_neg (by simp [clear])

theorem probe_eq_some_iff :
    space.probe path = .ok (some entry) ↔
      path.holdsNul = false ∧ ∃ location, space.locate path = .ok (.found location entry) := by
  cases nul : path.holdsNul with
  | true => simp [probe, nul]
  | false =>
      rw [probe_of_clear nul]
      split <;> simp_all

/-- A file that is there can be read unless that is not allowed. -/
theorem readBytes_of_file {bytes : List UInt8}
    (there : space.probe path = .ok (some (.file bytes))) :
    space.readBytes path = .ok bytes ∨ space.readBytes path = .error ⟨.denied, path.text⟩ := by
  obtain ⟨clear, location, located⟩ := probe_eq_some_iff.mp there
  rw [readBytes, if_neg (by simp [clear]), located]
  dsimp only
  split
  · exact .inr rfl
  · exact .inl rfl

/-- A path that can be looked up is one of a directory when a directory is found. -/
theorem isDirectory_iff (clear : path.holdsNul = false) {found : Option Entry}
    (probed : space.probe path = .ok found) :
    space.isDirectory path = true ↔ found = some .directory := by
  rw [probe_of_clear clear] at probed
  rw [isDirectory, decide_eq_true_iff, reached?]
  split at probed
  · cases probed
    simp [*]
  · cases probed
  · cases probed
  · cases probed
    split <;> simp_all

theorem locate_eq (space : Workspace) (path : Path) :
    space.locate path = if pathLengthLimit ≤ Tree.byteLength path.text then .error .nameTooLong
      else space.tree.locateFrom space.rights.enters false Tree.maxLinks (space.start path)
        path.steps := by
  rw [locate, follow]

/-- Names behind a path of a directory are looked up from that directory. -/
theorem onward_of_locate (located : space.locate path = .ok (.found location .directory)) :
    ∃ links, ∀ names,
      space.tree.locateFrom space.rights.enters false Tree.maxLinks (space.start path)
          (path.parts ++ names) =
        space.tree.locateFrom space.rights.enters false links location names := by
  rw [locate_eq] at located
  split at located
  · cases located
  · rw [Path.steps] at located
    split at located
    · next dot =>
      -- The single dot stays where it is looked up.
      have empty : path.parts = [] := by simp_all
      rw [Tree.locateFrom] at located
      split at located
      · cases located
      · rw [if_pos (by decide), Tree.locateFrom] at located
        cases located
        exact ⟨Tree.maxLinks, fun names => by rw [empty, List.nil_append]⟩
    · exact Tree.locateFrom_append located

/-- A path that can be looked up and is one of a directory leads on from that. -/
theorem exists_leads (directory : space.probe path = .ok (some .directory)) :
    ∃ location, space.locate path = .ok (.found location .directory) ∧
      space.Leads path location := by
  have clear : path.holdsNul = false := by
    by_contra nul
    rw [probe, if_pos (by simpa using nul)] at directory
    cases directory
  obtain ⟨location, located⟩ : ∃ location,
      space.locate path = .ok (.found location .directory) := by
    rw [probe_of_clear clear] at directory
    split at directory
    · next location entry located =>
        cases directory
        exact ⟨location, located⟩
    all_goals cases directory
  exact ⟨location, located, clear, onward_of_locate located⟩

theorem Leads.clear_child (leads : space.Leads path location) (valid : IsName name) :
    (path.child name).holdsNul = false := by
  have above := leads.clear
  have own := valid.noNul
  simp_all [Path.holdsNul, Path.child]

theorem start_child : space.start (path.child name) = space.start path := rfl

theorem steps_child (path : Path) (name : Text) :
    (path.child name).steps = path.parts ++ [name] := by
  simp [Path.steps, Path.child]

theorem Leads.locate_child (leads : space.Leads path location) (step : Tree.IsStep name)
    (there : space.tree.entry? (location ++ [name]) = some entry)
    (real : ∀ target, entry ≠ .link target) :
    (space.locate (path.child name) = .error .nameTooLong ∨
        space.locate (path.child name) = .error .denied) ∨
      space.locate (path.child name) = .ok (.found (location ++ [name]) entry) ∧
        (entry = .directory → ∃ links, ∀ names,
          space.tree.locateFrom space.rights.enters false Tree.maxLinks (space.start path)
            ((path.child name).parts ++ names) =
              space.tree.locateFrom space.rights.enters false links (location ++ [name])
                names) := by
  obtain ⟨links, onward⟩ := leads.onward
  rw [locate_eq]
  split
  · exact .inl (.inl rfl)
  rw [start_child, steps_child, onward]
  by_cases shut : Tree.isShut space.rights.enters location name = true
  · have closed : space.rights.enters location = false := by simpa [step.isShut] using shut
    exact .inl (.inr (Tree.locateFrom_shut step closed))
  rw [Tree.locateFrom_step step shut, there]
  split
  · exact .inl (.inl rfl)
  · next short =>
    refine .inr ⟨?_, ?_⟩
    · cases entry with
      | file bytes => rfl
      | link target => exact absurd rfl (real target)
      | directory => rw [Tree.locateFrom]
    · rintro rfl
      refine ⟨links, fun names => ?_⟩
      rw [Path.child, List.append_assoc, onward, List.singleton_append,
        Tree.locateFrom_step step shut, if_neg short, there]

/-- What stands in a directory is found by its path unless it is a link, or the path cannot be
looked up. -/
theorem Leads.probe_child (leads : space.Leads path location) (valid : IsName name)
    (there : space.tree.entry? (location ++ [name]) = some entry)
    (real : ∀ target, entry ≠ .link target) :
    (∃ error, space.probe (path.child name) = .error error) ∨
      space.probe (path.child name) = .ok (some entry) ∧
        (entry = .directory → space.Leads (path.child name) (location ++ [name])) := by
  have clear : (path.child name).holdsNul = false := leads.clear_child valid
  rw [probe_of_clear clear]
  rcases leads.locate_child valid.step there real with (long | denied) | ⟨located, onward⟩
  · rw [long]
    exact .inl ⟨_, rfl⟩
  · rw [denied]
    exact .inl ⟨_, rfl⟩
  · rw [located]
    exact .inr ⟨rfl, fun directory => ⟨clear, onward directory⟩⟩

/-! ## Names in the directory where a path starts -/

/-- A path is a single name, which can be looked up in the directory where the path starts. -/
structure IsDirect (space : Workspace) (path : Path) (name : Text) : Prop where
  parts : path.parts = [name]
  valid : IsName name
  short : Tree.byteLength name ≤ Tree.maxNameLength
  reached : Tree.byteLength path.text < pathLengthLimit
  entered : space.rights.enters (space.start path) = true

namespace IsDirect

variable {bytes : List UInt8} (direct : space.IsDirect path name)
  (there : space.tree.entry? (space.start path ++ [name]) = some (.file bytes))

include direct

theorem clear : path.holdsNul = false := by
  simp [Path.holdsNul, direct.parts, direct.valid.noNul]

include there

/-- A file is found under its name. -/
theorem locate_file :
    space.locate path = .ok (.found (space.start path ++ [name]) (.file bytes)) := by
  have step := direct.valid.step
  have allowed : ¬ Tree.isShut space.rights.enters (space.start path) name = true := by
    simp [step.isShut, direct.entered]
  have steps : path.steps = [name] := by
    simp [Path.steps, direct.parts]
  rw [locate_eq, if_neg (Nat.not_le.mpr direct.reached), steps,
    Tree.locateFrom_step step allowed, if_neg (Nat.not_lt.mpr direct.short), there]
  rfl

theorem probe_file : space.probe path = .ok (some (.file bytes)) :=
  probe_eq_some_iff.mpr ⟨direct.clear, _, direct.locate_file there⟩

/-- A file is read under its name when it may be read. -/
theorem readBytes_file (readable : space.rights.reads (space.start path ++ [name]) = true) :
    space.readBytes path = .ok bytes := by
  rw [readBytes, if_neg (by simp [direct.clear]), direct.locate_file there]
  exact if_neg (by simp [readable])

/-- A search for sources in a file finds the file, or nothing. -/
theorem sourceFiles_file (recursive : Bool) : space.sourceFiles path recursive =
    .given (if path.isSource then [path] else []) := by
  rw [sourceFiles, direct.probe_file there, direct.locate_file there]

end IsDirect

end Workspace

end ReviewGate.Files
