import ReviewGate.Files.Writing
import ReviewGate.Proofs.Files.Following

/-!
# What writing a file changes

A file is written where its path leads, and the directories in front of it are made as far as they
are missing. Making a directory keeps all entries that are there, and storing the file changes no
directory and no link. So a path that leads to a directory keeps leading there
(`locateFrom_of_keeps`), and behind the write every entry that has changed is the file itself or a
new directory to which a path in front of the file leads (`written_of_yields`).

Whether a file can be written does not depend on its text (`Writable.yields`).
-/

set_option autoImplicit false

namespace ReviewGate.Files

/-! ## Stored entries -/

namespace Tree

variable {tree other : Tree} {enters : Location → Bool} {links : Nat} {here location : Location}
  {parts : List Text}

theorem lookup_cons_eq (asked location : Location) (entry : Entry)
    (entries : List (Location × Entry)) :
    ((location, entry) :: entries).lookup asked =
      if asked = location then some entry else entries.lookup asked := by
  by_cases own : asked = location
  · rw [if_pos own, own, List.lookup_cons_self]
  · have passed : (asked == location) = false := beq_eq_false_iff_ne.mpr own
    rw [if_neg own, List.lookup_cons, passed]

theorem lookup_putEntry (location asked : Location) (entry : Entry)
    (entries : List (Location × Entry)) :
    (putEntry location entry entries).lookup asked =
      if asked = location then some entry else entries.lookup asked := by
  induction entries with
  | nil => rw [putEntry, lookup_cons_eq]
  | cons head more ih =>
      obtain ⟨first, old⟩ := head
      rw [putEntry, lookup_cons_eq]
      by_cases same : first = location
      · rw [if_pos same, lookup_cons_eq, same]
        split <;> rfl
      · rw [if_neg same, lookup_cons_eq, ih]
        by_cases own : asked = first
        · rw [if_pos own, if_neg (own ▸ same), if_pos own]
        · rw [if_neg own, if_neg own]

theorem entry?_put (tree : Tree) (location asked : Location) (entry : Entry) :
    Tree.entry? (tree.put location entry) asked =
      if asked = location then some entry else tree.entry? asked :=
  lookup_putEntry location asked entry tree.entries

/-! ## Where paths lead -/

/-- All directories and links of a tree are in another one, too. -/
def Keeps (tree other : Tree) : Prop :=
  ∀ location entry, tree.entry? location = some entry → (∀ bytes, entry ≠ .file bytes) →
    other.entry? location = some entry

/-- The location of a place at which a file is or can be made. -/
def Place.fileLocation? : Place → Option Location
  | .vacant location => some location
  | .found location (.file _) => some location
  | .found _ _ => none

/-- A location is free when neither a directory nor a link stands there. -/
def Free (tree : Tree) (location : Location) : Prop :=
  ∀ entry, tree.entry? location = some entry → ∃ bytes, entry = .file bytes

theorem keeps_put (free : tree.Free location) (entry : Entry) :
    tree.Keeps (tree.put location entry) := by
  intro asked old there noFile
  rw [entry?_put, if_neg, there]
  rintro rfl
  obtain ⟨bytes, file⟩ := free old there
  exact noFile bytes file

/-- A path that leads to a directory still leads there when directories and links stay. -/
theorem locateFrom_of_keeps (keeps : tree.Keeps other)
    (found : tree.locateFrom enters false links here parts = .ok (.found location .directory)) :
    other.locateFrom enters false links here parts = .ok (.found location .directory) := by
  fun_induction tree.locateFrom enters false links here parts with
  | case1 links here => rw [locateFrom, found]
  | case3 links here name rest allowed stay ih => rw [locateFrom_stay stay allowed, ih found]
  | case4 links here rest allowed _ ih => rw [locateFrom_up allowed, ih found]
  | case9 links here name rest allowed stay up _ short there entry ih =>
      have kept := keeps _ _ entry (by simp)
      rw [locateFrom_step ⟨by simpa using stay, up⟩ allowed, if_neg short, kept]
      exact ih found
  | case13 here name rest allowed stay up _ short there target entry links start ih =>
      have kept := keeps _ _ entry (by simp)
      rw [locateFrom_step ⟨by simpa using stay, up⟩ allowed, if_neg short, kept]
      exact ih found
  | _ => simp at found

/-- What is found in order to make a file is found anyway. -/
theorem locateFrom_of_making {place : Place}
    (found : tree.locateFrom enters true links here parts = .ok place) :
    tree.locateFrom enters false links here parts = .ok place := by
  fun_induction tree.locateFrom enters true links here parts with
  | case1 links here => rw [locateFrom, found]
  | case3 links here name rest allowed stay ih => rw [locateFrom_stay stay allowed, ih found]
  | case4 links here rest allowed _ ih => rw [locateFrom_up allowed, ih found]
  | case2 => simp at found
  | case5 => simp at found
  | case6 => simp at found
  | case7 links here name allowed stay up short there entry =>
      rw [locateFrom_step ⟨by simpa using stay, up⟩ allowed, if_neg short, entry]
      exact found
  | case8 => simp at found
  | case9 links here name rest allowed stay up _ short there entry ih =>
      rw [locateFrom_step ⟨by simpa using stay, up⟩ allowed, if_neg short, entry]
      exact ih found
  | case10 links here name allowed stay up short there bytes entry =>
      rw [locateFrom_step ⟨by simpa using stay, up⟩ allowed, if_neg short, entry]
      exact found
  | case11 => simp at found
  | case12 => simp at found
  | case13 here name rest allowed stay up _ short there target entry links start ih =>
      rw [locateFrom_step ⟨by simpa using stay, up⟩ allowed, if_neg short, entry]
      exact ih found

/-- The place at which a file is or can be made is free. -/
theorem free_of_fileLocation {place : Place}
    (found : tree.locateFrom enters false links here parts = .ok place)
    (takes : place.fileLocation? = some location) :
    tree.Free location := by
  fun_induction tree.locateFrom enters false links here parts with
  | case1 => cases found; cases takes
  | case3 links here name rest allowed stay ih => exact ih found
  | case4 links here rest allowed _ ih => exact ih found
  | case7 links here name allowed stay up short there entry =>
      cases found
      obtain rfl : here ++ [name] = location := Option.some.inj takes
      intro other same
      cases entry.symm.trans same
  | case9 links here name rest allowed stay up _ short there entry ih => exact ih found
  | case10 links here name allowed stay up short there bytes entry =>
      cases found
      obtain rfl : here ++ [name] = location := Option.some.inj takes
      intro other same
      exact ⟨bytes, Option.some.inj (same.symm.trans entry)⟩
  | case13 here name rest allowed stay up _ short there target entry links start ih =>
      exact ih found
  | _ => simp at found

/-- A file that is stored at such a place is found there. -/
theorem locateFrom_put {place : Place} {bytes : List UInt8}
    (found : tree.locateFrom enters false links here parts = .ok place)
    (takes : place.fileLocation? = some location) :
    (tree.put location (.file bytes)).locateFrom enters false links here parts =
      .ok (.found location (.file bytes)) := by
  have keeps : tree.Keeps (tree.put location (.file bytes)) :=
    keeps_put (free_of_fileLocation found takes) _
  have stored : Tree.entry? (tree.put location (.file bytes)) location = some (.file bytes) := by
    rw [entry?_put, if_pos rfl]
  fun_induction tree.locateFrom enters false links here parts with
  | case1 => cases found; cases takes
  | case3 links here name rest allowed stay ih => rw [locateFrom_stay stay allowed, ih found]
  | case4 links here rest allowed _ ih => rw [locateFrom_up allowed, ih found]
  | case7 links here name allowed stay up short there entry =>
      cases found
      obtain rfl : here ++ [name] = location := Option.some.inj takes
      rw [locateFrom_step ⟨by simpa using stay, up⟩ allowed, if_neg short, stored]
      rfl
  | case9 links here name rest allowed stay up _ short there entry ih =>
      have kept := keeps _ _ entry (by simp)
      rw [locateFrom_step ⟨by simpa using stay, up⟩ allowed, if_neg short, kept]
      exact ih found
  | case10 links here name allowed stay up short there old entry =>
      cases found
      obtain rfl : here ++ [name] = location := Option.some.inj takes
      rw [locateFrom_step ⟨by simpa using stay, up⟩ allowed, if_neg short, stored]
      rfl
  | case13 here name rest allowed stay up _ short there target entry links start ih =>
      have kept := keeps _ _ entry (by simp)
      rw [locateFrom_step ⟨by simpa using stay, up⟩ allowed, if_neg short, kept]
      exact ih found
  | _ => simp at found

end Tree

/-! ## Changes -/

namespace Path

/-- A path is above another one when that goes on from it. Every path is above itself. -/
def Above (above path : Path) : Prop :=
  ∃ more, path = ⟨above.root, above.parts ++ more⟩

/-- The parts of a path lead on, each of them. No path that is read has others. -/
def Plain (path : Path) : Prop :=
  ∀ name ∈ path.parts, Tree.isStay name = false

theorem above_refl (path : Path) : path.Above path :=
  ⟨[], by rw [List.append_nil]⟩

theorem Above.trans {first second third : Path} (lower : first.Above second)
    (upper : second.Above third) : first.Above third := by
  obtain ⟨middle, rfl⟩ := lower
  obtain ⟨last, rfl⟩ := upper
  exact ⟨middle ++ last, by rw [List.append_assoc]⟩

theorem above_parent (path : Path) : path.parent.Above path := by
  refine ⟨path.parts.drop (path.parts.length - 1), ?_⟩
  rw [parent, List.dropLast_eq_take, List.take_append_drop]

theorem Plain.parent {path : Path} (plain : path.Plain) : path.parent.Plain :=
  fun name member => plain name (List.dropLast_subset _ member)

theorem plain_read (text : Text) : (Path.read text).Plain := by
  intro name member
  obtain ⟨part, other⟩ := List.mem_filter.mp member
  have filled : name ≠ [] := by simpa using (List.mem_filter.mp part).2
  simpa [Tree.isStay, filled] using other

/-- A path with a name is its parent with that name behind it. -/
theorem eq_child_parent {path : Path} (named : path.name ≠ []) :
    path = path.parent.child path.name := by
  obtain ⟨root, parts⟩ := path
  have filled : parts ≠ [] := by rintro rfl; exact named rfl
  rw [child, parent, name, List.getLastD_eq_getLast?, List.getLast?_eq_some_getLast filled,
    Option.getD_some, List.dropLast_concat_getLast]

theorem name_mem_parts {path : Path} (named : path.name ≠ []) : path.name ∈ path.parts := by
  have last : path.parts = path.parent.parts ++ [path.name] :=
    congrArg Path.parts (eq_child_parent named)
  rw [last]
  exact List.mem_append_right _ List.mem_cons_self

end Path

namespace Change

variable {α β : Type} {before after : Workspace} {path : Path}

/-- What comes of a change, and what the workspace is behind it. -/
def result (change : Change α) (space : Workspace) : Except FileError α × Workspace :=
  change.run.run space

/-- A change succeeds and makes one workspace of another. -/
def Yields (change : Change Unit) (before after : Workspace) : Prop :=
  change.result before = (.ok (), after)

theorem result_bind (first : Change α) (next : α → Change β) (space : Workspace) :
    (first >>= next).result space = match first.result space with
      | (.ok value, between) => (next value).result between
      | (.error failure, between) => (.error failure, between) := by
  change (match first.result space with
    | (outcome, between) => StateT.run (ExceptT.bindCont next outcome) between) = _
  rcases first.result space with ⟨_ | _, _⟩ <;> rfl

theorem result_tryCatch (first : Change α) (rescue : FileError → Change α) (space : Workspace) :
    (tryCatch first rescue).result space = match first.result space with
      | (.ok value, between) => (.ok value, between)
      | (.error failure, between) => (rescue failure).result between := by
  unfold result ExceptT.run StateT.run
  simp only [tryCatch, tryCatchThe, MonadExceptOf.tryCatch, ExceptT.tryCatch, ExceptT.mk, bind,
    StateT.bind]
  rcases first space with ⟨_ | _, _⟩ <;> rfl

theorem result_makeDirectory (path : Path) (space : Workspace) :
    (makeDirectory path).result space = match space.newDirectory path with
      | .ok location => (.ok (), space.put location .directory)
      | .error cause => (.error ⟨cause, path.text⟩, space) := by
  change (store path (space.newDirectory path) .directory).result space = _
  cases space.newDirectory path <;> rfl

theorem result_writeFile (path : Path) (bytes : List UInt8) (space : Workspace) :
    (writeFile path bytes).result space = match space.newFile path with
      | .ok location => (.ok (), space.put location (.file bytes))
      | .error cause => (.error ⟨cause, path.text⟩, space) := by
  change (store path (space.newFile path) (.file bytes)).result space = _
  cases space.newFile path <;> rfl

/-- Looking whether a directory is there changes nothing. -/
theorem eq_of_unlessThere {failure : FileError}
    (yields : (unlessThere path failure).Yields before after) : after = before := by
  rw [Yields, unlessThere] at yields
  split at yields
  · cases yields
  · rw [result_bind] at yields
    have got : (get : Change Workspace).result before = (.ok before, before) := rfl
    rw [got] at yields
    dsimp only at yields
    split at yields
    · cases yields
    · split at yields <;> cases yields
      rfl

theorem yields_bind_iff {first next : Change Unit} :
    (first >>= fun _ => next).Yields before after ↔
      ∃ between, first.Yields before between ∧ next.Yields between after := by
  rw [Yields, result_bind]
  unfold Yields
  rcases first.result before with ⟨_ | _, between⟩ <;> simp

/-- A change that is rescued succeeds itself or by what rescues it. -/
theorem yields_or_rescued {first : Change Unit} {rescue : FileError → Change Unit}
    (yields : (tryCatch first rescue).Yields before after) :
    first.Yields before after ∨ ∃ failure between,
      first.result before = (.error failure, between) ∧ (rescue failure).Yields between after := by
  rw [Yields, result_tryCatch] at yields
  unfold Yields
  cases ran : first.result before with
  | mk outcome between =>
      rw [ran] at yields
      cases outcome with
      | error failure => exact .inr ⟨failure, between, rfl, yields⟩
      | ok => exact .inl yields

/-- A directory that cannot be made changes nothing. -/
theorem eq_of_makeDirectory {failure : FileError}
    (failed : (makeDirectory path).result before = (.error failure, after)) : after = before := by
  rw [result_makeDirectory] at failed
  split at failed <;> cases failed
  rfl

end Change

/-! ## Making directories -/

variable {before between after space : Workspace} {path above : Path} {location : Location}

/-- A workspace has grown towards a path: some directories are new, and paths above lead there. -/
structure Grown (before after : Workspace) (path : Path) : Prop where
  rest : after = { before with tree := after.tree }
  kept : ∀ location entry, before.tree.entry? location = some entry →
    after.tree.entry? location = some entry
  made : ∀ location, before.tree.entry? location = none → after.tree.entry? location = none ∨
    after.tree.entry? location = some .directory ∧
      ∃ above : Path, above.Above path ∧ after.locate above = .ok (.found location .directory)

theorem locate_of_keeps (keeps : before.tree.Keeps after.tree)
    (rest : after = { before with tree := after.tree })
    (found : before.locate path = .ok (.found location .directory)) :
    after.locate path = .ok (.found location .directory) := by
  rw [rest, Workspace.locate_eq]
  rw [Workspace.locate_eq] at found
  split at found
  · cases found
  · next short =>
    rw [if_neg short]
    exact Tree.locateFrom_of_keeps keeps found

namespace Grown

theorem refl (space : Workspace) (path : Path) : Grown space space path :=
  ⟨rfl, fun _ _ there => there, fun _ vacant => .inl vacant⟩

theorem keeps (grown : Grown before after path) : before.tree.Keeps after.tree :=
  fun location entry there _ => grown.kept location entry there

theorem trans (first : Grown before between path) (second : Grown between after path) :
    Grown before after path where
  rest := second.rest.trans (by rw [first.rest])
  kept location entry there := second.kept location entry (first.kept location entry there)
  made location vacant := by
    rcases first.made location vacant with vacant | ⟨made, above, upper, found⟩
    · exact second.made location vacant
    · exact .inr ⟨second.kept _ _ made, above, upper,
        locate_of_keeps second.keeps second.rest found⟩

theorem lower (grown : Grown before after above) (upper : above.Above path) :
    Grown before after path where
  rest := grown.rest
  kept := grown.kept
  made location vacant := (grown.made location vacant).imp_right
    fun ⟨made, higher, highest, found⟩ => ⟨made, higher, highest.trans upper, found⟩

end Grown

@[simp] theorem rights_put (space : Workspace) (location : Location) (entry : Entry) :
    (space.put location entry).rights = space.rights := rfl

/-- A directory that can be made has a vacant place in the directory to which its parent leads. -/
theorem exists_of_newDirectory (new : space.newDirectory path = .ok location) :
    path.name ≠ [] ∧ path.name ≠ ['.', '.'] ∧
      ¬ Workspace.pathLengthLimit ≤ Tree.byteLength path.text ∧
      ¬ Tree.maxNameLength < Tree.byteLength path.name ∧
      space.tree.entry? location = none ∧
      ∃ holder, space.locate path.parent = .ok (.found holder .directory) ∧
        ¬ Tree.isShut space.rights.enters holder path.name = true ∧
        location = holder ++ [path.name] := by
  rw [Workspace.newDirectory] at new
  split at new
  · simp only [bind, Except.bind] at new
    split at new <;> cases new
  · next named =>
    simp only [Bool.or_eq_true, decide_eq_true_eq, not_or] at named
    split at new
    · cases new
    · next short =>
      cases found : space.locate path.parent with
      | error cause => rw [found] at new; cases new
      | ok place =>
          rw [found] at new
          cases place with
          | vacant => cases new
          | found holder entry =>
              cases entry with
              | file => cases new
              | link => cases new
              | directory =>
                  simp only [bind, Except.bind] at new
                  split at new
                  · cases new
                  · next allowed =>
                    split at new
                    · cases new
                    · next fits =>
                      split at new
                      · cases new
                      · next vacant =>
                        split at new <;> cases new
                        exact ⟨named.1, named.2, short, fits, by simpa using vacant,
                          holder, rfl, allowed, rfl⟩

/-- A path leads to the directory that was made for it. -/
theorem locate_put_directory (plain : path.Plain)
    (new : space.newDirectory path = .ok location) :
    (space.put location .directory).locate path = .ok (.found location .directory) := by
  obtain ⟨named, forward, short, fits, vacant, holder, found, allowed, rfl⟩ :=
    exists_of_newDirectory new
  have step : Tree.IsStep path.name := ⟨plain _ (Path.name_mem_parts named), forward⟩
  have stored : Tree.entry? (space.put (holder ++ [path.name]) .directory).tree
      (holder ++ [path.name]) = some .directory := (Tree.entry?_put ..).trans (if_pos rfl)
  have keeps : space.tree.Keeps (space.put (holder ++ [path.name]) .directory).tree :=
    Tree.keeps_put (fun entry there => nomatch vacant.symm.trans there) _
  have upper : (space.put (holder ++ [path.name]) .directory).locate path.parent =
    .ok (.found holder .directory) := locate_of_keeps keeps rfl found
  have steps : path.steps = path.parent.parts ++ [path.name] := by
    have child := Workspace.steps_child path.parent path.name
    rwa [← Path.eq_child_parent named] at child
  obtain ⟨left, onward⟩ := Workspace.onward_of_locate upper
  rw [Workspace.locate_eq, if_neg short, steps]
  exact (onward [path.name]).trans
    (by
    rw [rights_put, Tree.locateFrom_step step allowed, if_neg fits, stored, Tree.locateFrom])

theorem grown_of_makeDirectory (plain : path.Plain)
    (yields : (Change.makeDirectory path).Yields before after) : Grown before after path := by
  rw [Change.Yields, Change.result_makeDirectory] at yields
  split at yields
  · next location new =>
    cases yields
    obtain ⟨-, -, -, -, vacant, -⟩ := exists_of_newDirectory new
    refine ⟨rfl, fun other entry there => ?_, fun other absent => ?_⟩
    · rw [Workspace.put, Tree.entry?_put, if_neg, there]
      rintro rfl
      cases vacant.symm.trans there
    · rw [Workspace.put, Tree.entry?_put]
      by_cases own : other = location
      · subst own
        exact .inr ⟨if_pos rfl, path, path.above_refl, locate_put_directory plain new⟩
      · exact .inl ((if_neg own).trans absent)
  · cases yields

theorem grown_of_makeDirectories {bound : Nat} (plain : path.Plain)
    (yields : (Change.makeDirectoriesWithin bound path).Yields before after) :
    Grown before after path := by
  induction bound generalizing path before after with
  | zero => cases yields
  | succ bound ih =>
      rw [Change.makeDirectoriesWithin] at yields
      rcases Change.yields_or_rescued yields with made | ⟨failure, between, failed, rescued⟩
      · exact grown_of_makeDirectory plain made
      · cases Change.eq_of_makeDirectory failed
        split at rescued
        · obtain ⟨between, upper, own⟩ := Change.yields_bind_iff.mp rescued
          have grown : Grown before between path := (ih plain.parent upper).lower path.above_parent
          rcases Change.yields_or_rescued own with made | ⟨failure, last, failed, there⟩
          · exact grown.trans (grown_of_makeDirectory plain made)
          · cases Change.eq_of_makeDirectory failed
            rw [Change.eq_of_unlessThere there]
            exact grown
        · rw [Change.eq_of_unlessThere rescued]
          exact Grown.refl before path

/-! ## Writing -/

/-- A file can be written. -/
def Workspace.Writable (space : Workspace) (path : Path) : Prop :=
  ∃ text after, (Change.writeText path text).Yields space after

/-- A file has been written: the path leads to it, and every other entry that has changed is a new
directory to which a path above the file leads. -/
structure Written (before after : Workspace) (path : Path) (bytes : List UInt8) : Prop where
  rest : after = { before with tree := after.tree }
  holds : ∃ location, after.locate path = .ok (.found location (.file bytes)) ∧
    before.tree.Free location ∧
    ∀ other ≠ location, after.tree.entry? other = before.tree.entry? other ∨
      before.tree.entry? other = none ∧ after.tree.entry? other = some .directory ∧
        ∃ above : Path, above.Above path ∧ after.locate above = .ok (.found other .directory)

theorem yields_writeFile_iff {bytes : List UInt8} :
    (Change.writeFile path bytes).Yields before after ↔
      ∃ location, before.newFile path = .ok location ∧
        before.put location (.file bytes) = after := by
  rw [Change.Yields, Change.result_writeFile]
  cases before.newFile path <;> simp

/-- Whether a file can be written does not depend on its text. -/
theorem Workspace.Writable.yields (writable : space.Writable path) (text : Text) :
    ∃ after, (Change.writeText path text).Yields space after := by
  obtain ⟨other, after, yields⟩ := writable
  obtain ⟨between, made, stored⟩ := Change.yields_bind_iff.mp yields
  obtain ⟨location, new, -⟩ := yields_writeFile_iff.mp stored
  have stored' : (Change.writeFile path (Text.encode text)).Yields between
      (between.put location (.file (Text.encode text))) :=
    yields_writeFile_iff.mpr ⟨location, new, rfl⟩
  exact ⟨_, Change.yields_bind_iff.mpr ⟨between, made, stored'⟩⟩

/-- A new file has a place to which its path leads and where it can be made. -/
theorem exists_of_newFile (new : space.newFile path = .ok location) :
    ∃ place : Tree.Place, place.fileLocation? = some location ∧
      ¬ Workspace.pathLengthLimit ≤ Tree.byteLength path.text ∧
      space.tree.locateFrom space.rights.enters false Tree.maxLinks (space.start path)
        path.steps = .ok place := by
  rw [Workspace.newFile] at new
  cases found : space.follow true path with
  | error cause => rw [found] at new; cases new
  | ok place =>
      rw [found] at new
      rw [Workspace.follow] at found
      split at found
      · cases found
      · next short =>
        refine ⟨place, ?_, short, Tree.locateFrom_of_making found⟩
        cases place with
        | vacant =>
            simp only [bind, Except.bind] at new
            split at new <;> cases new
            rfl
        | found holder entry =>
            cases entry with
            | file =>
                simp only [bind, Except.bind] at new
                split at new <;> cases new
                rfl
            | _ => cases new

/-- **Writing a file changes that file only, and makes directories in front of it.** -/
theorem written_of_yields {text : Text} (plain : path.Plain)
    (yields : (Change.writeText path text).Yields before after) :
    Written before after path (Text.encode text) := by
  obtain ⟨between, made, stored⟩ := Change.yields_bind_iff.mp yields
  obtain ⟨location, new, rfl⟩ := yields_writeFile_iff.mp stored
  obtain ⟨place, takes, short, found⟩ := exists_of_newFile new
  have grown : Grown before between path.parent := grown_of_makeDirectories plain.parent made
  have free : between.tree.Free location := Tree.free_of_fileLocation found takes
  have keeps : between.tree.Keeps (between.put location (.file (Text.encode text))).tree :=
    Tree.keeps_put free _
  refine ⟨grown.rest ▸ rfl, location, ?_, fun entry there => free entry (grown.kept _ _ there), ?_⟩
  · rw [Workspace.locate_eq, if_neg short]
    exact Tree.locateFrom_put found takes
  · intro other elsewhere
    have same : Tree.entry? (between.put location (.file (Text.encode text))).tree other =
      between.tree.entry? other := (Tree.entry?_put ..).trans (if_neg elsewhere)
    rw [same]
    cases there : before.tree.entry? other with
    | some entry => exact .inl (grown.kept _ _ there)
    | none =>
        refine (grown.made other there).imp_right fun ⟨made, above, upper, found⟩ => ?_
        exact ⟨rfl, made, above, upper.trans path.above_parent, locate_of_keeps keeps rfl found⟩

end ReviewGate.Files
