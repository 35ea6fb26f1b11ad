import ReviewGate.Files.Path

/-!
# File trees

A file tree is a finite collection of entries at locations, where a location is the row of names
that leads from the root to the entry. An entry is a file with its bytes, a symbolic link with the
path it points to, or a directory. No location has two entries. The entries stand in any order,
which is the order in which a directory is listed.

`entry?` looks at a location literally. `locate` follows a path as the system does: through links,
of which it follows forty at most, and with double dots leading back from where a link has led.
It finds an entry, or the vacant location of an entry that could be made there, or says why the
path leads nowhere. A name of more than 255 bytes leads nowhere, and neither does a path of 4096.
In a directory that may not be entered no name is looked up.

What a link points to may end in a slash or a dot. Then it has to be a directory, and no file can
be made there.

A workspace adds what the program may do with the entries and how deep it may search. Names are
texts, so all names of entries are taken to be UTF-8.
-/

set_option autoImplicit false

namespace ReviewGate.Files

/-- The names that lead from the root of a tree to an entry. -/
abbrev Location := List Text

/-- What stands at a location. -/
inductive Entry
  | file (bytes : List UInt8)
  | link (target : Text)
  | directory
  deriving DecidableEq, Repr

/-- A file tree. -/
structure Tree where
  entries : List (Location × Entry)
  distinct : (entries.map Prod.fst).Nodup

namespace Tree

/-- The tree that holds nothing but its root. -/
def empty : Tree := ⟨[], List.nodup_nil⟩

/-- The entry at a location. -/
def entry? (tree : Tree) (location : Location) : Option Entry :=
  tree.entries.lookup location

/-- The entries with one of them stored at a location, in the place of the one that was there. -/
def putEntry (location : Location) (entry : Entry) :
    List (Location × Entry) → List (Location × Entry)
  | [] => [(location, entry)]
  | (other, old) :: more =>
    if other = location then (location, entry) :: more
    else (other, old) :: putEntry location entry more

theorem mem_locations_putEntry (location other : Location) (entry : Entry)
    (entries : List (Location × Entry)) :
    other ∈ (putEntry location entry entries).map Prod.fst ↔
      other = location ∨ other ∈ entries.map Prod.fst := by
  induction entries with
  | nil => simp [putEntry]
  | cons head more ih =>
    unfold putEntry
    by_cases same : head.1 = location
    · rw [if_pos same]
      simp only [List.map_cons, List.mem_cons, same, or_self_left]
    · rw [if_neg same]
      simp only [List.map_cons, List.mem_cons, ih]
      constructor <;> rintro (h | h | h) <;> simp [h]

theorem nodup_putEntry (location : Location) (entry : Entry) (entries : List (Location × Entry))
    (distinct : (entries.map Prod.fst).Nodup) :
    ((putEntry location entry entries).map Prod.fst).Nodup := by
  induction entries with
  | nil => simp [putEntry]
  | cons head more ih =>
    unfold putEntry
    rw [List.map_cons, List.nodup_cons] at distinct
    by_cases same : head.1 = location
    · rw [if_pos same]
      simpa [← same] using distinct
    · rw [if_neg same, List.map_cons, List.nodup_cons, mem_locations_putEntry]
      exact ⟨fun h => h.elim same distinct.1, ih distinct.2⟩

/-- Stores an entry at a location. -/
def put (tree : Tree) (location : Location) (entry : Entry) : Tree :=
  ⟨putEntry location entry tree.entries, nodup_putEntry location entry _ tree.distinct⟩

/-- Takes the entry at a location away. -/
def remove (tree : Tree) (location : Location) : Tree :=
  ⟨tree.entries.filter (·.1 != location),
    (List.filter_sublist.map Prod.fst).nodup tree.distinct⟩

/-- The names in a directory, in the order in which they are listed. -/
def namesIn (tree : Tree) (location : Location) : List Text :=
  tree.entries.filterMap fun (other, _) =>
    match other.getLast? with
    | some name => if other.dropLast = location then some name else none
    | none => none

/-- The length of the longest location. -/
def depth (tree : Tree) : Nat :=
  tree.entries.foldl (fun most entry => max most entry.1.length) 0

/-! ## Following paths -/

/-- Why a path cannot be followed or used. -/
inductive PathError
  | notFound
  | notDirectory
  | isDirectory
  | exists
  | tooManyLinks
  | nameTooLong
  | denied
  | tooDeep
  | holdsNul
  deriving DecidableEq, Repr

/-- Where a path leads. -/
inductive Place
  | found (location : Location) (entry : Entry)
  | vacant (location : Location)
  deriving DecidableEq, Repr

/-- The number of bytes of a text. -/
def byteLength (text : Text) : Nat :=
  text.foldr (fun c total => c.utf8Size + total) 0

/-- The most bytes of a name. -/
def maxNameLength : Nat := 255

/-- The names that the target of a link stands for. An empty name at the end stands for a slash
there. -/
def stepsOf (target : Text) : List Text :=
  let names := (Path.read target).parts
  if names = [] then []
  else if target.getLast? = some '/' then names ++ [[]]
  else if ['/', '.'].isSuffixOf target then names ++ [['.']]
  else names

/-- Whether a name stands for the directory in which it is looked up. -/
def isStay (name : Text) : Bool :=
  name = [] || name = ['.']

/-- Whether names are a single one with a slash behind it. -/
def endsInSlash : List Text → Bool
  | [name, []] => ! isStay name && name != ['.', '.']
  | _ => false

/-- Whether a name cannot be looked up, since its directory may not be entered. The empty name needs
no looking up. -/
def isShut (enters : Location → Bool) (here : Location) (name : Text) : Bool :=
  name ≠ [] && ! enters here

/-- Follows names from a directory on, perhaps in order to make a file. A link takes the place of
its name and is followed from the directory that holds it, or from the root. -/
def locateFrom (tree : Tree) (enters : Location → Bool) (making : Bool) (links : Nat)
    (here : Location) : List Text → Except PathError Place
  | [] => .ok (.found here .directory)
  | name :: rest =>
    if isShut enters here name then .error .denied
    else if isStay name then locateFrom tree enters making links here rest
    else if name = ['.', '.'] then locateFrom tree enters making links here.dropLast rest
    else if making && endsInSlash (name :: rest) then .error .isDirectory
    else if maxNameLength < byteLength name then .error .nameTooLong
    else
      let there := here ++ [name]
      match tree.entry? there with
      | none => if rest = [] then .ok (.vacant there) else .error .notFound
      | some .directory => locateFrom tree enters making links there rest
      | some (.file bytes) =>
        if rest = [] then .ok (.found there (.file bytes)) else .error .notDirectory
      | some (.link target) =>
        match links with
        | 0 => .error .tooManyLinks
        | links + 1 =>
          let start := if (Path.read target).root = [] then here else []
          locateFrom tree enters making links start (stepsOf target ++ rest)
termination_by names => (links, names.length)

/-- The most links that are followed on one path. -/
def maxLinks : Nat := 40

end Tree

/-- What the program may do with what stands at a location: read a file or list a directory, look
names up in a directory, and write a file or make entries in a directory. At a vacant location it
is what it may do with an entry that it makes there. -/
structure Rights where
  reads : Location → Bool
  enters : Location → Bool
  writes : Location → Bool

/-- The program may do everything. -/
def Rights.all : Rights := ⟨fun _ => true, fun _ => true, fun _ => true⟩

/-- How deep a search goes through directories when the call stack has room for a thousand calls,
each of which holds one directory, and some calls above and below the search. -/
def usualNesting : Nat := 980

/-- A file tree and the directory in it from which relative paths start, with what the program may
do in it, and the number of directories, one within the other, for which a search finds room on the
call stack. -/
structure Workspace where
  tree : Tree
  here : Location
  rights : Rights := .all
  nesting : Nat := usualNesting

namespace Workspace

/-- The number of bytes that no path reaches. -/
def pathLengthLimit : Nat := 4096

/-- The directory from which a path is followed. -/
def start (space : Workspace) (path : Path) : Location :=
  if path.root = [] then space.here else []

/-- Follows a path, perhaps in order to make a file. -/
def follow (space : Workspace) (making : Bool) (path : Path) : Except Tree.PathError Tree.Place :=
  if pathLengthLimit ≤ Tree.byteLength path.text then .error .nameTooLong
  else
    space.tree.locateFrom space.rights.enters making Tree.maxLinks (space.start path) path.steps

/-- Follows a path. -/
def locate (space : Workspace) (path : Path) : Except Tree.PathError Tree.Place :=
  space.follow false path

/-- The entry to which a path leads. -/
def reached? (space : Workspace) (path : Path) : Option Entry :=
  match space.locate path with
  | .ok (.found _ entry) => some entry
  | _ => none

/-- Whether a path leads to a directory. -/
def isDirectory (space : Workspace) (path : Path) : Bool :=
  space.reached? path = some .directory

/-- The entry to which a written path leads, with its location. No dot and no slash of the path is
dropped before it is followed. -/
def writtenAt? (space : Workspace) (written : Text) : Option (Location × Entry) :=
  if written = [] || pathLengthLimit ≤ Tree.byteLength written then none
  else match space.tree.locateFrom space.rights.enters false Tree.maxLinks
      (space.start (Path.read written)) (Tree.stepsOf written) with
    | .ok (.found location entry) => some (location, entry)
    | _ => none

end Workspace

end ReviewGate.Files
