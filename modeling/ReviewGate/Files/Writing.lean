import ReviewGate.Files.Reading

/-!
# Writing files

A file is written where its path leads, through links if there are any; a link to nothing makes
the file it points to. The directories above a file are made first, as far as they are missing.
A directory is made under its own name only, so a link that stands there, even one to nothing, is
in its way. A file that is there has to be one that may be written; a new entry is made in a
directory that may be written. Nothing else of the tree changes. Directories that are made before
something fails stay.
-/

set_option autoImplicit false

namespace ReviewGate.Files

/-- A change of a workspace. What is done before a failure stays done. -/
abbrev Change (α : Type) := ExceptT FileError (StateM Workspace) α

namespace Workspace

/-- The workspace with an entry stored at a location. -/
def put (space : Workspace) (location : Location) (entry : Entry) : Workspace :=
  { space with tree := space.tree.put location entry }

/-- The location at which the directory of a path can be made. -/
def newDirectory (space : Workspace) (path : Path) : Except Tree.PathError Location := do
  let name := path.name
  if name = [] || name = ['.', '.'] then
    let _ ← space.locate path
    .error .exists
  else if pathLengthLimit ≤ Tree.byteLength path.text then .error .nameTooLong
  else match ← space.locate path.parent with
    | .found location .directory =>
      if Tree.isShut space.rights.enters location name then .error .denied
      else if Tree.maxNameLength < Tree.byteLength name then .error .nameTooLong
      else if (space.tree.entry? (location ++ [name])).isSome then .error .exists
      else if ! space.rights.writes location then .error .denied
      else .ok (location ++ [name])
    | .found _ _ => .error .notDirectory
    | .vacant _ => .error .notFound

/-- The location at which the file of a path is or can be made. -/
def newFile (space : Workspace) (path : Path) : Except Tree.PathError Location := do
  match ← space.follow true path with
  | .found location (.file _) =>
    if space.rights.writes location then .ok location else .error .denied
  | .vacant location =>
    if space.rights.writes location.dropLast then .ok location else .error .denied
  | .found _ _ => .error .isDirectory

end Workspace

namespace Change

/-- Stores an entry at a location, unless that was not found. -/
def store (path : Path) (place : Except Tree.PathError Location) (entry : Entry) : Change Unit :=
  match place with
  | .ok location => modify fun space => space.put location entry
  | .error cause => throw ⟨cause, path.text⟩

/-- Makes a directory whose parent is there. -/
def makeDirectory (path : Path) : Change Unit := do
  store path ((← get).newDirectory path) .directory

/-- Takes a failure to make a directory back when the directory is there anyway. -/
def unlessThere (path : Path) (failure : FileError) : Change Unit := do
  if failure.cause = .notFound then throw failure
  else match (← get).probe path with
    | .error error => throw error
    | .ok entry => if entry = some .directory then return else throw failure

/-- Makes a directory and those above it, as far as they are missing. The bound is on the number of
directories, which are found out before any of them is made. -/
def makeDirectoriesWithin : Nat → Path → Change Unit
  | 0, path => throw ⟨.tooDeep, path.text⟩
  | bound + 1, path =>
    tryCatch (makeDirectory path) fun failure =>
      if failure.cause = .notFound then do
        makeDirectoriesWithin bound path.parent
        tryCatch (makeDirectory path) (unlessThere path)
      else unlessThere path failure

/-- The most directories that are made for one path. -/
def maxNewDirectories : Nat := 980

/-- Makes a directory and those above it, as far as they are missing. -/
def makeDirectories (path : Path) : Change Unit :=
  makeDirectoriesWithin maxNewDirectories path

/-- Writes a file whose directory is there. -/
def writeFile (path : Path) (bytes : List UInt8) : Change Unit := do
  store path ((← get).newFile path) (.file bytes)

/-- Writes a text as UTF-8, in a directory that is made when it is missing. -/
def writeText (path : Path) (text : Text) : Change Unit := do
  makeDirectories path.parent
  writeFile path (Text.encode text)

end Change

end ReviewGate.Files
