import ReviewGate.CommandLine.Run
import ReviewGate.Data.Instant
import Std.Time.DateTime.Timestamp

/-!
# The program

The program takes a picture of the working directory and of the paths that are named by its
arguments, runs on it, stores the files that are new or changed, and prints what the run has
printed. All decisions are made by `CommandLine.run`. What the program may not read or write shows
when the picture is taken or stored, so on the picture everything is allowed.
-/

set_option autoImplicit false

namespace ReviewGate.Program

open Files (Entry Location Path Tree Workspace)

/-- The written form of a location. -/
def locationText (location : Location) : String :=
  String.ofList (Path.text ⟨['/'], location⟩)

/-- The entry of the system at a location. -/
def systemEntry (location : Location) : IO.FS.DirEntry :=
  ⟨locationText location.dropLast, String.ofList (location.getLastD [])⟩

/-- The names in a directory of the system. -/
def systemNames (location : Location) : IO (List Text) := do
  let entries ← (systemEntry location).path.readDir
  return (entries.map fun entry => entry.fileName.toList).toList

/-- The type of what stands at a location, when anything does. -/
def systemType? (location : Location) : IO (Option IO.FS.FileType) := do
  match ← (systemEntry location).path.symlinkMetadata.toBaseIO with
  | .ok metadata => return some metadata.type
  | .error _ => return none

/-- The tree with the directories above a location. -/
def withDirectories (tree : Tree) (location : Location) : Tree :=
  ((List.range location.length).map fun count => location.take (count + 1)).foldl
    (fun tree above => if (tree.entry? above).isSome then tree else tree.put above .directory) tree

/-- Where a link finally leads. A link to nothing is taken to lead to a place that cannot exist. -/
def linkEnd (location : Location) : IO Path := do
  match ← (IO.FS.realPath (systemEntry location).path).toBaseIO with
  | .ok real => return Path.read real.toString.toList
  | .error _ => return Path.read "/dev/null/nothing".toList

/-- Adds to a tree what stands at a location and below it. A link is replaced by one to where it
finally leads, and that is added as well when it is a file. -/
partial def picture (tree : Tree) (location : Location) : IO Tree := do
  if (tree.entry? location).any (· ≠ .directory) then return tree
  match ← systemType? location with
  | none => return tree
  | some .dir =>
    let tree := withDirectories tree location
    (← systemNames location).foldlM (fun tree name => picture tree (location ++ [name])) tree
  | some .symlink =>
    let real ← linkEnd location
    let tree := (withDirectories tree location.dropLast).put location (.link real.text)
    if ← (systemEntry real.parts).path.isDir then return withDirectories tree real.parts
    else picture tree real.parts
  | some _ =>
    let bytes ← IO.FS.readBinFile (systemEntry location).path
    return (withDirectories tree location.dropLast).put location (.file bytes.toList)

/-- The location to which a path leads literally. -/
def literalLocation (here : Location) (path : Path) : Location :=
  path.parts.foldl
    (fun location name => if name = ['.', '.'] then location.dropLast else location ++ [name])
    (if path.root = [] then here else [])

/-- The paths that an argument may name: itself, and what follows an equals sign. -/
def namedPaths (argument : Text) : List Path :=
  [Path.read argument, Path.read ((argument.dropWhile (· != '=')).drop 1)]

/-- The picture on which the program runs. -/
def takePicture (here : Location) (arguments : List Text) : IO Workspace := do
  let named := (arguments.flatMap namedPaths).map (literalLocation here)
  let outside := named.filter fun location => ! here.isPrefixOf location && location ≠ []
  let tree ← (here :: outside).foldlM picture Tree.empty
  return { tree, here }

/-- Stores what is new or changed. -/
def store (old new : Workspace) : IO Unit := do
  for (location, entry) in new.tree.entries do
    if old.tree.entry? location ≠ some entry then
      match entry with
      | .directory => IO.FS.createDirAll (locationText location)
      | .file bytes =>
        IO.FS.writeBinFile (locationText location) (ByteArray.mk bytes.toArray)
      | .link _ => pure ()

/-- The present time as text. -/
def presentTime : IO Text := do
  let now ← Std.Time.Timestamp.now
  return Data.instantText now.toMillisecondsSinceUnixEpoch.val

/-- The scene of a run. Every character is taken to take one column. -/
def presentScene : IO CommandLine.Scene := do
  return ⟨← presentTime, ← (← IO.getStdout).isTty, ← (← IO.getStderr).isTty, .single⟩

end ReviewGate.Program

open ReviewGate Program

/-- Runs the program. -/
def main (arguments : List String) : IO UInt32 := do
  let arguments := arguments.map String.toList
  let here := (Files.Path.read (← IO.currentDir).toString.toList).parts
  let space ← takePicture here arguments
  let outcome := CommandLine.run (← presentScene) space arguments
  store space outcome.space
  IO.print (String.ofList outcome.stdout)
  IO.eprint (String.ofList outcome.stderr)
  match outcome.ending with
  | .exit status => return status.toUInt32
  | .abort cause =>
    IO.eprint (String.ofList (CommandLine.errorLine cause.message))
    return 1
