import ReviewGate.Files.Reading
import ReviewGate.Log
import ReviewGate.Source.Language
import ReviewGate.Text.Numeral
import ReviewGate.Text.Order

/-!
# Finding the files of a target

A target is a file or a directory. The records in a directory are its files with the suffix of
records. The source files in a directory are its entries with a supported suffix, and, when the
search is recursive, those below it. Directories are visited in the order of their entries' names.
A link to a directory is never entered, since it may lead back up the tree. A link to nothing
counts as a source file when its suffix says so; that it cannot be read shows later.

Entries are looked up by their paths. An entry that cannot be looked up ends the search, and so does
a directory that may not be listed or for which the call stack has no room. What has been told
until then stays told.
-/

set_option autoImplicit false

namespace ReviewGate.Files

open Source (Language)

/-- Why a search fails: there is nothing at the target, or a path cannot be used. -/
inductive SearchFailure
  | missing (target : Path)
  | unusable (error : FileError)
  deriving DecidableEq, Repr

/-- The message that there is nothing at a target. -/
def missingMessage (target : Path) : Text :=
  "path not found: ".toList ++ target.text

/-- Files, or why there are none, with the log records of the search for them. -/
structure Finding where
  files : Except SearchFailure (List Path)
  log : List LogRecord

namespace Finding

/-- A search that fails at once. -/
def failed (failure : SearchFailure) : Finding :=
  ⟨.error failure, []⟩

/-- Files that are found without a search. -/
def given (files : List Path) : Finding :=
  ⟨.ok files, []⟩

end Finding

/-- The part of the program that speaks in the log of a search. -/
def discoveryLogger : String := "archlint.discovery"

/-- The names in a directory, sorted. -/
def Tree.sortedNames (tree : Tree) (location : Location) : List Text :=
  (tree.namesIn location).mergeSort Text.precedes

/-- The note on how many files were found. -/
def foundNote (count : Nat) (kind : String) (target : Path) : LogRecord :=
  .note discoveryLogger ("Found ".toList ++ Text.ofNat count ++ ' ' :: kind.toList ++
    " file(s) in ".toList ++ target.text)

/-! ## Decision records -/

/-- The suffix of decision records. -/
def recordSuffix : Text := ".md".toList

/-- Whether a path is that of a decision record. -/
def Workspace.isRecord (space : Workspace) (path : Path) : Except FileError Bool := do
  match ← space.probe path with
  | some (.file _) => return path.suffix = recordSuffix
  | _ => return false

/-- The names of the decision records in a directory, in the order in which they are listed. -/
def Workspace.recordNames (space : Workspace) (target : Path) (location : Location) :
    Except FileError (List Text) :=
  if ! space.rights.reads location then .error ⟨.denied, target.text⟩
  else (space.tree.namesIn location).filterM fun name => space.isRecord (target.child name)

/-- The decision records in the directory at a location. -/
def Workspace.recordsIn (space : Workspace) (target : Path) (location : Location) : Finding :=
  match space.recordNames target location with
  | .ok names =>
    ⟨.ok ((names.mergeSort Text.precedes).map target.child),
      [foundNote names.length "ADR" target]⟩
  | .error error => .failed (.unusable error)

/-- The decision records of a target. -/
def Workspace.recordFiles (space : Workspace) (target : Path) : Finding :=
  match space.probe target, space.locate target with
  | .error error, _ => .failed (.unusable error)
  | .ok (some .directory), .ok (.found location _) => space.recordsIn target location
  | .ok (some _), _ => .given (if target.suffix = recordSuffix then [target] else [])
  | .ok none, _ => .failed (.missing target)

/-! ## Source files -/

/-- Whether a path has a supported suffix. -/
def Path.isSource (path : Path) : Bool :=
  Language.isSupported (Text.lower path.suffix)

/-- What a walk meets. -/
inductive Met
  | source (path : Path)
  | linkedDirectory (path : Path)
  | directory (path : Path)
  | unusable (error : FileError)
  deriving DecidableEq, Repr

/-- What a walk through a directory meets, in order. There is room on the call stack for a number of
directories, one within the other. -/
def Workspace.walk (space : Workspace) (recursive : Bool) : Nat → Path → Location → List Met
  | 0, shown, _ => [.unusable ⟨.tooDeep, shown.text⟩]
  | room + 1, shown, location =>
    if ! space.rights.reads location then [.unusable ⟨.denied, shown.text⟩]
    else (space.tree.sortedNames location).flatMap fun name =>
      let path := shown.child name
      match space.probe path, space.tree.entry? (location ++ [name]) with
      | .error error, _ => [.unusable error]
      | .ok (some .directory), some (.link _) => [.linkedDirectory path]
      | .ok (some .directory), _ =>
        if recursive then space.walk recursive room path (location ++ [name])
        else [.directory path]
      | .ok _, _ => if path.isSource then [.source path] else []

/-- The source file that was met. -/
def Met.source? : Met → Option Path
  | source path => some path
  | _ => none

/-- The note on a directory that was not entered. -/
def Met.note? : Met → Option LogRecord
  | linkedDirectory path =>
    some (.note discoveryLogger ("Skipping symlinked directory ".toList ++ path.text))
  | directory path =>
    some (.note discoveryLogger
      ("Skipping directory ".toList ++ path.text ++ " (not recursive)".toList))
  | _ => none

/-- The failure that was met. -/
def Met.failure? : Met → Option FileError
  | unusable error => some error
  | _ => none

/-- What comes of a walk through a target. Behind a failure nothing is met any more. -/
def Finding.ofWalk (target : Path) (met : List Met) : Finding :=
  let before := met.takeWhile (·.failure?.isNone)
  let files := before.filterMap Met.source?
  let notes := before.filterMap Met.note?
  match met.findSome? Met.failure? with
  | some error => ⟨.error (.unusable error), notes⟩
  | none => ⟨.ok files, notes ++ [foundNote files.length "source" target]⟩

/-- The source files of a target. -/
def Workspace.sourceFiles (space : Workspace) (target : Path) (recursive : Bool) : Finding :=
  match space.probe target, space.locate target with
  | .error error, _ => .failed (.unusable error)
  | .ok (some .directory), .ok (.found location _) =>
    .ofWalk target (space.walk recursive space.nesting target location)
  | .ok (some _), _ => .given (if target.isSource then [target] else [])
  | .ok none, _ => .failed (.missing target)

end ReviewGate.Files
