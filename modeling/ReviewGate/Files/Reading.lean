import ReviewGate.Files.Tree
import ReviewGate.Text.LineEnd
import ReviewGate.Text.Numeral
import ReviewGate.Text.Quoted
import ReviewGate.Text.Utf8

/-!
# Reading files

A file is read as UTF-8 with unified line ends. Source texts and records are read with the
replacement character for bytes that are not UTF-8, so that a bad byte costs a character and
never a line.
-/

set_option autoImplicit false

namespace ReviewGate.Files

open ReviewGate.Files.Tree (PathError)

/-- The number of an error and its standard wording. A path that holds the character NUL, and
directories for which the call stack has no room, are not refused by the system, so these errors
have no number. -/
def errorWording : PathError → Option Nat × Text
  | .notFound => (some 2, "No such file or directory".toList)
  | .denied => (some 13, "Permission denied".toList)
  | .exists => (some 17, "File exists".toList)
  | .notDirectory => (some 20, "Not a directory".toList)
  | .isDirectory => (some 21, "Is a directory".toList)
  | .nameTooLong => (some 36, "File name too long".toList)
  | .tooManyLinks => (some 40, "Too many levels of symbolic links".toList)
  | .tooDeep => (none, "maximum recursion depth exceeded".toList)
  | .holdsNul => (none, "embedded null byte".toList)

/-- A failure to use a path. -/
structure FileError where
  cause : PathError
  path : Text
  deriving DecidableEq, Repr

/-- The text of a failure. -/
def FileError.message (error : FileError) : Text :=
  match errorWording error.cause with
  | (some number, wording) =>
    "[Errno ".toList ++ Text.ofNat number ++ "] ".toList ++ wording ++ ": ".toList ++
      Text.quoted error.path
  | (none, wording) => wording

/-- Whether a path holds the character NUL, which no name has. -/
def Path.holdsNul (path : Path) : Bool :=
  path.parts.any (·.contains '\x00')

/-- The entry to which a path leads, `none` when it leads nowhere. A name that is too long and a
directory that may not be entered are failures even so. -/
def Workspace.probe (space : Workspace) (path : Path) : Except FileError (Option Entry) :=
  if path.holdsNul then .ok none
  else match space.locate path with
    | .ok (.found _ entry) => .ok (some entry)
    | .error .nameTooLong => .error ⟨.nameTooLong, path.text⟩
    | .error .denied => .error ⟨.denied, path.text⟩
    | _ => .ok none

/-- The bytes of a file. -/
def Workspace.readBytes (space : Workspace) (path : Path) : Except FileError (List UInt8) :=
  if path.holdsNul then .error ⟨.holdsNul, path.text⟩
  else match space.locate path with
    | .ok (.found location entry) =>
      if ! space.rights.reads location then .error ⟨.denied, path.text⟩
      else match entry with
        | .file bytes => .ok bytes
        | _ => .error ⟨.isDirectory, path.text⟩
    | .ok (.vacant _) => .error ⟨.notFound, path.text⟩
    | .error cause => .error ⟨cause, path.text⟩

/-- The text of bytes, with replacements and unified line ends. -/
def sourceText (bytes : List UInt8) : Text :=
  Text.unifyLineEnds (Text.decodeReplacing bytes)

/-- The text of a file. -/
def Workspace.readSource (space : Workspace) (path : Path) : Except FileError Text :=
  (space.readBytes path).map sourceText

end ReviewGate.Files
