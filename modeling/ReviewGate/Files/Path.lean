import ReviewGate.Text.Basic

/-!
# Paths

A path is a root and the names of its parts. The root of a relative path is empty; two slashes in
front are a root of their own. Empty parts and single dots are dropped when a path is read, so
every path has one written form; double dots stay, since behind a link they lead elsewhere.

Paths are ordered by their parts and not by their text: a directory stands with all it holds in
front of a file whose name extends its name.
-/

set_option autoImplicit false

namespace ReviewGate.Files

/-- A path: the slashes in front and the names of the parts. -/
structure Path where
  root : Text
  parts : List Text
  deriving DecidableEq, Repr

namespace Path

/-- The root that the slashes in front of a path stand for. -/
def rootOf (text : Text) : Text :=
  match (text.takeWhile (· == '/')).length with
  | 0 => []
  | 2 => ['/', '/']
  | _ => ['/']

/-- Reads a path. -/
def read (text : Text) : Path where
  root := rootOf text
  parts := (Text.partsBetween (· == '/') text).filter (· != ['.'])

/-- The written form of a path. -/
def text (path : Path) : Text :=
  if path.root = [] && path.parts = [] then ['.']
  else path.root ++ List.intercalate ['/'] path.parts

/-- The names that are looked up when a path is followed. A path without any is the single dot. -/
def steps (path : Path) : List Text :=
  if path.root = [] && path.parts = [] then [['.']] else path.parts

/-- The path of an entry of a directory. -/
def child (path : Path) (name : Text) : Path :=
  ⟨path.root, path.parts ++ [name]⟩

/-- The path of the directory that holds an entry. -/
def parent (path : Path) : Path :=
  ⟨path.root, path.parts.dropLast⟩

/-- The last part of a path, empty when there is none. -/
def name (path : Path) : Text :=
  path.parts.getLastD []

/-- The suffix of a name: its last dot and what follows, unless the dot is the first or the last
character. -/
def suffixOf (name : Text) : Text :=
  match Text.fromLast? '.' name with
  | some suffix => if suffix.length < name.length && 1 < suffix.length then suffix else []
  | none => []

/-- The suffix of a path. -/
def suffix (path : Path) : Text :=
  suffixOf path.name

/-- The parts by which paths are ordered, the root being one of them. -/
def key (path : Path) : List Text :=
  if path.root = [] then path.parts else path.root :: path.parts

end Path

end ReviewGate.Files
