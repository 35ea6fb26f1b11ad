import ReviewGate.Text.Lower

/-!
# Languages

A source file is read as one of three languages, which its extension tells, or as an unknown one.
The extension is what follows the last dot of the whole path, compared without regard to case.
-/

set_option autoImplicit false

namespace ReviewGate.Source

/-- The languages whose comments and imports are known. -/
inductive Language
  | typescript
  | javascript
  | python
  | unknown
  deriving DecidableEq, Repr

namespace Language

/-- The name of a language in reports. -/
def name : Language → Text
  | typescript => "typescript".toList
  | javascript => "javascript".toList
  | python => "python".toList
  | unknown => "unknown".toList

/-- The language of a name. Every other name stands for an unknown language. -/
def ofName (name : Text) : Language :=
  if name = "typescript".toList then typescript
  else if name = "javascript".toList then javascript
  else if name = "python".toList then python
  else unknown

/-- The supported extensions with their languages. -/
def extensions : List (Text × Language) := [
  (".ts".toList, typescript),
  (".tsx".toList, typescript),
  (".js".toList, javascript),
  (".mjs".toList, javascript),
  (".cjs".toList, javascript),
  (".py".toList, python)]

/-- The language of an extension, dot included. -/
def ofExtension (extension : Text) : Language :=
  (extensions.lookup extension).getD unknown

/-- Whether an extension, dot included, belongs to a supported language. -/
def isSupported (extension : Text) : Bool :=
  (extensions.lookup extension).isSome

/-- The language of a file, by what follows the last dot of its path. -/
def ofPath (path : Text) : Language :=
  match Text.fromLast? '.' path with
  | some extension => ofExtension (Text.lower extension)
  | none => unknown

end Language

end ReviewGate.Source
