import ReviewGate.Config.Check
import ReviewGate.Files.Reading
import ReviewGate.Log
import ReviewGate.Yaml.Load

/-!
# Loading a configuration

A configuration is optional: where there is no file, everything has its standard value. A file that
may not be read, a file that is no YAML, and data that are no settings, are mistakes of the user and
come with a message that names the file. Other failures are not of that kind and stop the program:
bytes that are not UTF-8, a value like a thirteenth month, data of which settings cannot even be
read, and a path that cannot be looked up.
-/

set_option autoImplicit false

namespace ReviewGate.Config

open Files (FileError Path Workspace)

/-- A mistake in a configuration file. -/
inductive Mistake
  | unreadable (path : Path) (error : FileError)
  | malformed (path : Path) (cause : Yaml.Malformed)
  | rejected (path : Path) (cause : Rejection)

/-- The message about a mistake. -/
def Mistake.message : Mistake → Text
  | unreadable path error => "Cannot read ".toList ++ path.text ++ ": ".toList ++ error.message
  | malformed path cause => "Cannot read ".toList ++ path.text ++ ": ".toList ++ cause.message
  | rejected path cause =>
    "Invalid configuration in ".toList ++ path.text ++ ": ".toList ++ cause.message

/-- A failure to load a configuration that is not treated as a mistake. -/
inductive Breakdown
  | notUtf8
  | tooDeep
  | badValue (cause : Yaml.BadValue)
  | incomparable (kind : Incomparable)
  | unshowable (cause : Data.Unshowable)
  | file (error : FileError)

/-- The wording of a failure that is not treated as a mistake. -/
def Breakdown.message : Breakdown → Text
  | notUtf8 => "the configuration is not UTF-8".toList
  | tooDeep => "the configuration is nested too deeply".toList
  | badValue cause => cause.message
  | incomparable kind => kind.message
  | unshowable cause => cause.message
  | file error => error.message

/-- Why a file gives no settings. -/
inductive LoadFailure
  | mistake (mistake : Mistake)
  | breakdown (cause : Breakdown)

/-- The result of loading a configuration, with the log records of it. -/
structure Loading where
  result : Except LoadFailure Settings
  log : List LogRecord

/-- The part of the program that speaks in the log of loading. -/
def configLogger : String := "archlint.config"

/-- The note that there is no configuration file. -/
def missingNote (path : Path) : LogRecord :=
  .note configLogger ("No config at ".toList ++ path.text ++ ", using defaults".toList)

/-- A fault of a YAML text, for a file. -/
def faultIn (path : Path) : Yaml.Fault → LoadFailure
  | .malformed cause => .mistake (.malformed path cause)
  | .badValue cause => .breakdown (.badValue cause)
  | .notUtf8 => .breakdown .notUtf8
  | .tooDeep => .breakdown .tooDeep

/-- A failure of a check, for a file. -/
def Failure.inFile (path : Path) : Failure → LoadFailure
  | .rejected cause => .mistake (.rejected path cause)
  | .incomparable kind => .breakdown (.incomparable kind)
  | .unshowable cause => .breakdown (.unshowable cause)

/-- The settings in the data of a file. -/
def loadSettings (path : Path) (data : Data.Graph) : Loading :=
  let (result, ignored) := check data
  ⟨result.mapError (Failure.inFile path),
    ignored.map fun part => .warn configLogger part.ignoredMessage⟩

/-- Loads the configuration at a path. -/
def load (space : Workspace) (path : Path) : Loading :=
  match space.probe path with
  | .error error => ⟨.error (.breakdown (.file error)), []⟩
  | .ok (some (.file _)) =>
    match space.readBytes path with
    | .error error => ⟨.error (.mistake (.unreadable path error)), []⟩
    | .ok bytes =>
      match Yaml.load bytes with
      | .ok data => loadSettings path data
      | .error fault => ⟨.error (faultIn path fault), []⟩
  | .ok _ => ⟨.ok {}, [missingNote path]⟩

end ReviewGate.Config
