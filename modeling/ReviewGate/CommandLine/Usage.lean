import ReviewGate.CommandLine.Arguments
import ReviewGate.Text.Numeral
import ReviewGate.Text.Quoted

/-!
# Errors of usage

A command line that cannot be understood is answered with how the command is used and what is
wrong. Only an option whose value is missing, or that takes none, is answered without the usage.
-/

set_option autoImplicit false

namespace ReviewGate.CommandLine

/-- What a usage is about: the program, or one of its two commands. -/
inductive Topic
  | program
  | record
  | budget
  deriving DecidableEq, Repr

/-- The name of the program. -/
def programName : Text := "archlint".toList

/-- The names of the commands. -/
def Topic.commands : List (Text × Topic) :=
  [("adr".toList, .record), ("microtask".toList, .budget)]

/-- The words with which a topic is called. -/
def Topic.call : Topic → Text
  | program => programName
  | record => programName ++ " adr".toList
  | budget => programName ++ " microtask".toList

/-- What follows the call of a topic. -/
def Topic.operands : Topic → Text
  | program => "[OPTIONS] COMMAND [ARGS]...".toList
  | record => "[OPTIONS] [TARGET]".toList
  | budget => "[OPTIONS]".toList

/-- The line that shows how a topic is called. -/
def Topic.usageLine (topic : Topic) : Text :=
  "Usage: ".toList ++ topic.call ++ ' ' :: topic.operands ++ ['\n']

/-- The lines that show how a topic is called and where to find more. -/
def Topic.usage (topic : Topic) : Text :=
  topic.usageLine ++ "Try '".toList ++ topic.call ++ " --help' for help.\n\n".toList

/-- What is wrong with the value of an option. -/
inductive InvalidValue
  | notAmong (value : Text) (choices : List Text)
  | notInteger (value : Text)
  | belowOne (value : Int)
  | isDirectory (value : Text)
  | notReadable (kind : Text) (value : Text)
  deriving DecidableEq, Repr

/-- The wording of what is wrong with a value. -/
def InvalidValue.message : InvalidValue → Text
  | notAmong value choices =>
    Text.quoted value ++ " is not one of ".toList ++
      List.intercalate ", ".toList (choices.map Text.quoted) ++ ['.']
  | notInteger value => Text.quoted value ++ " is not a valid integer range.".toList
  | belowOne value => Text.ofInt value ++ " is not in the range x>=1.".toList
  | isDirectory value => "File ".toList ++ Text.quoted value ++ " is a directory.".toList
  | notReadable kind value => kind ++ ' ' :: Text.quoted value ++ " is not readable.".toList

/-- What is wrong with a command line. -/
inductive UsageError
  | argument (cause : ArgumentError)
  | invalidValue (option : Text) (cause : InvalidValue)
  | extraOperands (operands : List Text)
  | noSuchCommand (name : Text) (similar : List Text)
  | missingCommand
  deriving DecidableEq, Repr

/-- The question whether one of some similar names is meant. -/
def suggestion : List Text → Text
  | [] => []
  | [name] => " Did you mean ".toList ++ Text.quoted name ++ ['?']
  | names =>
    " (Did you mean one of: ".toList ++ List.intercalate ", ".toList (names.map Text.quoted) ++
      "?)".toList

/-- The wording of what is wrong with a command line. -/
def UsageError.message : UsageError → Text
  | argument (.noSuchOption name similar) =>
    "No such option ".toList ++ Text.quoted name ++ '.' :: suggestion similar
  | argument (.missingValue name) =>
    "Option ".toList ++ Text.quoted name ++ " requires an argument.".toList
  | argument (.unwantedValue name) =>
    "Option ".toList ++ Text.quoted name ++ " does not take a value.".toList
  | invalidValue option cause =>
    "Invalid value for '".toList ++ option ++ "': ".toList ++ cause.message
  | extraOperands operands =>
    (if operands.length = 1 then "Got unexpected extra argument (".toList
      else "Got unexpected extra arguments (".toList) ++
      List.intercalate [' '] operands ++ [')']
  | noSuchCommand name similar =>
    "No such command ".toList ++ Text.quoted name ++ '.' :: suggestion similar
  | missingCommand => "Missing command.".toList

/-- Whether the usage is shown with an error. -/
def UsageError.showsUsage : UsageError → Bool
  | argument (.missingValue _) => false
  | argument (.unwantedValue _) => false
  | _ => true

/-- An error as a line. -/
def errorLine (message : Text) : Text :=
  "Error: ".toList ++ message ++ ['\n']

/-- All that is shown about an error of usage. -/
def UsageError.text (topic : Topic) (error : UsageError) : Text :=
  (if error.showsUsage then topic.usage else []) ++ errorLine error.message

end ReviewGate.CommandLine
