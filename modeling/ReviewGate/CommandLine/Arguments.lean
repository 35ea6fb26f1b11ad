import ReviewGate.Text.Similarity

/-!
# Arguments

The arguments of a command are options and operands. An option has a long name and perhaps a
letter; it is a flag or takes a value, which follows the name behind an equals sign or as the next
argument. The letters of several flags may share a hyphen. Two hyphens alone end the options, and
for some commands the first operand ends them as well. With a long name that no option has, those
that are similar to it are given.
-/

set_option autoImplicit false

namespace ReviewGate.CommandLine

/-- How an option is written. Only flags have a letter. -/
structure OptionForm (α : Type) where
  option : α
  name : Text
  letter : Option Char
  takesValue : Bool

/-- What is wrong with how options are written. -/
inductive ArgumentError
  | noSuchOption (name : Text) (similar : List Text)
  | missingValue (name : Text)
  | unwantedValue (name : Text)
  deriving DecidableEq, Repr

/-- The options that are given, in order and with their values, and the operands. -/
structure Arguments (α : Type) where
  options : List (α × Text)
  operands : List Text

namespace Arguments

variable {α : Type}

/-- Arguments with options in front. -/
def withOptions (options : List (α × Text)) (arguments : Arguments α) : Arguments α :=
  ⟨options ++ arguments.options, arguments.operands⟩

/-- Arguments with an operand in front. -/
def withOperand (operand : Text) (arguments : Arguments α) : Arguments α :=
  ⟨arguments.options, operand :: arguments.operands⟩

end Arguments

/-- What a single argument says. -/
inductive OptionArgument (α : Type)
  | complete (options : List (α × Text))
  | awaitsValue (option : α) (name : Text)

variable {α : Type}

/-- The flags of letters behind a hyphen. -/
def flagsOf (forms : List (OptionForm α)) : Text → Except ArgumentError (List (α × Text))
  | [] => .ok []
  | letter :: more =>
    match forms.find? (·.letter = some letter) with
    | some form => do return (form.option, []) :: (← flagsOf forms more)
    | none => .error (.noSuchOption ['-', letter] [])

/-- An argument as the name of an option and the value behind an equals sign. -/
def splitValue (argument : Text) : Text × Option Text :=
  match argument.dropWhile (· != '=') with
  | [] => (argument, none)
  | _ :: value => (argument.takeWhile (· != '='), some value)

/-- Reads an argument that starts with a hyphen. -/
def readOption (forms : List (OptionForm α)) (argument : Text) :
    Except ArgumentError (OptionArgument α) :=
  let (name, value?) := splitValue argument
  match forms.find? (·.name = name) with
  | some form =>
    match form.takesValue, value? with
    | true, some value => .ok (.complete [(form.option, value)])
    | true, none => .ok (.awaitsValue form.option name)
    | false, some _ => .error (.unwantedValue name)
    | false, none => .ok (.complete [(form.option, [])])
  | none =>
    if "--".toList.isPrefixOf argument then
      .error (.noSuchOption name (Text.closest name (forms.map (·.name))))
    else .complete <$> flagsOf forms (argument.drop 1)

/-- Whether an argument is an option: it starts with a hyphen and does not end there. -/
def isOption : Text → Bool
  | '-' :: _ :: _ => true
  | _ => false

/-- Reads arguments. When options and operands are not mixed, the first operand ends the options. -/
def readArguments (forms : List (OptionForm α)) (mixed : Bool) :
    List Text → Except ArgumentError (Arguments α)
  | [] => .ok ⟨[], []⟩
  | argument :: rest =>
    if argument = "--".toList then .ok ⟨[], rest⟩
    else if isOption argument then
      match readOption forms argument with
      | .error cause => .error cause
      | .ok (.complete options) => (·.withOptions options) <$> readArguments forms mixed rest
      | .ok (.awaitsValue option name) =>
        match rest with
        | [] => .error (.missingValue name)
        | value :: rest => (·.withOptions [(option, value)]) <$> readArguments forms mixed rest
    else if mixed then (·.withOperand argument) <$> readArguments forms mixed rest
    else .ok ⟨[], argument :: rest⟩

namespace Arguments

variable [DecidableEq α]

/-- Whether an option is given. -/
def has (arguments : Arguments α) (option : α) : Bool :=
  arguments.options.any (·.1 = option)

/-- The value of an option. When it is given more than once, the last one counts. -/
def value? (arguments : Arguments α) (option : α) : Option Text :=
  (arguments.options.reverse.find? (·.1 = option)).map Prod.snd

/-- The options in the order in which they are given first. -/
def order (arguments : Arguments α) : List α :=
  (arguments.options.map Prod.fst).eraseDups

end Arguments

end ReviewGate.CommandLine
