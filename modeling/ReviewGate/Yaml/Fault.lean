import ReviewGate.Text.Numeral
import ReviewGate.Text.Point

/-!
# What can be wrong with a YAML text

Most faults are of the text: its characters, its tokens, their arrangement, or values that may not
stand where they stand. They are told apart by `Malformed`. A few faults are of a single value
whose shape says what it should be while its digits say otherwise, like a thirteenth month. These
are kept apart as `BadValue`, because they do not count as malformed text. Neither do bytes that
are no text at all, and nodes that stand too deep within each other.
-/

set_option autoImplicit false

namespace ReviewGate.Yaml

/-- What is wrong with a text. -/
inductive Malformed
  | forbiddenCharacter
  | unexpectedCharacter
  | keyWithoutValue
  | entryNotAllowed
  | keyNotAllowed
  | valueNotAllowed
  | unopenedBracket
  | badDirective
  | badName
  | badTag
  | badBlockHeader
  | badEscape
  | endsEarly
  | separatorInQuotes
  | unexpectedToken
  | repeatedDirective
  | unknownVersion
  | unknownHandle
  | unknownTag
  | unknownAlias
  | repeatedAnchor
  | secondDocument
  | wrongKind
  | containerAsKey
  | badMerge
  | notBase64
  deriving DecidableEq, Repr

/-- The wording of a fault of a text. -/
def Malformed.wording : Malformed → Text
  | forbiddenCharacter => "it holds a character that is not allowed".toList
  | unexpectedCharacter => "no token starts with such a character".toList
  | keyWithoutValue => "a key is not followed by a colon".toList
  | entryNotAllowed => "a list entry is not allowed here".toList
  | keyNotAllowed => "a key is not allowed here".toList
  | valueNotAllowed => "a value is not allowed here".toList
  | unopenedBracket => "a bracket is closed that was not opened".toList
  | badDirective => "a directive is not well formed".toList
  | badName => "the name of an anchor or alias is not well formed".toList
  | badTag => "a tag is not well formed".toList
  | badBlockHeader => "the header of a block of text is not well formed".toList
  | badEscape => "an escape in a quoted text is not known".toList
  | endsEarly => "the text ends within a token".toList
  | separatorInQuotes => "a document ends within a quoted text".toList
  | unexpectedToken => "a token does not belong here".toList
  | repeatedDirective => "a directive is repeated".toList
  | unknownVersion => "the version is not supported".toList
  | unknownHandle => "a tag uses a handle that is not declared".toList
  | unknownTag => "a tag is not known".toList
  | unknownAlias => "an alias names no anchor".toList
  | repeatedAnchor => "an anchor is repeated".toList
  | secondDocument => "there is a second document".toList
  | wrongKind => "a value is not of the kind its tag asks for".toList
  | containerAsKey => "a list or mapping is used as a key".toList
  | badMerge => "only mappings can be merged".toList
  | notBase64 => "bytes are not in base 64".toList

/-- The message about a fault of a text. -/
def Malformed.message (cause : Malformed) : Text :=
  "malformed YAML: ".toList ++ cause.wording

/-- What is wrong with a value of the right shape. -/
inductive BadValue
  | integer (base : Nat) (text : Points)
  | tooManyDigits (count : Nat)
  | decimal (text : Points)
  | hugePlace
  | noDigits
  | truth
  | timestamp
  | notText
  | characterCode
  | hugeCharacterCode
  | year (value : Nat)
  | month
  | day
  | hour
  | minute
  | second
  | zone (shown : Text)
  deriving DecidableEq, Repr

/-- The most characters of a quoted text that are shown of something that is no integer. -/
def maxQuotedLength : Nat := 200

/-- The wording of a fault of a value. -/
def BadValue.message : BadValue → Text
  | integer base text =>
    "invalid literal for int() with base ".toList ++ Text.ofNat base ++ ": ".toList ++
      (Points.quoted text).take maxQuotedLength
  | tooManyDigits count =>
    "Exceeds the limit (4300 digits) for integer string conversion: value has ".toList ++
      Text.ofNat count ++
      " digits; use sys.set_int_max_str_digits() to increase the limit".toList
  | decimal text => "could not convert string to float: ".toList ++ Points.quoted text
  | hugePlace => "int too large to convert to float".toList
  | noDigits => "string index out of range".toList
  | truth => "not a truth value".toList
  | timestamp => "not a timestamp".toList
  | notText => "expected string or bytes-like object, got 'list'".toList
  | characterCode => "chr() arg not in range(0x110000)".toList
  | hugeCharacterCode => "character code too large".toList
  | year value => "year ".toList ++ Text.ofNat value ++ " is out of range".toList
  | month => "month must be in 1..12".toList
  | day => "day is out of range for month".toList
  | hour => "hour must be in 0..23".toList
  | minute => "minute must be in 0..59".toList
  | second => "second must be in 0..59".toList
  | zone shown =>
    ("offset must be a timedelta strictly between -timedelta(hours=24) and ".toList ++
      "timedelta(hours=24), not ".toList) ++ shown ++ ['.']

/-- Why a file gives no data. -/
inductive Fault
  | malformed (cause : Malformed)
  | badValue (cause : BadValue)
  | notUtf8
  | tooDeep
  deriving DecidableEq, Repr

/-- A fault of a text, as the result of a reader. -/
def malformed {α : Type} (cause : Malformed) : Except Fault α :=
  .error (.malformed cause)

/-- A fault of a value, as the result of a reader. -/
def badValue {α : Type} (cause : BadValue) : Except Fault α :=
  .error (.badValue cause)

/-- A fault that is noticed in front of a text. Where there is nothing left, the text ends early,
and whatever might have followed could have made it good. -/
def malformedAt {α : Type} (cause : Malformed) (rest : Text) : Except Fault α :=
  malformed (if rest = [] then .endsEarly else cause)

end ReviewGate.Yaml
