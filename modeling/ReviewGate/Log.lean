import ReviewGate.Text.Basic

/-!
# Log records

What the program does is told in log records. A record names the part of the program that speaks
and is of one of two levels. Warnings are always shown; notes for debugging only when asked for.
-/

set_option autoImplicit false

namespace ReviewGate

/-- The levels of log records. -/
inductive LogLevel
  | debug
  | warning
  deriving DecidableEq, Repr

/-- The name of a level. -/
def LogLevel.name : LogLevel → Text
  | debug => "DEBUG".toList
  | warning => "WARNING".toList

/-- A log record: who speaks and what is said. -/
structure LogRecord where
  level : LogLevel
  logger : Text
  message : Text
  deriving DecidableEq, Repr

namespace LogRecord

/-- A note for debugging. -/
def note (logger : String) (message : Text) : LogRecord :=
  ⟨.debug, logger.toList, message⟩

/-- A warning. -/
def warn (logger : String) (message : Text) : LogRecord :=
  ⟨.warning, logger.toList, message⟩

/-- Whether a record is shown. -/
def isShown (verbose : Bool) (record : LogRecord) : Bool :=
  verbose || record.level = .warning

/-- A record as a line. -/
def line (record : LogRecord) : Text :=
  record.level.name ++ ' ' :: record.logger ++ ':' :: ' ' :: record.message ++ ['\n']

end LogRecord

end ReviewGate
