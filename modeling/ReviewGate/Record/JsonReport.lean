import ReviewGate.Json.Printer
import ReviewGate.Record.Assessment

/-!
# The assessments as JSON

The report counts the records that passed, failed and passed with warnings, and lists every
record with its violations. A violation without a hint has no member for it. Characters beyond
ASCII stand for themselves.
-/

set_option autoImplicit false

namespace ReviewGate.Record

/-- A record without errors. -/
def Assessment.passes (result : Assessment) : Bool :=
  result.errors.isEmpty

/-- A record with warnings and without errors. -/
def Assessment.warns (result : Assessment) : Bool :=
  !result.warnings.isEmpty && result.errors.isEmpty

/-- The number of records without errors. -/
def passedCount (results : List Assessment) : Nat :=
  results.countP Assessment.passes

/-- The number of records with errors. -/
def failedCount (results : List Assessment) : Nat :=
  results.length - passedCount results

/-- The number of records with warnings and without errors. -/
def warnedCount (results : List Assessment) : Nat :=
  results.countP Assessment.warns

/-- A violation as JSON. -/
def Violation.toJson (found : Violation) : Json :=
  .object ([("ruleId".toList, .string found.rule),
    ("severity".toList, .string found.severity.name),
    ("message".toList, .string found.message)] ++
    match found.hint with
    | some hint => [("hint".toList, .string hint)]
    | none => [])

/-- A record as JSON. -/
def Assessment.toJson (result : Assessment) : Json :=
  .object [("filePath".toList, .string result.path), ("adrTitle".toList, .string result.title),
    ("violations".toList, .array (result.violations.map Violation.toJson))]

/-- The report as a JSON value. -/
def reportJson (timestamp : Text) (results : List Assessment) : Json :=
  .object [("timestamp".toList, .string timestamp),
    ("totalAdrs".toList, .int results.length),
    ("passed".toList, .int (passedCount results)),
    ("failed".toList, .int (failedCount results)),
    ("warned".toList, .int (warnedCount results)),
    ("results".toList, .array (results.map Assessment.toJson))]

/-- The report as JSON. -/
def jsonReport (timestamp : Text) (results : List Assessment) : Text :=
  Json.write .full (reportJson timestamp results)

end ReviewGate.Record
