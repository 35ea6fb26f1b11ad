import ReviewGate.Budget.Count
import ReviewGate.Json.Printer

/-!
# The counts as JSON

The report counts the files within and beyond their budget and lists every file with its breakdown
and the suggested units. It is written in ASCII.
-/

set_option autoImplicit false

namespace ReviewGate.Budget

open Source

/-- A breakdown as JSON. -/
def breakdownJson (numbers : Breakdown) : Json :=
  .object [("total".toList, .int numbers.total), ("effective".toList, .int numbers.effective),
    ("blank".toList, .int numbers.blank), ("comment".toList, .int numbers.comment),
    ("imports".toList, .int numbers.imports)]

/-- A suggested unit as JSON. -/
def Suggestion.toJson (suggestion : Suggestion) : Json :=
  .object [("name".toList, .string suggestion.name),
    ("lineRange".toList, .array [.int suggestion.first, .int suggestion.last]),
    ("estimatedLines".toList, .int suggestion.estimate)]

/-- The count of a file as JSON. -/
def FileCount.toJson (count : FileCount) : Json :=
  .object [("filePath".toList, .string count.path), ("language".toList, .string count.language),
    ("breakdown".toList, breakdownJson count.breakdown),
    ("exceedsLimit".toList, .bool count.exceeds),
    ("splitSuggestions".toList, .array (count.suggestions.map Suggestion.toJson))]

/-- The number of files within their budget. -/
def withinCount (counts : List FileCount) : Nat :=
  counts.countP (! ·.exceeds)

/-- The report as a JSON value. -/
def reportJson (timestamp : Text) (limit : Int) (counts : List FileCount) : Json :=
  .object [("timestamp".toList, .string timestamp), ("maxLines".toList, .int limit),
    ("totalFiles".toList, .int counts.length), ("passed".toList, .int (withinCount counts)),
    ("failed".toList, .int ((counts.length - withinCount counts : Nat) : Int)),
    ("results".toList, .array (counts.map FileCount.toJson))]

/-- The report as JSON. -/
def jsonReport (timestamp : Text) (limit : Int) (counts : List FileCount) : Text :=
  Json.write .ascii (reportJson timestamp limit counts)

end ReviewGate.Budget
