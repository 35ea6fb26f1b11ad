import ReviewGate.Budget.Count
import ReviewGate.Data.Value

/-!
# Settings

The two checks have settings of their own. A configuration holds both; what it does not say has
the standard value. A format that is not set leaves the choice to the command.
-/

set_option autoImplicit false

namespace ReviewGate.Config

/-- The formats of the report on decision records. -/
inductive RecordFormat
  | json
  | junit
  | rich
  deriving DecidableEq, Repr

/-- The formats of the report on line budgets. -/
inductive BudgetFormat
  | json
  | rich
  deriving DecidableEq, Repr

namespace RecordFormat

/-- The name of a format. -/
def name : RecordFormat → Text
  | json => "json".toList
  | junit => "junit".toList
  | rich => "rich".toList

/-- All formats, sorted by name. -/
def all : List RecordFormat := [json, junit, rich]

/-- The format of a name. -/
def ofName? (name : Text) : Option RecordFormat :=
  all.find? (·.name = name)

end RecordFormat

namespace BudgetFormat

/-- The name of a format. -/
def name : BudgetFormat → Text
  | json => "json".toList
  | rich => "rich".toList

/-- All formats, sorted by name. -/
def all : List BudgetFormat := [json, rich]

/-- The format of a name. -/
def ofName? (name : Text) : Option BudgetFormat :=
  all.find? (·.name = name)

end BudgetFormat

/-- The settings of the check of decision records. -/
structure RecordSettings where
  strict : Bool := false
  format : Option RecordFormat := none
  deriving DecidableEq, Repr

/-- The settings of the check of line budgets. -/
structure BudgetSettings where
  maxLines : Int := Budget.defaultLimit
  recursive : Bool := false
  format : Option BudgetFormat := none
  deriving DecidableEq, Repr

/-- A configuration. -/
structure Settings where
  record : RecordSettings := {}
  budget : BudgetSettings := {}
  deriving DecidableEq, Repr

end ReviewGate.Config
