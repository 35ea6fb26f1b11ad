import ReviewGate.Config.Settings
import ReviewGate.Data.Shown

/-!
# From data to settings

The data of a configuration file is nothing at all or a mapping with a section for each check. A
section that is not a mapping is ignored with a warning. The values of the sections are checked in
a fixed order, and the first one that is not acceptable rejects the whole configuration. A null
counts as a value, except for a format, where it leaves the choice open.

Two things do not reject a configuration but stop the program, which `Failure` keeps apart: a
format that is a list or a mapping, which is not even compared with the names of formats, and a
value that is rejected but cannot be shown in a message.
-/

set_option autoImplicit false

namespace ReviewGate.Config

open Data (Graph Unshowable Value memberOf?)

/-- The sections of a configuration. -/
inductive Part
  | record
  | budget
  deriving DecidableEq, Repr

/-- The name of a section. -/
def Part.name : Part → Text
  | record => "adr".toList
  | budget => "microtask".toList

/-- Why the data of a configuration is rejected. Values are given by their texts. -/
inductive Rejection
  | notMapping
  | notBoolean (part : Part) (key shown : Text)
  | badFormat (part : Part) (allowed : List Text) (shown : Text)
  | badLimit (shown : Text)
  deriving DecidableEq, Repr

/-- The wording of a rejection. -/
def Rejection.message : Rejection → Text
  | notMapping => "top level must be a mapping".toList
  | notBoolean part key shown =>
    part.name ++ '.' :: key ++ " must be true or false, got ".toList ++ shown
  | badFormat part allowed shown =>
    part.name ++ ".format must be one of ".toList ++ List.intercalate ", ".toList allowed ++
      ", got ".toList ++ shown
  | badLimit shown =>
    Part.budget.name ++ ".max_lines must be a positive integer, got ".toList ++ shown

/-- The kinds of data that are not compared with names. -/
inductive Incomparable
  | list
  | mapping
  deriving DecidableEq, Repr

/-- The wording of the attempt to look such data up among names. -/
def Incomparable.message : Incomparable → Text
  | list => "unhashable type: 'list'".toList
  | mapping => "unhashable type: 'dict'".toList

/-- Whether a container is of a kind that is not compared with names. Sets are compared. -/
def Incomparable.ofContainer? : Data.Container → Option Incomparable
  | .list _ | .pairs _ => some list
  | .mapping _ => some mapping
  | .set _ => none

/-- Why data gives no settings. -/
inductive Failure
  | rejected (cause : Rejection)
  | incomparable (kind : Incomparable)
  | unshowable (cause : Unshowable)
  deriving DecidableEq, Repr

/-- Rejects a value. -/
def reject {α : Type} (data : Graph) (value : Value) (rejection : Text → Rejection) :
    Except Failure α :=
  match data.shown value with
  | .ok shown => .error (.rejected (rejection shown))
  | .error cause => .error (.unshowable cause)

/-- The members of a section. A section that is there and no mapping is ignored. -/
def sectionMembers (data : Graph) (members : List (Value × Value)) (part : Part) :
    List (Value × Value) × List Part :=
  match memberOf? part.name members with
  | none => ([], [])
  | some .null => ([], [])
  | some value =>
    match data.members? value with
    | some members => (members, [])
    | none => ([], [part])

/-- A truth value of a section. -/
def readBool (data : Graph) (part : Part) (key : String) (members : List (Value × Value)) :
    Except Failure Bool :=
  match memberOf? key.toList members with
  | none => .ok false
  | some (.bool value) => .ok value
  | some value => reject data value (.notBoolean part key.toList)

/-- A format of a section, found by its name. -/
def readFormat {α : Type} (data : Graph) (part : Part) (allowed : List α) (name : α → Text)
    (members : List (Value × Value)) : Except Failure (Option α) :=
  match memberOf? "format".toList members with
  | none => .ok none
  | some .null => .ok none
  | some value =>
    match (data.container? value).bind Incomparable.ofContainer? with
    | some kind => .error (.incomparable kind)
    | none =>
      match allowed.find? fun format => value.isText (name format) with
      | some format => .ok (some format)
      | none => reject data value (.badFormat part (allowed.map name))

/-- The limit of the budget section. -/
def readLimit (data : Graph) (members : List (Value × Value)) : Except Failure Int :=
  match memberOf? "max_lines".toList members with
  | none => .ok Budget.defaultLimit
  | some (.int value) => if value < 1 then reject data (.int value) .badLimit else .ok value
  | some value => reject data value .badLimit

/-- The settings in the members of the two sections. -/
def readSections (data : Graph) (record budget : List (Value × Value)) :
    Except Failure Settings := do
  let strict ← readBool data .record "strict" record
  let recordFormat ← readFormat data .record RecordFormat.all RecordFormat.name record
  let maxLines ← readLimit data budget
  let recursive ← readBool data .budget "recursive" budget
  let budgetFormat ← readFormat data .budget BudgetFormat.all BudgetFormat.name budget
  return ⟨⟨strict, recordFormat⟩, ⟨maxLines, recursive, budgetFormat⟩⟩

/-- The settings in the data of a configuration, and the sections that were ignored. -/
def check (data : Graph) : Except Failure Settings × List Part :=
  if data.root = .null then (.ok {}, [])
  else match data.members? data.root with
    | some members =>
      let record := sectionMembers data members .record
      let budget := sectionMembers data members .budget
      (readSections data record.1 budget.1, record.2 ++ budget.2)
    | none => (.error (.rejected .notMapping), [])

/-- The warning about a section that is ignored. -/
def Part.ignoredMessage (part : Part) : Text :=
  "Ignoring '".toList ++ part.name ++ "' in config: expected a mapping".toList

end ReviewGate.Config
