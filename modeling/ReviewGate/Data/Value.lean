import ReviewGate.Number.Double
import ReviewGate.Text.Point

/-!
# Loaded data

What a configuration file holds is data: nothing, truth values, numbers, texts, bytes, dates, and
containers, which are lists, lists of pairs, mappings and sets. A container may hold itself, so
data is not a tree. A value holds a container by its place in a `Graph`, where all containers of
some data stand; everything else is held as it is.

Members keep their order. A number that is no number equals nothing but itself, so it carries what
tells it from others of its kind.
-/

set_option autoImplicit false

namespace ReviewGate.Data

/-- A moment on a day, with its distance in seconds from universal time when that is known. -/
structure Moment where
  year : Nat
  month : Nat
  day : Nat
  hour : Nat
  minute : Nat
  second : Nat
  micro : Nat
  zone : Option Int
  deriving DecidableEq, Repr

/-- A value. -/
inductive Value
  | null
  | bool (value : Bool)
  | int (value : Int)
  | float (value : Double)
  | nan (origin : Option Nat)
  | text (value : Points)
  | bytes (value : List UInt8)
  | date (year month day : Nat)
  | moment (value : Moment)
  | container (place : Nat)
  deriving DecidableEq, Inhabited

/-- A double as a value, with what tells it from others when it is no number. -/
def Value.ofDouble (origin : Option Nat) : Double → Value
  | .nan => .nan origin
  | value => .float value

/-- What a value can hold other values in. -/
inductive Container
  | list (items : List Value)
  | pairs (items : List (Value × Value))
  | mapping (members : List (Value × Value))
  | set (elements : List Value)
  deriving DecidableEq, Inhabited

/-- Some data: a value, and the containers that it leads to. -/
structure Graph where
  containers : Array Container
  root : Value

/-- The data that is a single value without containers. -/
def Graph.ofValue (value : Value) : Graph :=
  ⟨#[], value⟩

/-- The container that a value is. -/
def Graph.container? (graph : Graph) : Value → Option Container
  | .container place => graph.containers[place]?
  | _ => none

/-- The members of the mapping that a value is. -/
def Graph.members? (graph : Graph) (value : Value) : Option (List (Value × Value)) :=
  match graph.container? value with
  | some (.mapping members) => some members
  | _ => none

/-- Whether a value is the given text. -/
def Value.isText (name : Text) (value : Value) : Bool :=
  value = .text (Points.ofText name)

/-- The value of a member of a mapping. -/
def memberOf? (name : Text) (members : List (Value × Value)) : Option Value :=
  (members.find? (·.1.isText name)).map Prod.snd

end ReviewGate.Data
