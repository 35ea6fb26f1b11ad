import ReviewGate.Data.Key
import ReviewGate.Yaml.Merge
import ReviewGate.Yaml.Scalar

/-!
# Loading data

The nodes of a document become data. A scalar becomes data at once, while a container is made
empty and filled later: first the outermost one, then those that it holds, and so on inwards, in
the order in which they were made. So containers can hold themselves, a node that is held twice
becomes data once, and of several faults the outermost one counts.

The members of a mapping keep their order, and where a key comes again its value replaces the
earlier one. What may not be a key are lists and mappings.
-/

set_option autoImplicit false

namespace ReviewGate.Yaml

open Data (Container Graph Value)

/-- What is known while data is made: the nodes, a bound for the merge keys among them, the data
that nodes have become, the containers, and those of them that wait to be filled, each with the
number of its node, the last one first. -/
structure Building where
  nodes : Array Node
  mergeBound : Nat
  values : Array (Option Value)
  containers : Array Container
  waiting : List (Nat × Nat)

/-- A step in which data is made. -/
abbrev Build (α : Type) := StateT Building (Except Fault) α

namespace Build

/-- The empty container of a kind, `none` for the kinds of scalars. -/
def emptyContainer? : Kind → Option Container
  | .list => some (.list [])
  | .orderedMapping | .pairs => some (.pairs [])
  | .mapping => some (.mapping [])
  | .set => some (.set [])
  | _ => none

/-- Makes a container that waits to be filled. -/
def addContainer (number : Nat) (container : Container) : Build Value := do
  let building ← get
  let place := building.containers.size
  set { building with
    containers := building.containers.push container
    waiting := (number, place) :: building.waiting }
  return .container place

/-- Makes the data of a node. -/
def makeValue (number : Nat) : Build Value := do
  let nodes := (← get).nodes
  match nodes[number]? with
  | none => return .null
  | some node =>
    match node.kind, emptyContainer? node.kind with
    | .merge, _ | .equals, _ | .unknown, _ => malformed .unknownTag
    | _, some container => addContainer number container
    | _, none => node.scalarValue nodes number

/-- The data of a node. -/
def valueOf (number : Nat) : Build Value := do
  match (← get).values[number]? with
  | some (some value) => return value
  | _ =>
    let value ← makeValue number
    modify fun building =>
      { building with values := building.values.setIfInBounds number (some value) }
    return value

/-- Refuses containers as keys. -/
def refuseContainer : Value → Build Unit
  | .container _ => malformed .containerAsKey
  | _ => return

/-- The data of a member. -/
def memberValue (member : Nat × Nat) : Build (Value × Value) := do
  let key ← valueOf member.1
  refuseContainer key
  return (key, ← valueOf member.2)

/-- Puts the merged members of a mapping into their place. -/
def settle (number : Nat) : Build Unit := do
  let building ← get
  let ((), nodes) ← (Settle.mergeInto (building.mergeBound + 1) [] number).run building.nodes
  set { building with nodes := nodes }

/-- The data of the members of a mapping. -/
def membersOf (number : Nat) : Build (List (Value × Value)) := do
  match Settle.membersOf? (← get).nodes number with
  | none => malformed .wrongKind
  | some _ =>
    settle number
    let members := (Settle.membersOf? (← get).nodes number).getD []
    return Data.distinctMembers (← members.mapM memberValue)

/-- The items of a list. -/
def itemsOf (number : Nat) : Build (List Nat) := do
  match (← get).nodes[number]?.map Node.content with
  | some (.list items) => return items
  | _ => malformed .wrongKind

/-- The data of an item that is a mapping with a single member. Anything may be its key. -/
def pairOf (number : Nat) : Build (Value × Value) := do
  match Settle.membersOf? (← get).nodes number with
  | some [(key, value)] => return (← valueOf key, ← valueOf value)
  | _ => malformed .wrongKind

/-- What a container holds. -/
def contentOf (number : Nat) : Container → Build Container
  | .list _ => do return .list (← (← itemsOf number).mapM valueOf)
  | .pairs _ => do return .pairs (← (← itemsOf number).mapM pairOf)
  | .mapping _ => do return .mapping (← membersOf number)
  | .set _ => do return .set ((← membersOf number).map Prod.fst)

/-- Fills a container that waits. -/
def fill (waiting : Nat × Nat) : Build Unit := do
  match (← get).containers[waiting.2]? with
  | none => return
  | some empty =>
    let container ← contentOf waiting.1 empty
    modify fun building =>
      { building with
        containers := building.containers.setIfInBounds waiting.2 container }

/-- Fills the containers that wait, then those that they have made, and so on. The bound is on how
deep containers stand in each other. -/
def fillAll : Nat → Build Unit
  | 0 => return
  | bound + 1 => do
    let building ← get
    match building.waiting.reverse with
    | [] => return
    | waiting =>
      set { building with waiting := [] }
      waiting.forM fill
      fillAll bound

end Build

/-- Makes the data of a document. -/
def Document.build (document : Document) : Build Value := do
  let value ← Build.valueOf document.root
  Build.fillAll (document.nodes.size + 1)
  return value

/-- The data of a document. -/
def Document.data (document : Document) : Except Fault Graph := do
  let nodes := document.nodes
  let start : Building :=
    ⟨nodes, memberCount nodes, Array.replicate nodes.size none, #[], []⟩
  let (root, building) ← document.build.run start
  return ⟨building.containers, root⟩

/-- The data in the bytes of a file. -/
def load (bytes : List UInt8) : Except Fault Graph := do
  match ← (Legible.ofBytes bytes).tokens.document? with
  | some document => document.data
  | none => return .ofValue .null

end ReviewGate.Yaml
