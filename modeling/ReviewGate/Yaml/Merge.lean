import ReviewGate.Yaml.Node

/-!
# Merged members

A merge key of a mapping stands for the members of another mapping, or of several in a list. They
take their place in front of the mapping's own members, so that those prevail where a key comes
again, and of several merged mappings the first one prevails. `settle` puts merged members into
their place, in the mappings that are merged first.

A mapping may be merged into itself. Every merge key is taken away before it is followed, so this
ends, and what is merged then are the members behind that key.
-/

set_option autoImplicit false

namespace ReviewGate.Yaml

/-- The nodes of a document, while merged members are put into their place. -/
abbrev Settle (α : Type) := StateT (Array Node) (Except Fault) α

namespace Settle

/-- Whether a node is of a kind. -/
def hasKind (nodes : Array Node) (kind : Kind) (number : Nat) : Bool :=
  nodes[number]?.any (·.kind = kind)

/-- The members of a mapping. -/
def membersOf? (nodes : Array Node) (number : Nat) : Option (List (Nat × Nat)) :=
  match nodes[number]?.map Node.content with
  | some (.mapping members) => some members
  | _ => none

/-- Gives a mapping other members. -/
def setMembers (number : Nat) (members : List (Nat × Nat)) : Settle Unit :=
  modify fun nodes =>
    nodes.modify number fun node => { node with content := .mapping members }

/-- Takes the first member whose key passes a test out of some members. -/
def takeFirst? (test : Nat → Bool) : List (Nat × Nat) → Option (Nat × List (Nat × Nat))
  | [] => none
  | (key, value) :: more =>
    if test key then some (value, more)
    else (takeFirst? test more).map fun (found, rest) => (found, (key, value) :: rest)

/-- The mappings that the value of a merge key stands for. -/
def sources (nodes : Array Node) (value : Nat) : Except Fault (List Nat) :=
  match nodes[value]?.map Node.content with
  | some (.mapping _) => .ok [value]
  | some (.list items) =>
    if items.all fun item => (membersOf? nodes item).isSome then .ok items
    else malformed .badMerge
  | _ => malformed .badMerge

/-- Makes an equals sign that is a key a text. -/
def nameKey (key : Nat) : Settle Unit :=
  modify fun nodes =>
    if hasKind nodes .equals key then
      nodes.modify key fun node => { node with kind := .text }
    else nodes

/-- Puts the members that are merged into a mapping behind some merged ones, and all of them in
front of its own. The bound is on the number of merge keys. -/
def mergeInto : Nat → List (Nat × Nat) → Nat → Settle Unit
  | 0, _, _ => return
  | bound + 1, merged, number => do
    let nodes ← get
    let members := (membersOf? nodes number).getD []
    match takeFirst? (hasKind nodes .merge) members with
    | none =>
      setMembers number (merged ++ members)
      members.forM fun (key, _) => nameKey key
    | some (value, rest) =>
      setMembers number rest
      let others ← sources nodes value
      others.forM fun other => mergeInto bound [] other
      let nodes ← get
      mergeInto bound
        (merged ++ others.reverse.flatMap fun other => (membersOf? nodes other).getD []) number

end Settle

/-- The number of members of all nodes. -/
def memberCount (nodes : Array Node) : Nat :=
  nodes.foldl (fun count node =>
    match node.content with
    | .mapping members => count + members.length
    | _ => count) 0

end ReviewGate.Yaml
