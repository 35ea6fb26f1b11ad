import ReviewGate.Text.Base64
import ReviewGate.Yaml.Node

/-!
# The data of scalars

A scalar becomes data by its kind. A mapping can stand for a scalar, which is then the value of its
member whose key is an equals sign.
-/

set_option autoImplicit false

namespace ReviewGate.Yaml

open Data (Value)

/-- The content of the scalar that a node is or stands for. The bound is on the number of nodes on
the way, which may lead round in a circle. -/
def scalarContent (nodes : Array Node) : Nat → Nat → Except Fault Points
  | 0, _ => .error .tooDeep
  | bound + 1, number =>
    match nodes[number]?.map Node.content with
    | some (.scalar points) => .ok points
    | some (.mapping members) =>
      match members.find? fun (key, _) => nodes[key]?.any (·.kind = .equals) with
      | some (_, value) => scalarContent nodes bound value
      | none => malformed .wrongKind
    | _ => malformed .wrongKind

/-- A truth value, in any case. -/
def truthValue (content : Points) : Except BadValue Value :=
  match (Points.toText? content).bind fun word => truthWords.lookup (Text.lower word) with
  | some value => .ok (.bool value)
  | none => .error .truth

/-- Bytes in base 64. -/
def bytesValue (content : Points) : Except Fault Value :=
  match (Points.toText? content).bind Text.fromBase64? with
  | some bytes => .ok (.bytes bytes)
  | none => malformed .notBase64

/-- The data of content of a kind that scalars have. Numbers that are no number are told apart by
the number of their node. -/
def scalarValue (number : Nat) (content : Points) : Kind → Except Fault Value
  | .null => .ok .null
  | .bool => (truthValue content).mapError .badValue
  | .int => (Value.int <$> integerValue content).mapError .badValue
  | .float => (decimalValue number content).mapError .badValue
  | .timestamp => (timestampValue content).mapError .badValue
  | .text => .ok (.text content)
  | .binary => bytesValue content
  | _ => malformed .unknownTag

/-- The data of a node of a kind that scalars have. A timestamp has to be written as one itself. -/
def Node.scalarValue (nodes : Array Node) (number : Nat) (node : Node) : Except Fault Value := do
  let content ← scalarContent nodes (nodes.size + 1) number
  match node.kind, node.content with
  | .timestamp, .mapping _ => badValue .notText
  | kind, _ => Yaml.scalarValue number content kind

end ReviewGate.Yaml
