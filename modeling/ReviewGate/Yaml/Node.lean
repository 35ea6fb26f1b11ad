import ReviewGate.Yaml.Kind
import ReviewGate.Yaml.Tokens

/-!
# Nodes

The tokens of a document are arranged as nodes: scalars, lists and mappings. What a list or mapping
holds is given by numbers of nodes, and an alias is the number of the node that its anchor marks.
An anchor marks a list or mapping before its items are read, so nodes can hold themselves. What is
left out, like the value behind a colon, is an empty plain scalar.

Tokens are taken one by one, and only as many as are needed. So of a fault behind the tokens and
one in their arrangement the one that is met first counts.
-/

set_option autoImplicit false

namespace ReviewGate.Yaml

/-- What a node holds. -/
inductive Content
  | scalar (points : Points)
  | list (items : List Nat)
  | mapping (members : List (Nat × Nat))
  deriving DecidableEq, Inhabited

/-- A node. -/
structure Node where
  kind : Kind
  content : Content
  deriving DecidableEq

/-- The node that stands for what is left out. -/
def Node.empty : Node := ⟨.ofPlain [], .scalar []⟩

/-- A document: its nodes, and the number of the one that holds the others. -/
structure Document where
  nodes : Array Node
  root : Nat

/-- Where a node stands: between brackets, in a block, or in a block where list entries need not be
indented. -/
inductive Place
  | brackets
  | block
  | flush
  deriving DecidableEq, Repr

/-- What is known while the nodes of a document are read. -/
structure Reading where
  tokens : List Token
  fault : Option Fault
  handles : List (Text × Text)
  anchors : List (Text × Nat)
  nodes : Array Node

/-- A step of reading. -/
abbrev Read (α : Type) := StateT Reading (Except Fault) α

/-! ## Tokens -/

/-- A fault in the arrangement of tokens. -/
def refuse {α : Type} (cause : Malformed) : Read α :=
  throw (.malformed cause)

/-- The next token, `none` at the end of the text. -/
def peek : Read (Option Token) := do
  let reading ← get
  match reading.tokens, reading.fault with
  | token :: _, _ => return some token
  | [], none => return none
  | [], some fault => throw fault

/-- Goes on to the next token. -/
def advance : Read Unit :=
  modify fun reading => { reading with tokens := reading.tokens.drop 1 }

/-- Goes on behind a token if it is the next one, and tells whether it was. -/
def accept (token : Token) : Read Bool := do
  if (← peek) = some token then
    advance
    return true
  else return false

/-- Whether the next token is one of some. -/
def meets (tokens : List Token) : Read Bool := do
  return (← peek).any fun token => tokens.contains token

/-- Whether brackets go on: behind their first item only with a comma, which is taken. -/
def continues (first : Bool) : Read Bool :=
  if first then return true else accept .comma

/-! ## Properties -/

/-- The properties of a node. The tag is as it is written. -/
structure Properties where
  anchor : Option Text
  tag : Option Tag

/-- Reads an anchor. -/
def readAnchor : Read (Option Text) := do
  match ← peek with
  | some (.anchor name) =>
    advance
    return some name
  | _ => return none

/-- Reads a tag. -/
def readNodeTag : Read (Option Tag) := do
  match ← peek with
  | some (.tag tag) =>
    advance
    return some tag
  | _ => return none

/-- Reads an anchor and a tag in either order. -/
def readProperties : Read Properties := do
  match ← readAnchor with
  | some name => return ⟨some name, ← readNodeTag⟩
  | none =>
    match ← readNodeTag with
    | some tag => return ⟨← readAnchor, some tag⟩
    | none => return ⟨none, none⟩

/-- A tag written out in full. -/
def fullTag : Option Tag → Read (Option Text)
  | none => return none
  | some ⟨none, suffix⟩ => return some suffix
  | some ⟨some handle, suffix⟩ => do
    match (← get).handles.lookup handle with
    | some meaning => return some (meaning ++ suffix)
    | none => refuse .unknownHandle

/-! ## Numbers of nodes -/

/-- Adds a node, and lets an anchor mark it that marks nothing yet. -/
def addNode (anchor : Option Text) (node : Node) : Read Nat := do
  let reading ← get
  let number := reading.nodes.size
  match anchor with
  | none =>
    set { reading with nodes := reading.nodes.push node }
    return number
  | some name =>
    if (reading.anchors.lookup name).isSome then refuse .repeatedAnchor
    else
      set { reading with
        nodes := reading.nodes.push node
        anchors := (name, number) :: reading.anchors }
      return number

/-- Says what a node holds. -/
def setContent (number : Nat) (content : Content) : Read Unit :=
  modify fun reading =>
    { reading with nodes := reading.nodes.modify number fun node => { node with content := content } }

/-- Adds a list whose items are read behind it. -/
def addList (anchor : Option Text) (kind : Kind) (items : Read (List Nat)) : Read Nat := do
  let number ← addNode anchor ⟨kind, .list []⟩
  setContent number (.list (← items))
  return number

/-- Adds a mapping whose members are read behind it. -/
def addMapping (anchor : Option Text) (kind : Kind) (members : Read (List (Nat × Nat))) :
    Read Nat := do
  let number ← addNode anchor ⟨kind, .mapping []⟩
  setContent number (.mapping (← members))
  return number

/-- The node that an alias stands for. -/
def follow (name : Text) : Read Nat := do
  match (← get).anchors.lookup name with
  | some number => return number
  | none => refuse .unknownAlias

/-- How many more lists and mappings may stand within each other, inside one of them. -/
def deeper (levels : Nat) : Read Nat :=
  if levels = 0 then throw .tooDeep else return levels - 1

/-! ## The arrangement -/

mutual

/-- Reads a node. The bound is on the number of tokens, the levels on the lists and mappings that
may stand within each other. -/
def readNode : Nat → Nat → Place → Read Nat
  | 0, _, _ => refuse .unexpectedToken
  | bound + 1, levels, place => do
    match ← peek with
    | some (.alias name) =>
      advance
      follow name
    | _ =>
      let properties ← readProperties
      readContent bound levels place properties (← fullTag properties.tag)

/-- Reads a node behind its properties. -/
def readContent : Nat → Nat → Place → Properties → Option Text → Read Nat
  | 0, _, _, _, _ => refuse .unexpectedToken
  | bound + 1, levels, place, properties, tag => do
    let anchor := properties.anchor
    match ← peek, place with
    | some .entry, .flush =>
      addList anchor (.ofCollection .list tag) do readFlushEntries bound (← deeper levels)
    | some (.scalar points plain), _ =>
      advance
      addNode anchor ⟨.ofScalar tag plain points, .scalar points⟩
    | some .openList, _ =>
      advance
      addList anchor (.ofCollection .list tag) do readItems bound (← deeper levels) true
    | some .openMapping, _ =>
      advance
      addMapping anchor (.ofCollection .mapping tag) do readMembers bound (← deeper levels) true
    | some .openBlockList, .block | some .openBlockList, .flush =>
      advance
      addList anchor (.ofCollection .list tag) do readEntries bound (← deeper levels)
    | some .openBlockMapping, .block | some .openBlockMapping, .flush =>
      advance
      addMapping anchor (.ofCollection .mapping tag) do readBlockMembers bound (← deeper levels)
    | _, _ =>
      if properties.anchor.isSome || properties.tag.isSome then
        addNode anchor ⟨.ofScalar tag true [], .scalar []⟩
      else refuse .unexpectedToken

/-- Reads a node unless one of some tokens shows that it is left out. -/
def readUnless : Nat → Nat → List Token → Place → Read Nat
  | 0, _, _, _ => refuse .unexpectedToken
  | bound + 1, levels, stops, place => do
    if ← meets stops then addNode none .empty else readNode bound levels place

/-- Reads the value behind a colon, when there is one. -/
def readValueUnless : Nat → Nat → List Token → Place → Read Nat
  | 0, _, _, _ => refuse .unexpectedToken
  | bound + 1, levels, stops, place => do
    if ← accept .value then readUnless bound levels stops place else addNode none .empty

/-- Reads the entries of a block list and its end. -/
def readEntries : Nat → Nat → Read (List Nat)
  | 0, _ => refuse .unexpectedToken
  | bound + 1, levels => do
    if ← accept .entry then
      let item ← readUnless bound levels [.entry, .closeBlock] .block
      return item :: (← readEntries bound levels)
    else if ← accept .closeBlock then return []
    else refuse .unexpectedToken

/-- Reads the entries of a list that is not indented. -/
def readFlushEntries : Nat → Nat → Read (List Nat)
  | 0, _ => refuse .unexpectedToken
  | bound + 1, levels => do
    if ← accept .entry then
      let item ← readUnless bound levels [.entry, .key, .value, .closeBlock] .block
      return item :: (← readFlushEntries bound levels)
    else return []

/-- Reads the members of a block mapping and its end. -/
def readBlockMembers : Nat → Nat → Read (List (Nat × Nat))
  | 0, _ => refuse .unexpectedToken
  | bound + 1, levels => do
    if ← accept .key then
      let key ← readUnless bound levels [.key, .value, .closeBlock] .flush
      let value ← readValueUnless bound levels [.key, .value, .closeBlock] .flush
      return (key, value) :: (← readBlockMembers bound levels)
    else if ← accept .closeBlock then return []
    else refuse .unexpectedToken

/-- Reads the single member of a mapping between brackets of a list. -/
def readSingleMember : Nat → Nat → Read (List (Nat × Nat))
  | 0, _ => refuse .unexpectedToken
  | bound + 1, levels => do
    let key ← readUnless bound levels [.value, .comma, .closeList] .brackets
    let value ← readValueUnless bound levels [.comma, .closeList] .brackets
    return [(key, value)]

/-- Reads the items of a list in brackets and its end. A key makes an item a mapping with a single
member. -/
def readItems : Nat → Nat → Bool → Read (List Nat)
  | 0, _, _ => refuse .unexpectedToken
  | bound + 1, levels, first => do
    if ← accept .closeList then return []
    else if ← continues first then
      if ← accept .key then
        let item ← addMapping none .mapping do readSingleMember bound (← deeper levels)
        return item :: (← readItems bound levels false)
      else if ← accept .closeList then return []
      else
        let item ← readNode bound levels .brackets
        return item :: (← readItems bound levels false)
    else refuse .unexpectedToken

/-- Reads the members of a mapping in brackets and its end. -/
def readMembers : Nat → Nat → Bool → Read (List (Nat × Nat))
  | 0, _, _ => refuse .unexpectedToken
  | bound + 1, levels, first => do
    if ← accept .closeMapping then return []
    else if ← continues first then
      if ← accept .key then
        let key ← readUnless bound levels [.value, .comma, .closeMapping] .brackets
        let value ← readValueUnless bound levels [.comma, .closeMapping] .brackets
        return (key, value) :: (← readMembers bound levels false)
      else if ← accept .closeMapping then return []
      else
        let key ← readNode bound levels .brackets
        let value ← addNode none .empty
        return (key, value) :: (← readMembers bound levels false)
    else refuse .unexpectedToken

end

/-! ## Documents -/

/-- The handles that need no declaration. -/
def standardHandles : List (Text × Text) :=
  [("!".toList, "!".toList), ("!!".toList, standardTag)]

/-- What the directives of a document say. -/
structure Preamble where
  hasVersion : Bool
  handles : List (Text × Text)

/-- Adds a directive. -/
def Preamble.add (preamble : Preamble) : Directive → Read Preamble
  | .version major =>
    if preamble.hasVersion then refuse .repeatedDirective
    else if major ≠ 1 then refuse .unknownVersion
    else return { preamble with hasVersion := true }
  | .handle name meaning =>
    if (preamble.handles.lookup name).isSome then refuse .repeatedDirective
    else return { preamble with handles := (name, meaning) :: preamble.handles }
  | .other => return preamble

/-- The directive that a token is. -/
def Token.directive? : Token → Option Directive
  | .directive content => some content
  | _ => none

/-- Reads the directives of a document. -/
def readPreamble : Read Preamble := do
  let directives := ((← get).tokens.map Token.directive?).takeWhile Option.isSome
  let preamble ← (directives.filterMap id).foldlM Preamble.add ⟨false, []⟩
  modify fun reading => { reading with tokens := reading.tokens.drop directives.length }
  return preamble

/-- The most lists and mappings that may stand within each other. -/
def maxLevels : Nat := 489

/-- Reads the node of a document, which may be left out behind a mark. -/
def readDocumentNode (bound : Nat) (marked : Bool) : Read Nat := do
  match ← peek with
  | none | some (.directive _) | some .documentStart | some .documentEnd =>
    if marked then addNode none .empty else refuse .unexpectedToken
  | some _ => readNode bound maxLevels .block

/-- Reads the first document, when there is one: its directives, the mark at its beginning, which
is required behind directives, and its node. -/
def readFirst (bound : Nat) : Read (Option Nat) := do
  match ← peek with
  | none => return none
  | some first =>
    if first.directive?.isSome || first = .documentStart then
      let preamble ← readPreamble
      if ← accept .documentStart then
        modify fun reading => { reading with handles := preamble.handles ++ standardHandles }
        some <$> readDocumentNode bound true
      else refuse .unexpectedToken
    else some <$> readDocumentNode bound false

/-- Makes sure that no other document follows. One that is not well formed itself is met at its
first fault. -/
def readEnd : Read Unit := do
  let _ ← peek
  modify fun reading => { reading with tokens := reading.tokens.dropWhile (· = .documentEnd) }
  if (← peek).isSome then
    let _ ← readPreamble
    let _ ← peek
    refuse .secondDocument

/-- A bound for the steps in which the nodes of some tokens are read. -/
def nodeBound (tokens : List Token) : Nat :=
  4 * tokens.length + 4

/-- Reads the only document, when there is one. -/
def readOnly (bound : Nat) : Read (Option Nat) := do
  let root ← readFirst bound
  readEnd
  return root

/-- The only document of some tokens, `none` when there is no document. -/
def Tokens.document? (source : Tokens) : Except Fault (Option Document) := do
  let start : Reading := ⟨source.tokens, source.fault, standardHandles, [], #[]⟩
  let (root, reading) ← (readOnly (nodeBound source.tokens)).run start
  return root.map (⟨reading.nodes, ·⟩)

end ReviewGate.Yaml
