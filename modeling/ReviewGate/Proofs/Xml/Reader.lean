import Mathlib.Data.List.TakeWhile
import ReviewGate.Proofs.Text.Reading
import ReviewGate.Proofs.Xml.Elements
import ReviewGate.Proofs.Xml.Entities

/-!
# Documents are read as they are written

The reader knows the declaration, tags, attributes with values in double quotes, texts and the five
entities, and nothing else. What it reads is a tree of nodes, and it takes white space between tags
for a text like any other. The steps that nest carry a bound; every one of them takes at least one
character, so the length of the text is bound enough.

Writing an element and reading it gives the node of the element (`Element.node`), which has its
name, its attributes and its text with the values they had before escaping, and in the same order
(`read?_document`). All that is asked of the element is that its names are names. The induction is
on the element: what stands behind a tag is read as the element and leaves the rest of the text
alone (`readElement?_tail`), because the escaped texts in between hold neither quotes nor brackets.
-/

set_option autoImplicit false

namespace ReviewGate.Xml

open Text

/-! ## Reading -/

/-- A node of a document. -/
inductive Node
  | text (content : Text)
  | element (name : Text) (attributes : List Attribute) (content : List Node)

/-- White space in a document. -/
def isSpace (c : Char) : Bool :=
  c == ' ' || c == '\n' || c == '\r' || c == '\t'

/-- The characters of a name. -/
def isNameSign (c : Char) : Bool :=
  c.isAlphanum || c == '-' || c == '_' || c == '.'

/-- A name at the beginning of a text. -/
def readName? (text : Text) : Option (Text × Text) :=
  if text.takeWhile isNameSign = [] then none
  else some (text.takeWhile isNameSign, text.dropWhile isNameSign)

/-- The value of an attribute, behind its opening quote. -/
def readValue? (text : Text) : Option (Text × Text) := do
  let raw := text.takeWhile (· != '"')
  let rest ← after? ['"'] (text.dropWhile (· != '"'))
  if '<' ∈ raw then none
  else
    let value ← unescape? raw
    return (value, rest)

/-- The attributes of a tag, each behind white space. -/
def readAttributes? : Nat → Text → Option (List Attribute × Text)
  | 0, _ => none
  | bound + 1, text =>
    match text with
    | [] => none
    | c :: rest =>
      if isSpace c then do
        let (name, rest) ← readName? (rest.dropWhile isSpace)
        let (value, rest) ← readValue? (← after? ['=', '"'] rest)
        let (more, rest) ← readAttributes? bound rest
        return (⟨name, value⟩ :: more, rest)
      else some ([], c :: rest)

/-- The name and the attributes of a tag, behind the bracket that opens it. -/
def readTag? (text : Text) : Option (Text × List Attribute × Text) := do
  let (name, rest) ← readName? text
  let (attributes, rest) ← readAttributes? text.length rest
  return (name, attributes, rest)

/-- A text up to the next bracket. -/
def readText? (text : Text) : Option (Text × Text) := do
  let content ← unescape? (text.takeWhile (· != '<'))
  return (content, text.dropWhile (· != '<'))

mutual

/-- An element, behind the bracket that opens its tag. -/
def readElement? : Nat → Text → Option (Node × Text)
  | 0, _ => none
  | bound + 1, text => do
    let (name, attributes, rest) ← readTag? text
    match rest with
    | '/' :: '>' :: rest => return (.element name attributes [], rest)
    | '>' :: rest => do
      let (content, rest) ← readNodes? bound rest
      let rest ← after? (writeClosing name) rest
      return (.element name attributes content, rest)
    | _ => none

/-- The nodes in front of a closing tag. -/
def readNodes? : Nat → Text → Option (List Node × Text)
  | 0, _ => none
  | bound + 1, text =>
    match text with
    | '<' :: '/' :: rest => some ([], '<' :: '/' :: rest)
    | '<' :: rest => do
      let (node, rest) ← readElement? bound rest
      let (more, rest) ← readNodes? bound rest
      return (node :: more, rest)
    | text => do
      let (content, rest) ← readText? text
      let (more, rest) ← readNodes? bound rest
      return (.text content :: more, rest)

end

/-- The root of a document, which is all that stands in it behind the declaration. -/
def read? (text : Text) : Option Node := do
  let rest ← after? declaration text
  let (root, rest) ← readElement? text.length (← after? ['<'] (rest.dropWhile isSpace))
  if rest.all isSpace then some root else none

/-! ## What is written -/

/-- A text that is read as a name. -/
def IsName (name : Text) : Prop :=
  name ≠ [] ∧ ∀ c ∈ name, isNameSign c = true

instance (name : Text) : Decidable (IsName name) :=
  decidable_of_iff (name ≠ [] ∧ name.all isNameSign = true) (and_congr_right' List.all_eq_true)

/-- An element all of whose names are names. -/
def Element.Named (root : Element) : Prop :=
  ∀ element ∈ root.all, IsName element.name ∧ ∀ pair ∈ element.attributes, IsName pair.name

/-- A tag of names. -/
def IsTag (name : Text) (attributes : List Attribute) : Prop :=
  IsName name ∧ ∀ label ∈ attributes.map Attribute.name, IsName label

theorem Element.named_closed {name : Text} {attributes : List Attribute} :
    (Element.closed name attributes).Named ↔ IsTag name attributes := by
  simp only [Element.Named, Element.all, List.forall_mem_singleton, IsTag, List.forall_mem_map]
  rfl

theorem Element.named_inline {name text : Text} {attributes : List Attribute} :
    (Element.inline name attributes text).Named ↔ IsTag name attributes := by
  simp only [Element.Named, Element.all, List.forall_mem_singleton, IsTag, List.forall_mem_map]
  rfl

theorem Element.named_block {name : Text} {attributes : List Attribute}
    {children : List Element} :
    (Element.block name attributes children).Named ↔
      IsTag name attributes ∧ ∀ child ∈ children, child.Named := by
  simp only [Element.Named, Element.all, allOf_eq_flatMap, List.forall_mem_cons,
    List.forall_mem_flatMap, IsTag, List.forall_mem_map]
  rfl

/-- The line end and the blanks in front of a line. -/
def gap (depth : Nat) : Text :=
  '\n' :: indent depth

theorem mem_gap {depth : Nat} {c : Char} (member : c ∈ gap depth) : c = '\n' ∨ c = ' ' := by
  simp only [gap, indent, List.mem_cons, List.mem_replicate] at member
  exact member.imp_right And.right

/-- The lines of elements, each behind a line end. -/
def below (depth : Nat) (children : List Element) : Text :=
  children.flatMap fun child => '\n' :: unlines (child.lines depth)

/-- What stands of an element behind the bracket that opens its tag. -/
def Element.tail (depth : Nat) : Element → Text
  | .closed name attributes => name ++ (attributes.flatMap writeAttribute ++ ['/', '>'])
  | .inline name attributes text =>
    name ++ (attributes.flatMap writeAttribute ++ '>' :: (escape text ++ writeClosing name))
  | .block name attributes children =>
    name ++ (attributes.flatMap writeAttribute ++
      '>' :: (below (depth + 1) children ++ (gap depth ++ writeClosing name)))

mutual

/-- An element as a node, with the white space that is written inside it. -/
def Element.node (depth : Nat) : Element → Node
  | .closed name attributes => .element name attributes []
  | .inline name attributes text =>
    .element name attributes (if text = [] then [] else [.text text])
  | .block name attributes children =>
    .element name attributes (childNodes (depth + 1) children ++ [.text (gap depth)])

/-- Elements as nodes, each behind white space. -/
def childNodes (depth : Nat) : List Element → List Node
  | [] => []
  | child :: more => .text (gap depth) :: child.node depth :: childNodes depth more

end

theorem unlines_cons_flatMap (line : Text) (more : List Text) :
    unlines (line :: more) = line ++ more.flatMap ('\n' :: ·) := by
  induction more generalizing line with
  | nil => simp [unlines]
  | cons next more ih =>
      rw [unlines_cons line (List.cons_ne_nil next more), ih]
      simp

theorem Element.lines_ne_nil (depth : Nat) (root : Element) : root.lines depth ≠ [] := by
  cases root <;> simp [Element.lines]

theorem flatMap_childLines (depth : Nat) (children : List Element) :
    (childLines depth children).flatMap ('\n' :: ·) = below depth children := by
  induction children with
  | nil => rfl
  | cons child more ih =>
      obtain ⟨line, lines, split⟩ := List.exists_cons_of_ne_nil (child.lines_ne_nil depth)
      rw [childLines, List.flatMap_append, ih, below, below, List.flatMap_cons, split,
        unlines_cons_flatMap, List.flatMap_cons, List.cons_append]

/-- An element is written as blanks, a bracket and the rest of its tag with what belongs to it. -/
theorem Element.unlines_lines (depth : Nat) (root : Element) :
    unlines (root.lines depth) = indent depth ++ '<' :: root.tail depth := by
  cases root with
  | closed name attributes => simp [Element.lines, Element.tail, unlines, writeTag]
  | inline name attributes text => simp [Element.lines, Element.tail, unlines, writeTag]
  | block name attributes children =>
      rw [Element.lines, unlines_cons_flatMap, List.flatMap_append, flatMap_childLines]
      simp [Element.tail, writeTag, gap]

theorem below_cons (depth : Nat) (child : Element) (more : List Element) :
    below depth (child :: more) =
      gap depth ++ '<' :: (child.tail depth ++ below depth more) := by
  simp [below, Element.unlines_lines, gap]

/-- A document is its declaration and its root on the next line. -/
theorem document_eq (root : Element) :
    document root = declaration ++ '\n' :: '<' :: root.tail 0 := by
  rw [document, unlines_cons declaration (root.lines_ne_nil 0), root.unlines_lines]
  rfl

/-! ## Reading what is written -/

theorem not_isNameSign_of_isSpace {c : Char} (space : isSpace c = true) : isNameSign c = false := by
  simp only [isSpace, Bool.or_eq_true, beq_iff_eq] at space
  rcases space with ((rfl | rfl) | rfl) | rfl <;> decide

/-- No white space is skipped in front of a name. -/
theorem dropWhile_name {name : Text} (named : IsName name) (rest : Text) :
    (name ++ rest).dropWhile isSpace = name ++ rest := by
  obtain ⟨c, more, rfl⟩ := List.exists_cons_of_ne_nil named.1
  have solid : ¬ isSpace c = true := fun space => by
    have sign := named.2 c List.mem_cons_self
    rw [not_isNameSign_of_isSpace space] at sign
    cases sign
  rw [List.cons_append, List.dropWhile_cons_of_neg solid]

/-- A name is read up to the next character that is not in names. -/
theorem readName?_append {name rest : Text} (named : IsName name)
    (ends : ∀ c ∈ rest.head?, isNameSign c = false) :
    readName? (name ++ rest) = some (name, rest) := by
  rw [readName?, takeWhile_append_run named.2 ends, dropWhile_append_run named.2 ends,
    if_neg named.1]

/-- A value is read up to its closing quote. -/
theorem readValue?_escape (value rest : Text) :
    readValue? (escape value ++ '"' :: rest) = some (value, rest) := by
  have quoted : ∀ c ∈ escape value, (c != '"') = true := fun c member => by
    rw [bne_iff_ne]
    exact fun quote => not_mem_escape (by decide) value (quote ▸ member)
  have ends : ∀ c ∈ ('"' :: rest).head?, (c != '"') = false := by simp
  rw [readValue?]
  simp only [takeWhile_append_run quoted ends, dropWhile_append_run quoted ends,
    if_neg (not_mem_escape (show '<' ∈ markup by decide) value), unescape?_escape]
  rfl

/-- A text up to a bracket is read as what it means. -/
theorem readText?_append {raw content : Text} (open_ : '<' ∉ raw)
    (means : unescape? raw = some content) (rest : Text) :
    readText? (raw ++ '<' :: rest) = some (content, '<' :: rest) := by
  have free : ∀ c ∈ raw, (c != '<') = true := fun c member => by
    rw [bne_iff_ne]
    exact fun bracket => open_ (bracket ▸ member)
  have ends : ∀ c ∈ ('<' :: rest).head?, (c != '<') = false := by simp
  rw [readText?, takeWhile_append_run free ends, dropWhile_append_run free ends, means]
  rfl

/-- The attributes of a tag are read up to its closing bracket. -/
theorem readAttributes?_write {attributes : List Attribute} {bound : Nat} {c : Char} {rest : Text}
    (named : ∀ pair ∈ attributes, IsName pair.name) (enough : attributes.length < bound)
    (ends : isSpace c = false) :
    readAttributes? bound (attributes.flatMap writeAttribute ++ c :: rest) =
      some (attributes, c :: rest) := by
  obtain ⟨bound, rfl⟩ : ∃ less, bound = less + 1 := ⟨bound - 1, by omega⟩
  induction attributes generalizing bound with
  | nil => simp [readAttributes?, ends]
  | cons pair more ih =>
      obtain ⟨bound, rfl⟩ : ∃ less, bound = less + 1 := ⟨bound - 1, by simp at enough; omega⟩
      have first : IsName pair.name := named pair List.mem_cons_self
      have later := ih (fun other member => named other (List.mem_cons_of_mem pair member)) bound
        (by simpa using enough)
      have whole : (pair :: more).flatMap writeAttribute ++ c :: rest =
          ' ' :: (pair.name ++ '=' :: '"' ::
            (escape pair.value ++ '"' :: (more.flatMap writeAttribute ++ c :: rest))) := by
        simp [writeAttribute]
      have equals (text : Text) : after? ['=', '"'] ('=' :: '"' :: text) = some text := rfl
      rw [whole, readAttributes?, if_pos (show isSpace ' ' = true by decide), dropWhile_name first,
        readName?_append first (by simp [isNameSign])]
      simp only [Option.bind_eq_bind, Option.bind_some, equals, readValue?_escape, later]
      rfl

theorem length_le_flatMap_writeAttribute (attributes : List Attribute) :
    attributes.length ≤ (attributes.flatMap writeAttribute).length := by
  induction attributes with
  | nil => exact Nat.le_refl 0
  | cons pair more ih =>
      rw [List.flatMap_cons, List.length_append, List.length_cons]
      have some_ : 1 ≤ (writeAttribute pair).length := by simp [writeAttribute]
      omega

/-- A tag is read up to its closing bracket. -/
theorem readTag?_write {name : Text} {attributes : List Attribute} {c : Char} {rest : Text}
    (tag : IsTag name attributes) (ends : isSpace c = false) (sign : isNameSign c = false) :
    readTag? (name ++ (attributes.flatMap writeAttribute ++ c :: rest)) =
      some (name, attributes, c :: rest) := by
  have behindName : ∀ d ∈ (attributes.flatMap writeAttribute ++ c :: rest).head?,
      isNameSign d = false := by
    cases attributes with
    | nil => simpa using sign
    | cons pair more => simp [writeAttribute, isNameSign]
  have enough : attributes.length <
      (name ++ (attributes.flatMap writeAttribute ++ c :: rest)).length := by
    have fewer := length_le_flatMap_writeAttribute attributes
    simp only [List.length_append, List.length_cons]
    omega
  rw [readTag?, readName?_append tag.1 behindName]
  simp only [Option.bind_eq_bind, Option.bind_some,
    readAttributes?_write (List.forall_mem_map.mp tag.2) enough ends]
  rfl

/-! ### Nodes -/

section Nodes

variable {bound : Nat} {rest : Text}

theorem readNodes?_closing : readNodes? (bound + 1) ('<' :: '/' :: rest) =
    some ([], '<' :: '/' :: rest) := by
  rw [readNodes?]

/-- A bracket that does not close an element opens one. -/
theorem readNodes?_element {c : Char} {text after : Text} {node : Node} {more : List Node}
    (opens : c ≠ '/') (first : readElement? bound (c :: text) = some (node, rest))
    (later : readNodes? bound rest = some (more, after)) :
    readNodes? (bound + 1) ('<' :: c :: text) = some (node :: more, after) := by
  rw [readNodes?]
  · simp only [first, later, Option.bind_eq_bind, Option.bind_some]
    rfl
  · intro text' same
    exact opens (List.cons.inj same).1

/-- What stands in front of a bracket is a text. -/
theorem readNodes?_text {raw content after : Text} {more : List Node} (filled : raw ≠ [])
    (open_ : '<' ∉ raw) (means : unescape? raw = some content)
    (later : readNodes? bound ('<' :: rest) = some (more, after)) :
    readNodes? (bound + 1) (raw ++ '<' :: rest) = some (.text content :: more, after) := by
  have read : readText? (raw ++ '<' :: rest) = some (content, '<' :: rest) :=
    readText?_append open_ means rest
  obtain ⟨c, raw, rfl⟩ := List.exists_cons_of_ne_nil filled
  have other : c ≠ '<' := fun bracket => open_ (bracket ▸ List.mem_cons_self)
  rw [List.cons_append] at read ⊢
  rw [readNodes?]
  · simp only [read, later, Option.bind_eq_bind, Option.bind_some]
    rfl
  · intro text' same
    exact other (List.cons.inj same).1
  · intro text' same
    exact other (List.cons.inj same).1

/-- The white space in front of a line is a text that means itself. -/
theorem readNodes?_gap {depth : Nat} {after : Text} {more : List Node}
    (later : readNodes? bound ('<' :: rest) = some (more, after)) :
    readNodes? (bound + 1) (gap depth ++ '<' :: rest) =
      some (.text (gap depth) :: more, after) := by
  have means : ∀ text : Text, (∀ c ∈ text, c = '\n' ∨ c = ' ') → unescape? text = some text := by
    intro text blank
    induction text with
    | nil => rfl
    | cons c text ih =>
        have plain : c ≠ '&' := by
          rcases blank c List.mem_cons_self with rfl | rfl <;> decide
        rw [unescape?_cons plain, ih fun d member => blank d (List.mem_cons_of_mem c member),
          Option.map_some]
  refine readNodes?_text (List.cons_ne_nil _ _) (fun bracket => ?_)
    (means _ fun _ => mem_gap) later
  rcases mem_gap bracket with same | same <;> cases same

end Nodes

/-! ### Elements -/

section Elements

variable {name : Text} {attributes : List Attribute} {bound : Nat} {rest : Text}

theorem readElement?_closed (tag : IsTag name attributes) :
    readElement? (bound + 1) (name ++ (attributes.flatMap writeAttribute ++ '/' :: '>' :: rest)) =
      some (.element name attributes [], rest) := by
  rw [readElement?, readTag?_write tag (by decide) (by decide)]
  rfl

/-- Behind an opening tag stands what is in the element, up to its closing tag. -/
theorem readElement?_open {text : Text} {content : List Node} (tag : IsTag name attributes)
    (inside : readNodes? bound text = some (content, writeClosing name ++ rest)) :
    readElement? (bound + 1) (name ++ (attributes.flatMap writeAttribute ++ '>' :: text)) =
      some (.element name attributes content, rest) := by
  rw [readElement?, readTag?_write tag (by decide) (by decide)]
  simp only [Option.bind_eq_bind, Option.bind_some, inside, after?_append]
  rfl

/-- The rest of a tag begins with its name. -/
theorem Element.exists_tail {root : Element} (named : root.Named) (depth : Nat) :
    ∃ c text, root.tail depth = c :: text ∧ c ≠ '/' := by
  have own : ∀ {name : Text}, IsName name →
      ∀ text, ∃ c more, name ++ text = c :: more ∧ c ≠ '/' := by
    intro name isName text
    obtain ⟨c, more, rfl⟩ := List.exists_cons_of_ne_nil isName.1
    refine ⟨c, more ++ text, rfl, ?_⟩
    rintro rfl
    exact absurd (isName.2 '/' List.mem_cons_self) (by decide)
  cases root with
  | closed name attributes => exact own (named_closed.mp named).1 _
  | inline name attributes text => exact own (named_inline.mp named).1 _
  | block name attributes children => exact own (named_block.mp named).1.1 _

end Elements

theorem escape_ne_nil {text : Text} (filled : text ≠ []) : escape text ≠ [] := by
  intro empty
  have read := unescape?_escape text
  rw [empty] at read
  exact filled (Option.some.inj read).symm

/-- The text of an element on one line is read up to its closing tag. -/
theorem readNodes?_escape {name text rest : Text} {bound : Nat} :
    readNodes? (bound + 2) (escape text ++ (writeClosing name ++ rest)) =
      some (if text = [] then [] else [.text text], writeClosing name ++ rest) := by
  split
  next empty => rw [empty]; exact readNodes?_closing
  next filled =>
    exact readNodes?_text (escape_ne_nil filled) (not_mem_escape (by decide) text)
      (unescape?_escape text) readNodes?_closing

mutual

/-- **What stands behind the bracket of an element is read as the element.** -/
theorem readElement?_tail : ∀ (root : Element), root.Named → ∀ (depth bound : Nat) (rest : Text),
    (root.tail depth).length ≤ bound →
      readElement? bound (root.tail depth ++ rest) = some (root.node depth, rest)
  | .closed name attributes, named, depth, bound, rest, enough => by
      have own : IsTag name attributes := Element.named_closed.mp named
      obtain ⟨bound, rfl⟩ : ∃ less, bound = less + 1 :=
        ⟨bound - 1, by simp [Element.tail] at enough; omega⟩
      simpa [Element.tail, Element.node] using readElement?_closed own
  | .inline name attributes text, named, depth, bound, rest, enough => by
      have own : IsTag name attributes := Element.named_inline.mp named
      obtain ⟨bound, rfl⟩ : ∃ less, bound = less + 3 :=
        ⟨bound - 3, by simp [Element.tail, writeClosing] at enough; omega⟩
      simpa [Element.tail, Element.node] using readElement?_open own readNodes?_escape
  | .block name attributes children, named, depth, bound, rest, enough => by
      obtain ⟨own, inside⟩ := Element.named_block.mp named
      obtain ⟨bound, rfl⟩ : ∃ less, bound = less + 1 :=
        ⟨bound - 1, by simp [Element.tail] at enough; omega⟩
      have content := readNodes?_below children inside (depth + 1) depth bound
        (name ++ '>' :: rest) (by simp [Element.tail, writeClosing] at enough; omega)
      simpa [Element.tail, Element.node, writeClosing] using
        readElement?_open own (by simpa [writeClosing] using content)

/-- Elements below each other are read up to the closing tag behind them. -/
theorem readNodes?_below : ∀ (children : List Element), (∀ child ∈ children, child.Named) →
    ∀ (depth outer bound : Nat) (rest : Text), (below depth children).length + 2 ≤ bound →
      readNodes? bound (below depth children ++ (gap outer ++ '<' :: '/' :: rest)) =
        some (childNodes depth children ++ [.text (gap outer)], '<' :: '/' :: rest)
  | [], _, depth, outer, bound, rest, enough => by
      obtain ⟨bound, rfl⟩ : ∃ less, bound = less + 2 := ⟨bound - 2, by omega⟩
      exact readNodes?_gap readNodes?_closing
  | child :: more, named, depth, outer, bound, rest, enough => by
      have first : child.Named := named child List.mem_cons_self
      obtain ⟨c, text, tail, opens⟩ := child.exists_tail first depth
      have length := congrArg List.length (below_cons depth child more)
      simp only [List.length_append, List.length_cons, gap] at length
      obtain ⟨bound, rfl⟩ : ∃ less, bound = less + 2 := ⟨bound - 2, by omega⟩
      have head := readElement?_tail child first depth bound
        (below depth more ++ (gap outer ++ '<' :: '/' :: rest)) (by omega)
      have later := readNodes?_below more
        (fun other member => named other (List.mem_cons_of_mem child member)) depth outer bound rest
        (by omega)
      rw [below_cons, List.append_assoc, List.cons_append, List.append_assoc]
      rw [tail, List.cons_append] at head ⊢
      exact readNodes?_gap (readNodes?_element opens head later)

end

/-- **A document is read as its root.** -/
theorem read?_document {root : Element} (named : root.Named) :
    read? (document root) = some (root.node 0) := by
  have known : after? declaration (document root) = some ('\n' :: '<' :: root.tail 0) :=
    document_eq root ▸ after?_append _ _
  have behind : after? ['<'] (('\n' :: '<' :: root.tail 0).dropWhile isSpace) =
    some (root.tail 0) := rfl
  have read : readElement? (document root).length (root.tail 0) = some (root.node 0, []) := by
    have all := readElement?_tail root named 0 (document root).length []
      (by rw [document_eq]; simp; omega)
    rwa [List.append_nil] at all
  rw [read?, known]
  simp only [Option.bind_eq_bind, Option.bind_some, behind, read]
  rfl

/-! ## Looking at nodes -/

namespace Node

/-- The name and the attributes of an element. -/
def tag? : Node → Option (Text × List Attribute)
  | text _ => none
  | element name attributes _ => some (name, attributes)

/-- What is in an element. -/
def content : Node → List Node
  | text _ => []
  | element _ _ content => content

/-- The elements in an element. -/
def elements (node : Node) : List Node :=
  node.content.filter (·.tag?.isSome)

/-- The text in an element that is in none of the elements there. -/
def ownText (node : Node) : Text :=
  node.content.flatMap fun
    | text content => content
    | element _ _ _ => []

end Node

section Views

variable (depth : Nat) (name : Text) (attributes : List Attribute) (children : List Element)

theorem Element.isSome_tag?_node (root : Element) : (root.node depth).tag?.isSome = true := by
  cases root <;> rfl

/-- The elements in the node of an element are the nodes of its children. -/
theorem elements_node_block :
    ((Element.block name attributes children).node depth).elements =
      children.map (Element.node (depth + 1)) := by
  have nested : ∀ children : List Element,
      (childNodes (depth + 1) children).filter (·.tag?.isSome) =
        children.map (Element.node (depth + 1)) := by
    intro children
    induction children with
    | nil => rfl
    | cons child more ih =>
        rw [childNodes, List.filter_cons_of_neg (by simp [Node.tag?]), List.filter_cons,
          if_pos (child.isSome_tag?_node (depth + 1)), ih, List.map_cons]
  rw [Node.elements, Element.node, Node.content, List.filter_append, nested]
  exact List.append_nil _

/-- An element on one line has no elements in it. -/
theorem elements_node_inline (text : Text) :
    ((Element.inline name attributes text).node depth).elements = [] := by
  rw [Element.node]
  split <;> rfl

/-- The text of the node of an element on one line is its text. -/
theorem ownText_node_inline (text : Text) :
    ((Element.inline name attributes text).node depth).ownText = text := by
  rw [Element.node]
  split
  next empty => exact empty.symm
  next => exact List.append_nil text

/-- An element with children has no text of its own but white space. -/
theorem blank_node_block :
    Blank ((Element.block name attributes children).node depth).ownText := by
  have space : ∀ depth, Blank (gap depth) := by
    intro depth c member
    rcases mem_gap member with rfl | rfl <;> decide
  have nested : ∀ children : List Element, ∀ node ∈ childNodes (depth + 1) children,
      ∀ content, node = .text content → Blank content := by
    intro children
    induction children with
    | nil => exact nofun
    | cons child more ih =>
        intro node member content same
        rcases List.mem_cons.mp member with rfl | member
        · cases same
          exact space _
        · rcases List.mem_cons.mp member with rfl | later
          · cases child <;> cases same
          · exact ih node later content same
  intro c member
  obtain ⟨node, inside, own⟩ := List.mem_flatMap.mp member
  cases node with
  | element name attributes content => cases own
  | text content =>
      rcases List.mem_append.mp inside with among | last
      · exact nested children _ among content rfl c own
      · cases List.mem_singleton.mp last
        exact space _ c own

end Views

end ReviewGate.Xml
