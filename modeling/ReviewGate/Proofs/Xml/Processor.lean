import ReviewGate.Proofs.Text.LineEnd
import ReviewGate.Proofs.Text.Numeral
import ReviewGate.Proofs.Xml.Reader

/-!
# What a processor makes of a document

A processor of XML 1.0 does more than read tags and entities. It refuses a document that has a
character outside the class `Char` anywhere (`isAllowed`), it takes every line end for a newline
before it reads, and in the values of attributes it takes white space of any kind for a blank
before it reads the entities (`normaliseFrom`). Whether white space stands in a value is told by
the brackets and quotes in front of it (`Place`).

Escaping does nothing about either. A document is refused when one of its texts has a character
that is not allowed, and otherwise it is read as its root with blanks for the white space in values
and newlines for the line ends in texts (`process?_document`). As for the reader, the induction is
on the element, and what stands behind a tag is normalised as the element, whatever follows
(`normaliseFrom_tail`).

A value is kept when blanks are all the white space in it (`normalisedValue_eq_self`). So the tags
that a processor finds are those that were written exactly when no value in them has a tab or a
line end (`map_normalisedTag_eq_self`).
-/

set_option autoImplicit false

namespace ReviewGate.Xml

open Text

/-! ## Processing -/

/-- The characters that may stand in a document. -/
def isAllowed (c : Char) : Bool :=
  let code := c.toNat
  code == 0x9 || code == 0xA || code == 0xD || (0x20 ≤ code && code ≤ 0xD7FF) ||
    (0xE000 ≤ code && code ≤ 0xFFFD) || (0x10000 ≤ code && code ≤ 0x10FFFF)

/-- Where a character stands in a document. -/
inductive Place
  | content
  | tag
  | value
  deriving DecidableEq, Repr

/-- The place behind a character. -/
def Place.behind : Place → Char → Place
  | content, c => if c = '<' then tag else content
  | tag, c => if c = '>' then content else if c = '"' then value else tag
  | value, c => if c = '"' then tag else value

/-- A character of a value, with a blank for any white space. -/
def blankedChar (c : Char) : Char :=
  if isSpace c then ' ' else c

/-- A value with a blank for every character of white space. -/
def blanked (value : Text) : Text :=
  value.map blankedChar

/-- A text with its values blanked, from a place on. -/
def blankValuesFrom (place : Place) : Text → Text
  | [] => []
  | c :: rest =>
    (if place = .value then blankedChar c else c) :: blankValuesFrom (place.behind c) rest

/-- A text with newlines for line ends and with its values blanked, from a place on. -/
def normaliseFrom (place : Place) (text : Text) : Text :=
  blankValuesFrom place (withNewlines text)

/-- A text of characters that may stand in a document. -/
def Permitted (text : Text) : Prop :=
  ∀ c ∈ text, isAllowed c = true

instance (text : Text) : Decidable (Permitted text) :=
  decidable_of_iff (text.all isAllowed = true) List.all_eq_true

/-- What a processor makes of a document. -/
def process? (text : Text) : Option Node :=
  if Permitted text then read? (normaliseFrom .content text) else none

/-! ## Changed texts -/

/-- An attribute with its value changed. -/
def Attribute.mapValue (change : Text → Text) (pair : Attribute) : Attribute :=
  ⟨pair.name, change pair.value⟩

mutual

/-- An element with its values and its texts changed. -/
def Element.mapTexts (onValue onText : Text → Text) : Element → Element
  | .closed name attributes => .closed name (attributes.map (·.mapValue onValue))
  | .inline name attributes text =>
    .inline name (attributes.map (·.mapValue onValue)) (onText text)
  | .block name attributes children =>
    .block name (attributes.map (·.mapValue onValue)) (mapTextsOf onValue onText children)

/-- Elements with their values and texts changed. -/
def mapTextsOf (onValue onText : Text → Text) : List Element → List Element
  | [] => []
  | child :: more => child.mapTexts onValue onText :: mapTextsOf onValue onText more

end

/-- A value as a processor reads it. -/
def normalisedValue (value : Text) : Text :=
  blanked (withNewlines value)

/-- An element as a processor reads it. -/
def Element.normalised (root : Element) : Element :=
  root.mapTexts normalisedValue withNewlines

section MapTexts

variable (onValue onText : Text → Text)

mutual

/-- The elements of a changed tree are the changed elements of the tree. -/
theorem Element.all_mapTexts : ∀ root : Element,
    (root.mapTexts onValue onText).all = root.all.map (·.mapTexts onValue onText)
  | .closed name attributes => rfl
  | .inline name attributes text => rfl
  | .block name attributes children => by
      rw [Element.mapTexts, Element.all, Element.all, List.map_cons, Element.mapTexts,
        allOf_mapTextsOf children]

theorem allOf_mapTextsOf : ∀ children : List Element,
    allOf (mapTextsOf onValue onText children) =
      (allOf children).map (·.mapTexts onValue onText)
  | [] => rfl
  | child :: more => by
      rw [mapTextsOf, allOf, allOf, List.map_append, child.all_mapTexts, allOf_mapTextsOf more]

end

theorem Element.name_mapTexts (root : Element) :
    (root.mapTexts onValue onText).name = root.name := by
  cases root <;> rfl

theorem Element.attributes_mapTexts (root : Element) :
    (root.mapTexts onValue onText).attributes = root.attributes.map (·.mapValue onValue) := by
  cases root <;> rfl

/-- Changing texts leaves names alone. -/
theorem Element.Named.mapTexts {root : Element} (named : root.Named) :
    (root.mapTexts onValue onText).Named := by
  intro element member
  rw [Element.all_mapTexts] at member
  obtain ⟨original, listed, rfl⟩ := List.mem_map.mp member
  obtain ⟨own, labels⟩ := named original listed
  rw [Element.name_mapTexts, Element.attributes_mapTexts, List.forall_mem_map]
  exact ⟨own, labels⟩

end MapTexts

/-! ## Normalising what is written -/

/-- The form of a character has no white space but the character. -/
theorem eq_of_mem_escapeChar {c d : Char} (member : d ∈ escapeChar c)
    (space : isSpace d = true) : d = c := by
  rcases escapeChar_cases c with entity | ⟨-, same⟩
  · have solid : ∀ pair ∈ entities, pair.2.any isSpace = false := by decide
    exact absurd space (List.any_eq_false.mp (solid _ entity) d member)
  · exact List.mem_singleton.mp (same ▸ member)

theorem escapeChar_ne_nil (c : Char) : escapeChar c ≠ [] := by
  rcases escapeChar_cases c with entity | ⟨-, same⟩
  · have filled : ∀ pair ∈ entities, pair.2 ≠ [] := by decide
    exact filled _ entity
  · exact same ▸ List.cons_ne_nil c []

theorem escapeChar_of_isSpace {c : Char} (space : isSpace c = true) : escapeChar c = [c] := by
  simp only [isSpace, Bool.or_eq_true, beq_iff_eq] at space
  rcases space with ((rfl | rfl) | rfl) | rfl <;> decide

/-- Line ends are no entities. -/
theorem withNewlines_escape (text : Text) :
    withNewlines (escape text) = escape (withNewlines text) := by
  fun_induction withNewlines text with
  | case1 => rfl
  | case2 rest ih =>
      have written : escape ('\r' :: '\n' :: rest) = '\r' :: '\n' :: escape rest := rfl
      rw [written, withNewlines_pair, ih]
      rfl
  | case3 rest alone ih =>
      have next : (escape rest).head? ≠ some '\n' := by
        cases rest with
        | nil => decide
        | cons d rest =>
            intro same
            rw [escape, List.flatMap_cons, List.head?_append_of_ne_nil _ (escapeChar_ne_nil d)]
              at same
            have newline : '\n' = d := eq_of_mem_escapeChar (List.mem_of_head? same) (by decide)
            exact alone rest (newline ▸ rfl)
      have written : escape ('\r' :: rest) = '\r' :: escape rest := rfl
      rw [written, withNewlines_return next, ih]
      rfl
  | case4 c rest _ plain ih =>
      have absent : '\r' ∉ escapeChar c := fun member =>
        plain (eq_of_mem_escapeChar member (by decide)).symm
      rw [escape, List.flatMap_cons, withNewlines_append absent]
      exact congrArg (escapeChar c ++ ·) ih

/-- White space is no entity. -/
theorem blanked_escape (text : Text) : blanked (escape text) = escape (blanked text) := by
  have single : ∀ c : Char, (escapeChar c).map blankedChar = escapeChar (blankedChar c) := by
    intro c
    by_cases space : isSpace c = true
    · have blank : blankedChar c = ' ' := if_pos space
      rw [escapeChar_of_isSpace space, List.map_singleton, blank]
      rfl
    · have kept : ∀ d ∈ escapeChar c, blankedChar d = d := fun d member =>
        if_neg fun own => space (eq_of_mem_escapeChar member own ▸ own)
      rw [List.map_congr_left kept, List.map_id', blankedChar, if_neg space]
  rw [blanked, blanked, escape, escape, List.map_flatMap, List.flatMap_map]
  exact List.flatMap_congr fun c _ => single c

section Places

variable {place : Place} {front rest : Text}

theorem Place.behind_of_not_mem_markup {c : Char} (plain : c ∉ markup) :
    place.behind c = place := by
  simp only [markup, List.mem_cons, List.not_mem_nil, or_false, not_or] at plain
  cases place <;> simp [Place.behind, plain]

theorem blankValuesFrom_append (stays : ∀ c ∈ front, place.behind c = place) :
    blankValuesFrom place (front ++ rest) =
      (if place = .value then blanked front else front) ++ blankValuesFrom place rest := by
  induction front with
  | nil => split <;> rfl
  | cons c front ih =>
      rw [List.cons_append, blankValuesFrom, stays c List.mem_cons_self,
        ih fun d member => stays d (List.mem_cons_of_mem c member)]
      split <;> rfl

/-- A sign that is no white space is left as it is. -/
theorem normaliseFrom_cons {c : Char} (solid : isSpace c = false) :
    normaliseFrom place (c :: rest) = c :: normaliseFrom (place.behind c) rest := by
  have same : (if place = .value then blankedChar c else c) = c := by
    rw [blankedChar, solid, if_neg Bool.false_ne_true, ite_self]
  have other : c ≠ '\r' := by
    rintro rfl
    cases solid
  rw [normaliseFrom, withNewlines_cons other, blankValuesFrom, same]
  rfl

/-- Outside values a text is left as it is as long as no sign leads to another place. -/
theorem normaliseFrom_append (outside : place ≠ .value) (absent : '\r' ∉ front)
    (stays : ∀ c ∈ front, place.behind c = place) :
    normaliseFrom place (front ++ rest) = front ++ normaliseFrom place rest := by
  rw [normaliseFrom, withNewlines_append absent, blankValuesFrom_append stays, if_neg outside]
  rfl

/-- An escaped text leads to no other place, and its white space is that of the text. -/
theorem normaliseFrom_escape (place : Place) (text : Text) (next : rest.head? ≠ some '\n') :
    normaliseFrom place (escape text ++ rest) =
      escape (if place = .value then normalisedValue text else withNewlines text) ++
        normaliseFrom place rest := by
  have stays : ∀ c ∈ escape (withNewlines text), place.behind c = place := fun c member =>
    Place.behind_of_not_mem_markup fun marks => not_mem_escape marks _ member
  rw [normaliseFrom, withNewlines_append_of_head next, withNewlines_escape,
    blankValuesFrom_append stays, blanked_escape, apply_ite escape]
  rfl

end Places

section Tags

variable {name : Text} {attributes : List Attribute}

theorem normaliseFrom_name (isName : IsName name) (rest : Text) :
    normaliseFrom .tag (name ++ rest) = name ++ normaliseFrom .tag rest := by
  have other : ∀ sign, isNameSign sign = false → ∀ c ∈ name, c ≠ sign := by
    rintro sign apart c member rfl
    rw [isName.2 c member] at apart
    cases apart
  refine normaliseFrom_append (by decide) (fun member => other '\r' (by decide) _ member rfl) ?_
  intro c member
  rw [Place.behind, if_neg (other '>' (by decide) c member),
    if_neg (other '"' (by decide) c member)]

theorem normaliseFrom_writeAttribute {pair : Attribute} (isName : IsName pair.name) (rest : Text) :
    normaliseFrom .tag (writeAttribute pair ++ rest) =
      writeAttribute (pair.mapValue normalisedValue) ++ normaliseFrom .tag rest := by
  have whole (value : Text) (rest : Text) : writeAttribute ⟨pair.name, value⟩ ++ rest =
      [' '] ++ (pair.name ++ '=' :: '"' :: (escape value ++ '"' :: rest)) := by
    simp [writeAttribute]
  have blank (rest : Text) : normaliseFrom .tag ([' '] ++ rest) = [' '] ++ normaliseFrom .tag rest :=
    normaliseFrom_append (by decide) (by decide) (List.forall_mem_singleton.mpr rfl)
  rw [Attribute.mapValue, whole, whole, blank, normaliseFrom_name isName,
    normaliseFrom_cons (by decide), normaliseFrom_cons (by decide)]
  have value := normaliseFrom_escape .value pair.value
    (show ('"' :: rest).head? ≠ some '\n' by simp)
  rw [normaliseFrom_cons (by decide)] at value
  exact congrArg (fun value => [' '] ++ (pair.name ++ '=' :: '"' :: value)) value

/-- A tag is normalised in its values. -/
theorem normaliseFrom_tag (tag : IsTag name attributes) (rest : Text) :
    normaliseFrom .tag (name ++ (attributes.flatMap writeAttribute ++ rest)) =
      name ++ ((attributes.map (·.mapValue normalisedValue)).flatMap writeAttribute ++
        normaliseFrom .tag rest) := by
  obtain ⟨isName, labels⟩ := tag
  rw [normaliseFrom_name isName]
  congr 1
  induction attributes with
  | nil => rfl
  | cons pair more ih =>
      obtain ⟨own, later⟩ := List.forall_mem_cons.mp labels
      rw [List.flatMap_cons, List.append_assoc, normaliseFrom_writeAttribute own, ih later,
        List.map_cons, List.flatMap_cons, List.append_assoc]

theorem normaliseFrom_writeClosing (isName : IsName name) (rest : Text) :
    normaliseFrom .content (writeClosing name ++ rest) =
      writeClosing name ++ normaliseFrom .content rest := by
  have whole (rest : Text) : writeClosing name ++ rest = '<' :: '/' :: (name ++ '>' :: rest) := by
    simp [writeClosing]
  rw [whole, whole, normaliseFrom_cons (by decide), normaliseFrom_cons (by decide)]
  have named := normaliseFrom_name isName ('>' :: rest)
  rw [normaliseFrom_cons (by decide)] at named
  exact congrArg ('<' :: '/' :: ·) named

theorem normaliseFrom_gap (depth : Nat) (rest : Text) :
    normaliseFrom .content (gap depth ++ rest) = gap depth ++ normaliseFrom .content rest := by
  refine normaliseFrom_append (by decide) (fun member => ?_) fun c member => ?_
  · rcases mem_gap member with same | same <;> cases same
  · rcases mem_gap member with rfl | rfl <;> rfl

end Tags

mutual

/-- **What stands behind the bracket of an element is normalised as the element.** -/
theorem normaliseFrom_tail : ∀ (root : Element), root.Named → ∀ (depth : Nat) (rest : Text),
    normaliseFrom .tag (root.tail depth ++ rest) =
      root.normalised.tail depth ++ normaliseFrom .content rest
  | .closed name attributes, named, depth, rest => by
      have own := normaliseFrom_tag (Element.named_closed.mp named) ('/' :: '>' :: rest)
      rw [normaliseFrom_cons (by decide), normaliseFrom_cons (by decide)] at own
      simpa [Element.tail, Element.normalised, Element.mapTexts, Place.behind] using own
  | .inline name attributes text, named, depth, rest => by
      have tag := Element.named_inline.mp named
      have own := normaliseFrom_tag tag ('>' :: (escape text ++ (writeClosing name ++ rest)))
      have inside := normaliseFrom_escape .content text
        (show (writeClosing name ++ rest).head? ≠ some '\n' by simp [writeClosing])
      rw [normaliseFrom_writeClosing tag.1] at inside
      rw [normaliseFrom_cons (by decide)] at own
      simpa [Element.tail, Element.normalised, Element.mapTexts, Place.behind, inside] using own
  | .block name attributes children, named, depth, rest => by
      obtain ⟨tag, inside⟩ := Element.named_block.mp named
      have own := normaliseFrom_tag tag ('>' ::
        (below (depth + 1) children ++ (gap depth ++ (writeClosing name ++ rest))))
      have content := normaliseFrom_below children inside (depth + 1)
        (gap depth ++ (writeClosing name ++ rest))
      rw [normaliseFrom_gap, normaliseFrom_writeClosing tag.1] at content
      rw [normaliseFrom_cons (by decide)] at own
      simpa [Element.tail, Element.normalised, Element.mapTexts, Place.behind, content] using own

/-- Elements below each other are normalised one by one. -/
theorem normaliseFrom_below : ∀ (children : List Element), (∀ child ∈ children, child.Named) →
    ∀ (depth : Nat) (rest : Text),
      normaliseFrom .content (below depth children ++ rest) =
        below depth (mapTextsOf normalisedValue withNewlines children) ++
          normaliseFrom .content rest
  | [], _, depth, rest => rfl
  | child :: more, named, depth, rest => by
      obtain ⟨first, later⟩ := List.forall_mem_cons.mp named
      have own := normaliseFrom_tail child first depth (below depth more ++ rest)
      rw [normaliseFrom_below more later] at own
      rw [mapTextsOf, below_cons, below_cons, List.append_assoc, List.cons_append,
        List.append_assoc, normaliseFrom_gap, normaliseFrom_cons (by decide), Place.behind,
        if_pos rfl, own, List.append_assoc, List.cons_append, List.append_assoc]
      rfl

end

/-- A document is normalised as its root. -/
theorem normaliseFrom_document {root : Element} (named : root.Named) :
    normaliseFrom .content (document root) = document root.normalised := by
  have first (rest : Text) : normaliseFrom .content (declaration ++ '\n' :: '<' :: rest) =
      declaration ++ '\n' :: '<' :: normaliseFrom .tag rest := by
    rw [normaliseFrom, withNewlines_append (by decide)]
    rfl
  have whole := normaliseFrom_tail root named 0 []
  rw [List.append_nil] at whole
  rw [document_eq, first, whole, document_eq]
  exact congrArg (declaration ++ '\n' :: '<' :: ·) (List.append_nil _)

/-! ## Values that are kept -/

theorem map_eq_self_iff {α : Type} {change : α → α} {row : List α} :
    row.map change = row ↔ ∀ x ∈ row, change x = x := by
  induction row with
  | nil => exact iff_of_true rfl nofun
  | cons x row ih => rw [List.map_cons, List.cons.injEq, ih, List.forall_mem_cons]

/-- A text without white space but blanks. -/
def Unbroken (value : Text) : Prop :=
  ∀ c ∈ value, c ∉ ['\t', '\n', '\r']

instance (value : Text) : Decidable (Unbroken value) :=
  decidable_of_iff (value.all (· ∉ ['\t', '\n', '\r']) = true)
    (List.all_eq_true.trans (forall₂_congr fun _ _ => decide_eq_true_iff))

/-- White space is a blank or breaks a value. -/
theorem isSpace_iff {c : Char} : isSpace c = true ↔ c = ' ' ∨ c ∈ ['\t', '\n', '\r'] := by
  simp only [isSpace, Bool.or_eq_true, beq_iff_eq, List.mem_cons, List.not_mem_nil, or_false]
  tauto

/-- **A processor keeps a value that is not broken, and no other.** -/
theorem normalisedValue_eq_self {value : Text} : normalisedValue value = value ↔ Unbroken value := by
  constructor
  · intro same c member breaks
    rw [← same] at member
    obtain ⟨d, -, rfl⟩ := List.mem_map.mp member
    by_cases space : isSpace d = true
    · rw [blankedChar, if_pos space] at breaks
      exact absurd breaks (by decide)
    · rw [blankedChar, if_neg space] at breaks
      exact space (isSpace_iff.mpr (.inr breaks))
  · intro unbroken
    have absent : '\r' ∉ value := fun member => unbroken _ member (by decide)
    have single : withNewlines value = value := by
      have whole := withNewlines_append absent []
      rwa [List.append_nil, withNewlines, List.append_nil] at whole
    have kept : ∀ c ∈ value, blankedChar c = c := by
      intro c member
      by_cases space : isSpace c = true
      · rcases isSpace_iff.mp space with blank | breaks
        · rw [blankedChar, if_pos space, blank]
        · exact absurd breaks (unbroken c member)
      · exact if_neg space
    rw [normalisedValue, single]
    exact map_eq_self_iff.mpr kept

/-! ## Characters that are allowed -/

/-- The texts in an element that are not its children's. -/
def Element.ownTexts : Element → List Text
  | .closed _ attributes => attributes.map Attribute.value
  | .inline _ attributes text => attributes.map Attribute.value ++ [text]
  | .block _ attributes _ => attributes.map Attribute.value

/-- All values and texts in an element. -/
def Element.texts (root : Element) : List Text :=
  root.all.flatMap Element.ownTexts

theorem Element.texts_block (name : Text) (attributes : List Attribute) (children : List Element) :
    (Element.block name attributes children).texts =
      attributes.map Attribute.value ++ children.flatMap Element.texts := by
  rw [texts, all, List.flatMap_cons, allOf_eq_flatMap, List.flatMap_assoc]
  rfl

section Permitted

variable {name : Text} {attributes : List Attribute} {first second : Text}

theorem permitted_append : Permitted (first ++ second) ↔ Permitted first ∧ Permitted second :=
  List.forall_mem_append

theorem permitted_cons {c : Char} (allowed : isAllowed c = true) :
    Permitted (c :: first) ↔ Permitted first := by
  rw [Permitted, List.forall_mem_cons, and_iff_right allowed]
  rfl

theorem bounds_of_isAlphanum {c : Char} (sign : c.isAlphanum = true) :
    48 ≤ c.toNat ∧ c.toNat ≤ 122 := by
  rcases Bool.or_eq_true_iff.mp sign with letter | digit
  · rcases Bool.or_eq_true_iff.mp letter with upper | lower
    · have bounds : 65 ≤ c.toNat ∧ c.toNat ≤ 90 := of_decide_eq_true upper
      omega
    · obtain ⟨least, most⟩ := Bool.and_eq_true_iff.mp lower
      have bounds : 97 ≤ c.toNat ∧ c.toNat ≤ 122 :=
        ⟨of_decide_eq_true least, of_decide_eq_true most⟩
      omega
  · have bounds := bounds_of_isDigit digit
    omega

theorem isAllowed_of_isNameSign {c : Char} (sign : isNameSign c = true) : isAllowed c = true := by
  simp only [isNameSign, Bool.or_eq_true, beq_iff_eq] at sign
  rcases sign with ((letter | rfl) | rfl) | rfl
  · have bounds := bounds_of_isAlphanum letter
    have range : 0x20 ≤ c.toNat ∧ c.toNat ≤ 0xD7FF := by omega
    simp [isAllowed, range]
  all_goals decide

theorem permitted_name (isName : IsName name) : Permitted name := fun c member =>
  isAllowed_of_isNameSign (isName.2 c member)

/-- Escaping brings in no character that is not allowed and takes none away. -/
theorem permitted_escape {text : Text} : Permitted (escape text) ↔ Permitted text := by
  have single (c : Char) : Permitted (escapeChar c) ↔ isAllowed c = true := by
    rcases escapeChar_cases c with entity | ⟨-, same⟩
    · have both : ∀ pair ∈ entities, Permitted pair.2 ∧ isAllowed pair.1 = true := by decide
      exact iff_of_true (both _ entity).1 (both _ entity).2
    · rw [same]
      exact List.forall_mem_singleton
  rw [Permitted, escape, List.forall_mem_flatMap]
  exact forall₂_congr fun c _ => single c

theorem permitted_writeAttribute {pair : Attribute} (isName : IsName pair.name) :
    Permitted (writeAttribute pair) ↔ Permitted pair.value := by
  have signs : isAllowed ' ' = true ∧ isAllowed '=' = true ∧ isAllowed '"' = true := by decide
  have quote : Permitted ['"'] := by decide
  rw [writeAttribute, permitted_append, and_iff_left quote, List.cons_append,
    permitted_cons signs.1, permitted_append, and_iff_right (permitted_name isName),
    permitted_cons signs.2.1, permitted_cons signs.2.2, permitted_escape]

theorem permitted_tag (tag : IsTag name attributes) :
    Permitted (name ++ attributes.flatMap writeAttribute) ↔
      ∀ text ∈ attributes.map Attribute.value, Permitted text := by
  rw [permitted_append, and_iff_right (permitted_name tag.1), Permitted, List.forall_mem_flatMap,
    List.forall_mem_map]
  exact forall₂_congr fun pair member =>
    permitted_writeAttribute (tag.2 _ (List.mem_map_of_mem member))

theorem permitted_writeClosing (isName : IsName name) : Permitted (writeClosing name) := by
  have bracket : Permitted ['>'] := by decide
  rw [writeClosing, List.cons_append, List.cons_append, permitted_cons (by decide),
    permitted_cons (by decide), permitted_append]
  exact ⟨permitted_name isName, bracket⟩

theorem permitted_gap (depth : Nat) : Permitted (gap depth) := by
  intro c member
  rcases mem_gap member with rfl | rfl <;> decide

end Permitted

mutual

/-- **An element is written in allowed characters when its texts are.** -/
theorem permitted_tail : ∀ (root : Element), root.Named → ∀ (depth : Nat),
    Permitted (root.tail depth) ↔ ∀ text ∈ root.texts, Permitted text
  | .closed name attributes, named, depth => by
      have ending : Permitted ['/', '>'] := by decide
      rw [Element.tail, ← List.append_assoc, permitted_append,
        permitted_tag (Element.named_closed.mp named), and_iff_left ending]
      simp [Element.texts, Element.all, Element.ownTexts]
  | .inline name attributes text, named, depth => by
      have tag := Element.named_inline.mp named
      rw [Element.tail, ← List.append_assoc, permitted_append, permitted_tag tag,
        permitted_cons (by decide), permitted_append, permitted_escape,
        and_iff_left (permitted_writeClosing tag.1)]
      simp [Element.texts, Element.all, Element.ownTexts, or_imp, forall_and]
  | .block name attributes children, named, depth => by
      obtain ⟨tag, inside⟩ := Element.named_block.mp named
      have ending : Permitted (gap depth ++ writeClosing name) :=
        permitted_append.mpr ⟨permitted_gap depth, permitted_writeClosing tag.1⟩
      rw [Element.tail, ← List.append_assoc, permitted_append, permitted_tag tag,
        permitted_cons (by decide), permitted_append, and_iff_left ending,
        permitted_below children inside, Element.texts_block, List.forall_mem_append,
        List.forall_mem_flatMap]

theorem permitted_below : ∀ (children : List Element), (∀ child ∈ children, child.Named) →
    ∀ (depth : Nat), Permitted (below depth children) ↔
      ∀ child ∈ children, ∀ text ∈ child.texts, Permitted text
  | [], _, depth => iff_of_true nofun nofun
  | child :: more, named, depth => by
      obtain ⟨first, later⟩ := List.forall_mem_cons.mp named
      rw [below_cons, permitted_append, and_iff_right (permitted_gap depth),
        permitted_cons (by decide), permitted_append, permitted_tail child first,
        permitted_below more later, List.forall_mem_cons]

end

theorem permitted_document {root : Element} (named : root.Named) :
    Permitted (document root) ↔ ∀ text ∈ root.texts, Permitted text := by
  have first : Permitted declaration := by decide
  rw [document_eq, permitted_append, and_iff_right first, permitted_cons (by decide),
    permitted_cons (by decide), permitted_tail root named]

/-- **A document is refused for a character that is not allowed in one of its texts.** Otherwise it
is read as its root with blanks for white space in values and newlines for line ends in texts. -/
theorem process?_document {root : Element} (named : root.Named) :
    process? (document root) =
      if ∀ text ∈ root.texts, Permitted text then some (root.normalised.node 0) else none := by
  have changed : root.normalised.Named := named.mapTexts _ _
  rw [process?, normaliseFrom_document named, read?_document changed]
  exact if_congr (permitted_document named) rfl rfl

/-! ## Tags -/

mutual

/-- The tags of a node and of all that are in it, in their order. -/
def Node.tags : Node → List (Text × List Attribute)
  | .text _ => []
  | .element name attributes content => (name, attributes) :: tagsOf content

/-- The tags of a row of nodes. -/
def tagsOf : List Node → List (Text × List Attribute)
  | [] => []
  | node :: more => node.tags ++ tagsOf more

end

/-- The tag of an element. -/
def Element.tag (root : Element) : Text × List Attribute :=
  (root.name, root.attributes)

theorem tagsOf_append (first second : List Node) :
    tagsOf (first ++ second) = tagsOf first ++ tagsOf second := by
  induction first with
  | nil => rfl
  | cons node more ih => rw [List.cons_append, tagsOf, ih, tagsOf, List.append_assoc]

mutual

/-- The tags of the node of an element are the tags of its elements. -/
theorem Element.tags_node : ∀ (root : Element) (depth : Nat),
    (root.node depth).tags = root.all.map Element.tag
  | .closed name attributes, depth => rfl
  | .inline name attributes text, depth => by
      rw [Element.node]
      split <;> rfl
  | .block name attributes children, depth => by
      rw [Element.node, Node.tags, tagsOf_append, tagsOf_childNodes children]
      exact congrArg ((name, attributes) :: ·) (List.append_nil _)

theorem tagsOf_childNodes : ∀ (children : List Element) (depth : Nat),
    tagsOf (childNodes depth children) = (allOf children).map Element.tag
  | [], depth => rfl
  | child :: more, depth => by
      rw [childNodes, tagsOf, tagsOf, child.tags_node, tagsOf_childNodes more, allOf,
        List.map_append]
      rfl

end

/-- The number of elements of a name in a tree of nodes. -/
def Node.countOf (asked : Text) (root : Node) : Nat :=
  root.tags.countP (·.1 = asked)

/-- The values that an attribute has in a tree of nodes. -/
def Node.valuesOf (asked : Text) (root : Node) : List Text :=
  root.tags.flatMap fun tag => (tag.2.filter (·.name = asked)).map Attribute.value

theorem Element.countOf_node (asked : Text) (root : Element) (depth : Nat) :
    (root.node depth).countOf asked = (root.elements asked).length := by
  rw [Node.countOf, tags_node, List.countP_map, elements, ← List.countP_eq_length_filter]
  rfl

theorem Element.valuesOf_node (asked : Text) (root : Element) (depth : Nat) :
    (root.node depth).valuesOf asked = root.values asked := by
  rw [Node.valuesOf, tags_node, List.flatMap_map]
  rfl

theorem tag_leaves {α : Type} {make : α → Element} (leaf : ∀ x, (make x).all = [make x])
    (row : List α) :
    ((row.map make).flatMap Element.all).map Element.tag = row.map fun x => (make x).tag := by
  rw [List.flatMap_map, List.map_flatMap, ← List.flatMap_pure_eq_map]
  refine List.flatMap_congr fun x _ => ?_
  rw [leaf]
  rfl

/-- A tag as a processor reads it. -/
def normalisedTag (tag : Text × List Attribute) : Text × List Attribute :=
  (tag.1, tag.2.map (·.mapValue normalisedValue))

/-- Only the values of tags are read otherwise than they were written. -/
theorem Element.tags_node_normalised (root : Element) (depth : Nat) :
    (root.normalised.node depth).tags = (root.all.map Element.tag).map normalisedTag := by
  rw [tags_node, normalised, all_mapTexts, List.map_map, List.map_map]
  refine List.map_congr_left fun element _ => ?_
  exact congrArg₂ Prod.mk (element.name_mapTexts _ _) (element.attributes_mapTexts _ _)

/-- All values in a row of tags. -/
def tagValues (tags : List (Text × List Attribute)) : List Text :=
  tags.flatMap fun tag => tag.2.map Attribute.value

/-- Tags are read as they were written when none of their values is broken. -/
theorem map_normalisedTag_eq_self {tags : List (Text × List Attribute)} :
    tags.map normalisedTag = tags ↔ ∀ value ∈ tagValues tags, Unbroken value := by
  have single (pair : Attribute) :
      pair.mapValue normalisedValue = pair ↔ Unbroken pair.value := by
    rw [← normalisedValue_eq_self, Attribute.mapValue]
    constructor
    · exact congrArg Attribute.value
    · intro same
      rw [same]
  rw [map_eq_self_iff, tagValues, List.forall_mem_flatMap]
  refine forall₂_congr fun tag _ => ?_
  rw [normalisedTag, Prod.ext_iff, and_iff_right rfl, map_eq_self_iff, List.forall_mem_map]
  exact forall₂_congr fun pair _ => single pair

end ReviewGate.Xml
