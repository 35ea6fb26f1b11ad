import ReviewGate.Xml.Escape

/-!
# Escaped texts are read back

A reader replaces the five entities in one pass from the left and takes every other character for
itself. An ampersand that begins no entity is an error, so there is one meaning at most. Escaping
writes one character after the other, and the form of each is read as that character whatever
stands behind it (`unescape?_escapeChar`); so an escaped text is read as the text, also when that
looks like an entity already (`unescape?_escape`). It makes no difference whether the characters are
escaped in one pass or replaced one after the other, as long as the ampersand is the first of them
(`replaceInTurn_entities`).

No character that ends a text or a value in quotes is left in an escaped text
(`not_mem_escape`), and every ampersand that is left begins an entity (`entity_of_ampersand`). All
of this together is what escaping is (`escape_characterwise`).
-/

set_option autoImplicit false

namespace ReviewGate.Xml

/-- The text that is meant by a text with entities. -/
def unescape? : Text → Option Text
  | [] => some []
  | '&' :: 'a' :: 'm' :: 'p' :: ';' :: rest => (unescape? rest).map ('&' :: ·)
  | '&' :: 'l' :: 't' :: ';' :: rest => (unescape? rest).map ('<' :: ·)
  | '&' :: 'g' :: 't' :: ';' :: rest => (unescape? rest).map ('>' :: ·)
  | '&' :: 'q' :: 'u' :: 'o' :: 't' :: ';' :: rest => (unescape? rest).map ('"' :: ·)
  | '&' :: 'a' :: 'p' :: 'o' :: 's' :: ';' :: rest => (unescape? rest).map ('\'' :: ·)
  | '&' :: _ => none
  | c :: rest => (unescape? rest).map (c :: ·)

theorem unescape?_cons {c : Char} (plain : c ≠ '&') (rest : Text) :
    unescape? (c :: rest) = (unescape? rest).map (c :: ·) := by
  rw [unescape?.eq_def]
  split <;> simp_all

/-- The characters that are written as entities, with their entities. -/
def entities : List (Char × Text) :=
  [('&', "&amp;".toList), ('>', "&gt;".toList), ('<', "&lt;".toList), ('"', "&quot;".toList),
    ('\'', "&apos;".toList)]

/-- A character is written as its entity, or as it is when it has none. -/
theorem escapeChar_cases (c : Char) :
    (c, escapeChar c) ∈ entities ∨ c ∉ entities.map Prod.fst ∧ escapeChar c = [c] := by
  by_cases marked : c ∈ entities.map Prod.fst
  · left
    revert marked
    simp only [entities, List.map_cons, List.map_nil, List.mem_cons, List.not_mem_nil, or_false]
    rintro (rfl | rfl | rfl | rfl | rfl) <;> decide
  · refine .inr ⟨marked, ?_⟩
    simp only [entities, List.map_cons, List.map_nil, List.mem_cons, List.not_mem_nil, or_false,
      not_or] at marked
    simp [escapeChar, marked]

/-- The form of a character is read as that character. -/
theorem unescape?_escapeChar (c : Char) (rest : Text) :
    unescape? (escapeChar c ++ rest) = (unescape? rest).map (c :: ·) := by
  rcases escapeChar_cases c with entity | ⟨plain, same⟩
  · revert entity
    generalize escapeChar c = written
    simp only [entities, List.mem_cons, List.not_mem_nil, or_false, Prod.mk.injEq]
    rintro (⟨rfl, rfl⟩ | ⟨rfl, rfl⟩ | ⟨rfl, rfl⟩ | ⟨rfl, rfl⟩ | ⟨rfl, rfl⟩) <;> rfl
  · rw [same]
    refine unescape?_cons (fun ampersand => plain ?_) rest
    rw [ampersand]
    decide

/-- **An escaped text is read as the text.** -/
theorem unescape?_escape (text : Text) : unescape? (escape text) = some text := by
  induction text with
  | nil => rfl
  | cons c rest ih =>
      rw [escape] at ih
      rw [escape, List.flatMap_cons, unescape?_escapeChar, ih, Option.map_some]

/-! ## Replacing one character after the other -/

/-- A text with an entity in every place of a character. -/
def replaceChar (sign : Char) (entity text : Text) : Text :=
  text.flatMap fun c => if c = sign then entity else [c]

/-- A text with characters replaced one after the other. -/
def replaceInTurn (pairs : List (Char × Text)) (text : Text) : Text :=
  pairs.foldl (fun text pair => replaceChar pair.1 pair.2 text) text

theorem replaceInTurn_append (pairs : List (Char × Text)) (first second : Text) :
    replaceInTurn pairs (first ++ second) =
      replaceInTurn pairs first ++ replaceInTurn pairs second := by
  induction pairs generalizing first second with
  | nil => rfl
  | cons pair more ih =>
      have one : replaceChar pair.1 pair.2 (first ++ second) =
          replaceChar pair.1 pair.2 first ++ replaceChar pair.1 pair.2 second :=
        List.flatMap_append
      simp only [replaceInTurn, List.foldl_cons, one] at ih ⊢
      exact ih _ _

theorem replaceInTurn_of_not_mem {pairs : List (Char × Text)} {c : Char}
    (plain : c ∉ pairs.map Prod.fst) : replaceInTurn pairs [c] = [c] := by
  induction pairs with
  | nil => rfl
  | cons pair more ih =>
      obtain ⟨other, later⟩ := not_or.mp (mt List.mem_cons.mpr plain)
      have still : replaceChar pair.1 pair.2 [c] = [c] := by
        rw [replaceChar, List.flatMap_singleton, if_neg other]
      rw [replaceInTurn, List.foldl_cons, still]
      exact ih later

/-- The ampersand is replaced first, so none of the entities is escaped again. -/
theorem replaceInTurn_entities (text : Text) : replaceInTurn entities text = escape text := by
  induction text with
  | nil => rfl
  | cons c text ih =>
      have own : replaceInTurn entities [c] = escapeChar c := by
        rcases escapeChar_cases c with entity | ⟨plain, same⟩
        · have written : ∀ pair ∈ entities, replaceInTurn entities [pair.1] = pair.2 := by decide
          exact written (c, escapeChar c) entity
        · rw [same, replaceInTurn_of_not_mem plain]
      rw [← List.singleton_append, replaceInTurn_append, own, ih]
      rfl

/-! ## No markup is left -/

/-- The characters that are not left in an escaped text. -/
def markup : List Char := ['<', '>', '"', '\'']

theorem signs_markup {sign : Char} (marks : sign ∈ markup) :
    sign = '<' ∨ sign = '>' ∨ sign = '"' ∨ sign = '\'' := by
  simpa [markup] using marks

/-- **No markup is left in an escaped text.** -/
theorem not_mem_escape {sign : Char} (marks : sign ∈ markup) (text : Text) :
    sign ∉ escape text := by
  intro member
  obtain ⟨c, _, inside⟩ := List.mem_flatMap.mp member
  rcases escapeChar_cases c with entity | ⟨plain, same⟩
  · have free : ∀ pair ∈ entities, sign ∉ pair.2 := by
      rcases signs_markup marks with rfl | rfl | rfl | rfl <;> decide
    exact free _ entity inside
  · have listed : sign ∈ entities.map Prod.fst := by
      rcases signs_markup marks with rfl | rfl | rfl | rfl <;> decide
    exact plain (List.mem_singleton.mp (same ▸ inside) ▸ listed)

theorem ampersand_heads_entity {pair : Char × Text} (listed : pair ∈ entities) :
    ∃ rest, pair.2 = '&' :: rest ∧ '&' ∉ rest := by
  simp only [entities, List.mem_cons, List.not_mem_nil, or_false] at listed
  rcases listed with rfl | rfl | rfl | rfl | rfl <;> exact ⟨_, rfl, by decide⟩

/-- **Every ampersand of an escaped text begins an entity.** -/
theorem entity_of_ampersand {text front back : Text} (split : escape text = front ++ '&' :: back) :
    ∃ pair ∈ entities, pair.2 <+: '&' :: back := by
  induction text generalizing front with
  | nil => simp [escape] at split
  | cons c text ih =>
      rw [escape, List.flatMap_cons] at split
      rcases List.append_eq_append_iff.mp split with ⟨more, rfl, later⟩ | ⟨more, own, later⟩
      · exact ih later
      · cases more with
        | nil =>
            have split : escape text = [] ++ '&' :: back := later.symm
            exact ih split
        | cons d more =>
            -- The ampersand belongs to the form of the first character.
            obtain ⟨rfl, later⟩ := List.cons.inj later
            rcases escapeChar_cases c with entity | ⟨plain, same⟩
            · obtain ⟨rest, form, single⟩ := ampersand_heads_entity entity
              have first : front = [] := by
                cases front with
                | nil => rfl
                | cons d front =>
                    obtain ⟨-, inside⟩ := List.cons.inj (form.symm.trans own)
                    exact absurd (inside ▸ List.mem_append_right front List.mem_cons_self) single
              refine ⟨_, entity, text.flatMap escapeChar, ?_⟩
              rw [later, own, first]
              rfl
            · have only : '&' ∈ [c] :=
                (same.symm.trans own) ▸ List.mem_append_right front List.mem_cons_self
              rw [← List.mem_singleton.mp only] at plain
              exact absurd (by decide) plain

/-! ## Escaping as a whole -/

/-- A character is written as its entity, if it has one. -/
theorem escapeChar_eq_lookup (c : Char) : escapeChar c = (entities.lookup c).getD [c] := by
  rcases escapeChar_cases c with entity | ⟨plain, same⟩
  · have written : ∀ pair ∈ entities, entities.lookup pair.1 = some pair.2 := by decide
    rw [written _ entity, Option.getD_some]
  · have none : entities.lookup c = none :=
      List.lookup_eq_none_iff.mpr fun pair listed => by
        rw [bne_iff_ne]
        rintro rfl
        exact plain (List.mem_map_of_mem listed)
    rw [same, none, Option.getD_none]

/-- **Escaping works character by character and is undone by reading.** Replacing the five
characters one after the other writes each character as its entity, whatever surrounds it, so the
parts of a text are escaped apart. Reading the entities in one pass gives the text again, so no two
texts are escaped alike. No markup is left but ampersands, and each of them begins an entity. -/
theorem escape_characterwise (first second : Text) :
    replaceInTurn entities first = escape first ∧
      escape first = first.flatMap (fun c => (entities.lookup c).getD [c]) ∧
      escape (first ++ second) = escape first ++ escape second ∧
      unescape? (escape first) = some first ∧
      (escape first = escape second ↔ first = second) ∧
      (∀ sign ∈ markup, sign ∉ escape first) ∧
      ∀ front back, escape first = front ++ '&' :: back →
        ∃ pair ∈ entities, pair.2 <+: '&' :: back := by
  refine ⟨replaceInTurn_entities first, ?_, List.flatMap_append, unescape?_escape first, ?_,
    fun sign marks => not_mem_escape marks first, fun front back => entity_of_ampersand⟩
  · exact congrArg first.flatMap (funext escapeChar_eq_lookup)
  · constructor
    · intro same
      have read := unescape?_escape first
      rw [same, unescape?_escape] at read
      exact (Option.some.inj read).symm
    · exact congrArg escape

/-- An ampersand that began an entity before begins one behind it. -/
theorem escape_characterwise_entity :
    escape "&lt;".toList = "&amp;lt;".toList ∧
      unescape? "&amp;lt;".toList = some "&lt;".toList ∧
      ∃ pair ∈ entities, pair.2 <+: '&' :: "amp;lt;".toList := by
  obtain ⟨-, -, -, read, -, -, ampersands⟩ := escape_characterwise "&lt;".toList []
  exact ⟨rfl, read, ampersands [] "amp;lt;".toList rfl⟩

end ReviewGate.Xml
