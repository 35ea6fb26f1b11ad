import ReviewGate.Proofs.Text.Reading
import ReviewGate.Source.Boundary

/-!
# The grammar of headers

A header has one of five shapes. At the left margin it is that of a function, a
class or a definition: optional words in a fixed order, a keyword and a name,
with anything behind them. Indented it is a definition with a colon at the end,
or a method: modifiers in any order, a name, parameters, perhaps a result type,
and the mark that opens a body.

The grammar says what the shapes are and not how they are found. Each test for
a shape agrees with it, and a header has at most one name in it, which is the
last word in front of the first bracket (`Header.name_eq`). So a line can be
judged by any one of its derivations: it is a boundary exactly when it is a
line of code with a header that is named by no word for the control of a
program.
-/

set_option autoImplicit false

namespace ReviewGate.Source

open Text

/-! ## The grammar -/

/-- Optional words, a keyword and a name, with a text behind them. -/
inductive Opening (words keywords : List Text) (rest : Text) : Text → Prop
  | mk {front keyword gap name : Text} (optionals : Optionals words front)
      (isKeyword : keyword ∈ keywords) (isGap : Gap gap) (isName : IsWord name) :
      Opening words keywords rest (front ++ (keyword ++ (gap ++ (name ++ rest))))

/-- The words in front of the header of a function. -/
def functionWords : List Text :=
  ["export".toList, "default".toList, "async".toList]

/-- The keyword of a function and that of a generator. -/
def functionKeywords : List Text :=
  ["function".toList, "function*".toList]

/-- The words in front of the header of a class. -/
def classWords : List Text :=
  ["export".toList, "default".toList, "abstract".toList]

/-- An indented definition with a colon at the end. Its parameters stand on one line. -/
inductive IndentedDefinition : Text → Prop
  | mk {indent body gap params back : Text} (indented : Gap indent)
      (opening : Opening ["async".toList] ["def".toList]
        (gap ++ '(' :: (params ++ ':' :: back)) body)
      (blank : Blank gap) (single : '\n' ∉ params) (ends : Blank back) :
      IndentedDefinition (indent ++ body)

/-- Modifiers in any order, each with white space behind it. -/
inductive Modifiers : Text → Prop
  | nil : Modifiers []
  | cons {word gap more : Text} (isModifier : word ∈ methodModifiers) (isGap : Gap gap)
      (rest : Modifiers more) : Modifiers (word ++ (gap ++ more))

/-- A result type behind a colon, or nothing. -/
inductive ResultType : Text → Prop
  | absent : ResultType []
  | present {gap type : Text} (blank : Blank gap) (filled : type ≠ [])
      (plain : ∀ c ∈ type, c ≠ '=' ∧ c ≠ '{' ∧ c ≠ ';') : ResultType (':' :: (gap ++ type))

/-- What stands behind the parameters of a method. -/
inductive MethodTail : Text → Prop
  | mk {gap result back : Text} {mark : Char} (blank : Blank gap) (typed : ResultType result)
      (opens : opensBody mark = true) (ends : Blank back) :
      MethodTail (gap ++ (result ++ mark :: back))

/-- The method of a name. -/
inductive Method (name : Text) : Text → Prop
  | mk {indent modifiers gap params tail : Text} (indented : Gap indent)
      (modified : Modifiers modifiers) (isName : IsWord name) (blank : Blank gap)
      (closed : ')' ∉ params) (opens : MethodTail tail) :
      Method name (indent ++ (modifiers ++ (name ++ (gap ++ '(' :: (params ++ ')' :: tail)))))

/-- The headers, with the name of the method if it is one. -/
inductive Header : Option Text → Text → Prop
  | function {rest raw : Text} (opening : Opening functionWords functionKeywords rest raw) :
      Header none raw
  | ofClass {rest raw : Text} (opening : Opening classWords ["class".toList] rest raw) :
      Header none raw
  | definition {rest raw : Text} (opening : Opening ["async".toList] ["def".toList] rest raw) :
      Header none raw
  | indentedDefinition {raw : Text} (indented : IndentedDefinition raw) : Header none raw
  | method {name raw : Text} (isMethod : Method name raw) : Header (some name) raw

/-! ## Headers at the left margin -/

theorem distinct_functionWords : Distinct functionWords 'f' := by decide

theorem distinct_classWords : Distinct classWords 'c' := by decide

theorem distinct_async : Distinct ["async".toList] 'd' := by decide

section Opening

variable {words keywords : List Text} {keyword behind rest raw text : Text} {c : Char}

theorem beginsName_iff : beginsName text = true ↔
    ∃ gap name rest, Gap gap ∧ IsWord name ∧ text = gap ++ (name ++ rest) := by
  constructor
  · intro begins
    obtain ⟨behind, read, starts⟩ := (Option.any_eq_true _ _).mp begins
    obtain ⟨gap, isGap, rfl⟩ := exists_of_afterSome? read
    obtain ⟨c, first, word⟩ := startsIn_iff.mp starts
    obtain ⟨rest, rfl⟩ := List.head?_eq_some_iff.mp first
    refine ⟨gap, [c], rest, isGap, ⟨List.cons_ne_nil c [], fun d member => ?_⟩, rfl⟩
    rwa [List.mem_singleton.mp member]
  · rintro ⟨gap, name, rest, isGap, isName, rfl⟩
    have ends : ∀ c ∈ (name ++ rest).head?, isBlank c = false := fun c first =>
      isBlank_of_isWord (isName.head rest c first)
    obtain ⟨c, more, rfl, word⟩ := isName.exists_cons
    rw [beginsName, afterBlank?, afterSome?_append isGap ends, Option.any_some]
    exact word

theorem exists_opening (isKeyword : keyword ∈ keywords)
    (left : skipWords words raw = keyword ++ behind) (begins : beginsName behind = true) :
    ∃ rest, Opening words keywords rest raw := by
  obtain ⟨front, optionals, whole⟩ := exists_skipWords words raw
  obtain ⟨gap, name, rest, isGap, isName, rfl⟩ := beginsName_iff.mp begins
  rw [left] at whole
  exact ⟨rest, whole ▸ .mk optionals isKeyword isGap isName⟩

namespace Opening

/-- What is left of an opening when the optional words are skipped. -/
theorem skipWords_eq (opening : Opening words keywords rest raw) (distinct : Distinct words c)
    (begins : ∀ keyword ∈ keywords, c ∈ keyword.head?) :
    ∃ keyword ∈ keywords, ∃ gap name, Gap gap ∧ IsWord name ∧
      skipWords words raw = keyword ++ (gap ++ (name ++ rest)) := by
  obtain @⟨front, keyword, gap, name, optionals, isKeyword, isGap, isName⟩ := opening
  refine ⟨keyword, isKeyword, gap, name, isGap, isName, ?_⟩
  obtain ⟨more, rfl⟩ := List.head?_eq_some_iff.mp (begins keyword isKeyword)
  exact skipWords_append optionals distinct rfl

/-- An opening does not begin with white space. -/
theorem head (opening : Opening words keywords rest raw) (distinct : Distinct words c)
    (begins : ∀ keyword ∈ keywords, c ∈ keyword.head?) : ∃ d ∈ raw.head?, isBlank d = false := by
  obtain @⟨front, keyword, gap, name, optionals, isKeyword, isGap, isName⟩ := opening
  obtain ⟨more, rfl⟩ := List.head?_eq_some_iff.mp (begins keyword isKeyword)
  have begins : c ∈ (c :: more ++ (gap ++ (name ++ rest))).head? := rfl
  obtain ⟨d, first, among⟩ := optionals.head distinct begins
  exact ⟨d, first, by simpa using distinct.solid (some d) among⟩

theorem at_margin (opening : Opening words keywords rest raw) (distinct : Distinct words c)
    (begins : ∀ keyword ∈ keywords, c ∈ keyword.head?) : startsIn isBlank raw = false := by
  obtain ⟨d, first, solid⟩ := opening.head distinct begins
  obtain ⟨more, rfl⟩ := List.head?_eq_some_iff.mp first
  exact solid

end Opening

theorem isFunctionHeader_iff :
    isFunctionHeader raw = true ↔ ∃ rest, Opening functionWords functionKeywords rest raw := by
  have skipped : skipWord "async".toList (skipWord "default".toList
      (skipWord "export".toList raw)) = skipWords functionWords raw := rfl
  rw [isFunctionHeader, skipped]
  constructor
  · intro header
    split at header
    next rest read =>
      have left := after?_eq_some_iff.mp read
      cases star : after? "*".toList rest with
      | none =>
          rw [star, Option.getD_none] at header
          have isKeyword : "function".toList ∈ functionKeywords := by decide
          exact exists_opening isKeyword left header
      | some behind =>
          rw [star, Option.getD_some] at header
          rw [after?_eq_some_iff.mp star] at left
          have isKeyword : "function*".toList ∈ functionKeywords := by decide
          exact exists_opening isKeyword left header
    next => cases header
  · rintro ⟨rest, opening⟩
    obtain ⟨keyword, isKeyword, gap, name, isGap, isName, left⟩ :=
      opening.skipWords_eq distinct_functionWords (by decide)
    have begins : beginsName (gap ++ (name ++ rest)) = true :=
      beginsName_iff.mpr ⟨gap, name, rest, isGap, isName, rfl⟩
    rw [left]
    simp only [functionKeywords, List.mem_cons, List.not_mem_nil, or_false] at isKeyword
    rcases isKeyword with rfl | rfl
    · have plain : after? "*".toList (gap ++ (name ++ rest)) = none :=
        after?_eq_none (c := '*') rfl fun star => by cases isGap.head _ _ star
      rw [after?_append]
      dsimp only
      rwa [plain, Option.getD_none]
    · have star : "function*".toList = "function".toList ++ "*".toList := by decide
      rw [star, List.append_assoc, after?_append]
      dsimp only
      rwa [after?_append, Option.getD_some]

/-- An opening with one keyword is one that is read after the optional words. -/
theorem any_beginsName_iff (distinct : Distinct words c) (begins : c ∈ keyword.head?) :
    (after? keyword (skipWords words raw)).any beginsName = true ↔
      ∃ rest, Opening words [keyword] rest raw := by
  constructor
  · intro header
    obtain ⟨behind, read, starts⟩ := (Option.any_eq_true _ _).mp header
    exact exists_opening List.mem_cons_self (after?_eq_some_iff.mp read) starts
  · rintro ⟨rest, opening⟩
    obtain ⟨_, isKeyword, gap, name, isGap, isName, left⟩ :=
      opening.skipWords_eq distinct (by simpa using begins)
    rw [List.mem_singleton.mp isKeyword] at left
    rw [left, after?_append, Option.any_some]
    exact beginsName_iff.mpr ⟨gap, name, rest, isGap, isName, rfl⟩

theorem isClassHeader_iff :
    isClassHeader raw = true ↔ ∃ rest, Opening classWords ["class".toList] rest raw :=
  any_beginsName_iff distinct_classWords rfl

theorem isDefHeader_iff :
    isDefHeader raw = true ↔ ∃ rest, Opening ["async".toList] ["def".toList] rest raw :=
  any_beginsName_iff distinct_async rfl

end Opening

/-! ## Indented definitions -/

theorem endsInColon_iff {text : Text} : endsInColon text = true ↔
    ∃ params back, text = params ++ ':' :: back ∧ '\n' ∉ params ∧ Blank back := by
  constructor
  · intro ends
    unfold endsInColon at ends
    split at ends
    next front reversed =>
      have trimmed : trimRight text = front.reverse ++ [':'] := by
        rw [← List.reverse_reverse (trimRight text), reversed, List.reverse_cons]
      have whole := List.rdropWhile_append_rtakeWhile (p := isBlank) (l := text)
      refine ⟨front.reverse, text.rtakeWhile isBlank, ?_, ?_, fun _ => List.mem_rtakeWhile_imp⟩
      · rw [← List.singleton_append, ← List.append_assoc, ← trimmed]
        exact whole.symm
      · simpa using ends
    next => cases ends
  · rintro ⟨params, back, rfl, single, blank⟩
    have trimmed := trimRight_append_cons (c := ':') (by decide) blank params
    unfold endsInColon
    rw [trimmed, List.reverse_append, List.reverse_singleton, List.singleton_append]
    simpa using single

theorem isIndentedDef_iff {raw : Text} : isIndentedDef raw = true ↔ IndentedDefinition raw := by
  constructor
  · intro header
    simp only [isIndentedDef, Option.bind_eq_bind, Option.any_eq_true,
      Option.bind_eq_some_iff] at header
    obtain ⟨tail, ⟨body, first, behind, second, named, third, rest, fourth, fifth⟩, colon⟩ := header
    obtain ⟨indent, indented, rfl⟩ := exists_of_afterSome? first
    obtain ⟨front, optionals, whole⟩ := exists_skipWords ["async".toList] body
    obtain ⟨gap, isGap, rfl⟩ := exists_of_afterSome? third
    obtain ⟨name, isName, rfl⟩ := exists_of_afterSome? fourth
    obtain ⟨space, blank, spaced⟩ := exists_trimLeft rest
    obtain ⟨params, back, rfl, single, ends⟩ := endsInColon_iff.mp colon
    rw [after?_eq_some_iff.mp fifth] at spaced
    have left : skipWords ["async".toList] body = _ := after?_eq_some_iff.mp second
    rw [left, spaced] at whole
    refine ⟨indented, ?_, blank, single, ends⟩
    exact whole ▸ .mk optionals List.mem_cons_self isGap isName
  · rintro @⟨indent, body, space, params, back, indented, opening, blank, single, ends⟩
    obtain ⟨d, first, solid⟩ := opening.head distinct_async (by decide)
    obtain ⟨keyword, isKeyword, gap, name, isGap, isName, left⟩ :=
      opening.skipWords_eq distinct_async (by decide)
    rw [List.mem_singleton.mp isKeyword] at left
    have readIndent : afterBlank? (indent ++ body) = some body :=
      afterSome?_append indented fun c start => Option.mem_unique first start ▸ solid
    have readKeyword : after? "def".toList (skipWord "async".toList body) = some _ :=
      after?_eq_some_iff.mpr left
    have readGap : afterBlank? (gap ++ (name ++ (space ++ '(' :: (params ++ ':' :: back)))) =
        some _ :=
      afterSome?_append isGap fun c start => isBlank_of_isWord (isName.head _ c start)
    have readName := afterSome?_append isName
      (isWord_head_of_blank (c := '(') blank (by decide) (params ++ ':' :: back))
    have trimmed : trimLeft (space ++ '(' :: (params ++ ':' :: back)) =
        "(".toList ++ (params ++ ':' :: back) :=
      trimLeft_append blank (by rintro _ ⟨⟩; decide)
    simp only [isIndentedDef, readIndent, readKeyword, readName, trimmed, after?_append,
      Option.bind_eq_bind, Option.bind_some, Option.any_some, readGap]
    exact endsInColon_iff.mpr ⟨params, back, rfl, single, ends⟩

/-! ## Methods -/

section Methods

variable {indent modifiers name gap tail text raw : Text}

theorem isBlank_of_opensBody {mark : Char} (opens : opensBody mark = true) :
    isBlank mark = false := by
  simp only [opensBody, Bool.or_eq_true, beq_iff_eq] at opens
  rcases opens with rfl | rfl <;> decide

/-- What may stand between the parameters and the end is not changed by trimming. -/
theorem ResultType.trimmed {result : Text} (typed : ResultType result) {mark : Char}
    (opens : opensBody mark = true) : Trimmed (result ++ [mark]) := by
  have solid := isBlank_of_opensBody opens
  refine trimmed_iff.mpr ⟨?_, ?_⟩
  · cases typed with
    | absent =>
        rintro _ ⟨⟩
        exact solid
    | present =>
        rintro _ ⟨⟩
        decide
  · rw [List.getLast?_concat]
    rintro _ ⟨⟩
    exact solid

theorem isMethodTail_iff : isMethodTail tail = true ↔ MethodTail tail := by
  constructor
  · intro opens
    obtain ⟨front, back, whole, frontBlank, backBlank⟩ := exists_trim tail
    unfold isMethodTail at opens
    split at opens
    next => cases opens
    next mark trimmed =>
      rw [trimmed] at whole
      exact whole ▸ .mk frontBlank .absent opens backBlank
    next first second rest trimmed =>
      simp only [Bool.and_eq_true, beq_iff_eq, List.all_eq_true, Bool.not_eq_true',
        Bool.or_eq_false_iff, beq_eq_false_iff_ne, List.isEmpty_eq_false_iff] at opens
      obtain ⟨⟨⟨rfl, opens⟩, filled⟩, plain⟩ := opens
      have split := List.dropLast_append_getLast (List.cons_ne_nil second rest)
      have none : Blank ([] : Text) := nofun
      have typed := ResultType.present none filled fun c member =>
        ⟨(plain c member).1.1, (plain c member).1.2, (plain c member).2⟩
      rw [trimmed, ← split] at whole
      have tail := MethodTail.mk frontBlank typed opens backBlank
      simpa [whole] using tail
  · rintro @⟨gap, result, back, mark, blank, typed, opens, ends⟩
    have trimmed : trim (gap ++ (result ++ mark :: back)) = result ++ [mark] := by
      rw [trim_blank_append blank, List.append_cons, trim_append_of_blank ends]
      exact typed.trimmed opens
    unfold isMethodTail
    cases typed with
    | absent => rwa [trimmed]
    | @present space type spaced filled plain =>
        obtain ⟨second, more, whole⟩ :=
          List.exists_cons_of_ne_nil (List.append_ne_nil_of_right_ne_nil space filled)
        have inside : ∀ c ∈ second :: more, c ≠ '=' ∧ c ≠ '{' ∧ c ≠ ';' := by
          rw [← whole]
          intro c member
          rcases List.mem_append.mp member with blank | typed
          · have blank := spaced c blank
            refine ⟨?_, ?_, ?_⟩ <;> (rintro rfl; cases blank)
          · exact plain c typed
        rw [trimmed, whole, List.cons_append, List.cons_append]
        simp only [← List.cons_append, List.getLast_concat, List.dropLast_concat, opens]
        simpa [and_assoc] using inside

theorem isWord_of_mem_methodModifiers {word : Text} (isModifier : word ∈ methodModifiers) :
    IsWord word := by
  have all : ∀ word ∈ methodModifiers, IsWord word := by decide
  exact all word isModifier

/-- Modifiers and a name begin with a word character. -/
theorem Modifiers.head (modified : Modifiers modifiers) (isName : IsWord name) (rest : Text) :
    ∃ c ∈ (modifiers ++ (name ++ rest)).head?, isBlank c = false := by
  cases modified with
  | nil =>
      obtain ⟨c, more, rfl, word⟩ := isName.exists_cons
      exact ⟨c, rfl, isBlank_of_isWord word⟩
  | cons isModifier =>
      obtain ⟨c, more, rfl, word⟩ := (isWord_of_mem_methodModifiers isModifier).exists_cons
      exact ⟨c, rfl, isBlank_of_isWord word⟩

theorem nameBehindModifiers?_cons {word : Text} {words : List Text} (filled : words ≠ []) :
    nameBehindModifiers? (word :: words) =
      if word ∈ methodModifiers then nameBehindModifiers? words else none := by
  obtain ⟨next, more, rfl⟩ := List.exists_cons_of_ne_nil filled
  rfl

theorem nameBehindModifiers?_parts (modified : Modifiers modifiers) (isName : IsWord name)
    (blank : Blank gap) :
    nameBehindModifiers? (partsBetween isBlank (modifiers ++ (name ++ gap))) = some name := by
  induction modified with
  | nil =>
      have ends : ∀ c ∈ gap.head?, isBlank c = true := fun c first =>
        blank c (List.mem_of_mem_head? first)
      rw [List.nil_append, partsBetween_word_append isName.filled isName.solid ends,
        partsBetween_of_blank blank]
      exact if_pos (List.all_eq_true.mpr isName.all)
  | @cons word space more isModifier isGap rest ih =>
      have isWord := isWord_of_mem_methodModifiers isModifier
      have filled : partsBetween isBlank (more ++ (name ++ gap)) ≠ [] := fun none => by
        rw [none] at ih
        cases ih
      rw [List.append_assoc, List.append_assoc, partsBetween_word_append isWord.filled isWord.solid
        (isGap.head _), partsBetween_blank_append isGap.all, nameBehindModifiers?_cons filled,
        if_pos isModifier, ih]

/-- Where a name stands that the words of a text give a method. -/
theorem exists_of_nameBehindModifiers?
    (read : nameBehindModifiers? (partsBetween isBlank text) = some name) :
    ∃ front modifiers gap, text = front ++ (modifiers ++ (name ++ gap)) ∧ Blank front ∧
      Modifiers modifiers ∧ IsWord name ∧ Blank gap := by
  generalize parts : partsBetween isBlank text = words at read
  induction words generalizing text with
  | nil => cases read
  | cons word words ih =>
      obtain ⟨front, back, rfl, blank, filled, ends, rest⟩ := exists_of_partsBetween parts
      by_cases last : words = []
      · subst last
        rw [nameBehindModifiers?] at read
        split at read
        next word =>
          cases read
          exact ⟨front, [], back, rfl, blank, .nil, ⟨filled, List.all_eq_true.mp word⟩,
            partsBetween_eq_nil_iff.mp rest⟩
        next => cases read
      · rw [nameBehindModifiers?_cons last] at read
        split at read
        next isModifier =>
          obtain ⟨space, modifiers, gap, rfl, spaced, modified, isName, blankGap⟩ := ih rest read
          -- the words are apart, so there is white space in front of the next one
          have isGap : Gap space := by
            refine ⟨?_, spaced⟩
            rintro rfl
            obtain ⟨c, first, solid⟩ := modified.head isName gap
            rw [ends c first] at solid
            cases solid
          refine ⟨front, word ++ (space ++ modifiers), gap, ?_, blank,
            .cons isModifier isGap modified, isName, blankGap⟩
          simp only [List.append_assoc]
        next => cases read

/-- The name that the words in front of the first bracket give a method. -/
def nameInFront? (raw : Text) : Option Text :=
  nameBehindModifiers? (partsBetween isBlank (raw.takeWhile (· != '(')))

theorem Modifiers.not_mem (modified : Modifiers modifiers) : '(' ∉ modifiers := by
  induction modified with
  | nil => exact List.not_mem_nil
  | cons isModifier isGap _ ih =>
      simp only [List.mem_append, not_or]
      exact ⟨(isWord_of_mem_methodModifiers isModifier).not_mem (by decide),
        isGap.not_mem (by decide), ih⟩

theorem bracket_not_mem (blank : Blank indent) (modified : Modifiers modifiers)
    (isName : IsWord name) (ends : Blank gap) :
    '(' ∉ indent ++ (modifiers ++ (name ++ gap)) := by
  simp only [List.mem_append, not_or]
  exact ⟨blank.not_mem (by decide), modified.not_mem, isName.not_mem (by decide),
    ends.not_mem (by decide)⟩

theorem nameInFront?_modifiers (blank : Blank indent) (modified : Modifiers modifiers)
    (isName : IsWord name) (ends : Blank gap) (rest : Text) :
    nameInFront? (indent ++ (modifiers ++ (name ++ (gap ++ '(' :: rest)))) = some name := by
  have front := takeWhile_front (bracket_not_mem blank modified isName ends) rest
  simp only [List.append_assoc] at front
  rw [nameInFront?, front, partsBetween_blank_append blank,
    nameBehindModifiers?_parts modified isName ends]

/-- What stands in front of the first bracket of an indented text whose words there name a
method. -/
theorem exists_of_nameInFront? {c : Char} {rest : Text} (begins : startsIn isBlank raw = true)
    (named : nameInFront? raw = some name) (opened : raw.dropWhile (· != '(') = c :: rest) :
    ∃ indent modifiers gap, raw = indent ++ (modifiers ++ (name ++ (gap ++ '(' :: rest))) ∧
      Gap indent ∧ Modifiers modifiers ∧ IsWord name ∧ Blank gap := by
  obtain ⟨indent, modifiers, gap, front, blank, modified, isName, ends⟩ :=
    exists_of_nameBehindModifiers? named
  have whole := eq_append_of_dropWhile opened
  rw [front, List.append_assoc, List.append_assoc, List.append_assoc] at whole
  refine ⟨indent, modifiers, gap, whole, ⟨?_, blank⟩, modified, isName, ends⟩
  rintro rfl
  obtain ⟨c, first, space⟩ := startsIn_iff.mp begins
  obtain ⟨d, start, solid⟩ := modified.head isName (gap ++ '(' :: rest)
  rw [whole, List.nil_append] at first
  rw [Option.mem_unique first start, solid] at space
  cases space

theorem methodName?_eq_some_iff : methodName? raw = some name ↔ Method name raw := by
  have front : nameBehindModifiers? (partsBetween isBlank (raw.takeWhile (· != '('))) =
      nameInFront? raw := rfl
  unfold methodName?
  dsimp only
  rw [front]
  constructor
  · intro read
    split at read
    next begins =>
      split at read
      next bracket params word opened named =>
        split at read
        next closing tail closed =>
          split at read
          next opens =>
            cases read
            obtain ⟨indent, modifiers, gap, rfl, isGap, modified, isName, ends⟩ :=
              exists_of_nameInFront? begins named opened
            rw [eq_append_of_dropWhile closed]
            exact .mk isGap modified isName ends (not_mem_takeWhile_front ')' params)
              (isMethodTail_iff.mp opens)
          next => cases read
        next => cases read
      next => cases read
    next => cases read
  · rintro @⟨indent, modifiers, gap, params, tail, indented, modified, isName, blank, closed, opens⟩
    have opened := dropWhile_front (bracket_not_mem indented.all modified isName blank)
      (params ++ ')' :: tail)
    simp only [List.append_assoc] at opened
    rw [if_pos (startsIn_append indented _), opened,
      nameInFront?_modifiers indented.all modified isName blank]
    dsimp only
    rw [dropWhile_front closed tail]
    exact if_pos (isMethodTail_iff.mpr opens)

-- a modifier is the name where no other word follows it
example : methodName? "  get (x) \x7b".toList = some "get".toList := by decide

example : methodName? "  get name(x) \x7b".toList = some "name".toList := by decide

end Methods

/-! ## The name of a header -/

section Name

variable {raw : Text} {name : Option Text}

/-- The words in front of the bracket of an indented definition give no method a name, because
the word in front of its name is no modifier. -/
theorem IndentedDefinition.nameInFront?_eq (indented : IndentedDefinition raw) :
    nameInFront? raw = none := by
  obtain @⟨indent, body, gap, params, back, indented, opening, blank, single, ends⟩ := indented
  obtain @⟨front, keyword, space, name, optionals, isKeyword, isGap, isName⟩ := opening
  obtain rfl := List.mem_singleton.mp isKeyword
  have optional := optionals.singleton
  have isDef : IsWord "def".toList := by decide
  have parts : partsBetween isBlank ("def".toList ++ (space ++ (name ++ gap))) =
      ["def".toList, name] := by
    have ends : ∀ c ∈ gap.head?, isBlank c = true := fun c first =>
      blank c (List.mem_of_mem_head? first)
    rw [partsBetween_word_append isDef.filled isDef.solid (isGap.head _),
      partsBetween_blank_append isGap.all,
      partsBetween_word_append isName.filled isName.solid ends, partsBetween_of_blank blank]
  have noName : nameBehindModifiers? ["def".toList, name] = none := if_neg (by decide)
  have absent : '(' ∉ indent ++ (front ++ ("def".toList ++ (space ++ (name ++ gap)))) := by
    simp only [List.mem_append, not_or]
    refine ⟨indented.not_mem (by decide), ?_, isDef.not_mem (by decide),
      isGap.not_mem (by decide), isName.not_mem (by decide), blank.not_mem (by decide)⟩
    cases optional with
    | absent => exact List.not_mem_nil
    | present isSpace =>
        exact List.not_mem_append (by decide) (isSpace.not_mem (by decide))
  have before := takeWhile_front absent (params ++ ':' :: back)
  simp only [List.append_assoc] at before
  rw [nameInFront?, before, partsBetween_blank_append indented.all]
  cases optional with
  | absent => rw [List.nil_append, parts, noName]
  | @present gap isSpace =>
      have isAsync : IsWord "async".toList := by decide
      rw [List.append_assoc, partsBetween_word_append isAsync.filled isAsync.solid
        (isSpace.head _), partsBetween_blank_append isSpace.all, parts,
        nameBehindModifiers?_cons (List.cons_ne_nil _ _), if_pos (by decide), noName]

/-- A header without a name at the left margin, an indented definition or a method. -/
theorem Header.shape (header : Header name raw) :
    startsIn isBlank raw = false ∧ name = none ∨ IndentedDefinition raw ∧ name = none ∨
      ∃ word, Method word raw ∧ name = some word := by
  cases header with
  | function opening => exact .inl ⟨opening.at_margin distinct_functionWords (by decide), rfl⟩
  | ofClass opening => exact .inl ⟨opening.at_margin distinct_classWords (by decide), rfl⟩
  | definition opening => exact .inl ⟨opening.at_margin distinct_async (by decide), rfl⟩
  | indentedDefinition indented => exact .inr (.inl ⟨indented, rfl⟩)
  | method isMethod => exact .inr (.inr ⟨_, isMethod, rfl⟩)

/-- **A header has at most one name in it**, and which one is seen from the margin and from the
words in front of the first bracket. -/
theorem Header.name_eq (header : Header name raw) :
    name = if startsIn isBlank raw then nameInFront? raw else none := by
  rcases header.shape with ⟨atMargin, rfl⟩ | ⟨indented, rfl⟩ | ⟨word, isMethod, rfl⟩
  · rw [atMargin]
    rfl
  · rw [indented.nameInFront?_eq, ite_self]
  · obtain @⟨_, _, _, _, _, indented, modified, isName, blank, _, _⟩ := isMethod
    rw [if_pos (startsIn_append indented _),
      nameInFront?_modifiers indented.all modified isName blank]

end Name

/-! ## Lines that are no headers -/

section Others

variable {front gap back raw : Text}

theorem ResultType.not_mem {result : Text} (typed : ResultType result) : '=' ∉ result := by
  cases typed with
  | absent => exact List.not_mem_nil
  | present blank _ plain =>
      refine List.not_mem_cons_of_ne_of_not_mem (by decide) ?_
      exact List.not_mem_append (blank.not_mem (by decide)) fun member => (plain _ member).1 rfl

/-- Between the parameters of a method and its opening brace there is no arrow. -/
theorem Method.not_arrow {name : Text} (isMethod : Method name raw) (blank : Blank gap)
    (ends : Blank back) : raw ≠ front ++ '=' :: '>' :: (gap ++ '{' :: back) := by
  intro same
  obtain @⟨indent, modifiers, before, params, tail, _, _, _, _, _, methodTail⟩ := isMethod
  obtain @⟨space, result, last, mark, spaced, typed, opens, ends'⟩ := methodTail
  -- the brace is the mark, so the arrow ends what stands in front of it
  have cut : (indent ++ (modifiers ++ (name ++ (before ++ '(' ::
      (params ++ ')' :: (space ++ result)))))) ++ mark :: last =
        (front ++ '=' :: '>' :: gap) ++ '{' :: back := by
    simpa using same
  obtain ⟨shared, _⟩ :=
    eq_of_append_cons_eq cut (isBlank_of_opensBody opens) ends' (by decide) ends
  have arrow : '=' :: '>' :: gap <:+ front ++ '=' :: '>' :: gap := List.suffix_append front _
  have closing : ')' :: (space ++ result) <:+ front ++ '=' :: '>' :: gap :=
    ⟨indent ++ (modifiers ++ (name ++ (before ++ '(' :: params))), by simpa using shared⟩
  have plain : '=' ∉ ')' :: (space ++ result) :=
    List.not_mem_cons_of_ne_of_not_mem (by decide)
      (List.not_mem_append (spaced.not_mem (by decide)) typed.not_mem)
  rcases List.suffix_or_suffix_of_suffix arrow closing with inside | behind
  · exact plain (inside.subset List.mem_cons_self)
  · rcases List.suffix_cons_iff.mp behind with same | behind
    · cases same
    · have bracket := behind.subset List.mem_cons_self
      exact List.not_mem_cons_of_ne_of_not_mem (by decide) (blank.not_mem (by decide)) bracket

/-- An indented definition does not end in a brace. -/
theorem IndentedDefinition.not_brace (indented : IndentedDefinition raw) (ends : Blank back) :
    raw ≠ front ++ '{' :: back := by
  intro same
  obtain @⟨indent, body, gap, params, last, _, opening, _, _, ends'⟩ := indented
  obtain @⟨words, keyword, space, name, _, _, _, _⟩ := opening
  have cut : (indent ++ (words ++ (keyword ++ (space ++ (name ++ (gap ++ '(' :: params)))))) ++
      ':' :: last = front ++ '{' :: back := by
    simpa using same
  obtain ⟨_, mark⟩ := eq_of_append_cons_eq cut (by decide) ends' (by decide) ends
  cases mark

end Others

/-! ## Boundaries -/

theorem isHeader_iff {raw : Text} : isHeader raw = true ↔
    ∃ name, Header name raw ∧ ∀ word ∈ name, word ∉ controlWords := by
  simp only [isHeader, Bool.or_eq_true, isFunctionHeader_iff, isClassHeader_iff, isDefHeader_iff,
    isIndentedDef_iff, isMethodHeader, Option.any_eq_true, methodName?_eq_some_iff,
    decide_eq_true_eq]
  constructor
  · rintro ((((⟨rest, opening⟩ | ⟨rest, opening⟩) | ⟨rest, opening⟩) | indented) |
      ⟨name, isMethod, other⟩)
    · exact ⟨none, .function opening, nofun⟩
    · exact ⟨none, .ofClass opening, nofun⟩
    · exact ⟨none, .definition opening, nofun⟩
    · exact ⟨none, .indentedDefinition indented, nofun⟩
    · refine ⟨some name, .method isMethod, ?_⟩
      rintro _ ⟨⟩
      exact other
  · rintro ⟨name, header, other⟩
    cases header with
    | function opening => exact .inl (.inl (.inl (.inl ⟨_, opening⟩)))
    | ofClass opening => exact .inl (.inl (.inl (.inr ⟨_, opening⟩)))
    | definition opening => exact .inl (.inl (.inr ⟨_, opening⟩))
    | indentedDefinition indented => exact .inl (.inr indented)
    | method isMethod => exact .inr ⟨_, isMethod, other _ rfl⟩

theorem isBoundary_eq_true_iff {line : Line} :
    isBoundary line = true ↔ line.kind = .code ∧ isHeader line.raw = true := by
  rw [isBoundary, Bool.and_eq_true, Line.isCode, decide_eq_true_iff]

/-- **A line is a boundary exactly when it is a line of code with a header that no word for the
control of a program names.** All derivations of a line have the same name or none, so each of
them decides. An indented line that ends in an arrow and a brace is no boundary, and one in which
modifiers and such a word stand in front of the first bracket is none either. -/
theorem isBoundary_iff_header (line : Line) :
    (isBoundary line = true ↔ line.kind = .code ∧
      ∃ name, Header name line.raw ∧ ∀ word ∈ name, word ∉ controlWords) ∧
    (∀ one other, Header one line.raw → Header other line.raw → one = other) ∧
    (∀ name, Header name line.raw →
      (isBoundary line = true ↔ line.kind = .code ∧ ∀ word ∈ name, word ∉ controlWords)) ∧
    (∀ front gap back, startsIn isBlank line.raw = true → Blank gap → Blank back →
      line.raw = front ++ '=' :: '>' :: (gap ++ '{' :: back) → isBoundary line = false) ∧
    (∀ indent modifiers word gap rest, Gap indent → Modifiers modifiers → word ∈ controlWords →
      Blank gap → line.raw = indent ++ (modifiers ++ (word ++ (gap ++ '(' :: rest))) →
        isBoundary line = false) ∧
    (line.kind ≠ .code → isBoundary line = false) := by
  have unique : ∀ one other, Header one line.raw → Header other line.raw → one = other :=
    fun one other first second => first.name_eq.trans second.name_eq.symm
  have boundary_iff : isBoundary line = true ↔ line.kind = .code ∧
      ∃ name, Header name line.raw ∧ ∀ word ∈ name, word ∉ controlWords := by
    rw [isBoundary_eq_true_iff, isHeader_iff]
  refine ⟨boundary_iff, unique, fun name header => ?_, ?_, ?_, ?_⟩
  · rw [boundary_iff]
    refine and_congr_right fun _ => ⟨?_, fun other => ⟨name, header, other⟩⟩
    rintro ⟨found, other, free⟩
    exact unique found name other header ▸ free
  · intro front gap back indented blank ends whole
    rw [← Bool.not_eq_true, boundary_iff]
    rintro ⟨_, name, header, _⟩
    rcases header.shape with ⟨atMargin, _⟩ | ⟨definition, _⟩ | ⟨word, isMethod, _⟩
    · rw [atMargin] at indented
      cases indented
    · have braced : line.raw = (front ++ '=' :: '>' :: gap) ++ '{' :: back := by simpa using whole
      exact definition.not_brace ends braced
    · exact isMethod.not_arrow blank ends whole
  · intro indent modifiers word gap rest indented modified control blank whole
    rw [← Bool.not_eq_true, boundary_iff]
    rintro ⟨_, name, header, free⟩
    have isWord : ∀ word ∈ controlWords, IsWord word := by decide
    have named := header.name_eq
    rw [whole, if_pos (startsIn_append indented _),
      nameInFront?_modifiers indented.all modified (isWord word control) blank] at named
    exact free word named control
  · intro other
    rw [← Bool.not_eq_true, boundary_iff]
    exact fun boundary => other boundary.1

end ReviewGate.Source
