import ReviewGate.Proofs.Config.Acceptance
import ReviewGate.Proofs.Data.Leading
import ReviewGate.Proofs.Text.Numeral

/-!
# What entries decide

Nothing but the values of the five entries decides what is made of a mapping. When one of them is
not as asked, the rejection names the first of these (`namesFirst_of_check`); otherwise every
setting is the value of its entry, or the standard one (`values_of_check`). Whatever else stands in
the data makes no difference: a section without members is as good as none (`Without`), and other
keys are passed over (`SameKnown`). Both are cases of one fact, that data with the same values for
the entries fare alike (`check_congr`).

A rejection shows the value. So where the value leads to a container that is not the same, as it
does when a section holds itself, the message is another one.
-/

set_option autoImplicit false

namespace ReviewGate.Config

open Data (Container Graph SameFrom Unshowable Value memberOf?)

/-! ## Settings as values -/

/-- A format as the value of its entry, by its name. -/
def formatValue (name : Option Text) : Value :=
  (name.map fun name => .text (Points.ofText name)).getD .null

/-- The values of the settings, in the order of the entries. -/
def Settings.values (settings : Settings) : List Value := [
  .bool settings.record.strict,
  formatValue (settings.record.format.map RecordFormat.name),
  .int settings.budget.maxLines,
  .bool settings.budget.recursive,
  formatValue (settings.budget.format.map BudgetFormat.name)]

/-- The mapping that is made of settings, with a section for each check. -/
def Settings.toData (settings : Settings) : Graph where
  containers := #[
    .mapping [(.text (Points.ofText "adr".toList), .container 1),
      (.text (Points.ofText "microtask".toList), .container 2)],
    .mapping [(.text (Points.ofText "strict".toList), .bool settings.record.strict),
      (.text (Points.ofText "format".toList),
        formatValue (settings.record.format.map RecordFormat.name))],
    .mapping [(.text (Points.ofText "max_lines".toList), .int settings.budget.maxLines),
      (.text (Points.ofText "recursive".toList), .bool settings.budget.recursive),
      (.text (Points.ofText "format".toList),
        formatValue (settings.budget.format.map BudgetFormat.name))]]
  root := .container 0

theorem ofText_injective : Function.Injective Points.ofText := by
  intro left right same
  have read := congrArg Points.toText? same
  rw [Points.toText?_ofText, Points.toText?_ofText] at read
  exact Option.some.inj read

theorem formatValue_injective : Function.Injective formatValue := by
  intro left right same
  cases left <;> cases right
  · rfl
  · cases same
  · cases same
  · exact congrArg some (ofText_injective (Value.text.inj same))

theorem recordName_injective : Function.Injective RecordFormat.name := by
  intro left right same
  cases left <;> cases right <;> first | rfl | exact absurd same (by decide)

theorem budgetName_injective : Function.Injective BudgetFormat.name := by
  intro left right same
  cases left <;> cases right <;> first | rfl | exact absurd same (by decide)

/-- Settings are told by their values. -/
theorem values_injective : Function.Injective Settings.values := by
  rintro ⟨⟨strict, recordFormat⟩, ⟨limit, recursive, budgetFormat⟩⟩
    ⟨⟨strict', recordFormat'⟩, ⟨limit', recursive', budgetFormat'⟩⟩ same
  simp only [Settings.values, List.cons.injEq, Value.bool.injEq, Value.int.injEq, and_true] at same
  obtain ⟨rfl, record, rfl, rfl, budget⟩ := same
  rw [Option.map_injective recordName_injective (formatValue_injective record),
    Option.map_injective budgetName_injective (formatValue_injective budget)]

/-! ## Settings are values of entries -/

/-- The values that some data has for the entries, or the standard ones. -/
def settledValues (data : Graph) : List Value :=
  List.zipWith Option.getD (Entry.all.map (Entry.value? data)) ({} : Settings).values

section Reading

variable {α : Type} {data : Graph} {members : List (Value × Value)}

theorem reject_ne_ok (data : Graph) (value : Value) (rejection : Text → Rejection) (result : α) :
    reject data value rejection ≠ .ok result := by
  unfold reject
  cases data.shown value <;> exact nofun

theorem bool_of_readBool {part : Part} {key : String} {truth : Bool}
    (read : readBool data part key members = .ok truth) :
    .bool truth = (memberOf? key.toList members).getD (.bool false) := by
  rw [readBool] at read
  split at read
  · next absent =>
    cases read
    rw [absent]
    rfl
  · next found =>
    cases read
    rw [found]
    rfl
  · exact absurd read (reject_ne_ok data _ _ _)

theorem int_of_readLimit {limit : Int} (read : readLimit data members = .ok limit) :
    .int limit = (memberOf? "max_lines".toList members).getD (.int Budget.defaultLimit) := by
  rw [readLimit] at read
  split at read
  · next absent =>
    cases read
    rw [absent]
    rfl
  · next found =>
    split at read
    · exact absurd read (reject_ne_ok data _ _ _)
    · cases read
      rw [found]
      rfl
  · exact absurd read (reject_ne_ok data _ _ _)

theorem formatValue_of_readFormat {part : Part} {allowed : List α} {name : α → Text}
    {format : Option α} (read : readFormat data part allowed name members = .ok format) :
    formatValue (format.map name) = (memberOf? "format".toList members).getD .null := by
  rw [readFormat] at read
  split at read
  · next absent =>
    cases read
    rw [absent]
    rfl
  · next found =>
    cases read
    rw [found]
    rfl
  · next value given found =>
    split at read
    · cases read
    · split at read
      · next own listed =>
        cases read
        have holds := List.find?_some listed
        have named : value = .text (Points.ofText (name own)) := of_decide_eq_true holds
        rw [found, named]
        rfl
      · exact absurd read (reject_ne_ok data _ _ _)

/-- **Every setting is the value of its entry, or the standard one.** -/
theorem values_of_check {settings : Settings} (mapping : data.members? data.root = some members)
    (settled : (check data).1 = .ok settings) : settings.values = settledValues data := by
  rw [check_of_members mapping] at settled
  obtain ⟨strict, first, settled⟩ := exists_of_bind_eq_ok settled
  obtain ⟨recordFormat, second, settled⟩ := exists_of_bind_eq_ok settled
  obtain ⟨limit, third, settled⟩ := exists_of_bind_eq_ok settled
  obtain ⟨recursive, fourth, settled⟩ := exists_of_bind_eq_ok settled
  obtain ⟨budgetFormat, fifth, settled⟩ := exists_of_bind_eq_ok settled
  cases settled
  have given : ∀ (entry : Entry) (standard : Value),
      (memberOf? entry.key (sectionMembers data members entry.part).1).getD standard =
        (entry.value? data).getD standard := fun entry standard => by
    rw [memberOf?_sectionMembers mapping]
  dsimp only [Settings.values]
  rw [(bool_of_readBool first).trans (given ⟨.record, "strict".toList, .truth⟩ _),
    (formatValue_of_readFormat second).trans (given ⟨.record, "format".toList, .choice _⟩ _),
    (int_of_readLimit third).trans (given ⟨.budget, "max_lines".toList, .positive⟩ _),
    (bool_of_readBool fourth).trans (given ⟨.budget, "recursive".toList, .truth⟩ _),
    (formatValue_of_readFormat fifth).trans (given ⟨.budget, "format".toList, .choice _⟩ _)]
  rfl

/-! ## Sections -/

/-- What some data has for a section. -/
def section? (data : Graph) (part : Part) : Option Value :=
  (data.members? data.root).bind (memberOf? part.name)

theorem value?_eq (data : Graph) (entry : Entry) :
    entry.value? data = (section? data entry.part).bind fun own =>
      (data.members? own).bind (memberOf? entry.key) := by
  rw [section?, Option.bind_assoc]
  rfl

/-- A section is ignored when it is there but is neither null nor a mapping. -/
def ignores (data : Graph) (part : Part) : Bool :=
  (section? data part).any fun value => value ≠ .null && (data.members? value).isNone

/-- The sections that are ignored. -/
def ignored (data : Graph) : List Part :=
  [.record, .budget].filter (ignores data)

theorem sectionMembers_ignored (mapping : data.members? data.root = some members) (part : Part) :
    (sectionMembers data members part).2 = [part].filter (ignores data) := by
  have own : section? data part = memberOf? part.name members := by
    rw [section?, mapping, Option.bind_some]
  rw [List.filter_singleton, ignores, own, sectionMembers]
  split
  · next absent => rw [absent]; rfl
  · next empty => rw [empty]; rfl
  · next value given found =>
    have present : value ≠ .null := given
    rw [found, Option.any_some]
    cases data.members? value <;> simp [present]

/-- **There is a warning for each section that is ignored.** -/
theorem warnings_of_check (mapping : data.members? data.root = some members) :
    (check data).2 = ignored data := by
  have given : data.root ≠ .null := fun null => by rw [null] at mapping; cases mapping
  rw [check, if_neg given, mapping]
  show (sectionMembers data members .record).2 ++ (sectionMembers data members .budget).2 = _
  rw [sectionMembers_ignored mapping, sectionMembers_ignored mapping, ← List.filter_append]
  rfl

/-! ## Data with the same entries -/

/-- What a rejection of some data would show is the same in other data. -/
def ShownAlike (data other : Graph) : Prop :=
  ∀ entry value, firstRefused? data = some (entry, value) → SameFrom data other value

/-- **Data with the same values for the entries fare alike**, if the message would show the same. -/
theorem check_congr {other : Graph} {members' : List (Value × Value)}
    (mapping : data.members? data.root = some members)
    (mapping' : other.members? other.root = some members')
    (same : ∀ entry ∈ Entry.all, entry.value? other = entry.value? data)
    (shown : ShownAlike data other) : (check other).1 = (check data).1 := by
  have first : firstRefused? other = firstRefused? data := by
    rw [firstRefused?, firstRefused?, ← List.head?_filterMap, ← List.head?_filterMap]
    refine congrArg List.head? (List.filterMap_congr fun entry member => ?_)
    rw [Entry.refused?, Entry.refused?, same entry member]
  have settled := check_eq mapping
  have settled' := check_eq mapping'
  rw [first] at settled'
  cases refused : firstRefused? data with
  | none =>
      rw [refused] at settled settled'
      obtain ⟨settings, settled⟩ := settled
      obtain ⟨settings', settled'⟩ := settled'
      have values : settledValues other = settledValues data := by
        rw [settledValues, settledValues, List.map_congr_left same]
      have equal : settings'.values = settings.values := by
        rw [values_of_check mapping settled, values_of_check mapping' settled', values]
      rw [settled, settled', values_injective equal]
  | some own =>
      obtain ⟨entry, value⟩ := own
      rw [refused] at settled settled'
      have alike := shown entry value refused
      rw [settled, settled', Entry.failure, Entry.failure, Data.shown_congr alike,
        Data.container?_congr alike]

/-! ## Settings made into data -/

theorem accepts_formatValue {allowed : List α} {name : α → Text} {format : Option α}
    (listed : ∀ own ∈ format, own ∈ allowed) :
    (Demand.choice (allowed.map name)).accepts (formatValue (format.map name)) = true := by
  cases format with
  | none => rfl
  | some own =>
      have named : (allowed.map name).any (Value.text (Points.ofText (name own))).isText = true :=
        List.any_eq_true.mpr ⟨_, List.mem_map_of_mem (listed own rfl), decide_eq_true rfl⟩
      rw [Option.map_some, formatValue, Option.map_some, Option.getD_some, Demand.accepts]
      exact (Bool.or_eq_true _ _).mpr (.inr named)

/-- Settings with a limit that is positive are as asked. -/
theorem firstRefused?_toData {settings : Settings} (positive : 1 ≤ settings.budget.maxLines) :
    firstRefused? settings.toData = none := by
  have met : ∀ {demand : Demand} {value : Value}, demand.accepts value = true →
      (some value).filter (! demand.accepts ·) = none := fun accepted => by
    simp [accepted]
  refine List.findSome?_eq_none_iff.mpr fun entry member => Option.map_eq_none_iff.mpr ?_
  simp only [Entry.all, List.mem_cons, List.not_mem_nil, or_false] at member
  rcases member with rfl | rfl | rfl | rfl | rfl
  · rfl
  · exact met (accepts_formatValue fun own _ => by cases own <;> decide)
  · exact met (decide_eq_true positive)
  · rfl
  · exact met (accepts_formatValue fun own _ => by cases own <;> decide)

/-- **The mapping that is made of settings gives the settings back.** -/
theorem check_toData {settings : Settings} (positive : 1 ≤ settings.budget.maxLines) :
    check settings.toData = (.ok settings, []) := by
  have mapping : ∃ members, settings.toData.members? settings.toData.root = some members :=
    ⟨_, rfl⟩
  obtain ⟨members, mapping⟩ := mapping
  have values : Entry.all.map (Entry.value? settings.toData) = settings.values.map some := rfl
  have settled := check_eq mapping
  rw [firstRefused?_toData positive] at settled
  obtain ⟨own, settled⟩ := settled
  have same : own.values = settings.values := by
    rw [values_of_check mapping settled, settledValues, values]
    rfl
  have silent : (check settings.toData).2 = [] := by
    rw [warnings_of_check mapping]
    rfl
  rw [values_injective same] at settled
  exact Prod.ext settled silent

/-! ## What else stands in the data -/

/-- Whether a member has one of some names. -/
def hasName (names : List Text) (member : Value × Value) : Bool :=
  names.any member.1.isText

/-- Members are the same but for those that have none of some names. -/
def SameNamed (names : List Text) (left right : List (Value × Value)) : Prop :=
  left.filter (hasName names) = right.filter (hasName names)

/-- A member is found by its name among any members that include those of the name. -/
theorem memberOf?_filter {keep : Value × Value → Bool} {name : Text}
    (kept : ∀ member : Value × Value, member.1.isText name = true → keep member = true)
    (members : List (Value × Value)) :
    memberOf? name (members.filter keep) = memberOf? name members := by
  rw [memberOf?, memberOf?, List.find?_filter]
  congr 2
  funext member
  rw [Bool.eq_iff_iff, decide_eq_true_iff]
  exact ⟨And.right, fun named => ⟨kept member named, named⟩⟩

theorem SameNamed.memberOf?_eq {names : List Text} {left right : List (Value × Value)}
    (same : SameNamed names left right) {name : Text} (listed : name ∈ names) :
    memberOf? name left = memberOf? name right := by
  have kept : ∀ member : Value × Value, member.1.isText name = true → hasName names member = true :=
    fun member named => List.any_eq_true.mpr ⟨name, listed, named⟩
  rw [← memberOf?_filter kept left, ← memberOf?_filter kept right, same]

section Related

variable {names : List Text} {left right : Option (List (Value × Value))}

theorem bind_memberOf?_of_rel (same : Option.Rel (SameNamed names) left right) {name : Text}
    (listed : name ∈ names) : right.bind (memberOf? name) = left.bind (memberOf? name) := by
  cases same with
  | none => rfl
  | some inside => exact (inside.memberOf?_eq listed).symm

theorem isNone_of_rel (same : Option.Rel (SameNamed names) left right) :
    right.isNone = left.isNone := by
  cases same <;> rfl

end Related

/-- The keys of a section. -/
def Part.keys (part : Part) : List Text :=
  (Entry.all.filter (·.part = part)).map Entry.key

/-- The names of the sections. -/
def Part.names : List Text :=
  [Part.record.name, Part.budget.name]

theorem Part.name_mem_names (part : Part) : part.name ∈ Part.names := by
  cases part <;> decide

/-- No value is the name of two sections. -/
theorem name_unique {value : Value} {left right : Part} (named : value.isText left.name = true)
    (also : value.isText right.name = true) : left = right := by
  obtain rfl : value = .text (Points.ofText left.name) := of_decide_eq_true named
  have same := ofText_injective (Value.text.inj (of_decide_eq_true also))
  cases left <;> cases right <;> first | rfl | exact absurd same (by decide)

theorem Entry.key_mem_keys {entry : Entry} (listed : entry ∈ Entry.all) :
    entry.key ∈ entry.part.keys :=
  List.mem_map_of_mem (List.mem_filter.mpr ⟨listed, decide_eq_true rfl⟩)

/-- Other data is the same mapping but for unknown keys, next to the sections or in them. What a
rejection shows is the same, too. -/
structure SameKnown (data other : Graph) : Prop where
  top : ∃ members members', data.members? data.root = some members ∧
    other.members? other.root = some members' ∧ SameNamed Part.names members members'
  sections : ∀ part value, section? data part = some value →
    Option.Rel (SameNamed part.keys) (data.members? value) (other.members? value)
  shown : ShownAlike data other

/-- Other data is the same mapping without a section that has no members. -/
structure Without (part : Part) (data other : Graph) : Prop where
  bare : ∀ value, section? data part = some value → data.members? value = none
  top : ∃ members, data.members? data.root = some members ∧
    other.members? other.root = some (members.filter (! hasName [part.name] ·))
  rest : ∀ own value, own ≠ part → section? data own = some value →
    other.members? value = data.members? value
  shown : ShownAlike data other

/-- **Unknown keys make no difference.** -/
theorem check_of_sameKnown {other : Graph} (same : SameKnown data other) :
    check other = check data := by
  obtain ⟨members, members', mapping, mapping', top⟩ := same.top
  have sections : ∀ part, section? other part = section? data part := fun part => by
    rw [section?, section?, mapping, mapping', Option.bind_some, Option.bind_some,
      top.memberOf?_eq part.name_mem_names]
  have values : ∀ entry ∈ Entry.all, entry.value? other = entry.value? data := by
    intro entry listed
    rw [value?_eq, value?_eq, sections]
    refine Option.bind_congr fun value own => ?_
    exact bind_memberOf?_of_rel (same.sections entry.part value own) (Entry.key_mem_keys listed)
  have warnings : ignored other = ignored data := by
    refine List.filter_congr fun part _ => ?_
    rw [ignores, ignores, sections]
    cases own : section? data part with
    | none => rfl
    | some value =>
        rw [Option.any_some, Option.any_some, isNone_of_rel (same.sections part value own)]
  refine Prod.ext (check_congr mapping mapping' values same.shown) ?_
  rw [warnings_of_check mapping, warnings_of_check mapping', warnings]

/-- **A section without members is as good as none**, apart from the warning. -/
theorem check_of_without {part : Part} {other : Graph} (without : Without part data other) :
    (check other).1 = (check data).1 ∧ (check other).2 = (check data).2.filter (· ≠ part) := by
  obtain ⟨members, mapping, mapping'⟩ := without.top
  have gone : section? other part = none := by
    rw [section?, mapping', Option.bind_some, memberOf?, List.find?_filter, Option.map_eq_none_iff,
      List.find?_eq_none]
    simp [hasName]
  have kept : ∀ own, own ≠ part → section? other own = section? data own := by
    intro own different
    rw [section?, section?, mapping, mapping', Option.bind_some, Option.bind_some]
    refine memberOf?_filter (fun member named => ?_) members
    have other : member.1.isText part.name = false := by
      rw [Bool.eq_false_iff]
      exact fun also => different (name_unique named also)
    simp [hasName, other]
  have values : ∀ entry ∈ Entry.all, entry.value? other = entry.value? data := by
    intro entry _
    rw [value?_eq, value?_eq]
    by_cases own : entry.part = part
    · rw [own, gone]
      refine (Option.bind_eq_none_iff.mpr fun value found => ?_).symm
      rw [without.bare value found]
      rfl
    · rw [kept _ own]
      exact Option.bind_congr fun value found => by rw [without.rest _ value own found]
  refine ⟨check_congr mapping mapping' values without.shown, ?_⟩
  rw [warnings_of_check mapping, warnings_of_check mapping', ignored, ignored, List.filter_filter]
  refine List.filter_congr fun own _ => ?_
  by_cases same : own = part
  · rw [same, ignores, gone]
    simp
  · rw [ignores, ignores, kept own same, decide_eq_true same, Bool.true_and]
    cases found : section? data own with
    | none => rfl
    | some value => rw [Option.any_some, Option.any_some, without.rest own value same found]

/-! ## What is made of a mapping -/

theorem firstRefused?_eq_none_iff : firstRefused? data = none ↔
    ∀ entry ∈ Entry.all, ∀ value, entry.value? data = some value →
      entry.demand.accepts value = true := by
  simp [firstRefused?, List.findSome?_eq_none_iff, Entry.refused?, Option.filter_eq_none_iff]

theorem message_rejection (entry : Entry) (shown : Text) :
    (entry.rejection shown).message = (entry.rejection []).message ++ shown := by
  unfold Entry.rejection
  cases entry.demand <;> exact congrArg (· ++ shown) (List.append_nil _).symm

/-- A rejection is of the first value that is not as asked. It names the entry and shows the
value. -/
def NamesFirst (data : Graph) (cause : Rejection) : Prop :=
  ∃ entry value shown, firstRefused? data = some (entry, value) ∧ data.shown value = .ok shown ∧
    cause = entry.rejection shown ∧
    entry.part.name ++ '.' :: entry.key ++ " must be ".toList <+: cause.message

theorem name_prefix_message {entry : Entry} (listed : entry ∈ Entry.all) (shown : Text) :
    entry.part.name ++ '.' :: entry.key ++ " must be ".toList <+:
      (entry.rejection shown).message := by
  have bare : Entry.all.all (fun entry => (entry.part.name ++ '.' :: entry.key ++
      " must be ".toList).isPrefixOf (entry.rejection []).message) = true := by decide +kernel
  rw [message_rejection]
  exact (List.isPrefixOf_iff_prefix.mp (List.all_eq_true.mp bare entry listed)).trans
    (List.prefix_append _ _)

/-- **Every rejection of a mapping names the first value that is not as asked.** -/
theorem namesFirst_of_check {cause : Rejection} (mapping : data.members? data.root = some members)
    (rejected : (check data).1 = .error (.rejected cause)) : NamesFirst data cause := by
  have checked := check_eq mapping
  cases refused : firstRefused? data with
  | none =>
      rw [refused] at checked
      obtain ⟨settings, settled⟩ := checked
      cases settled.symm.trans rejected
  | some own =>
      obtain ⟨entry, value⟩ := own
      rw [refused] at checked
      have listed : entry ∈ Entry.all := by
        obtain ⟨other, listed, own⟩ := List.exists_of_findSome?_eq_some refused
        obtain ⟨_, -, same⟩ := Option.map_eq_some_iff.mp own
        cases same
        exact listed
      have failed : entry.failure data value = .rejected cause :=
        Except.error.inj (checked.symm.trans rejected)
      refine ⟨entry, value, ?_⟩
      rw [Entry.failure] at failed
      split at failed
      · cases failed
      · cases shown : data.shown value with
        | error own => rw [shown] at failed; cases failed
        | ok own =>
            rw [shown] at failed
            cases failed
            exact ⟨own, refused, rfl, rfl, name_prefix_message listed own⟩

/-- **What is made of a mapping.** It is rejected exactly when the value of some entry is not as
asked, with a message that names the first such entry, and otherwise it gives settings. Each of
these is the value of its entry or the standard one, the limit is positive, and the mapping made of
the settings gives them back. There is a warning for each section that is neither null nor a
mapping; a section without members is otherwise as good as none, and unknown keys make no
difference at all. -/
theorem entries_decide (mapping : data.members? data.root = some members)
    (clear : ¬ Baffles data) :
    ((∃ cause, (check data).1 = .error (.rejected cause)) ↔
      ∃ entry ∈ Entry.all, ∃ value, entry.value? data = some value ∧
        entry.demand.accepts value = false) ∧
    (∀ cause, (check data).1 = .error (.rejected cause) → NamesFirst data cause) ∧
    ((∃ settings, (check data).1 = .ok settings) ↔
      ∀ entry ∈ Entry.all, ∀ value, entry.value? data = some value →
        entry.demand.accepts value = true) ∧
    (∀ settings, (check data).1 = .ok settings → settings.values = settledValues data ∧
      1 ≤ settings.budget.maxLines ∧ check settings.toData = (.ok settings, [])) ∧
    (check data).2 = ignored data ∧
    (∀ part other, Without part data other →
      (check other).1 = (check data).1 ∧ (check other).2 = (check data).2.filter (· ≠ part)) ∧
    ∀ other, SameKnown data other → check other = check data := by
  have checked := check_eq mapping
  have accepted : (∃ settings, (check data).1 = .ok settings) ↔ firstRefused? data = none := by
    cases refused : firstRefused? data with
    | none => rw [refused] at checked; exact iff_of_true checked rfl
    | some own => rw [refused] at checked; simp [checked]
  have rejected : (∃ cause, (check data).1 = .error (.rejected cause)) ↔
      ¬ firstRefused? data = none := by
    rw [← accepted]
    constructor
    · rintro ⟨cause, failed⟩ ⟨settings, settled⟩
      cases settled.symm.trans failed
    · exact ((settled_or_rejected_iff data).mpr clear).resolve_left
  refine ⟨?_, fun cause failed => namesFirst_of_check mapping failed,
    accepted.trans firstRefused?_eq_none_iff, fun settings settled => ?_,
    warnings_of_check mapping, fun part other without => check_of_without without,
    fun other same => check_of_sameKnown same⟩
  · rw [rejected, firstRefused?_eq_none_iff]
    simp
  · have positive := positive_of_check settled
    exact ⟨values_of_check mapping settled, positive, check_toData positive⟩

end Reading

/-- The data with a limit, with other members behind it and behind its section. -/
def limited (limit : Int) (inside behind : List (Value × Value)) : Graph where
  containers := #[.mapping ((.text (Points.ofText "microtask".toList), .container 1) :: behind),
    .mapping ((.text (Points.ofText "max_lines".toList), .int limit) :: inside)]
  root := .container 0

/-- A member with an unknown key. -/
def unknownMember : Value × Value :=
  (.text (Points.ofText "x".toList), .int 1)

/-- A section that is ignored. -/
def numberSection : Value × Value :=
  (.text (Points.ofText "adr".toList), .int 7)

theorem entries_decide_limited :
    (∃ members, (limited 0 [] [numberSection]).members? (limited 0 [] [numberSection]).root =
      some members) ∧
    ¬ Baffles (limited 0 [] [numberSection]) ∧
    (∃ cause, (check (limited 0 [] [numberSection])).1 = .error (.rejected cause) ∧
      NamesFirst (limited 0 [] [numberSection]) cause) ∧
    (check (limited 0 [] [])).1 = (check (limited 0 [] [numberSection])).1 ∧
    check (limited 0 [unknownMember] [numberSection, unknownMember]) =
      check (limited 0 [] [numberSection]) := by
  have clear : ¬ Baffles (limited 0 [] [numberSection]) :=
    (settled_or_rejected_iff _).mp (.inr ⟨.badLimit "0".toList, rfl⟩)
  have first : firstRefused? (limited 0 [] [numberSection]) =
      some (⟨.budget, "max_lines".toList, .positive⟩, .int 0) := rfl
  have alike : ∀ other, ShownAlike (limited 0 [] [numberSection]) other := by
    intro other entry value own
    cases first.symm.trans own
    exact nofun
  have mapping : (limited 0 [] [numberSection]).members? (limited 0 [] [numberSection]).root =
      some [(.text (Points.ofText "microtask".toList), .container 1), numberSection] := rfl
  obtain ⟨rejected, names, -, -, -, without, unknown⟩ := entries_decide mapping clear
  obtain ⟨cause, failed⟩ := rejected.mpr
    ⟨⟨.budget, "max_lines".toList, .positive⟩, by decide, .int 0, rfl, rfl⟩
  refine ⟨⟨_, mapping⟩, clear, ⟨cause, failed, names cause failed⟩, ?_, ?_⟩
  · refine (without .record (limited 0 [] []) ⟨?_, ⟨_, rfl, rfl⟩, ?_, alike _⟩).1
    · intro value found
      cases found
      rfl
    · intro own value different found
      cases own with
      | record => exact absurd rfl different
      | budget => cases found; rfl
  · refine unknown _ ⟨⟨_, _, rfl, rfl, rfl⟩, ?_, alike _⟩
    intro part value found
    cases part with
    | record => cases found; exact .none
    | budget => cases found; exact .some rfl

theorem check_limited_of_hidden {limit : Int} (small : limit < 1)
    (hidden : Text.numeral? limit = none) :
    (check (limited limit [] [])).1 = .error (.unshowable .tooManyDigits) := by
  have unshown : (limited limit [] []).shown (.int limit) = .error .tooManyDigits := by
    simp only [Graph.shown, Data.maxShownDepth, Data.shownWithin, Value.shownWith, hidden]
  have read : readLimit (limited limit [] []) [(.text (Points.ofText "max_lines".toList),
      .int limit)] = .error (.unshowable .tooManyDigits) := by
    show (if limit < 1 then reject _ _ _ else _) = _
    rw [if_pos small, reject, unshown]
  change (readLimit (limited limit [] []) [(.text (Points.ofText "max_lines".toList),
    .int limit)] >>= fun maxLines => .ok (Settings.mk {} ⟨maxLines, false, none⟩)) = _
  rw [read]
  rfl

/-- A null section has no warning, a limit that cannot be shown is not rejected, and a section that
holds itself shows its unknown keys. -/
theorem odd_sections :
    check ⟨#[.mapping [(.text (Points.ofText "adr".toList), .null)]], .container 0⟩ =
      (.ok {}, []) ∧
    (check (limited (-(10 ^ Text.maxNumeralDigits : Nat)) [] [])).1 =
      .error (.unshowable .tooManyDigits) ∧
    (check ⟨#[.mapping [(.text (Points.ofText "adr".toList), .container 1)],
        .mapping [(.text (Points.ofText "strict".toList), .container 1)]], .container 0⟩).1 ≠
      (check ⟨#[.mapping [(.text (Points.ofText "adr".toList), .container 1)],
        .mapping [(.text (Points.ofText "strict".toList), .container 1), unknownMember]],
        .container 0⟩).1 := by
  have positive : 0 < 10 ^ Text.maxNumeralDigits := Nat.pow_pos (by decide)
  have hidden : Text.numeral? (-(10 ^ Text.maxNumeralDigits : Nat)) = none := by
    rw [← Option.not_isSome_iff_eq_none, Text.isSome_numeral?_iff_natAbs_lt, Int.natAbs_neg]
    exact Nat.lt_irrefl _
  exact ⟨rfl, check_limited_of_hidden (by omega) hidden, by decide +kernel⟩

end ReviewGate.Config
