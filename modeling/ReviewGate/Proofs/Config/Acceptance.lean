import ReviewGate.Config.Check
import ReviewGate.Proofs.Steps

/-!
# Which data are settings

A configuration has five entries, each with a demand on its value (`Entry.all`, in the order in
which they are checked). Data gives settings exactly when every entry that is there meets its
demand, and otherwise the first one that does not decides how it fails (`check_eq`).

That failure is the rejection of the entry by its name, with two exceptions (`Baffles`): a format
that is a list or a mapping is not compared with names at all, and a value that cannot be shown
cannot be named in a message. So the checks reject all bad data but that
(`settled_or_rejected_iff`).
-/

set_option autoImplicit false

namespace ReviewGate.Config

open Data (Container Graph Unshowable Value memberOf?)

/-! ## Entries and their demands -/

/-- What is asked of the value of an entry. -/
inductive Demand
  | truth
  | choice (names : List Text)
  | positive
  deriving DecidableEq, Repr

/-- Whether a value is as asked. A null leaves a choice open. -/
def Demand.accepts : Demand → Value → Bool
  | truth, .bool _ => true
  | choice names, value => value = .null || names.any value.isText
  | positive, .int limit => 1 ≤ limit
  | _, _ => false

/-- An entry of a section. -/
structure Entry where
  part : Part
  key : Text
  demand : Demand
  deriving DecidableEq, Repr

namespace Entry

/-- All entries, in the order in which they are checked. -/
def all : List Entry := [
  ⟨.record, "strict".toList, .truth⟩,
  ⟨.record, "format".toList, .choice (RecordFormat.all.map RecordFormat.name)⟩,
  ⟨.budget, "max_lines".toList, .positive⟩,
  ⟨.budget, "recursive".toList, .truth⟩,
  ⟨.budget, "format".toList, .choice (BudgetFormat.all.map BudgetFormat.name)⟩]

/-- The value that some data has for an entry. -/
def value? (data : Graph) (entry : Entry) : Option Value := do
  let sections ← data.members? data.root
  let own ← memberOf? entry.part.name sections
  memberOf? entry.key (← data.members? own)

/-- The value of an entry when it is not as asked. -/
def refused? (data : Graph) (entry : Entry) : Option Value :=
  (entry.value? data).filter (! entry.demand.accepts ·)

/-- The rejection of an entry, by its name and with its value. -/
def rejection (entry : Entry) (shown : Text) : Rejection :=
  match entry.demand with
  | .truth => .notBoolean entry.part entry.key shown
  | .choice names => .badFormat entry.part names shown
  | .positive => .badLimit shown

/-- How an entry fails with a value that is not as asked. -/
def failure (data : Graph) (entry : Entry) (value : Value) : Failure :=
  match entry.demand, (data.container? value).bind Incomparable.ofContainer? with
  | .choice _, some kind => .incomparable kind
  | _, _ =>
    match data.shown value with
    | .ok shown => .rejected (entry.rejection shown)
    | .error cause => .unshowable cause

end Entry

/-- The first entry that is not as asked, with its value. -/
def firstRefused? (data : Graph) : Option (Entry × Value) :=
  Entry.all.findSome? fun entry => (entry.refused? data).map (entry, ·)

/-! ## Single entries -/

section Reading

variable {α β : Type} {data : Graph} {entry : Entry} {members : List (Value × Value)}

/-- A reading of an entry among some members succeeds when the value is as asked, and else fails
as the entry does. -/
def Reads (data : Graph) (entry : Entry) (members : List (Value × Value))
    (result : Except Failure α) : Prop :=
  match (memberOf? entry.key members).filter (! entry.demand.accepts ·) with
  | none => ∃ value, result = .ok value
  | some value => result = .error (entry.failure data value)

theorem reads_of_cases {part : Part} {key : Text} {demand : Demand} {result : Except Failure α}
    (absent : memberOf? key members = none → ∃ value, result = .ok value)
    (met : ∀ value, memberOf? key members = some value → demand.accepts value = true →
      ∃ value, result = .ok value)
    (unmet : ∀ value, memberOf? key members = some value → demand.accepts value = false →
      result = .error (Entry.failure data ⟨part, key, demand⟩ value)) :
    Reads data ⟨part, key, demand⟩ members result := by
  unfold Reads
  dsimp only
  cases found : memberOf? key members with
  | none => exact absent found
  | some value =>
      cases accepted : demand.accepts value with
      | true => simpa [Option.filter, accepted] using met value found accepted
      | false => simpa [Option.filter, accepted] using unmet value found accepted

/-- A value is rejected as the failure of its entry says, unless it is not compared at all. -/
theorem reject_eq {value : Value}
    (compared : (∃ names, entry.demand = .choice names) →
      (data.container? value).bind Incomparable.ofContainer? = none) :
    reject data value entry.rejection = (.error (entry.failure data value) : Except Failure α) := by
  unfold reject Entry.failure
  cases data.shown value <;> dsimp only
  all_goals
    split
    · next names kind demand same => cases (compared ⟨names, demand⟩).symm.trans same
    · rfl

theorem reads_readBool (data : Graph) (part : Part) (key : String)
    (members : List (Value × Value)) :
    Reads data ⟨part, key.toList, .truth⟩ members (readBool data part key members) := by
  apply reads_of_cases
  · intro absent
    exact ⟨false, by rw [readBool, absent]⟩
  · intro value found accepted
    cases value with
    | bool truth => exact ⟨truth, by rw [readBool, found]⟩
    | _ => simp [Demand.accepts] at accepted
  · intro value found refused
    rw [← reject_eq (fun ⟨names, demand⟩ => nomatch demand), readBool, found]
    cases value with
    | bool truth => simp [Demand.accepts] at refused
    | _ => rfl

theorem reads_readLimit (data : Graph) (members : List (Value × Value)) :
    Reads data ⟨.budget, "max_lines".toList, .positive⟩ members (readLimit data members) := by
  apply reads_of_cases
  · intro absent
    exact ⟨_, by rw [readLimit, absent]⟩
  · intro value found accepted
    cases value with
    | int limit =>
        have positive : ¬ limit < 1 := by simpa [Demand.accepts] using accepted
        exact ⟨limit, by rw [readLimit, found]; exact if_neg positive⟩
    | _ => simp [Demand.accepts] at accepted
  · intro value found refused
    rw [← reject_eq (fun ⟨names, demand⟩ => nomatch demand), readLimit, found]
    cases value with
    | int limit =>
        have small : limit < 1 := by simpa [Demand.accepts] using refused
        exact if_pos small
    | _ => rfl

theorem positive_of_readLimit {limit : Int} (read : readLimit data members = .ok limit) :
    1 ≤ limit := by
  have rejected : ∀ value rejection, reject data value rejection ≠ .ok limit := by
    intro value rejection
    unfold reject
    cases data.shown value <;> exact nofun
  rw [readLimit] at read
  split at read
  · cases read
    decide
  · split at read
    · exact absurd read (rejected _ _)
    · cases read
      omega
  · exact absurd read (rejected _ _)

/-- A format that is given is compared with the names, unless it is of a kind that is not. -/
theorem readFormat_of_given {part : Part} {allowed : List α} {name : α → Text} {value : Value}
    (found : memberOf? "format".toList members = some value) (given : value ≠ .null) :
    readFormat data part allowed name members =
      match (data.container? value).bind Incomparable.ofContainer? with
      | some kind => .error (.incomparable kind)
      | none =>
        match allowed.find? fun format => value.isText (name format) with
        | some format => .ok (some format)
        | none => reject data value (.badFormat part (allowed.map name)) := by
  rw [readFormat, found]
  cases value with
  | null => exact absurd rfl given
  | _ => rfl

theorem reads_readFormat (data : Graph) (part : Part) (allowed : List α) (name : α → Text)
    (members : List (Value × Value)) :
    Reads data ⟨part, "format".toList, .choice (allowed.map name)⟩ members
      (readFormat data part allowed name members) := by
  apply reads_of_cases
  · intro absent
    exact ⟨none, by rw [readFormat, absent]⟩
  · intro value found accepted
    simp only [Demand.accepts, Bool.or_eq_true, decide_eq_true_eq, List.any_map,
      List.any_eq_true, Function.comp_apply] at accepted
    rcases accepted with rfl | ⟨format, member, named⟩
    · exact ⟨none, by rw [readFormat, found]⟩
    · have listed : (allowed.find? fun format => value.isText (name format)).isSome = true :=
        List.find?_isSome.mpr ⟨format, member, named⟩
      obtain ⟨first, listed⟩ := Option.isSome_iff_exists.mp listed
      -- A value with a name is a text and no container.
      obtain rfl : value = .text (Points.ofText (name format)) := of_decide_eq_true named
      exact ⟨some first, by simp only [readFormat_of_given found Value.noConfusion,
        Graph.container?, Option.bind_none, listed]⟩
  · intro value found refused
    have ⟨given, unnamed⟩ : value ≠ .null ∧ ∀ format ∈ allowed,
        ¬ value.isText (name format) = true := by
      simpa [Demand.accepts] using refused
    have unlisted : (allowed.find? fun format => value.isText (name format)) = none :=
      List.find?_eq_none.mpr unnamed
    rw [readFormat_of_given found given]
    cases kind? : (data.container? value).bind Incomparable.ofContainer? with
    | some kind => simp only [Entry.failure, kind?]
    | none =>
        rw [← reject_eq fun _ => kind?, unlisted]
        rfl

end Reading

/-! ## All entries -/

section Data

variable {α β : Type} {data : Graph} {members : List (Value × Value)}

/-- A result follows from some entries: it is there when all of them are as asked, and else it is
the failure of the first one that is not. -/
def Follows (data : Graph) (entries : List Entry) (result : Except Failure α) : Prop :=
  match entries.findSome? fun entry => (entry.refused? data).map (entry, ·) with
  | none => ∃ value, result = .ok value
  | some (entry, value) => result = .error (entry.failure data value)

theorem memberOf?_nil (name : Text) : memberOf? name [] = none :=
  rfl

/-- The members of a section are those of its mapping, if there is one. -/
theorem sectionMembers_eq (data : Graph) (members : List (Value × Value)) (part : Part) :
    (sectionMembers data members part).1 =
      ((memberOf? part.name members).bind data.members?).getD [] := by
  rw [sectionMembers]
  split
  · next absent => rw [absent]; rfl
  · next empty => rw [empty]; rfl
  · next value found =>
    rw [found, Option.bind_some]
    split <;> simp only [*, Option.getD_some, Option.getD_none]

/-- The value of an entry is found among the members of its section. -/
theorem memberOf?_sectionMembers (mapping : data.members? data.root = some members)
    (entry : Entry) :
    memberOf? entry.key (sectionMembers data members entry.part).1 = entry.value? data := by
  simp only [sectionMembers_eq, Entry.value?, mapping, Option.bind_eq_bind, Option.bind_some]
  cases memberOf? entry.part.name members with
  | none => rfl
  | some own => cases own? : data.members? own <;> simp [own?, memberOf?_nil]

/-- What follows from one entry and then from the others follows from all of them. -/
theorem Follows.bind {entry : Entry} {rest : List Entry} {first : Except Failure α}
    {next : α → Except Failure β} (mapping : data.members? data.root = some members)
    (reads : Reads data entry (sectionMembers data members entry.part).1 first)
    (follows : ∀ value, Follows data rest (next value)) :
    Follows data (entry :: rest) (first >>= next) := by
  rw [Reads, memberOf?_sectionMembers mapping] at reads
  rw [Follows, List.findSome?_cons, Entry.refused?]
  cases refused : (entry.value? data).filter (! entry.demand.accepts ·) with
  | none =>
      rw [refused] at reads
      obtain ⟨value, rfl⟩ := reads
      exact follows value
  | some value =>
      rw [refused] at reads
      rw [show first = _ from reads]
      rfl

/-- **The settings follow from the entries**: the first one that is not as asked decides. -/
theorem follows_readSections (mapping : data.members? data.root = some members) :
    Follows data Entry.all (readSections data (sectionMembers data members .record).1
      (sectionMembers data members .budget).1) :=
  .bind mapping (reads_readBool data .record "strict" _) fun _ =>
  .bind mapping (reads_readFormat data .record RecordFormat.all RecordFormat.name _) fun _ =>
  .bind mapping (reads_readLimit data _) fun _ =>
  .bind mapping (reads_readBool data .budget "recursive" _) fun _ =>
  .bind mapping (reads_readFormat data .budget BudgetFormat.all BudgetFormat.name _) fun _ =>
  ⟨_, rfl⟩

/-- Without a mapping there are no entries. -/
theorem firstRefused?_eq_none (plain : data.members? data.root = none) :
    firstRefused? data = none := by
  refine List.findSome?_eq_none_iff.mpr fun entry _ => ?_
  simp [Entry.refused?, Entry.value?, plain]

theorem check_of_members (mapping : data.members? data.root = some members) :
    (check data).1 = readSections data (sectionMembers data members .record).1
      (sectionMembers data members .budget).1 := by
  have given : data.root ≠ .null := fun null => by rw [null] at mapping; cases mapping
  rw [check, if_neg given, mapping]

/-- Data that is no mapping gives the standard settings when it is nothing at all, and is rejected
otherwise. -/
theorem check_of_plain (plain : data.members? data.root = none) :
    (check data).1 = if data.root = .null then .ok {} else .error (.rejected .notMapping) := by
  rw [check, plain]
  split <;> rfl

/-- **What is made of data**: it is settings when every entry that is there is as asked, and else
it fails as the first one does that is not. -/
theorem check_eq (mapping : data.members? data.root = some members) :
    match firstRefused? data with
    | none => ∃ settings, (check data).1 = .ok settings
    | some (entry, value) => (check data).1 = .error (entry.failure data value) := by
  rw [check_of_members mapping]
  exact follows_readSections mapping

/-- The limit that is set is positive. -/
theorem positive_of_check {settings : Settings} (settled : (check data).1 = .ok settings) :
    1 ≤ settings.budget.maxLines := by
  cases mapping : data.members? data.root with
  | none =>
      rw [check_of_plain mapping] at settled
      split at settled <;> cases settled
      decide
  | some members =>
      rw [check_of_members mapping] at settled
      obtain ⟨strict, -, settled⟩ := exists_of_bind_eq_ok settled
      obtain ⟨recordFormat, -, settled⟩ := exists_of_bind_eq_ok settled
      obtain ⟨limit, read, settled⟩ := exists_of_bind_eq_ok settled
      obtain ⟨recursive, -, settled⟩ := exists_of_bind_eq_ok settled
      obtain ⟨budgetFormat, -, settled⟩ := exists_of_bind_eq_ok settled
      cases settled
      exact positive_of_readLimit read

/-! ## Data that is neither accepted nor rejected -/

/-- Data baffles the checks when the first value that is not as asked is a list or a mapping in
the place of a name, or when that value cannot be shown. -/
inductive Baffles (data : Graph) : Prop
  | composite {entry : Entry} {value : Value} {names : List Text} {container : Container}
      (first : firstRefused? data = some (entry, value)) (named : entry.demand = .choice names)
      (composite : data.container? value = some container)
      (noSet : ∀ elements, container ≠ .set elements)
  | unshowable {entry : Entry} {value : Value} {cause : Unshowable}
      (first : firstRefused? data = some (entry, value))
      (unshown : data.shown value = .error cause)

theorem ofContainer?_isSome_iff {container : Container} :
    (Incomparable.ofContainer? container).isSome = true ↔
      ∀ elements, container ≠ .set elements := by
  cases container <;> simp [Incomparable.ofContainer?]

/-- An entry fails by a rejection unless its value baffles. -/
theorem failure_eq_rejected_iff {entry : Entry} {value : Value}
    (first : firstRefused? data = some (entry, value)) :
    (∃ cause, entry.failure data value = .rejected cause) ↔ ¬ Baffles data := by
  constructor
  · rintro ⟨cause, rejected⟩ baffles
    cases baffles with
    | composite other named composite noSet =>
        cases first.symm.trans other
        obtain ⟨kind, kind?⟩ := Option.isSome_iff_exists.mp (ofContainer?_isSome_iff.mpr noSet)
        simp [Entry.failure, named, composite, kind?] at rejected
    | unshowable other unshown =>
        cases first.symm.trans other
        rw [Entry.failure, unshown] at rejected
        split at rejected <;> cases rejected
  · intro clear
    cases shown? : data.shown value with
    | error cause => exact absurd (.unshowable first shown?) clear
    | ok shown =>
        rw [Entry.failure, shown?]
        split
        · next names kind named kind? =>
          obtain ⟨container, composite, kind?⟩ := Option.bind_eq_some_iff.mp kind?
          have noSet := ofContainer?_isSome_iff.mp (Option.isSome_of_eq_some kind?)
          exact absurd (.composite first named composite noSet) clear
        · exact ⟨_, rfl⟩

/-- **Data is settings, or it is rejected, unless it baffles.** -/
theorem settled_or_rejected_iff (data : Graph) :
    ((∃ settings, (check data).1 = .ok settings) ∨
      ∃ cause, (check data).1 = .error (.rejected cause)) ↔ ¬ Baffles data := by
  cases mapping : data.members? data.root with
  | none =>
      have none : firstRefused? data = none := firstRefused?_eq_none mapping
      rw [check_of_plain mapping]
      constructor
      · rintro - (⟨first, -, -, -⟩ | ⟨first, -⟩) <;> exact nomatch none.symm.trans first
      · intro _
        split
        · exact .inl ⟨_, rfl⟩
        · exact .inr ⟨_, rfl⟩
  | some members =>
      have checked := check_eq mapping
      cases first : firstRefused? data with
      | none =>
          rw [first] at checked
          refine ⟨?_, fun _ => .inl checked⟩
          rintro - (⟨other, -, -, -⟩ | ⟨other, -⟩) <;> exact nomatch first.symm.trans other
      | some refused =>
          obtain ⟨entry, value⟩ := refused
          rw [first] at checked
          rw [checked, ← failure_eq_rejected_iff first]
          simp

end Data

end ReviewGate.Config
