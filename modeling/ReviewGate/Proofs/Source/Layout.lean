import ReviewGate.Proofs.Budget.Reporting
import ReviewGate.Proofs.Source.BlockTracking

/-!
# Layout

A scan looks at the trimmed lines only, and a blank line neither changes its state nor counts as
anything but blank. So a scan is determined by the visible lines, which are the trimmed lines that
are not blank: it gives their kinds and the final state as if there were no others
(`scanFrom_visible`). The induction is on the lines of the text, and on a blank one the scan of the
visible lines stands still in the same state.

Two texts with the same visible lines, however they are indented and wherever blank lines stand in
them, therefore have the same kinds of visible lines, the same final state and the same number of
lines of every kind but blank (`classify_layout`). Their suggested splits may differ, since a
boundary can be told by its indentation.
-/

set_option autoImplicit false

namespace ReviewGate.Source

open Text

/-! ## Visible lines -/

/-- The lines of a text without the white space around them, as far as they are not blank. -/
def visibleLines (text : Text) : List Text :=
  ((Text.lines text).map trim).filter (· ≠ [])

/-- The kinds of the lines that are not blank. -/
def visibleKinds (lines : List Line) : List LineKind :=
  (lines.filter fun line => trim line.raw ≠ []).map Line.kind

/-- The kinds of trimmed lines that are scanned one after the other, and the state behind them. -/
def scanVisible (shapes : LineShapes) (state : ScanState) : List Text → List LineKind × ScanState
  | [] => ([], state)
  | line :: more =>
    let here := scanLine shapes state line
    let rest := scanVisible shapes here.2 more
    (here.1 :: rest.1, rest.2)

section Scan

variable (shapes : LineShapes)

/-- **A scan is determined by the visible lines.** -/
theorem scanFrom_visible (number : Int) (state : ScanState) (raws : List Text) :
    scanVisible shapes state ((raws.map trim).filter (· ≠ [])) =
      (visibleKinds (scanFrom shapes number state raws).lines,
        (scanFrom shapes number state raws).final) := by
  induction raws generalizing number state with
  | nil => rfl
  | cons raw more ih =>
      by_cases blank : trim raw = []
      · have still : scanLine shapes state (trim raw) = (.blank, state) :=
          scanLine_of_blank (trim_eq_nil_iff.mp blank) state
        rw [List.map_cons, List.filter_cons_of_neg (by simpa using blank), scanFrom, still,
          ih (number + 1) state, visibleKinds, visibleKinds,
          List.filter_cons_of_neg (by simpa using blank)]
      · rw [List.map_cons, List.filter_cons_of_pos (by simpa using blank), scanFrom, scanVisible,
          ih (number + 1), visibleKinds, visibleKinds,
          List.filter_cons_of_pos (by simpa using blank), List.map_cons]

/-- A line is not scanned as anything but blank when it is blank. -/
theorem kind_of_mem_scanFrom {number : Int} {state : ScanState} {raws : List Text} {line : Line}
    (member : line ∈ (scanFrom shapes number state raws).lines) (blank : trim line.raw = []) :
    line.kind = .blank := by
  induction raws generalizing number state with
  | nil => cases member
  | cons raw more ih =>
      rcases List.mem_cons.mp member with rfl | later
      · exact congrArg Prod.fst (scanLine_of_blank (trim_eq_nil_iff.mp blank) state)
      · exact ih later

end Scan

/-- Lines of other kinds than blank are counted among the visible ones. -/
theorem countKind_classify (language : Language) (text : Text) {kind : LineKind}
    (filled : kind ≠ .blank) :
    countKind kind (classify language text).lines =
      (visibleKinds (classify language text).lines).count kind := by
  rw [visibleKinds, List.count, List.countP_map, List.countP_filter, countKind]
  refine List.countP_congr fun line member => ?_
  have visible : line.kind = kind → trim line.raw ≠ [] := fun same blank =>
    filled (same ▸ kind_of_mem_scanFrom language.shapes member blank)
  simpa using visible

theorem scanVisible_visibleLines (language : Language) (text : Text) :
    scanVisible language.shapes .outside (visibleLines text) =
      (visibleKinds (classify language text).lines, (classify language text).final) :=
  scanFrom_visible language.shapes 1 .outside (Text.lines text)

/-! ## Texts of the same visible lines -/

section Layout

variable {first second : Text}

theorem visibleKinds_of_layout (same : visibleLines first = visibleLines second)
    (language : Language) :
    visibleKinds (classify language first).lines = visibleKinds (classify language second).lines ∧
      (classify language first).final = (classify language second).final := by
  rw [← Prod.mk.injEq, ← scanVisible_visibleLines, ← scanVisible_visibleLines, same]

theorem countKind_of_layout (same : visibleLines first = visibleLines second)
    (language : Language) {kind : LineKind} (filled : kind ≠ .blank) :
    countKind kind (classify language first).lines =
      countKind kind (classify language second).lines := by
  rw [countKind_classify language first filled, countKind_classify language second filled,
    (visibleKinds_of_layout same language).1]

end Layout

end ReviewGate.Source

namespace ReviewGate.Budget

open Source

/-- Two counts that differ in nothing but blank lines and suggestions. -/
structure FileCount.SameEffort (first second : FileCount) : Prop where
  effective : first.breakdown.effective = second.breakdown.effective
  comment : first.breakdown.comment = second.breakdown.comment
  imports : first.breakdown.imports = second.breakdown.imports
  exceeds : first.exceeds = second.exceeds

section Layout

variable {first second path : Text} {limit : Int} {reading : Quotients} {count : FileCount}

/-- What is counted of a file is the breakdown of its lines. -/
theorem breakdown_of_countSource (counted : countSource reading first path limit = .ok count) :
    count.breakdown = breakdown (classify (Language.ofPath path) first).lines := by
  obtain ⟨units, _, rfl⟩ := exists_of_countSource counted
  rfl

theorem effectiveLines_of_layout (same : visibleLines first = visibleLines second) (path : Text) :
    effectiveLines path first = effectiveLines path second := by
  have code : ∀ text, effectiveLines path text =
      countKind .code (classify (Language.ofPath path) text).lines := fun text =>
    (List.countP_eq_length_filter ..).symm
  rw [code, code, countKind_of_layout same _ (by decide)]

/-- **Layout does not change what a file counts for.** Texts of the same visible lines have the
same kinds of visible lines and the same final state. They are counted alike under every path and
limit, and both are counted unless they have more lines than any memory holds. -/
theorem classify_layout (same : visibleLines first = visibleLines second) :
    (∀ language, visibleKinds (classify language first).lines =
        visibleKinds (classify language second).lines ∧
      (classify language first).final = (classify language second).final) ∧
    ∀ path limit,
      (∀ reading one other, countSource reading first path limit = .ok one →
        countSource reading second path limit = .ok other → one.SameEffort other) ∧
      (effectiveLines path first < Double.safeBound →
        (∃ count, countSource .double first path limit = .ok count) ∧
          ∃ count, countSource .double second path limit = .ok count) := by
  refine ⟨visibleKinds_of_layout same, fun path limit => ⟨?_, fun small => ?_⟩⟩
  · intro reading one other counted counted'
    have numbers := breakdown_of_countSource counted
    have numbers' := breakdown_of_countSource counted'
    have kept : ∀ kind, kind ≠ .blank →
        (countKind kind (classify (Language.ofPath path) first).lines : Int) =
          countKind kind (classify (Language.ofPath path) second).lines := fun kind filled =>
      congrArg _ (countKind_of_layout same _ filled)
    refine ⟨?_, ?_, ?_, ?_⟩
    · rw [numbers, numbers']
      exact kept .code (by decide)
    · rw [numbers, numbers']
      exact kept .comment (by decide)
    · rw [numbers, numbers']
      exact kept .imported (by decide)
    · rw [(counts_of_countSource counted).exceeds, (counts_of_countSource counted').exceeds,
        effectiveLines_of_layout same]
  · exact ⟨exists_countSource small,
      exists_countSource (by rwa [← effectiveLines_of_layout same path])⟩

/-- A comment over several lines with an import in it, once with a blank line in front of the import
and once with one behind it. -/
theorem classify_layout_commented :
    let first : Text := "/* a\n\n  import b\n*/\n\tx = 1  \n".toList
    let second : Text := "  /* a\nimport b\n  \n */\nx = 1".toList
    visibleLines first = visibleLines second ∧
      visibleKinds (classify .typescript second).lines = [.comment, .comment, .comment, .code] ∧
      (classify .typescript second).final = .outside ∧
      ∃ one other, countSource .double first "a.ts".toList 0 = .ok one ∧
        countSource .double second "a.ts".toList 0 = .ok other ∧ one.SameEffort other := by
  intro first second
  have same : visibleLines first = visibleLines second := by decide
  obtain ⟨scanned, counted⟩ := classify_layout same
  obtain ⟨alike, returns⟩ := counted "a.ts".toList 0
  have small : effectiveLines "a.ts".toList first < Double.safeBound := by decide +kernel
  obtain ⟨⟨one, countedOne⟩, ⟨other, countedOther⟩⟩ := returns small
  refine ⟨same, (scanned .typescript).1.symm.trans ?_, (scanned .typescript).2.symm.trans ?_,
    one, other, countedOne, countedOther, alike .double one other countedOne countedOther⟩ <;>
    decide

end Layout

end ReviewGate.Budget
