import ReviewGate.Proofs.Budget.Reporting
import ReviewGate.Proofs.Budget.SplitCover
import ReviewGate.Proofs.Text.Lines

/-!
# A count accounts for its source

Counting the lines of a source text gives every line back with its number, and each line is counted
under one kind (`total_breakdown`). A split is suggested exactly when there are more code lines than
the limit, where a negative limit is as good as none (`suggestSplit_ne_nil_iff`).

Counting divides twice, and the second time by the result of the first. That result is zero when
the limit is so far above the number of code lines that nothing is left of their quotient
(`suggestSplit_of_enormous`). A split is only suggested above the limit, though, and there the
quotient is at least one, so counting never divides by zero (`eq_overflow_of_equalChunks`). What is
left are numbers of lines beyond all doubles.
-/

set_option autoImplicit false

namespace ReviewGate

/-! ## Lines and kinds -/

namespace Source

/-- Every line has one of the four kinds. -/
theorem length_eq_sum_countKind (lines : List Line) :
    lines.length = countKind .code lines + countKind .blank lines + countKind .comment lines +
      countKind .imported lines := by
  induction lines with
  | nil => rfl
  | cons line more ih =>
      unfold countKind at ih ⊢
      simp only [List.countP_cons, List.length_cons]
      cases line.kind <;> simp <;> omega

/-- The numbers of a breakdown add up to the total. -/
theorem total_breakdown (lines : List Line) :
    (breakdown lines).total = (breakdown lines).effective + (breakdown lines).blank +
      (breakdown lines).comment + (breakdown lines).imports := by
  have counted := length_eq_sum_countKind lines
  simp only [breakdown]
  omega

/-- A text has one line more than newlines. -/
theorem length_classify_eq_count (language : Language) (text : Text) :
    (classify language text).lines.length = text.count '\n' + 1 := by
  rw [length_classify, Text.lines, Text.length_splitWhere]
  rfl

theorem unlines_raw_classify (language : Language) (text : Text) :
    Text.unlines ((classify language text).lines.map Line.raw) = text := by
  rw [classify, raw_scanFrom, Text.unlines_lines]

end Source

namespace Budget

open Source

variable {reading : Quotients} {limit : Int}

/-! ## The size of chunks -/

/-- The number and the size of chunks are quotients rounded up. -/
theorem exists_of_chunkSize {total size : Nat} (sized : chunkSize reading total limit = .ok size) :
    ∃ count value, reading.ceil total (max limit 1).toNat = .ok count ∧
      reading.ceil total count.toNat = .ok value ∧ size = value.toNat := by
  obtain ⟨chunks, counted, rest⟩ := exists_of_bind_eq_ok sized
  obtain ⟨value, divided, done⟩ := exists_of_bind_eq_ok rest
  cases done
  rw [chunkCount] at counted
  cases quotient : reading.ceil total (max limit 1).toNat with
  | error cause =>
      rw [quotient] at counted
      cases counted
  | ok count =>
      rw [quotient] at counted
      cases counted
      exact ⟨count, value, rfl, divided, rfl⟩

/-- Chunks are never empty, however the quotients are read. -/
theorem chunkSize_pos {total size : Nat} (filled : 0 < total)
    (sized : chunkSize reading total limit = .ok size) : 0 < size := by
  cases reading with
  | exact =>
      obtain ⟨other, made, positive⟩ := exists_chunkSize filled limit
      cases made.symm.trans sized
      exact positive
  | double =>
      obtain ⟨count, value, counted, divided, rfl⟩ := exists_of_chunkSize sized
      have bound := ceil_le counted (by omega)
      have positive := den_pos_of_ceil divided
      have above : count.toNat ≤ total * Double.leastInverse :=
        (show count.toNat ≤ total * 2 by omega).trans
          (Nat.mul_le_mul_left total Double.two_le_leastInverse)
      have some_ := ceil_pos divided positive (by omega) above
      omega

theorem chunkSize_eq_error {total : Nat} {cause : ArithmeticError} (beyond : limit < total)
    (filled : 0 < total) (failed : chunkSize reading total limit = .error cause) :
    cause = .overflow := by
  have positive : 0 < (max limit 1).toNat := by omega
  rw [chunkSize, chunkCount] at failed
  cases quotient : reading.ceil total (max limit 1).toNat with
  | error first =>
      rw [quotient] at failed
      cases failed
      exact eq_overflow_of_ceil positive quotient
  | ok count =>
      have some_ := ceil_pos_of_le (by omega) (by omega) quotient
      rw [quotient] at failed
      change reading.ceil total count.toNat >>= _ = _ at failed
      cases size : reading.ceil total count.toNat with
      | error second =>
          rw [size] at failed
          cases failed
          exact eq_overflow_of_ceil (by omega) size
      | ok value =>
          rw [size] at failed
          cases failed

/-! ## Suggestions -/

/-- Some code is divided into some chunks, and no code into none. -/
theorem equalChunks_ne_nil_iff {code : List Line} {units : List Suggestion}
    (cut : equalChunks reading code limit = .ok units) : units ≠ [] ↔ code ≠ [] := by
  rw [equalChunks] at cut
  split at cut
  · next empty =>
    cases cut
    exact iff_of_false (fun filled => filled rfl) (fun filled => filled empty)
  · next filled =>
    obtain ⟨size, sized, made⟩ := exists_of_bind_eq_ok cut
    have positive := chunkSize_pos (List.length_pos_iff.mpr filled) sized
    have chunks : chunksOf size code ≠ [] := by
      intro empty
      rw [← flatten_chunksOf positive code, empty] at filled
      exact filled rfl
    obtain ⟨chunk, more, same⟩ := List.exists_cons_of_ne_nil chunks
    have some_ : chunk ≠ [] := ne_nil_of_mem_chunksOf (same ▸ List.mem_cons_self)
    have units_ : units = chunkUnits 0 (chunksOf size code) := by
      cases made
      rfl
    rw [units_, same, chunkUnits_cons some_]
    exact iff_of_true (List.cons_ne_nil _ _) filled

theorem suggestSplit_ne_nil_iff (language : Language) (text : Text) {units : List Suggestion}
    (split : suggestSplit reading (classify language text).lines limit = .ok units) :
    units ≠ [] ↔ codeLines (classify language text).lines ≠ [] := by
  rw [suggestSplit] at split
  split at split
  · exact equalChunks_ne_nil_iff split
  · next many =>
    have filled : boundaryNumbers (classify language text).lines ≠ [] := by
      intro empty
      rw [empty] at many
      exact many (Nat.zero_le 1)
    obtain ⟨start, others, bounded⟩ := List.exists_cons_of_ne_nil filled
    obtain ⟨line, code, _⟩ := exists_code_of_boundary (bounded ▸ List.mem_cons_self)
    have cover := (boundaryUnits_cover (increasing_classify language text)
      (fun line member => (number_mem_classify language text member).1)
      (fun line member => (number_mem_classify language text member).2)
      (getLast?_number_classify language text) filled).1
    cases split
    refine iff_of_true (fun empty => ?_) (List.ne_nil_of_mem code)
    -- units that hold the code are not missing where there is some
    have once := cover.once line code
    rw [empty] at once
    cases once

/-! ## Failures -/

theorem exists_equalChunks_exact (code : List Line) (limit : Int) :
    ∃ units, equalChunks .exact code limit = .ok units := by
  rw [equalChunks]
  split
  · exact ⟨[], rfl⟩
  · next filled =>
    obtain ⟨size, sized, _⟩ := exists_chunkSize (List.length_pos_iff.mpr filled) limit
    exact ⟨_, by rw [sized]; rfl⟩

/-- Above the limit, code is divided unless it has more lines than a double can tell. -/
theorem eq_overflow_of_equalChunks {code : List Line} {cause : ArithmeticError}
    (beyond : limit < code.length) (failed : equalChunks reading code limit = .error cause) :
    reading = .double ∧ Double.safeBound ≤ code.length ∧ cause = .overflow := by
  cases reading with
  | exact =>
      obtain ⟨units, cut⟩ := exists_equalChunks_exact code limit
      cases cut.symm.trans failed
  | double =>
      refine ⟨rfl, ?_, ?_⟩
      · by_contra small
        obtain ⟨units, cut⟩ := exists_equalChunks beyond (Nat.not_le.mp small)
        cases cut.symm.trans failed
      · rw [equalChunks] at failed
        split at failed
        · cases failed
        · next filled =>
          cases sized : chunkSize .double code.length limit with
          | ok size =>
              rw [sized] at failed
              cases failed
          | error first =>
              rw [sized] at failed
              cases failed
              exact chunkSize_eq_error beyond (List.length_pos_iff.mpr filled) sized

/-- **A limit beyond all measure cannot be divided by.** Code with at most one boundary is to be
divided into chunks, and their number comes out as zero. -/
theorem suggestSplit_of_enormous {lines : List Line} (few : (boundaryNumbers lines).length ≤ 1)
    (filled : codeLines lines ≠ [])
    (enormous : ((codeLines lines).length * (2 * Double.leastInverse) : Nat) ≤ limit) :
    suggestSplit .double lines limit = .error .divisionByZero := by
  have some_ := List.length_pos_iff.mpr filled
  have tiny : (codeLines lines).length * (2 * Double.leastInverse) ≤ (max limit 1).toNat := by
    omega
  have count : chunkCount .double (codeLines lines).length limit = .ok 0 := by
    rw [chunkCount, ceil_of_tiny (Int.natCast_pos.mpr some_) tiny]
    rfl
  rw [suggestSplit, if_pos few, equalChunks, if_neg filled, chunkSize, count]
  rfl

/-! ## Counting a file -/

section Counting

variable {source path : Text}

/-- A file that is not counted has more code lines than a double can tell. -/
theorem eq_overflow_of_countSource {cause : ArithmeticError}
    (failed : countSource reading source path limit = .error cause) :
    reading = .double ∧ Double.safeBound ≤ effectiveLines path source ∧ cause = .overflow := by
  have beyond := effectiveLines_of_failed failed
  rw [countSource_eq] at failed
  dsimp only at failed
  rw [if_pos beyond, suggestSplit] at failed
  split at failed
  · cases cut : equalChunks reading
        (codeLines (classify (Language.ofPath path) source).lines) limit with
    | ok units =>
        rw [cut] at failed
        cases failed
    | error first =>
        rw [cut] at failed
        cases failed
        exact eq_overflow_of_equalChunks beyond cut
  · cases failed

/-- What a count of a source text under a limit says: the numbers of the lines of each kind, which
add up to the number of lines, whether there are more code lines than the limit, and a split exactly
when there are, as long as there is code. -/
structure FileCount.AccountsFor (source path : Text) (limit : Int) (count : FileCount) : Prop where
  path_eq : count.path = path
  language_eq : count.language = (Language.ofPath path).name
  breakdown_eq : count.breakdown = Source.breakdown (classify (Language.ofPath path) source).lines
  total : count.breakdown.total = source.count '\n' + 1
  sum : count.breakdown.total = count.breakdown.effective + count.breakdown.blank +
    count.breakdown.comment + count.breakdown.imports
  exceeds : count.exceeds = true ↔ limit < count.breakdown.effective
  split : count.suggestions ≠ [] ↔ max limit 0 < count.breakdown.effective

/-- Units are suggested exactly when there is more code than a limit that is not negative. -/
theorem suggestions_ne_nil_iff {count : FileCount}
    (counted : countSource reading source path limit = .ok count) :
    count.suggestions ≠ [] ↔ max limit 0 < effectiveLines path source := by
  obtain ⟨units, suggested, rfl⟩ := exists_of_countSource counted
  dsimp only
  split at suggested
  · next beyond =>
    have some_ := suggestSplit_ne_nil_iff (Language.ofPath path) source suggested
    rw [← List.length_pos_iff (l := codeLines _)] at some_
    refine some_.trans ?_
    unfold effectiveLines at beyond ⊢
    omega
  · next within =>
    cases suggested
    exact iff_of_false (fun filled => filled rfl) (by omega)

theorem accountsFor_of_countSource {count : FileCount}
    (counted : countSource reading source path limit = .ok count) :
    count.AccountsFor source path limit := by
  have split := suggestions_ne_nil_iff counted
  obtain ⟨units, _, rfl⟩ := exists_of_countSource counted
  refine ⟨rfl, rfl, rfl, ?_, total_breakdown _, ?_, ?_⟩
  · rw [breakdown, length_classify_eq_count]
    rfl
  · rw [effective_breakdown, decide_eq_true_iff]
    rfl
  · rw [effective_breakdown]
    exact split

/-- **A count accounts for its source.** Whatever the source text, the path and the limit, the lines
are those of the text, numbered from one on. They are counted, unless the quotients are doubles and
there are more code lines than those can tell; so nothing is divided by zero. Divided directly, the
same lines under an enormous limit would be. -/
theorem countSource_accounts (source path : Text) (limit : Int) :
    (∀ language, Text.unlines ((classify language source).lines.map Line.raw) = source ∧
      (classify language source).lines.map Line.number =
        (List.range (classify language source).lines.length).map fun index : Nat =>
          1 + (index : Int)) ∧
      (∀ reading,
        (∃ count, countSource reading source path limit = .ok count ∧
          count.AccountsFor source path limit) ∨
        (reading = .double ∧ Double.safeBound ≤ effectiveLines path source ∧
          countSource reading source path limit = .error .overflow)) ∧
      ((boundaryNumbers (classify (Language.ofPath path) source).lines).length ≤ 1 →
        0 < effectiveLines path source →
        ∀ enormous : Int,
          (effectiveLines path source * (2 * Double.leastInverse) : Nat) ≤ enormous →
          suggestSplit .double (classify (Language.ofPath path) source).lines enormous =
            .error .divisionByZero) := by
  refine ⟨fun language => ⟨unlines_raw_classify language source, ?_⟩, fun reading => ?_,
    fun few filled enormous beyond =>
      suggestSplit_of_enormous few (List.length_pos_iff.mp filled) beyond⟩
  · rw [length_classify]
    exact number_classify language source
  · cases counted : countSource reading source path limit with
    | ok count => exact .inl ⟨count, rfl, accountsFor_of_countSource counted⟩
    | error cause =>
        obtain ⟨read, large, rfl⟩ := eq_overflow_of_countSource counted
        exact .inr ⟨read, large, rfl⟩

end Counting

end Budget

end ReviewGate
