import ReviewGate.Proofs.Budget.Agreement
import ReviewGate.Proofs.Console.Printed
import ReviewGate.Proofs.Text.Reading
import ReviewGate.Record.ConsoleReport

/-!
# Colour only adds escape sequences

A report in colour, without its escape sequences, is the report without colour
(`colour_only_adds_sequences`). An escape sequence is deleted from the escape character up to the
next `m`, so what is deleted depends on all that stands behind an escape character; the texts of
the records and of the files must therefore have none of their own. They may hold anything else.
Cleaning a text adds blanks only, and the columns up to which tabs are filled are counted without
the sequences, so they are the same with colour, whatever widths the characters have.

The texts that stand in a line are named for each of the two reports (`ReportLine.texts`). All
other parts of a line are fixed or numerals, so a line has no escape characters when these texts
have none (`escape_not_mem_pieces`), and then deleting goes line by line and piece by piece
(`withoutSequences_render`).
-/

set_option autoImplicit false

namespace ReviewGate

namespace Console

/-! ## Deleting escape sequences -/

/-- What stands behind the escape sequence at the beginning of a text, if there is one. -/
def behindSequence? (text : Text) : Option Text := do
  let codes ← Text.after? [escape, '['] text
  Text.after? ['m'] (codes.dropWhile (· != 'm'))

theorem length_of_behindSequence? {text behind : Text}
    (found : behindSequence? text = some behind) : behind.length < text.length := by
  obtain ⟨codes, opened, closed⟩ := Option.bind_eq_some_iff.mp found
  have shorter := (List.dropWhile_suffix (l := codes) (· != 'm')).length_le
  rw [Text.after?_eq_some_iff.mp closed] at shorter
  rw [Text.after?_eq_some_iff.mp opened]
  simp only [List.length_append, List.length_cons] at shorter ⊢
  omega

/-- A text without its escape sequences. -/
def withoutSequences : Text → Text
  | [] => []
  | c :: rest =>
    match _found : behindSequence? (c :: rest) with
    | some behind => withoutSequences behind
    | none => c :: withoutSequences rest
termination_by text => text.length
decreasing_by
  · exact length_of_behindSequence? _found
  · exact Nat.lt_succ_self _

theorem withoutSequences_nil : withoutSequences [] = [] := by
  rw [withoutSequences]

theorem withoutSequences_of_some {text behind : Text}
    (found : behindSequence? text = some behind) :
    withoutSequences text = withoutSequences behind := by
  cases text with
  | nil => cases found
  | cons c rest =>
      rw [withoutSequences]
      split
      · next other own => rw [Option.some.inj (own.symm.trans found)]
      · next none => cases none.symm.trans found

/-- A sequence ends at the first `m`. -/
theorem withoutSequences_sequence {codes : Text} (within : 'm' ∉ codes) (rest : Text) :
    withoutSequences (escapeSequence codes ++ rest) = withoutSequences rest := by
  have whole : escapeSequence codes ++ rest = [escape, '['] ++ (codes ++ 'm' :: rest) := by
    simp [escapeSequence]
  refine withoutSequences_of_some ?_
  rw [whole, behindSequence?, Text.after?_append, Option.bind_eq_bind, Option.bind_some,
    Text.dropWhile_front within]
  exact Text.after?_append ['m'] rest

theorem withoutSequences_cons {c : Char} (plain : c ≠ escape) (rest : Text) :
    withoutSequences (c :: rest) = c :: withoutSequences rest := by
  have none : behindSequence? (c :: rest) = none := by
    rw [behindSequence?, Text.after?_eq_none rfl (by simpa using plain)]
    rfl
  rw [withoutSequences]
  split
  · next found => cases none.symm.trans found
  · rfl

/-- What has no escape character is left as it is. -/
theorem withoutSequences_append {front : Text} (free : escape ∉ front) (rest : Text) :
    withoutSequences (front ++ rest) = front ++ withoutSequences rest := by
  induction front with
  | nil => rfl
  | cons c front ih =>
      obtain ⟨other, later⟩ := not_or.mp (mt List.mem_cons.mpr free)
      rw [List.cons_append, withoutSequences_cons (Ne.symm other), ih later, List.cons_append]

/-! ## Printed rows -/

section Rows

variable {widths : Widths}

/-- Cleaning adds blanks and no other characters. -/
theorem escape_not_mem_cleanText {text : Text} (free : escape ∉ text) (column : Nat) :
    escape ∉ (cleanText widths column text).1 := by
  have expanded : ∀ (text : Text) (column : Nat), escape ∉ text →
      escape ∉ (expandTabs widths column text).1 := by
    intro text
    induction text with
    | nil => exact fun _ free => free
    | cons c rest ih =>
        intro column free
        obtain ⟨other, later⟩ := not_or.mp (mt List.mem_cons.mpr free)
        have first : escape ∉ shownChar column c := by
          unfold shownChar
          split
          · exact fun member => absurd (List.eq_of_mem_replicate member) (by decide)
          · exact fun member => other (List.mem_singleton.mp member)
        exact List.not_mem_append first (ih _ later)
  exact expanded _ column fun member => free (List.mem_of_mem_filter member)

theorem paint_false (style : Option Style) (text : Text) : paint false style text = text := by
  cases style <;> rfl

/-- Painting puts sequences around a text, or nothing at all. -/
theorem withoutSequences_paint (colour : Bool) (style : Option Style) {text : Text}
    (free : escape ∉ text) (rest : Text) :
    withoutSequences (paint colour style text ++ rest) = text ++ withoutSequences rest := by
  unfold paint
  split
  · next style =>
    split
    · have own : 'm' ∉ style.codes := by cases style <;> decide
      rw [List.append_assoc, List.append_assoc, withoutSequences_sequence own,
        withoutSequences_append free, withoutSequences_sequence (by decide)]
    · exact withoutSequences_append free rest
  · exact withoutSequences_append free rest

/-- A row none of whose texts has an escape character. -/
def EscapeFree (row : Row) : Prop :=
  ∀ piece ∈ row, escape ∉ piece.text

theorem withoutSequences_renderPieces (colour : Bool) {row : Row} (free : EscapeFree row)
    (column : Nat) (rest : Text) :
    withoutSequences (renderPieces widths colour column row ++ rest) =
      renderPieces widths false column row ++ withoutSequences rest := by
  induction row generalizing column with
  | nil => rfl
  | cons piece more ih =>
      have first : escape ∉ (cleanText widths column piece.text).1 :=
        escape_not_mem_cleanText (free piece List.mem_cons_self) column
      have later : EscapeFree more := fun other member =>
        free other (List.mem_cons_of_mem piece member)
      -- The column behind a piece is that of its cleaned text, painted or not.
      rw [renderPieces_cons, renderPieces_cons, List.append_assoc, withoutSequences_paint _ _ first,
        ih later, paint_false, List.append_assoc]

/-- **Rows in colour are the same rows with escape sequences.** -/
theorem withoutSequences_render (colour : Bool) {rows : List Row}
    (free : ∀ row ∈ rows, EscapeFree row) :
    withoutSequences (render widths colour rows) = render widths false rows := by
  induction rows with
  | nil => exact withoutSequences_nil
  | cons row more ih =>
      have later := ih fun other member => free other (List.mem_cons_of_mem row member)
      rw [render, render] at later
      rw [render, render, List.flatMap_cons, List.flatMap_cons, renderLine, List.append_assoc,
        withoutSequences_renderPieces colour (free row List.mem_cons_self),
        withoutSequences_append (by decide), later, renderLine, List.append_assoc]

end Rows

/-! ## Rows without escape characters -/

instance (row : Row) : Decidable (EscapeFree row) :=
  inferInstanceAs (Decidable (∀ piece ∈ row, escape ∉ piece.text))

theorem escapeFree_cons {piece : Piece} {more : Row} :
    EscapeFree (piece :: more) ↔ escape ∉ piece.text ∧ EscapeFree more :=
  List.forall_mem_cons

theorem escapeFree_single {piece : Piece} : EscapeFree [piece] ↔ escape ∉ piece.text :=
  List.forall_mem_singleton

theorem escape_not_mem_ofNat (count : Nat) : escape ∉ Text.ofNat count := fun member =>
  absurd (Text.isDigit_of_mem_ofNat member) (by decide)

theorem escape_not_mem_ofInt (number : Int) : escape ∉ Text.ofInt number := by
  cases number with
  | ofNat count => exact escape_not_mem_ofNat count
  | negSucc count =>
      exact List.not_mem_cons_of_ne_of_not_mem (by decide) (escape_not_mem_ofNat (count + 1))

end Console

/-! ## The report on records -/

namespace Record

open Console

/-- The texts of a violation. -/
def Violation.texts (found : Violation) : List Text :=
  found.rule :: found.message :: found.hint.toList

/-- The texts of a record. -/
def Assessment.texts (result : Assessment) : List Text :=
  result.path :: result.title :: result.violations.flatMap Violation.texts

/-- The texts of a record that stand in a line. -/
def ReportLine.texts : ReportLine → List Text
  | headline _ path => [path]
  | title text => [text]
  | violation _ rule message => [rule, message]
  | hint text => [text]
  | _ => []

/-- A line has no escape characters but those in such texts. -/
theorem escapeFree_pieces {line : ReportLine} (free : ∀ text ∈ line.texts, escape ∉ text) :
    EscapeFree line.pieces := by
  cases line with
  | blank | divider => decide
  | headline kind path =>
      have own : escape ∉ path := free path List.mem_cons_self
      cases kind <;> exact escapeFree_cons.mpr ⟨by decide, escapeFree_cons.mpr ⟨own, by decide⟩⟩
  | title text =>
      exact escapeFree_single.mpr (List.not_mem_append (by decide) (free text List.mem_cons_self))
  | violation severity rule message =>
      have label : escape ∉ " [".toList ++ rule ++ "] ".toList :=
        List.not_mem_append (List.not_mem_append (by decide) (free rule List.mem_cons_self))
          (by decide)
      have own : escape ∉ message := free message (by simp [ReportLine.texts])
      have icon : escape ∉ severity.icon.text := by cases severity <;> decide
      exact escapeFree_cons.mpr ⟨by decide, escapeFree_cons.mpr ⟨icon,
        escapeFree_cons.mpr ⟨label, escapeFree_single.mpr own⟩⟩⟩
  | hint text =>
      exact escapeFree_single.mpr (List.not_mem_append (by decide) (free text List.mem_cons_self))
  | validated count =>
      exact escapeFree_single.mpr (List.not_mem_append
        (List.not_mem_append (by decide) (escape_not_mem_ofNat count)) (by decide))
  | errors count | warnings count =>
      exact escapeFree_single.mpr (List.not_mem_append (by decide) (escape_not_mem_ofNat count))
  | outcome kind => cases kind <;> decide

theorem texts_violationLines {found : Violation} {line : ReportLine}
    (member : line ∈ violationLines found) : line.texts ⊆ found.texts := by
  rcases List.mem_cons.mp member with rfl | hint
  · simp [ReportLine.texts, Violation.texts]
  · split at hint
    · next text given =>
      split at hint
      · cases hint
      · rw [List.mem_singleton.mp hint]
        simp [ReportLine.texts, Violation.texts, given]
    · cases hint

theorem texts_lines {result : Assessment} {line : ReportLine}
    (member : line ∈ result.reportLines) : line.texts ⊆ result.texts := by
  have headed : ∀ kind, (ReportLine.headline kind result.path).texts ⊆ result.texts := by
    simp [ReportLine.texts, Assessment.texts]
  unfold Assessment.reportLines at member
  split at member
  · rw [List.mem_singleton.mp member]
    exact headed .pass
  · simp only [List.mem_cons, List.mem_flatMap] at member
    rcases member with rfl | rfl | rfl | ⟨found, violated, inside⟩
    · exact List.nil_subset _
    · exact headed _
    · simp [ReportLine.texts, Assessment.texts]
    · intro text own
      have listed : text ∈ result.violations.flatMap Violation.texts :=
        List.mem_flatMap.mpr ⟨found, violated, texts_violationLines inside own⟩
      exact List.mem_cons_of_mem _ (List.mem_cons_of_mem _ listed)

/-- The texts in the lines of a report are those of the records. -/
theorem texts_reportLines {results : List Assessment} {line : ReportLine}
    (member : line ∈ reportLines results) : line.texts ⊆ results.flatMap Assessment.texts := by
  rcases List.mem_append.mp member with own | total
  · obtain ⟨result, listed, inside⟩ := List.mem_flatMap.mp own
    exact fun text shown => List.mem_flatMap.mpr ⟨result, listed, texts_lines inside shown⟩
  · simp only [summaryLines, List.mem_cons, List.not_mem_nil, or_false] at total
    rcases total with rfl | rfl | rfl | rfl | rfl | rfl <;> exact List.nil_subset _

theorem withoutSequences_consoleReport (widths : Widths) {results : List Assessment}
    (free : ∀ text ∈ results.flatMap Assessment.texts, escape ∉ text) :
    withoutSequences (consoleReport widths true results) = consoleReport widths false results := by
  refine withoutSequences_render true fun row member => ?_
  obtain ⟨line, listed, rfl⟩ := List.mem_map.mp member
  exact escapeFree_pieces fun text own => free text (texts_reportLines listed own)

end Record

/-! ## The report on budgets -/

namespace Budget

open Console

/-- The texts of a file. -/
def FileCount.texts (count : FileCount) : List Text :=
  count.path :: count.language :: count.suggestions.map Suggestion.name

/-- The texts of a file that stand in a line. -/
def ReportLine.texts : ReportLine → List Text
  | passed path _ => [path]
  | failed path _ _ => [path]
  | unit suggestion => [suggestion.name]
  | _ => []

/-- A line has no escape characters but those in such texts. -/
theorem escapeFree_pieces {line : ReportLine} (free : ∀ text ∈ line.texts, escape ∉ text) :
    EscapeFree line.pieces := by
  cases line with
  | blank | divider => decide
  | passed path effective =>
      have own : escape ∉ path := free path List.mem_cons_self
      simp only [ReportLine.pieces, styled, bare, escapeFree_cons, own, List.mem_append,
        escape_not_mem_ofInt, or_false, not_or, not_false_eq_true, true_and]
      decide
  | failed path effective limit =>
      have own : escape ∉ path := free path List.mem_cons_self
      simp only [ReportLine.pieces, styled, bare, escapeFree_cons, own, List.mem_append,
        escape_not_mem_ofInt, or_false, not_or, not_false_eq_true, true_and]
      decide
  | unit suggestion =>
      have own : escape ∉ suggestion.name := free suggestion.name List.mem_cons_self
      simp only [ReportLine.pieces, bare, escapeFree_single, own, List.mem_append,
        escape_not_mem_ofInt, or_false, not_or]
      decide
  | breakdown numbers | splitHead count | average count size | totals files failed limit =>
      simp only [ReportLine.pieces, bare, escapeFree_single, List.mem_append,
        escape_not_mem_ofInt, escape_not_mem_ofNat, or_false, not_or]
      decide
  | outcome success => cases success <;> decide

section Report

variable {reading : Quotients} {limit : Int} {lines : List ReportLine}

theorem texts_lines {count : FileCount} {line : ReportLine}
    (made : count.reportLines reading limit = .ok lines) (member : line ∈ lines) :
    line.texts ⊆ count.texts := by
  have path : [count.path] ⊆ count.texts := by simp [FileCount.texts]
  rcases overLines_of_reportLines made with ⟨-, lined⟩ | ⟨-, rfl⟩
  · cases lined with
    | plain none =>
        simp only [List.mem_cons, List.not_mem_nil, or_false] at member
        rcases member with rfl | rfl
        · exact path
        · exact List.nil_subset _
    | split some rounded =>
        simp only [List.cons_append, List.mem_cons, List.mem_append, List.mem_map,
          List.not_mem_nil, or_false] at member
        rcases member with rfl | rfl | rfl | rfl | ⟨suggestion, suggested, rfl⟩ | rfl | rfl
        · exact path
        · exact List.nil_subset _
        · exact List.nil_subset _
        · exact List.nil_subset _
        · have listed : suggestion.name ∈ count.suggestions.map Suggestion.name :=
            List.mem_map_of_mem suggested
          simp [ReportLine.texts, FileCount.texts, listed]
        · exact List.nil_subset _
        · exact List.nil_subset _
  · rw [List.mem_singleton.mp member]
    exact path

/-- The texts in the lines of a report are those of the files. -/
theorem texts_reportLines {counts : List FileCount} {line : ReportLine}
    (made : reportLines reading limit counts = .ok lines) (member : line ∈ lines) :
    line.texts ⊆ counts.flatMap FileCount.texts := by
  obtain ⟨files, own, done⟩ := exists_of_bind_eq_ok made
  cases done
  rcases List.mem_append.mp member with inside | total
  · obtain ⟨fileLines, listed, shown⟩ := List.mem_flatten.mp inside
    obtain ⟨count, counted, lined⟩ := exists_of_mem_mapM own listed
    exact fun text held => List.mem_flatMap.mpr ⟨count, counted, texts_lines lined shown held⟩
  · simp only [totalLines, List.mem_cons, List.not_mem_nil, or_false] at total
    rcases total with rfl | rfl | rfl | rfl <;> exact List.nil_subset _

theorem withoutSequences_consoleReport (widths : Widths) (reading : Quotients) (limit : Int)
    {counts : List FileCount} (free : ∀ text ∈ counts.flatMap FileCount.texts, escape ∉ text) :
    (consoleReport widths reading true limit counts).map withoutSequences =
      consoleReport widths reading false limit counts := by
  rw [consoleReport, consoleReport]
  cases made : reportLines reading limit counts with
  | error cause => rfl
  | ok lines =>
      have rows : ∀ row ∈ lines.map ReportLine.pieces, EscapeFree row := by
        intro row member
        obtain ⟨line, listed, rfl⟩ := List.mem_map.mp member
        exact escapeFree_pieces fun text own => free text (texts_reportLines made listed own)
      exact congrArg Except.ok (withoutSequences_render true rows)

end Report

end Budget

/-! ## Both reports -/

namespace Console

open Budget (FileCount)
open Record (Assessment)

/-- **Colour only adds escape sequences.** Without them a report in colour is the report without
colour, and no report is made in colour but where one is made without it, as long as the texts of
the records and of the files have no escape characters. -/
theorem colour_only_adds_sequences (widths : Widths) (reading : Quotients) (limit : Int)
    (results : List Assessment) (counts : List FileCount)
    (freeResults : ∀ text ∈ results.flatMap Assessment.texts, escape ∉ text)
    (freeCounts : ∀ text ∈ counts.flatMap FileCount.texts, escape ∉ text) :
    withoutSequences (Record.consoleReport widths true results) =
        Record.consoleReport widths false results ∧
      (Budget.consoleReport widths reading true limit counts).map withoutSequences =
        Budget.consoleReport widths reading false limit counts :=
  ⟨Record.withoutSequences_consoleReport widths freeResults,
    Budget.withoutSequences_consoleReport widths reading limit freeCounts⟩

/-- A record whose texts have tabs, newlines and characters that are dropped. -/
def unevenResult : Assessment where
  path := "日\tb\r.md".toList
  title := "T\n\tU".toList
  violations := [⟨"X-1".toList, .error, "m\t[n".toList, some "h".toList⟩,
    ⟨"X-2".toList, .info, "\tm".toList, some []⟩]

/-- A file with such texts and a suggested unit. -/
def unevenCount : FileCount where
  path := "a\tb\n.py".toList
  language := "python".toList
  breakdown := ⟨60, 60, 0, 0, 0⟩
  exceeds := true
  suggestions := [⟨"u\t".toList, 1, 60, 60⟩]

/-- The widths of a console on which the characters of some scripts take two columns. -/
def someWidths : Widths := fun c => if c.toNat < 0x1100 then 1 else 2

theorem colour_only_adds_sequences_uneven :
    withoutSequences (Record.consoleReport someWidths true [unevenResult]) =
        Record.consoleReport someWidths false [unevenResult] ∧
      Record.consoleReport someWidths true [unevenResult] ≠
        Record.consoleReport someWidths false [unevenResult] ∧
      (Budget.consoleReport someWidths .double true 50 [unevenCount]).map withoutSequences =
        Budget.consoleReport someWidths .double false 50 [unevenCount] := by
  obtain ⟨records, files⟩ :=
    colour_only_adds_sequences someWidths .double 50 [unevenResult] [unevenCount]
      (by decide) (by decide)
  exact ⟨records, by decide, files⟩

end Console

end ReviewGate
