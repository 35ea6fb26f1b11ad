import ReviewGate.Proofs.Budget.Accounting
import ReviewGate.Proofs.Files.SourceFiles
import ReviewGate.Proofs.Text.Lower

/-!
# Suffixes and languages

A search goes by the suffix of a path, which is read off its last part, and a count by the language,
which is read off the last dot of the whole written path. A dot in front of the last part has a
slash behind it, and no extension holds a slash, so the language is that of the last part
(`ofPath_text_eq_ofPath_name`), whatever the directories are called. There the two readings differ
only at the ends of a name: a dot in front of everything else begins no suffix, but it does begin an
extension (`supported_of_ofPath_name`).

What has a supported suffix therefore has the language of that suffix
(`ofPath_text_of_suffix`), and no source file that a search finds is counted in an unknown
language (`language_agrees_with_suffix`).
-/

set_option autoImplicit false

namespace ReviewGate

/-! ## The last mark -/

namespace Text

variable {mark : Char} {front back rest text tail : Text}

theorem fromLast?_of_not_mem (absent : mark ∉ text) : fromLast? mark text = none := by
  induction text with
  | nil => rfl
  | cons c rest ih =>
      obtain ⟨different, later⟩ := List.ne_and_not_mem_of_not_mem_cons absent
      rw [fromLast?, ih later]
      exact if_neg different.symm

/-- What a text has from its last mark on, the text with more in front of it has. -/
theorem fromLast?_append_of_some (found : fromLast? mark back = some tail) (front : Text) :
    fromLast? mark (front ++ back) = some tail := by
  induction front with
  | nil => exact found
  | cons c front ih => rw [List.cons_append, fromLast?, ih]

theorem fromLast?_append_cons (free : mark ∉ rest) (front : Text) :
    fromLast? mark (front ++ mark :: rest) = some (mark :: rest) := by
  refine fromLast?_append_of_some ?_ front
  rw [fromLast?, fromLast?_of_not_mem free]
  exact if_pos rfl

/-- The last mark is the one with no other behind it. -/
theorem exists_last_mark (present : mark ∈ text) :
    ∃ front rest, text = front ++ mark :: rest ∧ mark ∉ rest := by
  obtain ⟨back, front, whole, free⟩ := List.eq_append_cons_of_mem (List.mem_reverse.mpr present)
  refine ⟨front.reverse, back.reverse, ?_, mt List.mem_reverse.mp free⟩
  have split := congrArg List.reverse whole
  simpa using split

theorem fromLast?_eq_none_iff : fromLast? mark text = none ↔ mark ∉ text := by
  refine ⟨fun nothing present => ?_, fromLast?_of_not_mem⟩
  obtain ⟨front, rest, rfl, free⟩ := exists_last_mark present
  rw [fromLast?_append_cons free] at nothing
  cases nothing

/-- What a text has from its last mark on stands at its end. -/
theorem exists_of_fromLast? (found : fromLast? mark text = some tail) :
    ∃ front rest, text = front ++ mark :: rest ∧ tail = mark :: rest := by
  have present : mark ∈ text := by
    by_contra absent
    rw [fromLast?_of_not_mem absent] at found
    cases found
  obtain ⟨front, rest, rfl, free⟩ := exists_last_mark present
  rw [fromLast?_append_cons free] at found
  exact ⟨front, rest, rfl, (Option.some.inj found).symm⟩

end Text

/-! ## The written form of a path -/

namespace Files.Path

open Text (fromLast? lower)

variable {path : Path}

/-- Roots hold no dot. -/
theorem dot_not_mem_root_read (written : Text) : '.' ∉ (Path.read written).root := by
  change '.' ∉ rootOf written
  unfold rootOf
  split <;> decide

theorem exists_intercalate_concat {above : List Text} (filled : above ≠ []) (name : Text) :
    ∃ front, List.intercalate ['/'] (above ++ [name]) = front ++ '/' :: name := by
  induction above with
  | nil => exact absurd rfl filled
  | cons first more ih =>
      have others : more ++ [name] ≠ [] := List.append_ne_nil_of_right_ne_nil more (by simp)
      rw [List.cons_append, List.intercalate_cons_of_ne_nil others]
      cases more with
      | nil => exact ⟨first, by simp⟩
      | cons second more =>
          obtain ⟨front, joined⟩ := ih (List.cons_ne_nil second more)
          exact ⟨first ++ '/' :: front, by rw [joined]; simp⟩

/-- A path is written with its name at the end, behind the root or a slash. -/
theorem exists_text_eq_append_name (filled : path.parts ≠ []) :
    ∃ front, path.text = front ++ path.name ∧
      (front = path.root ∨ ∃ above, front = above ++ ['/']) := by
  obtain ⟨above, name, parts⟩ := (List.eq_nil_or_concat path.parts).resolve_left filled
  rw [List.concat_eq_append] at parts
  have named : path.name = name := by simp [Path.name, parts]
  have written : path.text = path.root ++ List.intercalate ['/'] (above ++ [name]) := by
    rw [text, parts, if_neg (by simp)]
  rw [written, named]
  by_cases alone : above = []
  · subst alone
    exact ⟨path.root, by simp, .inl rfl⟩
  · obtain ⟨front, joined⟩ := exists_intercalate_concat alone name
    refine ⟨path.root ++ front ++ ['/'], ?_, .inr ⟨path.root ++ front, rfl⟩⟩
    rw [joined]
    simp

/-- What a name has from its last dot on, the written path has. -/
theorem fromLast?_text {tail : Text} (found : fromLast? '.' path.name = some tail) :
    fromLast? '.' path.text = some tail := by
  have filled : path.parts ≠ [] := by
    intro empty
    rw [name, empty] at found
    cases found
  obtain ⟨front, written, _⟩ := exists_text_eq_append_name filled
  rw [written]
  exact Text.fromLast?_append_of_some found front

/-- A dot in front of the name has a slash behind it. -/
theorem slash_mem_of_fromLast? (dotless : '.' ∉ path.root) (undotted : '.' ∉ path.name)
    {tail : Text} (found : fromLast? '.' path.text = some tail) : tail = ['.'] ∨ '/' ∈ tail := by
  obtain ⟨before, rest, split, rfl⟩ := Text.exists_of_fromLast? found
  by_cases empty : path.parts = []
  · rw [text] at split
    split at split
    · refine .inl ?_
      cases before with
      | nil => exact split.symm
      | cons c before => cases before <;> cases split
    · next rooted =>
      rw [empty, List.intercalate_nil, List.append_nil] at split
      exact absurd (split ▸ List.mem_append_right before List.mem_cons_self) dotless
  · refine .inr ?_
    obtain ⟨front, written, ends⟩ := exists_text_eq_append_name empty
    rw [written] at split
    rcases List.append_eq_append_iff.mp split with ⟨middle, _, named⟩ | ⟨middle, whole, below⟩
    · exact absurd (named ▸ List.mem_append_right middle List.mem_cons_self) undotted
    · cases middle with
      | nil => exact absurd (below ▸ List.mem_cons_self : '.' ∈ [] ++ path.name) undotted
      | cons c middle =>
          obtain ⟨rfl, rfl⟩ := List.cons.inj below
          rcases ends with rooted | ⟨above, slashed⟩
          · rw [rooted] at whole
            exact absurd (whole ▸ List.mem_append_right before List.mem_cons_self) dotless
          · -- the slash at the end of what stands in front of the name is behind the dot
            have last : ('.' :: middle).getLast? = some '/' := by
              rw [← List.getLast?_append_of_ne_nil before (List.cons_ne_nil '.' middle), ← whole,
                slashed, List.getLast?_concat]
            exact List.mem_append_left path.name (List.mem_of_getLast? last)

end Files.Path

/-! ## Languages -/

namespace Files.Path

open Source (Language)
open Source.Language (ofPath ofExtension isSupported extensions)
open Text (lower fromLast?)

variable {path : Path} {extension name : Text}

/-- No extension holds a slash. -/
theorem ofExtension_of_slash (slashed : '/' ∈ extension) :
    ofExtension (lower extension) = .unknown := by
  have kept : '/' ∈ lower extension := by
    have lowered : lower ['/'] = ['/'] := by decide
    have part : ['/'] <:+: extension := by
      obtain ⟨front, back, rfl⟩ := List.append_of_mem slashed
      exact ⟨front, back, by simp⟩
    have without : Text.WithoutSigma ['/'] := by decide
    have inside := Text.infix_lower_of_infix without part (lowered ▸ List.infix_rfl)
    exact inside.subset List.mem_cons_self
  have none : extensions.lookup (lower extension) = none := by
    refine List.lookup_eq_none_iff.mpr fun entry member => ?_
    have slashless : ∀ entry ∈ extensions, '/' ∉ entry.1 := by decide
    exact bne_iff_ne.mpr fun same => slashless entry member (same ▸ kept)
  rw [ofExtension, none]
  rfl

/-- **The language of a path is that of its name.** Dots in the names of directories do not
matter. -/
theorem ofPath_text_eq_ofPath_name (dotless : '.' ∉ path.root) :
    ofPath path.text = ofPath path.name := by
  cases named : fromLast? '.' path.name with
  | some tail => rw [ofPath, ofPath, named, fromLast?_text named]
  | none =>
      have undotted := Text.fromLast?_eq_none_iff.mp named
      rw [ofPath, ofPath, named]
      cases found : fromLast? '.' path.text with
      | none => rfl
      | some tail =>
          rcases slash_mem_of_fromLast? dotless undotted found with rfl | slashed
          · rfl
          · exact ofExtension_of_slash slashed

/-- A supported suffix is not empty, so it begins at the last dot of the name. -/
theorem fromLast?_of_suffix (supported : isSupported (lower path.suffix) = true) :
    fromLast? '.' path.name = some path.suffix := by
  unfold suffix suffixOf at supported ⊢
  cases found : fromLast? '.' path.name with
  | none =>
      rw [found] at supported
      cases supported
  | some tail =>
      rw [found] at supported
      dsimp only at supported ⊢
      split at supported
      · next inside => rw [if_pos inside]
      · cases supported

/-- **A path with a supported suffix has the language of the suffix.** -/
theorem ofPath_text_of_suffix {language : Language}
    (found : extensions.lookup (lower path.suffix) = some language) :
    ofPath path.text = language := by
  have supported : isSupported (lower path.suffix) = true := by
    rw [isSupported, found]
    rfl
  rw [ofPath, fromLast?_text (fromLast?_of_suffix supported)]
  dsimp only
  rw [ofExtension, found]
  rfl

theorem isSupported_of_ofExtension (known : ofExtension extension ≠ .unknown) :
    isSupported extension = true := by
  rw [ofExtension] at known
  rw [isSupported]
  cases found : extensions.lookup extension with
  | none =>
      rw [found] at known
      exact absurd rfl known
  | some language => rfl

/-- A supported extension has a known language. -/
theorem exists_lookup_of_isSupported (supported : isSupported extension = true) :
    ∃ language, language ≠ .unknown ∧ extensions.lookup extension = some language := by
  obtain ⟨language, found⟩ := Option.isSome_iff_exists.mp supported
  obtain ⟨front, back, entries, _⟩ := List.lookup_eq_some_iff.mp found
  have member : (extension, language) ∈ extensions :=
    entries ▸ List.mem_append_right front List.mem_cons_self
  have known : ∀ entry ∈ extensions, entry.2 ≠ Language.unknown := by decide
  exact ⟨language, known _ member, found⟩

/-- A language is only known of a name with a supported suffix, and of one that is an extension. -/
theorem supported_of_ofPath_name (known : ofPath path.name ≠ .unknown) :
    isSupported (lower path.suffix) = true ∨ isSupported (lower path.name) = true := by
  rw [ofPath] at known
  cases found : fromLast? '.' path.name with
  | none =>
      rw [found] at known
      exact absurd rfl known
  | some tail =>
      rw [found] at known
      have supported := isSupported_of_ofExtension known
      obtain ⟨front, rest, named, rfl⟩ := Text.exists_of_fromLast? found
      have length := congrArg List.length named
      rw [List.length_append] at length
      by_cases whole : front = []
      · rw [whole, List.nil_append] at named
        exact .inr (named ▸ supported)
      · have shorter : ('.' :: rest).length < path.name.length := by
          have := List.length_pos_iff.mpr whole
          omega
        have filled : 1 < ('.' :: rest).length := by
          cases rest with
          | nil => cases supported
          | cons c rest => simp
        have begins : path.suffix = '.' :: rest := by
          rw [suffix, suffixOf, found]
          simp only [shorter, filled, decide_true, Bool.and_self, if_true]
        exact .inl (begins ▸ supported)

end Files.Path

/-! ## Files that a search finds -/

namespace Files

open Source (Language)
open Text (lower)

namespace Workspace

variable {space : Workspace} {recursive : Bool} {path : Path} {location : Location}

/-- A walk takes only paths with a supported suffix for sources. -/
theorem isSource_of_mem_meet {inside : List Met} {source : Path}
    (within : .source source ∈ inside → source.isSource = true)
    (member : .source source ∈ space.meet recursive path location inside) :
    source.isSource = true := by
  rw [meet] at member
  split at member
  · cases List.mem_singleton.mp member
  · cases List.mem_singleton.mp member
  · split at member
    · exact within member
    · cases List.mem_singleton.mp member
  · split at member
    · next supported =>
      cases List.mem_singleton.mp member
      exact supported
    · cases member

theorem isSource_of_mem_walk {room : Nat} {source : Path}
    (member : .source source ∈ space.walk recursive room path location) :
    source.isSource = true := by
  induction room generalizing path location with
  | zero => cases List.mem_singleton.mp member
  | succ room ih =>
      obtain ⟨name, _, met⟩ := exists_meet_of_source member
      exact isSource_of_mem_meet ih met

/-- **Whatever a search finds has a supported suffix.** -/
theorem isSource_of_mem_sourceFiles {target source : Path} {files : List Path}
    (found : (space.sourceFiles target recursive).files = .ok files) (member : source ∈ files) :
    source.isSource = true := by
  rw [sourceFiles] at found
  split at found
  · cases found
  · rcases files_ofWalk_cases target _ with ⟨_, given⟩ | ⟨error, _, failed⟩
    · cases given.symm.trans found
      exact isSource_of_mem_walk (mem_sources_iff.mp member)
    · cases failed.symm.trans found
  · cases found
    split at member
    · next supported =>
      cases List.mem_singleton.mp member
      exact supported
    · cases member
  · cases found

end Workspace

/-- **Suffixes and languages agree.** A path with a supported suffix has the language of the suffix.
The language of a path is that of its name, whatever the directories are called, and it is only
known when the suffix is supported or the name itself is an extension. So every source file that a
search finds is counted in the language of its suffix, and never in an unknown one. -/
theorem language_agrees_with_suffix :
    (∀ (path : Path) (language : Language),
        Language.extensions.lookup (lower path.suffix) = some language →
          Language.ofPath path.text = language) ∧
      (∀ written, Language.ofPath (Path.read written).text ≠ .unknown →
        Language.isSupported (lower (Path.read written).suffix) = true ∨
          Language.isSupported (lower (Path.read written).name) = true) ∧
      (∀ written, Language.ofPath (Path.read written).text =
        Language.ofPath (Path.read written).name) ∧
      ∀ (space : Workspace) target recursive files,
        (space.sourceFiles target recursive).files = .ok files → ∀ path ∈ files,
          ∃ language, language ≠ .unknown ∧
            Language.extensions.lookup (lower path.suffix) = some language ∧
            Language.ofPath path.text = language ∧
            ∀ reading source limit count,
              Budget.countSource reading source path.text limit = .ok count →
                count.language = language.name ∧
                  count.breakdown = Source.breakdown (Source.classify language source).lines := by
  have ofName (written : Text) :=
    Path.ofPath_text_eq_ofPath_name (Path.dot_not_mem_root_read written)
  refine ⟨fun path language => Path.ofPath_text_of_suffix, fun written known => ?_, ofName, ?_⟩
  · rw [ofName written] at known
    exact Path.supported_of_ofPath_name known
  · intro space target recursive files found path member
    have supported := Workspace.isSource_of_mem_sourceFiles found member
    obtain ⟨language, known, entry⟩ := Path.exists_lookup_of_isSupported supported
    have same := Path.ofPath_text_of_suffix entry
    refine ⟨language, known, entry, same, fun reading source limit count counted => ?_⟩
    have accounts := Budget.accountsFor_of_countSource counted
    rw [accounts.language_eq, accounts.breakdown_eq, same]
    exact ⟨rfl, rfl⟩

/-- A name that is nothing but an extension has a language and no suffix. -/
example : Language.ofPath (Path.read "src.py/.TS".toList).text = .typescript ∧
    (Path.read "src.py/.TS".toList).suffix = [] := by
  decide +kernel

end Files

end ReviewGate
