import Mathlib.Data.List.Infix
import ReviewGate.Text.Lower

/-!
# Lower case and parts of a text

The lower-case form of a part of a text need not be a part of the lower-case form of the text: a
capital sigma at the end of the part becomes a final sigma, although its word may go on behind the
part. This is the only way in which the form of a character depends on its neighbours. When the two
small sigmas are taken for one, lower case works character by character (`map_oneSigma_lower`). So
what holds no sigma and occurs in the lower-case form of a part occurs in that of the whole text
(`infix_lower_of_infix`), however many characters the form of a single one has.
-/

set_option autoImplicit false

namespace ReviewGate.Text

/-- A character, with the final sigma taken for the other one. -/
def oneSigma (c : Char) : Char :=
  if c = 'ς' then 'σ' else c

/-- The lower-case form of a character without regard to its neighbours, with one sigma. -/
def lowerAlone (c : Char) : Text :=
  (lowerChar false c []).map oneSigma

/-- With one sigma, the form of a character does not depend on its neighbours. -/
theorem map_oneSigma_lowerChar (before : Bool) (c : Char) (rest : Text) :
    (lowerChar before c rest).map oneSigma = lowerAlone c := by
  unfold lowerAlone lowerChar
  split
  next => split <;> rfl
  next => rfl

theorem map_oneSigma_lowerFrom (before : Bool) (text : Text) :
    (lowerFrom before text).map oneSigma = text.flatMap lowerAlone := by
  induction text generalizing before with
  | nil => rfl
  | cons c rest ih =>
      rw [lowerFrom, List.map_append, map_oneSigma_lowerChar, ih, List.flatMap_cons]

/-- **With one sigma, lower case works character by character.** -/
theorem map_oneSigma_lower (text : Text) :
    (lower text).map oneSigma = text.flatMap lowerAlone :=
  map_oneSigma_lowerFrom false text

/-- A text in which neither small sigma occurs. -/
def WithoutSigma (text : Text) : Prop := ∀ c ∈ text, c ≠ 'σ' ∧ c ≠ 'ς'

instance (text : Text) : Decidable (WithoutSigma text) :=
  List.decidableBAll (fun c => c ≠ 'σ' ∧ c ≠ 'ς') text

section Occurrence

variable {needle part text : Text}

theorem WithoutSigma.map_oneSigma (without : WithoutSigma needle) :
    needle.map oneSigma = needle := by
  refine (List.map_congr_left fun c member => ?_).trans (List.map_id needle)
  exact if_neg (without c member).2

/-- What becomes a text without sigmas is that text. -/
theorem WithoutSigma.eq_of_map_oneSigma (without : WithoutSigma needle)
    (same : needle = part.map oneSigma) : needle = part := by
  have kept : ∀ c ∈ part, oneSigma c = c := by
    intro c member
    have small : oneSigma c ∈ needle := same ▸ List.mem_map_of_mem member
    have other : c ≠ 'ς' := by
      rintro rfl
      exact (without _ small).1 rfl
    exact if_neg other
  rw [same]
  exact (List.map_congr_left kept).trans (List.map_id part)

/-- What holds no sigma occurs in a text exactly when it occurs in the text with one sigma. -/
theorem WithoutSigma.infix_map_iff (without : WithoutSigma needle) :
    needle <:+: text.map oneSigma ↔ needle <:+: text := by
  constructor
  · intro inside
    obtain ⟨part, within, same⟩ := List.infix_map_iff.mp inside
    rwa [without.eq_of_map_oneSigma same]
  · intro inside
    have mapped := inside.map oneSigma
    rwa [without.map_oneSigma] at mapped

/-- **What holds no sigma and occurs in the lower-case form of a part of a text occurs in that of
the whole text.** -/
theorem infix_lower_of_infix (without : WithoutSigma needle) (inside : part <:+: text)
    (found : needle <:+: lower part) : needle <:+: lower text := by
  rw [← without.infix_map_iff, map_oneSigma_lower] at found ⊢
  exact found.trans (inside.flatMap lowerAlone)

end Occurrence

/-- A capital sigma at the end of a part of a text is a final one only there. -/
example : lower "ΟΣ".toList = "ος".toList ∧ lower "ΟΣΑ".toList = "οσα".toList := by
  decide +kernel

end ReviewGate.Text
