import ReviewGate.Text.Basic

/-!
# The order of texts

Texts are ordered as words in a dictionary, by the code points of their characters: the first
place at which two texts differ decides, and a text stands in front of its extensions.
-/

set_option autoImplicit false

namespace ReviewGate.Text

/-- Whether a text stands in front of another one or is the same. -/
def precedes : Text → Text → Bool
  | [], _ => true
  | _ :: _, [] => false
  | c :: left, d :: right => c.toNat < d.toNat || (c == d && precedes left right)

/-- Of two texts one stands in front of the other. -/
theorem precedes_total (left right : Text) :
    (precedes left right || precedes right left) = true := by
  induction left generalizing right with
  | nil => rfl
  | cons c left ih =>
    cases right with
    | nil => rfl
    | cons d right =>
      have between := ih right
      by_cases same : c = d
      · subst same
        simpa [precedes] using between
      · have apart : c.toNat ≠ d.toNat := fun codes => same (Char.toNat_inj.mp codes)
        rcases Nat.lt_or_gt_of_ne apart with less | more
        · simp [precedes, less]
        · simp [precedes, more]

/-- The order is transitive. -/
theorem precedes_trans (first second third : Text) (near : precedes first second = true)
    (far : precedes second third = true) : precedes first third = true := by
  induction first generalizing second third with
  | nil => rfl
  | cons c first ih =>
    cases second with
    | nil => simp [precedes] at near
    | cons d second =>
      cases third with
      | nil => simp [precedes] at far
      | cons e third =>
        simp only [precedes, Bool.or_eq_true, decide_eq_true_eq, Bool.and_eq_true,
          beq_iff_eq] at near far ⊢
        rcases near with less | ⟨same, near⟩
        · rcases far with more | ⟨same, _⟩
          · exact Or.inl (Nat.lt_trans less more)
          · exact Or.inl (same ▸ less)
        · subst same
          rcases far with less | ⟨same, far⟩
          · exact Or.inl less
          · exact Or.inr ⟨same, ih second third near far⟩

end ReviewGate.Text
