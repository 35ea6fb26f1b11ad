import Mathlib.Algebra.Order.Group.Nat
import Mathlib.Data.Nat.Log
import ReviewGate.Number.Quotient

/-!
# When quotients can be rounded up

A quotient that is read through the nearest double can be rounded up unless it lies beyond all
doubles. A numerator below 2^1023 is far enough from there, whatever it is divided by
(`exists_ceil`). What it is rounded up to is at most twice the numerator (`ceil_le`).

A quotient that is not below the least positive double stays positive (`ceil_pos`), so it can be
divided by in turn. A quotient of at most half of that becomes zero (`ceil_of_tiny`).
-/

set_option autoImplicit false

namespace ReviewGate

namespace Double

variable {num den : Nat}

/-- Numerators below this bound have finite quotients. -/
def safeBound : Nat := 2 ^ 1023

theorem one_lt_safeBound : 1 < safeBound :=
  have grows : ∀ places, places ≠ 0 → 1 < 2 ^ places := fun _ => Nat.one_lt_two_pow
  grows 1023 (by decide)

theorem exponentFor_le (num den : Nat) :
    exponentFor num den ≤ max (-1074) ((num.log2 : Int) - den.log2 - 52) := by
  unfold exponentFor
  dsimp only
  split <;> omega

theorem le_exponentFor (num den : Nat) : -1074 ≤ exponentFor num den :=
  Int.le_max_left ..

/-- The mantissa of the double nearest to a quotient. -/
def mantissaFor (num den : Nat) : Nat :=
  roundedQuotient (scaled num den (exponentFor num den)).1
    (scaled num den (exponentFor num den)).2

/-- The nearest double to a quotient with such a numerator is finite. -/
theorem ofRatio_of_small (filled : num ≠ 0) (small : num < safeBound) (negative : Bool) :
    ofRatio negative num den = .finite negative (mantissaFor num den) (exponentFor num den) := by
  have shorter : ∀ places, num < 2 ^ places → num.log2 < places := fun _ => (Nat.log2_lt filled).mpr
  have digits : num.log2 < 1023 := shorter 1023 small
  have bound := exponentFor_le num den
  have inside : ¬ 971 < exponentFor num den ∧ exponentFor num den ≠ 971 := by omega
  rw [ofRatio, if_neg filled]
  exact if_neg (by simp [inside])

/-- What can be rounded up is finite. -/
theorem ofRatio_of_ceil? (filled : num ≠ 0) {negative : Bool} {value : Int}
    (rounded : (ofRatio negative num den).ceil? = some value) :
    ofRatio negative num den = .finite negative (mantissaFor num den) (exponentFor num den) := by
  rw [ofRatio, if_neg filled] at rounded ⊢
  dsimp only at rounded ⊢
  split at rounded
  · cases rounded
  · next finite => exact if_neg finite

theorem scaled_pos (positive : 0 < den) (exponent : Int) : 0 < (scaled num den exponent).2 := by
  rw [scaled]
  split
  · exact positive
  · exact Nat.mul_pos positive (Nat.pow_pos (by decide))

/-- The least positive double is one divided by this. -/
def leastInverse : Nat := 2 ^ 1074

theorem leastInverse_eq {places : Nat} (same : places = 1074) : leastInverse = 2 ^ places := by
  rw [same, leastInverse]

theorem leastInverse_pos : 0 < leastInverse :=
  have grows : ∀ places, 0 < 2 ^ places := fun _ => Nat.pow_pos (by decide)
  grows 1074

theorem two_le_leastInverse : 2 ≤ leastInverse :=
  have grows : ∀ places, places ≠ 0 → 2 ≤ 2 ^ places := fun _ some_ => Nat.le_self_pow some_ 2
  grows 1074 (by decide)

theorem le_mul_leastInverse (num : Nat) : num ≤ num * leastInverse :=
  Nat.le_mul_of_pos_right _ leastInverse_pos

/-- Scaling leaves a quotient at least one, if it is not below the least positive double. -/
theorem scaled_le (filled : num ≠ 0) (above : den ≤ num * leastInverse) :
    (scaled num den (exponentFor num den)).2 ≤ (scaled num den (exponentFor num den)).1 := by
  have upper : den < 2 ^ (den.log2 + 1) := Nat.lt_log2_self
  have lower : 2 ^ num.log2 ≤ num := Nat.log2_self_le filled
  have bound := exponentFor_le num den
  have least := le_exponentFor num den
  rw [scaled]
  split
  · next negative =>
    by_cases least : exponentFor num den = -1074
    · rw [leastInverse_eq (show (-exponentFor num den).toNat = 1074 by omega)] at above
      exact above
    · calc den ≤ 2 ^ (den.log2 + 1) := upper.le
        _ ≤ 2 ^ (num.log2 + (-exponentFor num den).toNat) :=
            Nat.pow_le_pow_right (by decide) (by omega)
        _ = 2 ^ num.log2 * 2 ^ (-exponentFor num den).toNat := Nat.pow_add ..
        _ ≤ num * 2 ^ (-exponentFor num den).toNat := Nat.mul_le_mul_right _ lower
  · next natural =>
    calc den * 2 ^ (exponentFor num den).toNat
        ≤ 2 ^ (den.log2 + 1) * 2 ^ (exponentFor num den).toNat := Nat.mul_le_mul_right _ upper.le
      _ = 2 ^ (den.log2 + 1 + (exponentFor num den).toNat) := (Nat.pow_add ..).symm
      _ ≤ 2 ^ num.log2 := Nat.pow_le_pow_right (by decide) (by omega)
      _ ≤ num := lower

theorem roundedQuotient_pos (positive : 0 < den) (above : den ≤ num) :
    0 < roundedQuotient num den := by
  have floor : 0 < num / den := Nat.div_pos above positive
  unfold roundedQuotient
  dsimp only
  split
  · exact floor
  · split <;> omega

theorem ratio_pos (mantissa : Nat) (exponent : Int) : 0 < (ratio mantissa exponent).2 := by
  rw [ratio]
  split
  · exact Nat.pow_pos (by decide)
  · exact Nat.one_pos

/-- The ceiling of a positive double is positive. -/
theorem ceil?_pos {mantissa : Nat} {exponent value : Int} (positive : 0 < mantissa)
    (rounded : (Double.finite false mantissa exponent).ceil? = some value) : 0 < value := by
  have below : 0 < (ratio mantissa exponent).2 := ratio_pos mantissa exponent
  have above : 0 < (ratio mantissa exponent).1 := by
    rw [ratio]
    split
    · exact positive
    · exact Nat.mul_pos positive (Nat.pow_pos (by decide))
  have quotient : 0 < ((ratio mantissa exponent).1 + (ratio mantissa exponent).2 - 1) /
      (ratio mantissa exponent).2 := Nat.div_pos (by omega) below
  obtain rfl := Option.some.inj rounded
  exact Int.natCast_pos.mpr quotient

theorem roundedQuotient_le (num den : Nat) : roundedQuotient num den ≤ num / den + 1 := by
  unfold roundedQuotient
  dsimp only
  split
  · exact Nat.le_succ _
  · split <;> omega

/-- A quotient of at most one half is rounded to zero. -/
theorem roundedQuotient_of_half (filled : num ≠ 0) (half : 2 * num ≤ den) :
    roundedQuotient num den = 0 := by
  have below : num < den := by omega
  simp only [roundedQuotient, Nat.div_eq_of_lt below, Nat.mod_eq_of_lt below]
  split
  · rfl
  · rw [if_neg (Nat.not_lt.mpr half)]

/-- Nothing is left of a quotient of at most half the least positive double. -/
theorem ofRatio_of_tiny (filled : num ≠ 0) (tiny : num * (2 * leastInverse) ≤ den)
    (negative : Bool) : ofRatio negative num den = .finite negative 0 (-1074) := by
  have some_ : den ≠ 0 := by
    have twice : 0 < 2 * leastInverse := Nat.mul_pos (by decide) leastInverse_pos
    exact ((Nat.mul_pos (Nat.pos_of_ne_zero filled) twice).trans_le tiny).ne'
  have digits : ∀ places, leastInverse = 2 ^ places → num.log2 + (places + 1) ≤ den.log2 := by
    intro places same
    refine (Nat.le_log2 some_).mpr ?_
    calc 2 ^ (num.log2 + (places + 1)) = 2 ^ num.log2 * (2 * leastInverse) := by
          rw [Nat.pow_add, Nat.pow_succ, same, Nat.mul_comm (2 ^ places) 2]
      _ ≤ num * (2 * leastInverse) := Nat.mul_le_mul_right _ (Nat.log2_self_le filled)
      _ ≤ den := tiny
  have least : exponentFor num den = -1074 := by
    have lower := le_exponentFor num den
    have upper := exponentFor_le num den
    have short := digits 1074 leastInverse.eq_1
    omega
  have mantissa : mantissaFor num den = 0 := by
    have half : 2 * (num * leastInverse) ≤ den := by rwa [Nat.mul_left_comm]
    have scale : scaled num den (exponentFor num den) = (num * leastInverse, den) := by
      rw [scaled, if_pos (by omega),
        leastInverse_eq (show (-exponentFor num den).toNat = 1074 by omega)]
      rfl
    rw [mantissaFor, scale]
    exact roundedQuotient_of_half (Nat.mul_ne_zero filled leastInverse_pos.ne') half
  have inside : ¬ (971 < exponentFor num den || (exponentFor num den = 971 &&
      Nat.pow 2 53 ≤ mantissaFor num den)) = true := by
    rw [least, mantissa]
    decide
  rw [ofRatio, if_neg filled]
  refine (if_neg inside).trans ?_
  rw [← least, ← mantissa]
  rfl

/-- Rounding up what was rounded gives at most twice the numerator. -/
theorem ceil?_le {value : Int} (filled : num ≠ 0)
    (rounded : (Double.finite false (mantissaFor num den) (exponentFor num den)).ceil? =
      some value) : value ≤ 2 * num := by
  have bound := exponentFor_le num den
  have mantissa : mantissaFor num den ≤ _ := roundedQuotient_le _ _
  obtain rfl := Option.some.inj rounded
  simp only [ratio, scaled, Bool.false_eq_true, if_false] at mantissa ⊢
  split
  · next negative =>
    rw [if_pos negative] at mantissa
    have scale : 0 < 2 ^ (-exponentFor num den).toNat := Nat.pow_pos (by decide)
    have above : mantissaFor num den ≤ num * 2 ^ (-exponentFor num den).toNat + 1 :=
      mantissa.trans (Nat.succ_le_succ (Nat.div_le_self ..))
    have quotient : (mantissaFor num den + 2 ^ (-exponentFor num den).toNat - 1) /
        2 ^ (-exponentFor num den).toNat < num + 2 := by
      rw [Nat.div_lt_iff_lt_mul scale, Nat.add_mul]
      omega
    have whole : (mantissaFor num den + 2 ^ (-exponentFor num den).toNat - 1) /
        2 ^ (-exponentFor num den).toNat ≤ 2 * num := by omega
    exact Int.ofNat_le.mpr whole
  · next natural =>
    rw [if_neg natural] at mantissa
    have power : 2 ^ (exponentFor num den).toNat ≤ num :=
      (Nat.pow_le_pow_right (by decide) (by omega)).trans (Nat.log2_self_le filled)
    have whole : mantissaFor num den * 2 ^ (exponentFor num den).toNat ≤ 2 * num := by
      calc mantissaFor num den * 2 ^ (exponentFor num den).toNat
          ≤ (num / (den * 2 ^ (exponentFor num den).toNat) + 1) *
              2 ^ (exponentFor num den).toNat := Nat.mul_le_mul_right _ mantissa
        _ = num / den / 2 ^ (exponentFor num den).toNat * 2 ^ (exponentFor num den).toNat +
              2 ^ (exponentFor num den).toNat := by rw [Nat.succ_mul, Nat.div_div_eq_div_mul]
        _ ≤ num + num := Nat.add_le_add
              ((Nat.div_mul_le_self ..).trans (Nat.div_le_self ..)) power
        _ = 2 * num := (Nat.two_mul num).symm
    rw [Nat.add_sub_cancel, Nat.div_one]
    exact Int.ofNat_le.mpr whole

theorem ceil?_zero (exponent : Int) : (Double.finite false 0 exponent).ceil? = some 0 := by
  have none_ : (ratio 0 exponent).1 = 0 := by
    rw [ratio]
    split
    · rfl
    · exact Nat.zero_mul _
  have below := ratio_pos 0 exponent
  have quotient : ((ratio 0 exponent).1 + (ratio 0 exponent).2 - 1) / (ratio 0 exponent).2 = 0 :=
    Nat.div_eq_of_lt (by omega)
  exact congrArg (fun least : Nat => some (least : Int)) quotient

end Double

/-! ## Quotients in either reading -/

theorem ceilExact_pos {num : Int} {den : Nat} (numPositive : 0 < num) (denPositive : 0 < den) :
    0 < ceilExact num den := by
  have below : -num / (den : Int) < 0 := Int.ediv_neg_of_neg_of_pos (by omega) (by omega)
  rw [ceilExact]
  omega

theorem ceil_exact {den : Nat} (positive : 0 < den) (num : Int) :
    Quotients.exact.ceil num den = .ok (ceilExact num den) := by
  rw [Quotients.ceil, if_neg (Nat.ne_of_gt positive)]

variable {num : Int} {den : Nat}

/-- Nothing is divided by zero. -/
theorem den_pos_of_ceil {reading : Quotients} {value : Int}
    (rounded : reading.ceil num den = .ok value) : 0 < den := by
  unfold Quotients.ceil at rounded
  split at rounded
  · cases rounded
  · next some_ => exact Nat.pos_of_ne_zero some_

/-- A quotient that cannot be rounded up, though it is one, is beyond all doubles. -/
theorem eq_overflow_of_ceil {reading : Quotients} {cause : ArithmeticError} (positive : 0 < den)
    (failed : reading.ceil num den = .error cause) : cause = .overflow := by
  unfold Quotients.ceil at failed
  rw [if_neg positive.ne'] at failed
  cases reading with
  | exact => cases failed
  | double =>
      dsimp only at failed
      split at failed
      · cases failed
      · cases failed
        rfl

/-- **Quotients of numerators below the bound can be rounded up.** -/
theorem exists_ceil (positive : 0 < den) (small : num.natAbs < Double.safeBound) :
    ∃ value, Quotients.double.ceil num den = .ok value := by
  have finite : ∃ value, (Double.ofRatio (num < 0) num.natAbs den).ceil? = some value := by
    by_cases zero : num.natAbs = 0
    · exact ⟨_, by rw [Double.ofRatio, if_pos zero]; rfl⟩
    · exact ⟨_, by rw [Double.ofRatio_of_small zero small]; rfl⟩
  obtain ⟨value, rounded⟩ := finite
  exact ⟨value, by simp only [Quotients.ceil, if_neg positive.ne', rounded]⟩

/-- A quotient of at most half the least positive double is rounded up to zero. -/
theorem ceil_of_tiny (filled : 0 < num)
    (tiny : num.natAbs * (2 * Double.leastInverse) ≤ den) :
    Quotients.double.ceil num den = .ok 0 := by
  have some_ : num.natAbs ≠ 0 := by omega
  have twice : 0 < 2 * Double.leastInverse := Nat.mul_pos (by decide) Double.leastInverse_pos
  have positive : 0 < den := (Nat.mul_pos (Nat.pos_of_ne_zero some_) twice).trans_le tiny
  have sign : ¬ num < 0 := by omega
  rw [Quotients.ceil, if_neg positive.ne', Double.ofRatio_of_tiny some_ tiny, decide_eq_false sign,
    Double.ceil?_zero]

section Rounded

variable {value : Int} (rounded : Quotients.double.ceil num den = .ok value)

include rounded

/-- A natural number over another is rounded up through a finite double. -/
theorem ceil?_of_ceil (natural : 0 ≤ num) (filled : num.natAbs ≠ 0) :
    (Double.finite false (Double.mantissaFor num.natAbs den)
      (Double.exponentFor num.natAbs den)).ceil? = some value := by
  have sign : ¬ num < 0 := by omega
  rw [Quotients.ceil] at rounded
  split at rounded
  · cases rounded
  · rw [decide_eq_false sign] at rounded
    split at rounded
    · next least found =>
      cases rounded
      rwa [Double.ofRatio_of_ceil? filled found] at found
    · cases rounded

/-- A quotient that is not below the least positive double is rounded up to a positive number. -/
theorem ceil_pos (positive : 0 < den) (filled : 0 < num)
    (above : den ≤ num.natAbs * Double.leastInverse) : 0 < value := by
  have some_ : num.natAbs ≠ 0 := by omega
  have mantissa := Double.roundedQuotient_pos (Double.scaled_pos positive _)
    (Double.scaled_le some_ above)
  exact Double.ceil?_pos mantissa (ceil?_of_ceil rounded filled.le some_)

/-- What a quotient is rounded up to is at most twice the numerator. -/
theorem ceil_le (filled : 0 < num) : value ≤ 2 * num := by
  have some_ : num.natAbs ≠ 0 := by omega
  have bound := Double.ceil?_le some_ (ceil?_of_ceil rounded filled.le some_)
  omega

end Rounded

/-- In either reading, a quotient of at least one is rounded up to a positive number. -/
theorem ceil_pos_of_le {reading : Quotients} {value : Int} (filled : 0 < num)
    (above : (den : Int) ≤ num) (rounded : reading.ceil num den = .ok value) : 0 < value := by
  have positive := den_pos_of_ceil rounded
  cases reading with
  | exact =>
      rw [ceil_exact positive] at rounded
      cases rounded
      exact ceilExact_pos filled positive
  | double =>
      have below : den ≤ num.natAbs * Double.leastInverse :=
        (show den ≤ num.natAbs by omega).trans (Double.le_mul_leastInverse num.natAbs)
      exact ceil_pos rounded positive filled below

end ReviewGate
