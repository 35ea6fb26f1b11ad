import Mathlib.Data.Rat.Floor
import ReviewGate.Number.Quotient

/-!
# Exact quotients rounded up

A quotient that is read exactly is rounded up to the ceiling of the rational number
(`toNat_ceilExact`). The ceiling of `total / size` is the least number of parts of a size that hold
a total (`ceil_div_le_iff`), so a row of parts that are full but for the last one has that many of
them (`eq_ceil_div`).

Rounding up twice gives an even size: with `count` parts of at most `limit` each, `total / count`
rounded up is a size within the limit (`ceil_div_le_of_le_mul`), and parts of that size are `count`
again (`ceil_div_ceil_div`). It is enough that the parts in front of the last would fall short at
the limit; at a smaller size they do so all the more.
-/

set_option autoImplicit false

namespace ReviewGate

variable {total size limit count : Nat}

/-- The ceiling of an exact quotient is that of the rational number. -/
theorem toNat_ceilExact (total size : Nat) :
    (ceilExact total size).toNat = ⌈(total : ℚ) / size⌉₊ := by
  rw [ceilExact, ← Rat.ceil_natCast_div_natCast, Int.ceil_toNat]

/-- So many parts hold the total as its quotient, rounded up, has. -/
theorem ceil_div_le_iff (positive : 0 < size) :
    ⌈(total : ℚ) / size⌉₊ ≤ count ↔ total ≤ count * size := by
  rw [Nat.ceil_le, div_le_iff₀ (Nat.cast_pos.mpr positive), ← Nat.cast_mul, Nat.cast_le]

theorem le_ceil_div_mul (positive : 0 < size) : total ≤ ⌈(total : ℚ) / size⌉₊ * size :=
  (ceil_div_le_iff positive).mp (Nat.le_refl _)

theorem ceil_div_pos (filled : 0 < total) (positive : 0 < size) : 0 < ⌈(total : ℚ) / size⌉₊ :=
  Nat.ceil_pos.mpr (div_pos (Nat.cast_pos.mpr filled) (Nat.cast_pos.mpr positive))

/-- A number of parts that hold the total, while one part less does not, is its quotient rounded
up. -/
theorem eq_ceil_div (positive : 0 < size) (short : (count - 1) * size < total)
    (enough : total ≤ count * size) : count = ⌈(total : ℚ) / size⌉₊ := by
  refine Nat.le_antisymm ?_ ((ceil_div_le_iff positive).mpr enough)
  by_contra fewer
  have within : ⌈(total : ℚ) / size⌉₊ ≤ count - 1 := by omega
  exact absurd ((ceil_div_le_iff positive).mp within) (Nat.not_le.mpr short)

/-- One part less than the quotient rounded up does not hold the total. -/
theorem pred_ceil_div_mul_lt (filled : 0 < total) (positive : 0 < size) :
    (⌈(total : ℚ) / size⌉₊ - 1) * size < total := by
  by_contra enough
  have fewer := (ceil_div_le_iff positive).mpr (Nat.not_lt.mp enough)
  have some_ := ceil_div_pos filled positive
  omega

/-- Parts of equal size stay within the limit that gave their number. -/
theorem ceil_div_le_of_le_mul (positive : 0 < count) (enough : total ≤ count * limit) :
    ⌈(total : ℚ) / count⌉₊ ≤ limit :=
  (ceil_div_le_iff positive).mpr (Nat.mul_comm count limit ▸ enough)

/-- **Equal parts are as many as the limit asked for.** -/
theorem ceil_div_ceil_div (filled : 0 < total) (positive : 0 < limit)
    (counted : count = ⌈(total : ℚ) / limit⌉₊) (sized : size = ⌈(total : ℚ) / count⌉₊) :
    ⌈(total : ℚ) / size⌉₊ = count := by
  have some_ : 0 < count := counted ▸ ceil_div_pos filled positive
  have sizePositive : 0 < size := sized ▸ ceil_div_pos filled some_
  have within : size ≤ limit :=
    sized ▸ ceil_div_le_of_le_mul some_ (counted ▸ le_ceil_div_mul positive)
  refine (eq_ceil_div sizePositive ?_ ?_).symm
  · calc (count - 1) * size ≤ (count - 1) * limit := Nat.mul_le_mul_left _ within
      _ < total := counted ▸ pred_ceil_div_mul_lt filled positive
  · rw [Nat.mul_comm, sized]
    exact le_ceil_div_mul some_

end ReviewGate
