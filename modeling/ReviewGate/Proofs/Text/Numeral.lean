import Mathlib.Algebra.Group.Nat.Defs
import Mathlib.Data.List.TakeWhile
import ReviewGate.Text.Numeral

/-!
# Numerals are read as they are written

The numeral of a natural number is a row of ASCII digits without white space, sign or low line, so
reading it gives the number again, as long as it is not too long to be read at all
(`toInt?_ofNat`). A number that can be shown is therefore one that can be given (`toInt?_ofInt`).
-/

set_option autoImplicit false

namespace ReviewGate.Text

/-! ## Rows of digits -/

theorem bounds_of_isDigit {c : Char} (digit : c.isDigit = true) :
    48 ≤ c.toNat ∧ c.toNat ≤ 57 :=
  ⟨of_decide_eq_true (Bool.and_eq_true _ _ ▸ digit).1,
    of_decide_eq_true (Bool.and_eq_true _ _ ▸ digit).2⟩

theorem digitValue?_of_isDigit {c : Char} (digit : c.isDigit = true) :
    digitValue? c = some (c.toNat - '0'.toNat) := by
  have bounds : 48 ≤ c.toNat ∧ c.toNat ≤ 57 := bounds_of_isDigit digit
  rw [digitValue?, if_pos (by omega), if_pos digit]

theorem isNumeralBlank_of_isDigit {c : Char} (digit : c.isDigit = true) :
    isNumeralBlank c = false := by
  have bounds : 48 ≤ c.toNat ∧ c.toNat ≤ 57 := bounds_of_isDigit digit
  have visible : isBlank c = false := by
    simp only [isBlank, if_pos (show c.toNat < 128 by omega), Bool.or_eq_false_iff,
      Bool.and_eq_false_iff, decide_eq_false_iff_not]
    omega
  rw [isNumeralBlank, visible, Bool.false_and]

/-- A row of digits is a numeral, and each digit stands for its value. -/
theorem numeralDigits?_of_isDigit {digits : Text} (filled : digits ≠ [])
    (all : ∀ c ∈ digits, c.isDigit = true) :
    numeralDigits? digits = some (digits.map fun c => c.toNat - '0'.toNat) := by
  -- The recursion looks for a low line behind the first character, which is no digit.
  fun_induction numeralDigits? digits with
  | case1 => exact absurd rfl filled
  | case2 c => rw [digitValue?_of_isDigit (all c List.mem_cons_self)]; rfl
  | case3 c rest => exact absurd (all '_' (by simp)) (by decide)
  | case4 c rest alone _ ih =>
      rw [digitValue?_of_isDigit (all c List.mem_cons_self),
        ih (fun empty => alone empty) fun digit member => all digit (List.mem_cons_of_mem c member)]
      rfl

theorem digitsValue_map (digits : Text) :
    digitsValue 10 (digits.map fun c => c.toNat - '0'.toNat) =
      Nat.ofDigitChars 10 digits 0 := by
  rw [digitsValue, List.foldl_map, Nat.ofDigitChars_eq_foldl]
  simp only [Nat.mul_comm]

/-! ## Numerals -/

theorem isDigit_of_mem_ofNat {n : Nat} {c : Char} (member : c ∈ ofNat n) : c.isDigit = true :=
  Nat.isDigit_of_mem_toDigits (by decide) (by decide) member

/-- There is nothing to trim off a text none of whose characters are dropped. -/
theorem ofInt_natCast (n : Nat) : ofInt n = ofNat n := by
  unfold ofInt
  rfl

theorem trimBy_of_kept {drop : Char → Bool} {text : Text} (kept : ∀ c ∈ text, drop c = false) :
    trimBy drop text = text := by
  have front : text.dropWhile drop = text :=
    List.dropWhile_eq_self_iff.mpr fun filled => by
      simp [kept _ (List.getElem_mem filled)]
  have back : text.reverse.dropWhile drop = text.reverse :=
    List.dropWhile_eq_self_iff.mpr fun filled => by
      rw [kept _ (List.mem_reverse.mp (List.getElem_mem filled))]
      exact Bool.false_ne_true
  rw [trimBy, front, trimRightBy, back, List.reverse_reverse]

/-- **A natural number is read from its numeral, unless that is too long.** -/
theorem toInt?_ofNat (n : Nat) :
    toInt? (ofNat n) = if maxNumeralDigits < (ofNat n).length then none else some (n : Int) := by
  have digit : ∀ c ∈ ofNat n, c.isDigit = true := fun c member => isDigit_of_mem_ofNat member
  have filled : ofNat n ≠ [] := Nat.toDigits_ne_nil
  have trimmed : trimBy isNumeralBlank (ofNat n) = ofNat n :=
    trimBy_of_kept fun c member => isNumeralBlank_of_isDigit (digit c member)
  have value : digitsValue 10 ((ofNat n).map fun c => c.toNat - '0'.toNat) = n := by
    rw [digitsValue_map, ofNat, Nat.ofDigitChars_ten_toDigits]
  rw [toInt?, trimmed]
  split
  next negative body signed =>
    -- A digit is no sign, so the whole text is the body of the numeral.
    obtain ⟨rfl, rfl⟩ : false = negative ∧ ofNat n = body := by
      split at signed
      · next rest whole => exact absurd (digit '-' (by simp [whole])) (by decide)
      · next rest whole => exact absurd (digit '+' (by simp [whole])) (by decide)
      · exact Prod.mk.inj signed
    simp only [numeralDigits?_of_isDigit filled digit, Option.bind_eq_bind, Option.bind_some,
      List.length_map, value]
    rfl

theorem isSome_numeral?_iff {value : Int} :
    (numeral? value).isSome = true ↔ (ofNat value.natAbs).length ≤ maxNumeralDigits := by
  rw [numeral?]
  split <;> simp <;> omega

/-- A number can be shown when it has at most as many digits as a numeral may have. -/
theorem isSome_numeral?_iff_natAbs_lt {value : Int} :
    (numeral? value).isSome = true ↔ value.natAbs < 10 ^ maxNumeralDigits := by
  rw [isSome_numeral?_iff, ofNat, Nat.length_toDigits_le_iff (by decide) (by decide)]

/-- A number that can be shown can be given. -/
theorem toInt?_ofInt {value : Int} (natural : 0 ≤ value)
    (shown : (numeral? value).isSome = true) : toInt? (ofInt value) = some value := by
  obtain ⟨n, rfl⟩ := Int.eq_ofNat_of_zero_le natural
  exact (toInt?_ofNat n).trans (if_neg (Nat.not_lt.mpr (isSome_numeral?_iff.mp shown)))

end ReviewGate.Text
