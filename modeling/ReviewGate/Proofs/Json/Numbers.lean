import ReviewGate.Json.Printer
import ReviewGate.Json.Reader
import ReviewGate.Proofs.Text.Numeral
import ReviewGate.Proofs.Text.Trim

/-!
# Written numbers are read back

The numeral of a natural number has no zero in front, so it is a number of the grammar
(`readDigits?_ofNat`, `not_padded_ofNat`), and it ends where no number goes on (`Ends`). With a
sign and an exponent, which is an integer again, this covers all numbers that are written.
-/

set_option autoImplicit false

namespace ReviewGate.Json

open Text

/-! ## Rows of digits -/

theorem head?_ofNat_ne {n : Nat} (positive : 0 < n) : (ofNat n).head? ≠ some '0' := by
  induction n using Nat.strongRecOn with
  | ind n ih =>
      by_cases small : n < 10
      · rw [ofNat, Nat.toDigits_of_lt_base small, List.head?_cons]
        have digits : ∀ n < 10, 0 < n → some n.digitChar ≠ some '0' := by decide
        exact digits n small positive
      · have ten : 10 ≤ n := Nat.le_of_not_lt small
        rw [ofNat, Nat.toDigits_of_base_le (by decide) ten,
          List.head?_append_of_ne_nil _ Nat.toDigits_ne_nil]
        exact ih (n / 10) (by omega) (by omega)

/-- The values of the digits of a number. -/
def digitsOf (n : Nat) : List Nat :=
  (ofNat n).map fun c => c.toNat - '0'.toNat

theorem digitsValue_digitsOf (n : Nat) : digitsValue 10 (digitsOf n) = n := by
  rw [digitsOf, digitsValue_map, ofNat, Nat.ofDigitChars_ten_toDigits]

/-- There is no zero in front of other digits. -/
theorem not_padded_ofNat (n : Nat) :
    ¬((digitsOf n).head? == some 0 && decide (1 < (digitsOf n).length)) = true := by
  intro padded
  rw [Bool.and_eq_true, beq_iff_eq, decide_eq_true_iff, digitsOf, List.head?_map, List.length_map,
    Option.map_eq_some_iff] at padded
  obtain ⟨⟨first, leading, value⟩, long⟩ := padded
  rcases Nat.eq_zero_or_pos n with rfl | positive
  · exact absurd long (by decide)
  · have bounds := bounds_of_isDigit (isDigit_of_mem_ofNat (List.mem_of_mem_head? leading))
    have same : first = '0' := Char.toNat_inj.mp (Nat.le_antisymm (Nat.sub_eq_zero_iff_le.mp value)
      bounds.1)
    exact head?_ofNat_ne positive (same ▸ leading)

/-- The digits of a number are taken up to the next character that is none. -/
theorem readDigits?_ofNat (n : Nat) {rest : Text} (ends : ∀ c ∈ rest.head?, c.isDigit = false) :
    readDigits? (ofNat n ++ rest) = some (digitsOf n, rest) := by
  have digits : ∀ c ∈ ofNat n, c.isDigit = true := fun c member => isDigit_of_mem_ofNat member
  have filled : ofNat n ≠ [] := Nat.toDigits_ne_nil
  rw [readDigits?, takeWhile_append_run digits ends, dropWhile_append_run digits ends]
  cases written : ofNat n with
  | nil => exact absurd written filled
  | cons c more => rw [digitsOf, written]

/-! ## Numbers -/

/-- A text with which no number goes on. -/
def Ends (rest : Text) : Prop :=
  ∀ c ∈ rest.head?, c.isDigit = false ∧ c ≠ '.' ∧ c ≠ 'e' ∧ c ≠ 'E'

theorem readFraction?_of_ends {rest : Text} (ends : ∀ c ∈ rest.head?, c ≠ '.') :
    readFraction? rest = some (none, rest) := by
  rw [readFraction?.eq_def]
  split
  · exact absurd rfl (ends '.' rfl)
  · rfl

theorem readExponent?_of_ends {rest : Text} (ends : Ends rest) :
    readExponent? rest = some (none, rest) := by
  cases rest with
  | nil => rfl
  | cons c rest =>
      obtain ⟨-, -, small, capital⟩ := ends c rfl
      simp [readExponent?, small, capital]

/-- A digit is no sign. -/
theorem exists_cons_ofNat (n : Nat) :
    ∃ c more, ofNat n = c :: more ∧ c.isDigit = true := by
  obtain ⟨c, more, written⟩ := List.exists_cons_of_ne_nil (Nat.toDigits_ne_nil (b := 10) (n := n))
  exact ⟨c, more, written, isDigit_of_mem_ofNat (n := n) (by rw [ofNat, written]; simp)⟩

theorem readExponent?_ofInt (exponent : Int) {rest : Text} (ends : Ends rest) :
    readExponent? ('e' :: ofInt exponent ++ rest) = some (some exponent, rest) := by
  have digits (n : Nat) : readDigits? (ofNat n ++ rest) = some (digitsOf n, rest) :=
    readDigits?_ofNat n fun c first => (ends c first).1
  cases exponent with
  | ofNat n =>
      obtain ⟨c, more, written, digit⟩ := exists_cons_ofNat n
      have read := digits n
      rw [written, List.cons_append] at read
      have unsigned : c ≠ '-' ∧ c ≠ '+' := by
        constructor <;> rintro rfl <;> cases digit
      simp [readExponent?, ofInt, written, unsigned, read, digitsValue_digitsOf]
  | negSucc n =>
      simp [readExponent?, ofInt, digits, digitsValue_digitsOf, Int.negSucc_eq]

theorem readMagnitude?_int (negative : Bool) (n : Nat) {rest : Text} (ends : Ends rest) :
    readMagnitude? negative (ofNat n ++ rest) =
      some (.int (if negative then -(n : Int) else n), rest) := by
  rw [readMagnitude?, readDigits?_ofNat n fun c first => (ends c first).1]
  simp only [Option.bind_eq_bind, Option.bind_some, if_neg (not_padded_ofNat n),
    readFraction?_of_ends fun c first => (ends c first).2.1, readExponent?_of_ends ends,
    digitsValue_digitsOf]
  rfl

theorem readMagnitude?_decimal (negative : Bool) (digits : Nat) (exponent : Int) {rest : Text}
    (ends : Ends rest) :
    readMagnitude? negative (ofNat digits ++ 'e' :: ofInt exponent ++ rest) =
      some (.decimal negative digits exponent, rest) := by
  have behind : ∀ c ∈ ('e' :: ofInt exponent ++ rest).head?, c.isDigit = false ∧ c ≠ '.' := by
    rintro c ⟨⟩
    decide
  rw [List.append_assoc, readMagnitude?, readDigits?_ofNat digits fun c first => (behind c first).1]
  simp only [Option.bind_eq_bind, Option.bind_some, if_neg (not_padded_ofNat digits),
    readFraction?_of_ends fun c first => (behind c first).2, readExponent?_ofInt exponent ends]
  simp [digitsValue_digitsOf]

/-- A number without a minus sign is its magnitude. -/
theorem readNumber?_ofNat (n : Nat) (rest : Text) :
    readNumber? (ofNat n ++ rest) = readMagnitude? false (ofNat n ++ rest) := by
  obtain ⟨c, more, written, digit⟩ := exists_cons_ofNat n
  rw [written, List.cons_append, readNumber?]
  intro _ signed
  rw [(List.cons.inj signed).1] at digit
  cases digit

/-- **A written integer is read as the integer.** -/
theorem readNumber?_ofInt (value : Int) {rest : Text} (ends : Ends rest) :
    readNumber? (ofInt value ++ rest) = some (.int value, rest) := by
  cases value with
  | ofNat n => rw [ofInt, readNumber?_ofNat, readMagnitude?_int false n ends]; rfl
  | negSucc n => rw [ofInt, List.cons_append, readNumber?, readMagnitude?_int true _ ends]; rfl

theorem readNumber?_decimal (negative : Bool) (digits : Nat) (exponent : Int) {rest : Text}
    (ends : Ends rest) :
    readNumber?
        ((if negative then ['-'] else []) ++ ofNat digits ++ 'e' :: ofInt exponent ++ rest) =
      some (.decimal negative digits exponent, rest) := by
  cases negative with
  | false =>
      have read := readMagnitude?_decimal false digits exponent ends
      rw [List.append_assoc, ← readNumber?_ofNat, ← List.append_assoc] at read
      exact read
  | true => exact readMagnitude?_decimal true digits exponent ends

end ReviewGate.Json
