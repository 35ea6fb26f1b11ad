import ReviewGate.Text.LineEnd

/-!
# Every line end is a newline

The text that a file is read as is written down with a flag for a carriage return in front of the
next character. Looking ahead instead, one takes a pair of carriage return and newline together
(`withNewlines`). Both give the same text (`unifyLineEnds_eq_withNewlines`), which has no carriage
return (`not_mem_withNewlines`).
-/

set_option autoImplicit false

namespace ReviewGate.Text

/-- The text with a newline for every pair of carriage return and newline, and for every carriage
return alone. -/
def withNewlines : Text → Text
  | [] => []
  | '\r' :: '\n' :: rest => '\n' :: withNewlines rest
  | '\r' :: rest => '\n' :: withNewlines rest
  | c :: rest => c :: withNewlines rest

theorem withNewlines_pair (rest : Text) :
    withNewlines ('\r' :: '\n' :: rest) = '\n' :: withNewlines rest := by
  rw [withNewlines]

theorem withNewlines_return {rest : Text} (alone : rest.head? ≠ some '\n') :
    withNewlines ('\r' :: rest) = '\n' :: withNewlines rest := by
  rw [withNewlines]
  rintro more rfl
  exact alone rfl

theorem withNewlines_cons {c : Char} (other : c ≠ '\r') (rest : Text) :
    withNewlines (c :: rest) = c :: withNewlines rest := by
  rw [withNewlines]
  · exact fun _ same _ => other same
  · exact other

theorem withNewlines_append {front : Text} (absent : '\r' ∉ front) (rest : Text) :
    withNewlines (front ++ rest) = front ++ withNewlines rest := by
  induction front with
  | nil => rfl
  | cons c front ih =>
      rw [List.cons_append, withNewlines_cons (fun same => absent (same ▸ List.mem_cons_self)),
        ih (fun member => absent (List.mem_cons_of_mem c member)), List.cons_append]

/-- Texts are read apart as long as no pair of signs is torn apart. -/
theorem withNewlines_append_of_head {rest : Text} (other : rest.head? ≠ some '\n')
    (front : Text) : withNewlines (front ++ rest) = withNewlines front ++ withNewlines rest := by
  fun_induction withNewlines front with
  | case1 => rfl
  | case2 front ih =>
      rw [List.cons_append, List.cons_append, withNewlines_pair, ih, List.cons_append]
  | case3 front alone ih =>
      have next : (front ++ rest).head? ≠ some '\n' := by
        cases front with
        | nil => exact other
        | cons d front =>
            intro same
            obtain rfl : d = '\n' := Option.some.inj same
            exact alone front rfl
      rw [List.cons_append, withNewlines_return next, ih, List.cons_append]
  | case4 c front _ plain ih =>
      rw [List.cons_append, withNewlines_cons plain, ih, List.cons_append]

/-- **No carriage return is left.** -/
theorem not_mem_withNewlines (text : Text) : '\r' ∉ withNewlines text := by
  fun_induction withNewlines text with
  | case1 => exact List.not_mem_nil
  | case2 rest ih => simpa using ih
  | case3 rest _ ih => simpa using ih
  | case4 c rest _ other ih => simpa [Ne.symm other] using ih

/-- A newline is only dropped behind a carriage return. -/
theorem unifyLineEndsFrom_of_head {text : Text} (other : text.head? ≠ some '\n')
    (behindReturn : Bool) : unifyLineEndsFrom behindReturn text = unifyLineEndsFrom false text := by
  cases text with
  | nil => rfl
  | cons c rest =>
      have different : c ≠ '\n' := fun same => other (same ▸ rfl)
      simp [unifyLineEndsFrom, different]

/-- **Looking back and looking ahead unify the same line ends.** -/
theorem unifyLineEnds_eq_withNewlines (text : Text) : unifyLineEnds text = withNewlines text := by
  unfold unifyLineEnds
  fun_induction withNewlines text with
  | case1 => rfl
  | case2 rest ih => exact congrArg ('\n' :: ·) ih
  | case3 rest alone ih =>
      have other : rest.head? ≠ some '\n' := by
        intro head
        obtain ⟨more, rfl⟩ := List.head?_eq_some_iff.mp head
        exact alone more rfl
      rw [unifyLineEndsFrom, if_pos rfl, unifyLineEndsFrom_of_head other, ih]
  | case4 c rest _ other ih =>
      rw [unifyLineEndsFrom, if_neg other, if_neg (by simp), ih]

end ReviewGate.Text
