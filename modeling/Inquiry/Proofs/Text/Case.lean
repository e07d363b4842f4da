import Inquiry.Text.Case

/-!
Lower case of a text in parts. Only the final sigma looks around itself, and it looks no further than
the next character that neither has case nor is passed over.
-/
namespace Inquiry.Text

/-- It neither has case nor is passed over, so nothing is seen beyond it. -/
def IsBarrier (c : Char) : Prop := isCased c = false ∧ isCaseIgnorable c = false

section Barrier

variable {before text rest : List Char} {c : Char}

theorem IsBarrier.no_sigma (barrier : IsBarrier c) : c ≠ 'Σ' := by
  rintro rfl
  exact absurd barrier.1 (by decide)

theorem casedNext_barrier (barrier : IsBarrier c) : casedNext (text ++ c :: rest) = casedNext text := by
  induction text with
  | nil =>
    rw [List.nil_append, casedNext, List.dropWhile_cons_of_neg (by simp [barrier.2])]
    exact barrier.1
  | cons d text ih =>
    cases ignored : isCaseIgnorable d with
    | true => simpa only [casedNext, List.cons_append, List.dropWhile_cons, ignored, if_true] using ih
    | false => simp [casedNext, ignored]

/-- What precedes a barrier changes nothing after it. -/
theorem lowerAfter_barrier (barrier : IsBarrier c) :
    lowerAfter (before ++ c :: rest) text = lowerAfter before text := by
  induction text generalizing before with
  | nil => rfl
  | cons d text ih =>
    rw [lowerAfter, lowerAfter, casedNext_barrier barrier, ← List.cons_append, ih]

theorem lower_barrier (barrier : IsBarrier c) :
    lower (text ++ c :: rest) = lower text ++ lowerChar c ++ lower rest := by
  have apart (before : List Char) :
      lowerAfter before (text ++ c :: rest) = lowerAfter before text ++ lowerChar c ++ lower rest := by
    induction text generalizing before with
    | nil =>
      have alone : lowerAfter ([] ++ c :: before) rest = lower rest := lowerAfter_barrier barrier
      rw [List.nil_append, lowerAfter, lowerAfter, if_neg (by simpa using barrier.no_sigma),
        ← List.nil_append (c :: before), alone, List.nil_append]
    | cons d text ih =>
      rw [List.cons_append, lowerAfter, casedNext_barrier barrier, ih, lowerAfter]
      simp only [List.append_assoc]
  exact apart []

end Barrier

end Inquiry.Text
