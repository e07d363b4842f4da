import Inquiry.Text.Property

/-! What the character classes say about the characters of the notations. -/
namespace Inquiry.Text

variable {c : Char}

theorem all_listed {holds : Char → Prop} [DecidablePred holds] {text : List Char}
    (checked : text.all (fun c => decide (holds c)) = true) : ∀ c ∈ text, holds c := by
  simpa using checked

theorem alpha_range (letter : c.isAlpha = true) :
    65 ≤ c.toNat ∧ c.toNat ≤ 90 ∨ 97 ≤ c.toNat ∧ c.toNat ≤ 122 := by
  rcases Bool.or_eq_true_iff.1 letter with upper | lower
  · exact .inl (of_decide_eq_true upper)
  · exact .inr ((Bool.and_eq_true_iff.1 lower).imp of_decide_eq_true of_decide_eq_true)

theorem alphabetic_visible (letter : isAlphabetic c = true) : 0x20 ≤ c.toNat := by
  unfold isAlphabetic at letter
  split at letter
  next =>
    have range := alpha_range letter
    omega
  next wide =>
    simp only [isAscii, decide_eq_true_eq, Nat.not_lt] at wide
    exact Nat.le_trans (by decide) wide

theorem number_visible (number : isNumber c = true) : 0x20 ≤ c.toNat := by
  unfold isNumber at number
  split at number
  next =>
    simp only [Char.isDigit, Bool.and_eq_true, decide_eq_true_eq] at number
    exact Nat.le_trans (by decide) (UInt32.le_iff_toNat_le.1 number.1)
  next wide =>
    simp only [isAscii, decide_eq_true_eq, Nat.not_lt] at wide
    exact Nat.le_trans (by decide) wide

theorem digit_listed (digit : c.isDigit = true) : c ∈ "0123456789".toList := by
  simp only [Char.isDigit, Bool.and_eq_true, decide_eq_true_eq, UInt32.le_iff_toNat_le] at digit
  change 48 ≤ c.toNat ∧ c.toNat ≤ 57 at digit
  have listed : ∀ n < 10, Char.ofNat (48 + n) ∈ "0123456789".toList := by decide
  have member := listed (c.toNat - 48) (by omega)
  rwa [Nat.add_sub_of_le digit.1, Char.ofNat_toNat] at member

theorem within_apart {left right : List (Nat × Nat)}
    (apart : ∀ first ∈ left, ∀ second ∈ right, first.2 < second.1 ∨ second.2 < first.1)
    (inside : within left c = true) : within right c = false := by
  simp only [within, List.any_eq_true, List.any_eq_false, Bool.and_eq_true, decide_eq_true_eq] at inside ⊢
  obtain ⟨first, member, low, high⟩ := inside
  rintro second other ⟨above, below⟩
  have separate := apart first member second other
  omega

theorem alphabetic_dark (letter : isAlphabetic c = true) : isWhitespace c = false := by
  unfold isAlphabetic at letter
  unfold isWhitespace
  split at letter
  next ascii =>
    rw [if_pos ascii]
    have range := alpha_range letter
    have visible : c ≠ ' ' := by
      rintro rfl
      revert range
      decide
    simp only [Bool.or_eq_false_iff, beq_eq_false_iff_ne, Bool.and_eq_false_iff, decide_eq_false_iff_not]
    exact ⟨visible, by omega⟩
  next wide =>
    rw [if_neg wide]
    exact within_apart (by decide +kernel) letter

theorem number_dark (number : isNumber c = true) : isWhitespace c = false := by
  unfold isNumber at number
  unfold isWhitespace
  split at number
  next ascii =>
    rw [if_pos ascii]
    have dark : ∀ c ∈ "0123456789".toList, (c == ' ' || (0x09 ≤ c.toNat && c.toNat ≤ 0x0d)) = false :=
      all_listed (by decide)
    exact dark c (digit_listed number)
  next wide =>
    rw [if_neg wide]
    exact within_apart (by decide +kernel) number

theorem word_dark (part : isWordChar c = true) : isWhitespace c = false := by
  unfold isWordChar at part
  split at part
  next ascii =>
    simp only [Char.isAlphanum, Bool.or_eq_true, beq_iff_eq] at part
    rcases part with (letter | digit) | rfl
    · exact alphabetic_dark (by rwa [isAlphabetic, if_pos ascii])
    · exact number_dark (by rwa [isNumber, if_pos ascii])
    · decide
  next wide =>
    unfold isWhitespace
    rw [if_neg wide]
    simp only [Bool.or_eq_true, beq_iff_eq] at part
    rcases part with ((((letter | mark) | digit) | connector) | rfl) | rfl
    · exact within_apart (by decide +kernel) letter
    · exact within_apart (by decide +kernel) mark
    · exact within_apart (by decide +kernel) digit
    · exact within_apart (by decide +kernel) connector
    · decide
    · decide

theorem alphanumeric_dark (part : isAlphanumeric c = true) : isWhitespace c = false :=
  (Bool.or_eq_true_iff.1 part).elim alphabetic_dark number_dark

end Inquiry.Text
