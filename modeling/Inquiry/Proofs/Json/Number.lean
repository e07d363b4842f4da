import Inquiry.Proofs.Decimal.Digits
import Inquiry.Proofs.Json.Token

/-! Literals that have a value are number literals, and a natural number of 64 bits has its own. -/
namespace Inquiry.Json

theorem isNumeral_of_natOf {digits : List Char} {value : Nat}
    (read : Decimal.natOf? digits = some value) : Decimal.isNumeral digits = true := by
  unfold Decimal.natOf? at read
  split at read
  next numeral => exact numeral
  next => cases read

theorem isNumeral_of_intOf {digits : List Char} {value : Int} {f : Int → Int}
    (read : Option.map f (do return ↑(← Decimal.natOf? digits)) = some value) :
    Decimal.isNumeral digits = true := by
  obtain ⟨_, lifted, -⟩ := Option.map_eq_some_iff.1 read
  obtain ⟨_, natural, -⟩ := Option.bind_eq_some_iff.1 lifted
  exact isNumeral_of_natOf natural

theorem signed_of_intOf {text : List Char} {value : Int} (read : Decimal.intOf? text = some value) :
    ∃ sign digits, text = sign ++ digits ∧ (sign = [] ∨ sign = ['+'] ∨ sign = ['-']) ∧
      Decimal.isNumeral digits = true := by
  unfold Decimal.intOf? at read
  split at read
  next digits => exact ⟨['-'], digits, rfl, .inr (.inr rfl), isNumeral_of_intOf read⟩
  next digits => exact ⟨['+'], digits, rfl, .inr (.inl rfl), isNumeral_of_intOf read⟩
  next => exact ⟨[], text, rfl, .inl rfl, isNumeral_of_intOf read⟩

theorem isExponent_of_value {text : List Char} {value : Int}
    (read : Decimal.exponentOf? text = some value) : IsExponent text := by
  unfold Decimal.exponentOf? at read
  split at read
  next rest =>
    obtain ⟨sign, digits, rfl, signed, numeral⟩ := signed_of_intOf read
    exact .inr ⟨'e', sign, digits, rfl, .inl rfl, signed, numeral⟩
  next rest =>
    obtain ⟨sign, digits, rfl, signed, numeral⟩ := signed_of_intOf read
    exact .inr ⟨'E', sign, digits, rfl, .inr rfl, signed, numeral⟩
  next => exact .inl rfl
  next => cases read

theorem parts_of_wellFormed {whole fraction : List Char}
    (formed : wellFormed whole fraction = true) : IsWhole whole ∧ IsFraction fraction := by
  simp only [wellFormed, Bool.and_eq_true, Bool.or_eq_true, decide_eq_true_eq] at formed
  obtain ⟨⟨numeral, leading⟩, fractional⟩ := formed
  refine ⟨⟨numeral, leading⟩, ?_⟩
  unfold isFraction at fractional
  split at fractional
  next digits => exact .inr ⟨digits, rfl, fractional⟩
  next => exact .inl (List.isEmpty_iff.1 fractional)

theorem signed_literal (literal : List Char) : ∃ sign, IsSign sign ∧
    literal = sign ++ if literal.head? = some '-' then literal.drop 1 else literal := by
  cases literal with
  | nil => exact ⟨[], .inl rfl, rfl⟩
  | cons first rest =>
    by_cases minus : first = '-'
    · subst minus
      exact ⟨['-'], .inr rfl, by simp⟩
    · exact ⟨[], .inl rfl, by simp [minus]⟩

/-- A literal with a value has the form of a number. -/
theorem isNumber_of_value {literal : List Char} {value : Number}
    (read : Number.ofLiteral? literal = some value) : IsNumber literal := by
  unfold Number.ofLiteral? at read
  obtain ⟨sign, isSign, literal_eq⟩ := signed_literal literal
  dsimp only at read
  generalize (if literal.head? = some '-' then literal.drop 1 else literal) = unsigned at read literal_eq
  split at read
  next formed =>
    obtain ⟨isWhole, isFraction⟩ := parts_of_wellFormed formed
    unfold Number.ofMagnitude at read
    obtain ⟨exponent, tail, -⟩ := Option.bind_eq_some_iff.1 read
    refine ⟨sign, _, _, _, ?_, isSign, isWhole, isFraction, isExponent_of_value tail⟩
    rw [List.append_assoc, List.append_assoc, ← List.append_assoc (List.takeWhile _ _),
      List.takeWhile_append_dropWhile, List.takeWhile_append_dropWhile]
    exact literal_eq
  next => cases read

theorem digit_leading : ∀ n < 10, 0 < n → [Nat.digitChar n].head? ≠ some '0' := by decide

theorem ofNat_leading {n : Nat} (positive : 0 < n) : (Decimal.ofNat n).head? ≠ some '0' := by
  induction n using Nat.strongRecOn with
  | ind n ih =>
    unfold Decimal.ofNat at ih ⊢
    by_cases small : n < 10
    · rw [Nat.toDigits_of_lt_base small]
      exact digit_leading n small positive
    · have large : 10 ≤ n := Nat.le_of_not_lt small
      have first := ih (n / 10) (by omega) (by omega)
      rw [Nat.toDigits_of_base_le (by decide) large]
      obtain ⟨digit, rest, digits⟩ :=
        List.exists_cons_of_ne_nil (@Nat.toDigits_ne_nil (n / 10) 10)
      rw [digits] at first ⊢
      exact first

theorem isWhole_ofNat (n : Nat) : IsWhole (Decimal.ofNat n) := by
  have digits := Decimal.ofNat_digits n
  have nonempty : Decimal.ofNat n ≠ [] := Nat.toDigits_ne_nil
  refine ⟨by simpa [Decimal.isNumeral] using ⟨nonempty, digits⟩, ?_⟩
  rcases Nat.eq_zero_or_pos n with rfl | positive
  · exact .inl rfl
  · exact .inr (ofNat_leading positive)

theorem ofLiteral_ofNat {n : Nat} (bound : n < UInt64.size) :
    Number.ofLiteral? (Decimal.ofNat n) = some (.integer n) := by
  have isWhole := isWhole_ofNat n
  have unsigned := @unsigned_number [] _ [] (.inl rfl) isWhole
  have mantissa := mantissa_number isWhole (.inl rfl : IsFraction []) (.inl rfl : IsExponent [])
  have whole := whole_number isWhole (.inl rfl : IsFraction [])
  simp only [List.nil_append, List.append_nil] at unsigned mantissa whole
  have positive : ¬ (Decimal.ofNat n).head? = some '-' := fun minus => by
    obtain ⟨rest, split⟩ := List.head?_eq_some_iff.1 minus
    have digit := (numeral_digit isWhole.1).2 '-' (by simp [split])
    simp [Char.isDigit] at digit
  have word : isWord (n : Int) = true := by
    have small : n < 0x10000000000000000 := bound
    have lower : -Decimal.int64Bound ≤ (n : Int) := by unfold Decimal.int64Bound; omega
    have upper : (n : Int) < 2 * Decimal.int64Bound := by unfold Decimal.int64Bound; omega
    simp [isWord, lower, upper]
  unfold Number.ofLiteral?
  simp only [positive, decide_false, if_false, mantissa, whole,
    wellFormed_number isWhole (.inl rfl), if_true]
  simp [Number.ofMagnitude, Decimal.exponentOf?, Decimal.valueOf_ofNat, word]

end Inquiry.Json
