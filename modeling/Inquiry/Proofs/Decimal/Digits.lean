import Inquiry.Decimal.Digits
import Inquiry.Proofs.Text.Property
import Mathlib.Algebra.Group.Nat.Defs

/-! The value of digits in a row, the digits that a number is written in, and numbers of 64 bits. -/
namespace Inquiry.Decimal

section Digits

variable {text front back : List Char} {width n : Nat}

theorem valueOf_ofNat (n : Nat) : valueOf (ofNat n) = n :=
  Nat.ofDigitChars_toDigits (by decide) (by decide)

theorem ofNat_digits (n : Nat) : ∀ c ∈ ofNat n, c.isDigit = true :=
  fun _ digit => Nat.isDigit_of_mem_toDigits (by decide) (by decide) digit

theorem natText_unbroken (n : Nat) : '\n' ∉ (natText n).toList := by
  intro member
  rw [natText, String.toList_ofList] at member
  exact absurd (ofNat_digits n _ member) (by decide)

theorem natText_inj {first second : Nat} (same : natText first = natText second) :
    first = second := by
  have digits := congrArg String.toList same
  simp only [natText, String.toList_ofList] at digits
  rw [← valueOf_ofNat first, digits, valueOf_ofNat]

theorem valueOf_append (front back : List Char) :
    valueOf (front ++ back) = valueOf front * 10 ^ back.length + valueOf back := by
  have shifted := @Nat.ofDigitChars_eq_ofDigitChars_zero back (valueOf front)
  rw [valueOf, List.foldl_append]
  exact shifted.trans (by rw [Nat.mul_comm]; rfl)

theorem valueOf_zeros (count : Nat) : valueOf (List.replicate count '0') = 0 :=
  (@Nat.ofDigitChars_replicate_zero 10 0 count).trans (Nat.mul_zero _)

theorem valueOf_lt (digits : ∀ c ∈ text, c.isDigit = true) : valueOf text < 10 ^ text.length := by
  induction text with
  | nil => decide
  | cons c text ih =>
    rw [List.forall_mem_cons] at digits
    have first : digitValue c < 10 := by
      have listed : ∀ c ∈ "0123456789".toList, digitValue c < 10 := Text.all_listed (by decide)
      exact listed c (Text.digit_listed digits.1)
    have rest := ih digits.2
    have parts := valueOf_append [c] text
    have whole : valueOf [c] = digitValue c := by simp [valueOf]
    rw [List.singleton_append, whole] at parts
    calc valueOf (c :: text) = digitValue c * 10 ^ text.length + valueOf text := parts
      _ < (digitValue c + 1) * 10 ^ text.length := by rw [Nat.add_one_mul]; omega
      _ ≤ 10 * 10 ^ text.length := Nat.mul_le_mul_right _ first
      _ = 10 ^ (text.length + 1) := (Nat.pow_succ').symm

theorem padded_length (positive : 0 < width) (small : n < 10 ^ width) : (padded width n).length = width := by
  have within := (Nat.length_toDigits_le_iff (by decide) positive).2 small
  simp only [padded, ofNat, List.length_append, List.length_replicate]
  omega

theorem padded_digits (width n : Nat) : ∀ c ∈ padded width n, c.isDigit = true := by
  intro c member
  rcases List.mem_append.1 member with zero | digit
  · rw [List.eq_of_mem_replicate zero]
    rfl
  · exact ofNat_digits n c digit

theorem valueOf_padded (width n : Nat) : valueOf (padded width n) = n := by
  simp only [padded, valueOf_append, valueOf_zeros, valueOf_ofNat, Nat.zero_mul, Nat.zero_add]

end Digits

theorem long_toInt {n : Int} (low : -int64Bound ≤ n) (high : n < int64Bound) :
    (Int64.ofInt n).toInt = n := by
  unfold int64Bound at low high
  exact Int64.toInt_ofInt_of_le (by omega) (by omega)

end Inquiry.Decimal
