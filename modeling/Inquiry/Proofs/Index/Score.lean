import Inquiry.Index.Ranking
import Mathlib

/-!
Numbers of single precision compare as the integers that sign and magnitude of their bits make,
whatever their exponents are. The rank of a score tells the two zeros apart besides, so it orders
finite numbers by value, with negative zero below zero.
-/
namespace Inquiry.Score

open Float.Model Float.Model.UnpackedFloat

def magnitude (x : Float32) : Nat := x.toBits.toNat % 2 ^ 31

def sign (x : Float32) : Sign := if x.toBits.toNat < 2 ^ 31 then .positive else .negative

def level (x : Float32) : Int := (sign x).apply (magnitude x)

def IsNumber (x : Float32) : Prop := magnitude x ≤ 0x7f800000

inductive Decodes (sign : Sign) : Nat → UnpackedFloat → Prop
  | zero : Decodes sign 0 (.zero sign)
  | finite {size mantissa : Nat} {exponent : Int} (positive : 0 < mantissa)
      (made : (size : Int) = (exponent + 149) * 2 ^ 23 + mantissa) (least : -149 ≤ exponent)
      (small : mantissa < 2 ^ 24) (canonical : exponent = -149 ∨ 2 ^ 23 ≤ mantissa)
      (below : size < 0x7f800000) : Decodes sign size (.finite sign mantissa exponent positive)
  | infinity : Decodes sign 0x7f800000 (.infinity sign)
  | notANumber {size : Nat} (above : 0x7f800000 < size) : Decodes sign size .notANumber

section Decoding

def mantissaBits (x : Float32) : BitVec 23 := @unpackMantissa Format.binary32 x.toBits.toBitVec

def exponentBits (x : Float32) : BitVec 8 := @unpackExponent Format.binary32 x.toBits.toBitVec

def signBit (x : Float32) : BitVec 1 := @unpackSign Format.binary32 x.toBits.toBitVec

variable (x : Float32)

theorem mantissa_toNat : (mantissaBits x).toNat = x.toBits.toNat % 2 ^ 23 := by
  simp [mantissaBits, unpackMantissa]

theorem exponent_toNat : (exponentBits x).toNat = x.toBits.toNat / 2 ^ 23 % 2 ^ 8 := by
  simp [exponentBits, unpackExponent, Nat.shiftRight_eq_div_pow]

theorem signBit_toNat : (signBit x).toNat = x.toBits.toNat / 2 ^ 31 % 2 := by
  simp [signBit, unpackSign, Nat.shiftRight_eq_div_pow]

theorem magnitude_parts :
    magnitude x = (exponentBits x).toNat * 2 ^ 23 + (mantissaBits x).toNat := by
  rw [mantissa_toNat, exponent_toNat, magnitude]
  omega

/-- The leading bit of a normal number is not written. -/
theorem leading_toNat (mantissa : BitVec 23) :
    (1#1 ++ mantissa).toNat = 2 ^ 23 + mantissa.toNat := by
  rw [BitVec.toNat_append, ← Nat.shiftLeft_add_eq_or_of_lt mantissa.isLt]
  rfl

theorem sign_decoded : Sign.ofBitVec (signBit x) = sign x := by
  have bound : x.toBits.toNat < 2 ^ 32 := x.toBits.toBitVec.isLt
  have positive : signBit x = 0#1 ↔ x.toBits.toNat < 2 ^ 31 := by
    rw [← BitVec.toNat_inj, signBit_toNat]
    change x.toBits.toNat / 2 ^ 31 % 2 = 0 ↔ _
    omega
  simp only [Sign.ofBitVec, sign, positive]

theorem leading_pos (mantissa : BitVec 23) : 0 < (1#1 ++ mantissa).toNat := by
  rw [leading_toNat]
  omega

theorem unpack_parts : x.toModel.unpack =
    if exponentBits x = -1#8 then
      if mantissaBits x = 0#23 then .infinity (sign x) else .notANumber
    else if exponentBits x = 0#8 then
      if blank : mantissaBits x = 0#23 then .zero (sign x)
      else .finite (sign x) (mantissaBits x).toNat ((exponentBits x).toNat - 150 + 1)
        (Nat.pos_of_ne_zero fun zero => blank (BitVec.eq_of_toNat_eq zero))
    else
      .finite (sign x) (1#1 ++ mantissaBits x).toNat ((exponentBits x).toNat - 150)
        (leading_pos (mantissaBits x)) := by
  rw [← sign_decoded]
  rfl

theorem decodes : Decodes (sign x) (magnitude x) x.toModel.unpack := by
  have small : (mantissaBits x).toNat < 2 ^ 23 := (mantissaBits x).isLt
  have few : (exponentBits x).toNat < 2 ^ 8 := (exponentBits x).isLt
  have leading := leading_toNat (mantissaBits x)
  have parts := magnitude_parts x
  rw [unpack_parts]
  split
  next most =>
    have full : (exponentBits x).toNat = 255 := congrArg BitVec.toNat most
    split
    next blank =>
      have zero : (mantissaBits x).toNat = 0 := congrArg BitVec.toNat blank
      rw [parts, full, zero]
      exact .infinity
    next filled =>
      have other : (mantissaBits x).toNat ≠ 0 := BitVec.toNat_ne.1 filled
      apply Decodes.notANumber
      omega
  next notMost =>
    have notFull : (exponentBits x).toNat ≠ 255 := BitVec.toNat_ne.1 notMost
    split
    next least =>
      have empty : (exponentBits x).toNat = 0 := congrArg BitVec.toNat least
      split
      next blank =>
        have zero : (mantissaBits x).toNat = 0 := congrArg BitVec.toNat blank
        rw [parts, empty, zero]
        exact .zero
      next => apply Decodes.finite <;> omega
    next notLeast =>
      have notEmpty : (exponentBits x).toNat ≠ 0 := BitVec.toNat_ne.1 notLeast
      apply Decodes.finite <;> omega

end Decoding

section Comparing

variable {sign other : Sign} {size more mantissa further : Nat} {first second : Int}
  {u v : UnpackedFloat}

/-- Exponents count before mantissas, as they do in the magnitude. -/
theorem compare_canonical (made : (size : Int) = (first + 149) * 2 ^ 23 + mantissa)
    (least : -149 ≤ first) (small : mantissa < 2 ^ 24)
    (canonical : first = -149 ∨ 2 ^ 23 ≤ mantissa)
    (madeToo : (more : Int) = (second + 149) * 2 ^ 23 + further) (leastToo : -149 ≤ second)
    (smallToo : further < 2 ^ 24) (canonicalToo : second = -149 ∨ 2 ^ 23 ≤ further) :
    (compare first second).then (compare mantissa further) = compare (size : Int) more := by
  rcases Int.lt_trichotomy first second with before | rfl | after
  · have less : (size : Int) < more := by omega
    rw [Int.compare_eq_lt.2 before, Int.compare_eq_lt.2 less]
    rfl
  · have same : compare first first = .eq := Int.compare_eq_eq.2 rfl
    rw [same, made, madeToo, Int.compare_eq_ite_lt, Nat.compare_eq_ite_lt]
    simp only [Ordering.then, Int.add_lt_add_iff_left, Int.ofNat_lt]
  · have greater : (more : Int) < size := by omega
    rw [Int.compare_eq_gt.2 after, Int.compare_eq_gt.2 greater]
    rfl

theorem compare_opposite (first second : Int) :
    (compare first second).swap = compare (-first) (-second) := by
  rw [Int.compare_swap, Int.compare_eq_ite_lt, Int.compare_eq_ite_lt]
  simp only [Int.neg_lt_neg_iff]

theorem compare_finite (positive : 0 < mantissa) (positiveToo : 0 < further) (above : 0 < size)
    (aboveToo : 0 < more)
    (same : (compare first second).then (compare mantissa further) = compare (size : Int) more) :
    (UnpackedFloat.finite sign mantissa first positive).compare
        (.finite other further second positiveToo) =
      some (compare (sign.apply size) (other.apply more)) := by
  cases sign with
  | negative =>
    cases other with
    | negative =>
      rw [UnpackedFloat.compare, same, compare_opposite]
      rfl
    | positive =>
      have before : -(size : Int) < more := by omega
      exact congrArg some (Int.compare_eq_lt.2 before).symm
  | positive =>
    cases other with
    | negative =>
      have after : -(more : Int) < size := by omega
      exact congrArg some (Int.compare_eq_gt.2 after).symm
    | positive => exact congrArg some same

theorem compare_decoded (decodes : Decodes sign size u) (decodesToo : Decodes other more v)
    (number : size ≤ 0x7f800000) (numberToo : more ≤ 0x7f800000) :
    u.compare v = some (compare (sign.apply size) (other.apply more)) := by
  cases decodes with
  | notANumber => omega
  | finite positive made least small canonical =>
    cases decodesToo with
    | notANumber => omega
    | finite positiveToo madeToo leastToo smallToo canonicalToo =>
      apply compare_finite positive positiveToo (by omega) (by omega)
      exact compare_canonical made least small canonical madeToo leastToo smallToo canonicalToo
    | _ =>
      cases sign <;> cases other <;>
        grind [UnpackedFloat.compare, Sign.apply, Int.compare_eq_ite_lt]
  | _ =>
    cases decodesToo with
    | notANumber => omega
    | finite =>
      cases sign <;> cases other <;>
        grind [UnpackedFloat.compare, Sign.apply, Int.compare_eq_ite_lt]
    | _ => cases sign <;> cases other <;> rfl

theorem notANumber_iff (decodes : Decodes sign size u) :
    u = .notANumber ↔ ¬ size ≤ 0x7f800000 := by
  cases decodes <;> simp <;> omega

theorem finite_iff (decodes : Decodes sign size u) : u.isFinite = true ↔ size < 0x7f800000 := by
  cases decodes <;> simp [UnpackedFloat.isFinite] <;> omega

end Comparing

section Order

variable {x y z : Float32}

theorem compare_numbers (number : IsNumber x) (numberToo : IsNumber y) :
    x.toModel.unpack.compare y.toModel.unpack = some (compare (level x) (level y)) :=
  compare_decoded (decodes x) (decodes y) number numberToo

theorem compare_others (others : ¬ (IsNumber x ∧ IsNumber y)) :
    x.toModel.unpack.compare y.toModel.unpack = none := by
  rcases Classical.not_and_iff_not_or_not.1 others with other | other
  · rw [(notANumber_iff (decodes x)).2 other]
    rfl
  · rw [(notANumber_iff (decodes y)).2 other]
    cases x.toModel.unpack <;> rfl

theorem le_iff : x ≤ y ↔ IsNumber x ∧ IsNumber y ∧ level x ≤ level y := by
  have compared : x ≤ y ↔ (x.toModel.unpack.compare y.toModel.unpack).any (·.isLE) = true :=
    decide_eq_true_iff
  rw [compared, ← and_assoc]
  by_cases numbers : IsNumber x ∧ IsNumber y
  · rw [compare_numbers numbers.1 numbers.2, and_iff_right numbers]
    exact Int.isLE_compare
  · rw [compare_others numbers]
    exact iff_of_false Bool.false_ne_true fun both => numbers both.1

theorem lt_iff : x < y ↔ IsNumber x ∧ IsNumber y ∧ level x < level y := by
  have compared : x < y ↔ (x.toModel.unpack.compare y.toModel.unpack == some .lt) = true :=
    decide_eq_true_iff
  rw [compared, ← and_assoc, beq_iff_eq]
  by_cases numbers : IsNumber x ∧ IsNumber y
  · rw [compare_numbers numbers.1 numbers.2, and_iff_right numbers, Option.some_inj]
    exact Int.compare_eq_lt
  · rw [compare_others numbers]
    exact iff_of_false (fun same => by cases same) fun both => numbers both.1

theorem isFinite_iff : x.isFinite = true ↔ magnitude x < 0x7f800000 := finite_iff (decodes x)

theorem isNumber_of_finite (finite : x.isFinite = true) : IsNumber x :=
  Nat.le_of_lt (isFinite_iff.1 finite)

theorem le_trans (first : x ≤ y) (second : y ≤ z) : x ≤ z := by
  obtain ⟨number, -, before⟩ := le_iff.1 first
  obtain ⟨-, numberToo, after⟩ := le_iff.1 second
  exact le_iff.2 ⟨number, numberToo, Int.le_trans before after⟩

theorem level_bits (x : Float32) : level x =
    if x.toBits.toNat < 2 ^ 31 then (x.toBits.toNat : Int) else 2 ^ 31 - x.toBits.toNat := by
  have bound : x.toBits.toNat < 2 ^ 32 := x.toBits.toBitVec.isLt
  unfold level sign magnitude
  split
  · change ((x.toBits.toNat % 2 ^ 31 : Nat) : Int) = _
    omega
  · change -((x.toBits.toNat % 2 ^ 31 : Nat) : Int) = _
    omega

theorem eq_iff_bits : x = y ↔ x.toBits.toNat = y.toBits.toNat :=
  Float32.toBits_inj.symm.trans UInt32.toNat_inj.symm

theorem rank_inj (same : Index.rank x = Index.rank y) : x = y := by
  apply eq_iff_bits.2
  unfold Index.rank at same
  grind

theorem level_le (before : Index.rank x ≤ Index.rank y) : level x ≤ level y := by
  rw [level_bits, level_bits]
  unfold Index.rank at before
  grind

/-- A bound that a finite score reaches is reached by every finite score of a higher rank. -/
theorem le_of_rank (finite : x.isFinite = true) (ahead : Index.rank y ≤ Index.rank x)
    (reached : z ≤ y) : z ≤ x := by
  obtain ⟨number, -, below⟩ := le_iff.1 reached
  exact le_iff.2 ⟨number, isNumber_of_finite finite, Int.le_trans below (level_le ahead)⟩

/-- The total order of finite numbers, from above: by value, and zero above negative zero. -/
def Exceeds (x y : Float32) : Prop := y < x ∨ x = 0 ∧ y = -0.0

theorem zero_bits : (0 : Float32).toBits.toNat = 0 := by decide

theorem negativeZero_bits : (-0.0 : Float32).toBits.toNat = 2 ^ 31 := by decide

theorem exceeds_iff (finite : x.isFinite = true) (finiteToo : y.isFinite = true) :
    Exceeds x y ↔ Index.rank y < Index.rank x := by
  have number := isNumber_of_finite finite
  have numberToo := isNumber_of_finite finiteToo
  rw [Exceeds, lt_iff, and_iff_right numberToo, and_iff_right number, eq_iff_bits, eq_iff_bits,
    zero_bits, negativeZero_bits, level_bits, level_bits]
  unfold Index.rank
  grind

end Order

end Inquiry.Score
