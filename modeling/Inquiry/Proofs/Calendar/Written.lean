import Inquiry.Proofs.Calendar.Days
import Inquiry.Proofs.Decimal.Digits
import Inquiry.Proofs.Text.Cut

/-!
Dates and times as they are written, and the instants they denote: a time without a zone is UTC, an
offset is taken off, and of a fraction nine digits count.
-/
namespace Inquiry.Calendar

open Decimal

structure Clock where
  hour : Nat
  minute : Nat
  second : Nat
  fraction : List Char

inductive Zone where
  | utc
  | east (hours minutes : Nat)
  | west (hours minutes : Nat)

namespace Clock

structure IsValid (clock : Clock) : Prop where
  hour : clock.hour ≤ 23
  minute : clock.minute ≤ 59
  second : clock.second ≤ 59
  fraction : ∀ c ∈ clock.fraction, c.isDigit = true

def midnight : Clock := ⟨0, 0, 0, []⟩

def fractionText (digits : List Char) : List Char := if digits.isEmpty then [] else '.' :: digits

def text (clock : Clock) : List Char :=
  padded 2 clock.hour ++ ':' :: (padded 2 clock.minute ++ ':' :: (padded 2 clock.second ++
    fractionText clock.fraction))

def nanoseconds (clock : Clock) : Nat :=
  valueOf clock.fraction * 10 ^ 9 / 10 ^ clock.fraction.length

end Clock

namespace Zone

def IsValid : Zone → Prop
  | utc => True
  | east hours minutes | west hours minutes => hours ≤ 23 ∧ minutes ≤ 59

def text : Zone → List Char
  | utc => ['Z']
  | east hours minutes => '+' :: (padded 2 hours ++ ':' :: padded 2 minutes)
  | west hours minutes => '-' :: (padded 2 hours ++ ':' :: padded 2 minutes)

def offset : Zone → Int
  | utc => 0
  | east hours minutes => 60 * hours + minutes
  | west hours minutes => -(60 * hours + minutes)

end Zone

/-- Nanoseconds from the start of 1970 in UTC to a time on the day of this number, on clocks that are
`offset` minutes ahead. -/
def nanosecondsAt (days : Int) (clock : Clock) (offset : Int) : Int :=
  (((days * 24 + clock.hour) * 60 + clock.minute - offset) * 60 + clock.second) * 1000000000 +
    clock.nanoseconds

/-- Milliseconds, of which a part is dropped toward the start of 1970. -/
def millisecondsAt (days : Int) (clock : Clock) (offset : Int) : Int :=
  (nanosecondsAt days clock offset).tdiv 1000000

section Range

variable {date : Date} {clock : Clock} {zone : Zone}

theorem midnight_valid : Clock.midnight.IsValid :=
  ⟨by decide, by decide, by decide, List.forall_mem_nil _⟩

theorem millisecondsAt_midnight (days : Int) : millisecondsAt days Clock.midnight 0 = days * msPerDay := by
  have whole : nanosecondsAt days Clock.midnight 0 = days * msPerDay * 1000000 := by
    have fraction : Clock.midnight.nanoseconds = 0 := rfl
    rw [nanosecondsAt, fraction]
    simp only [Clock.midnight, msPerDay]
    omega
  rw [millisecondsAt, whole, Int.mul_tdiv_cancel _ (by decide)]

theorem nanoseconds_lt (timed : clock.IsValid) : clock.nanoseconds < 10 ^ 9 := by
  have below := valueOf_lt timed.fraction
  refine Nat.div_lt_of_lt_mul ?_
  exact (Nat.mul_lt_mul_right (by decide)).2 below

theorem number_bounds (valid : date.IsValid) (current : 0 ≤ date.year) (recent : date.year ≤ 9999) :
    -epochDay ≤ date.number ∧ date.number < 3652425 - epochDay := by
  obtain ⟨low, high⟩ := Date.number_within valid
  have first : 0 ≤ daysBeforeYear date.year := daysBeforeYear_le current
  have last : daysBeforeYear (date.year + 1) ≤ 3652425 :=
    daysBeforeYear_le (show date.year + 1 ≤ 10000 by omega)
  omega

theorem offset_bounds (zoned : zone.IsValid) : -1440 < zone.offset ∧ zone.offset < 1440 := by
  cases zone with
  | utc => decide
  | east hours minutes | west hours minutes =>
    obtain ⟨hour, minute⟩ := zoned
    simp only [Zone.offset]
    omega

theorem milliseconds_bounds (valid : date.IsValid) (timed : clock.IsValid) (zoned : zone.IsValid)
    (current : 0 ≤ date.year) (recent : date.year ≤ 9999) :
    -int64Bound ≤ millisecondsAt date.number clock zone.offset ∧
      millisecondsAt date.number clock zone.offset < int64Bound := by
  have days := number_bounds valid current recent
  have offset := offset_bounds zoned
  have fraction := nanoseconds_lt timed
  obtain ⟨hour, minute, second, _⟩ := timed
  have size : (millisecondsAt date.number clock zone.offset).natAbs =
      (nanosecondsAt date.number clock zone.offset).natAbs / 1000000 := Int.natAbs_tdiv _ _
  unfold epochDay at days
  unfold nanosecondsAt at size
  unfold int64Bound
  omega

end Range

section Characters

variable {date : Date} {clock : Clock} {zone : Zone}

theorem padded_listed {signs : List Char} (digits : "0123456789".toList ⊆ signs) (width n : Nat) :
    ∀ c ∈ padded width n, c ∈ signs :=
  fun c member => digits (Text.digit_listed (padded_digits width n c member))

theorem dateText_listed (current : 0 ≤ date.year) (recent : date.year ≤ 9999) :
    ∀ c ∈ dateText date, c ∈ "0123456789-".toList := by
  have dash : '-' ∈ "0123456789-".toList := by decide
  have digits := @padded_listed "0123456789-".toList (by decide)
  simp only [dateText, if_neg (Int.not_lt.2 current), if_neg (Int.not_lt.2 recent), List.nil_append,
    List.forall_mem_append, List.forall_mem_cons]
  exact ⟨⟨digits _ _, dash, digits _ _⟩, dash, digits _ _⟩

theorem clock_listed (timed : clock.IsValid) : ∀ c ∈ clock.text, c ∈ "0123456789:.".toList := by
  have colon : ':' ∈ "0123456789:.".toList := by decide
  have digits := @padded_listed "0123456789:.".toList (by decide)
  have fraction : ∀ c ∈ Clock.fractionText clock.fraction, c ∈ "0123456789:.".toList := by
    unfold Clock.fractionText
    split
    · exact List.forall_mem_nil _
    · refine List.forall_mem_cons.2 ⟨by decide, fun c member => ?_⟩
      have listed : "0123456789".toList ⊆ "0123456789:.".toList := by decide
      exact listed (Text.digit_listed (timed.fraction c member))
  simp only [Clock.text, List.forall_mem_append, List.forall_mem_cons]
  exact ⟨digits _ _, colon, digits _ _, colon, digits _ _, fraction⟩

theorem zone_listed (zone : Zone) : ∀ c ∈ zone.text, c ∈ "0123456789:+-Z".toList := by
  have colon : ':' ∈ "0123456789:+-Z".toList := by decide
  have digits := @padded_listed "0123456789:+-Z".toList (by decide)
  cases zone with
  | utc => exact Text.all_listed (by decide)
  | east hours minutes | west hours minutes =>
    simp only [Zone.text, List.forall_mem_append, List.forall_mem_cons]
    exact ⟨by decide, digits _ _, colon, digits _ _⟩

end Characters

section Reading

variable {width n : Nat} {rest digits : List Char}

theorem digits_padded (positive : 0 < width) (small : n < 10 ^ width) (rest : List Char) :
    digits? width (padded width n ++ rest) = some (n, rest) := by
  have length := padded_length positive small
  have digits : (padded width n).all Char.isDigit = true := List.all_eq_true.2 (padded_digits width n)
  simp only [digits?, List.take_left' length, List.drop_left' length, length, digits, valueOf_padded]
  simp

theorem mark_same (c : Char) (rest : List Char) : mark? c (c :: rest) = some rest := if_pos rfl

/-- Nine digits of a fraction are its whole nanoseconds. -/
theorem valueOf_nine (isDigits : ∀ c ∈ digits, c.isDigit = true) :
    valueOf ((digits ++ List.replicate 9 '0').take 9) =
      valueOf digits * 10 ^ 9 / 10 ^ digits.length := by
  rcases Nat.le_total digits.length 9 with short | long
  · have filled : (digits ++ List.replicate 9 '0').take 9 =
        digits ++ List.replicate (9 - digits.length) '0' := by
      rw [List.take_append, List.take_of_length_le short, List.take_replicate,
        Nat.min_eq_left (Nat.sub_le _ _)]
    have power : 10 ^ 9 = 10 ^ (9 - digits.length) * 10 ^ digits.length := by
      rw [← Nat.pow_add, Nat.sub_add_cancel short]
    rw [filled, valueOf_append, valueOf_zeros, Nat.add_zero, List.length_replicate, power,
      ← Nat.mul_assoc, Nat.mul_div_cancel _ (Nat.pow_pos (by decide))]
  · have cut : (digits ++ List.replicate 9 '0').take 9 = digits.take 9 :=
      List.take_append_of_le_length long
    have rest : valueOf (digits.drop 9) < 10 ^ (digits.drop 9).length :=
      valueOf_lt fun c member => isDigits c (List.mem_of_mem_drop member)
    have parts := valueOf_append (digits.take 9) (digits.drop 9)
    have length : digits.length = (digits.drop 9).length + 9 := by
      rw [List.length_drop]
      omega
    rw [List.take_append_drop] at parts
    rw [cut, parts, length, Nat.pow_add, Nat.mul_div_mul_right _ _ (by decide), Nat.add_comm,
      Nat.add_mul_div_right _ _ (Nat.pow_pos (by decide)), Nat.div_eq_of_lt rest, Nat.zero_add]

theorem fraction_text (isDigits : ∀ c ∈ digits, c.isDigit = true)
    (stops : ∀ c ∈ rest.head?, c.isDigit = false ∧ c ≠ '.') :
    fraction? (Clock.fractionText digits ++ rest) =
      some (valueOf digits * 10 ^ 9 / 10 ^ digits.length, rest) := by
  cases digits with
  | nil =>
    cases rest with
    | nil => rfl
    | cons c rest =>
      have other := (stops c rfl).2
      change fraction? (c :: rest) = _
      rw [fraction?]
      · rfl
      · intro more same
        exact other (List.cons.inj same).1
  | cons first digits =>
    obtain ⟨taken, left⟩ := Text.span_append Char.isDigit (first :: digits) rest isDigits
      fun c head => (stops c head).1
    change fraction? ('.' :: (first :: digits ++ rest)) = _
    rw [fraction?]
    simp only [taken, left, valueOf_nine isDigits]
    rfl

theorem offset_text {zone : Zone} (valid : zone.IsValid) : offset? zone.text = some zone.offset := by
  have small {n bound : Nat} (within : n ≤ bound) (below : bound < 10 ^ 2) : n < 10 ^ 2 :=
    Nat.lt_of_le_of_lt within below
  have read (hours minutes : Nat) (valid : hours ≤ 23 ∧ minutes ≤ 59) (sign : Char) (factor : Int)
      (signed : sign = '+' ∧ factor = 1 ∨ sign = '-' ∧ factor = -1) :
      offset? (sign :: (padded 2 hours ++ ':' :: padded 2 minutes)) =
        some (factor * (60 * hours + minutes)) := by
    have last := digits_padded (by decide) (small valid.2 (by decide)) []
    rw [List.append_nil] at last
    have first := digits_padded (by decide) (small valid.1 (by decide)) (':' :: padded 2 minutes)
    rcases signed with ⟨rfl, rfl⟩ | ⟨rfl, rfl⟩ <;>
      simp [offset?, first, mark_same, last, valid]
  cases zone with
  | utc => rfl
  | east hours minutes =>
    rw [Zone.text, read hours minutes valid '+' 1 (.inl ⟨rfl, rfl⟩), Int.one_mul]
    rfl
  | west hours minutes =>
    rw [Zone.text, read hours minutes valid '-' (-1) (.inr ⟨rfl, rfl⟩), Int.neg_one_mul]
    rfl

theorem zone_first (zone : Zone) : ∀ c ∈ zone.text.head?, c.isDigit = false ∧ c ≠ '.' := by
  cases zone <;> exact fun c head => by cases head; decide

theorem nanosOf_valid {date : Date} {clock : Clock} (valid : date.IsValid) (timed : clock.IsValid)
    (current : 0 ≤ date.year) (offset : Int) :
    nanosOf? date.year.toNat date.month date.day clock.hour clock.minute clock.second
        clock.nanoseconds offset =
      some (nanosecondsAt date.number clock offset) := by
  have year : (date.year.toNat : Int) = date.year := Int.toNat_of_nonneg current
  have isDate : isDate date.year.toNat date.month date.day = true := by rw [year]; exact valid
  have whole : clock.second ≤ 60 := Nat.le_succ_of_le timed.second
  have noLeap : clock.second ≠ 60 := Nat.ne_of_lt (Nat.lt_succ_of_le timed.second)
  simp only [nanosOf?, isDate, timed.hour, timed.minute, whole, noLeap]
  simp only [decide_true, Bool.and_self, Bool.not_true, Bool.false_eq_true, if_false, nanosecondsAt,
    Date.number, year, nanosPerMinute]
  refine congrArg some ?_
  omega

/-- What is written denotes the time on its day. -/
theorem instant_written {date : Date} {clock : Clock} {zone : Zone} (valid : date.IsValid)
    (timed : clock.IsValid) (zoned : zone.IsValid) (current : 0 ≤ date.year) (recent : date.year ≤ 9999) :
    instant? (dateText date ++ 'T' :: (clock.text ++ zone.text)) =
      some (millisecondsAt date.number clock zone.offset) := by
  obtain ⟨first, last, begins, ends⟩ := Date.isValid_iff.1 valid
  have days : date.day ≤ 31 := by
    refine ends.trans ?_
    unfold monthLength
    split
    · split <;> decide
    all_goals decide
  have year : date.year.natAbs < 10 ^ 4 := by omega
  have yearNat : date.year.natAbs = date.year.toNat := by omega
  have shape : dateText date ++ 'T' :: (clock.text ++ zone.text) =
      padded 4 date.year.natAbs ++ '-' :: (padded 2 date.month ++ '-' :: (padded 2 date.day ++ 'T' ::
        (padded 2 clock.hour ++ ':' :: (padded 2 clock.minute ++ ':' :: (padded 2 clock.second ++
          (Clock.fractionText clock.fraction ++ zone.text)))))) := by
    simp [dateText, Clock.text, Int.not_lt.2 current, Int.not_lt.2 recent]
  have nanos := nanosOf_valid valid timed current zone.offset
  have two {n bound : Nat} (within : n ≤ bound) (below : bound < 10 ^ 2) (rest : List Char) :
      digits? 2 (padded 2 n ++ rest) = some (n, rest) :=
    digits_padded (by decide) (Nat.lt_of_le_of_lt within below) rest
  rw [shape, instant?]
  simp only [digits_padded (by decide) year, two last (by decide), two days (by decide),
    two timed.hour (by decide), two timed.minute (by decide), two timed.second (by decide), mark_same,
    fraction_text timed.fraction (zone_first zone), offset_text zoned, bind, Option.bind_some,
    List.head?_cons, List.drop_one, List.tail_cons]
  rw [yearNat]
  change Option.bind (nanosOf? _ _ _ _ _ _ clock.nanoseconds _) _ = _
  rw [nanos]
  rfl

end Reading

end Inquiry.Calendar
