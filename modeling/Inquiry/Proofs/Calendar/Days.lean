import Inquiry.Calendar
import Mathlib.Logic.Function.Iterate
import Mathlib.Order.Monotone.Basic

/-!
The number of a day is what counting day by day from the first of January 1970 gives, forward or
backward.
-/
namespace Inquiry.Calendar

namespace Date

def IsValid (date : Date) : Prop := isDate date.year date.month date.day = true

def next (date : Date) : Date :=
  if date.day < monthLength date.year date.month then { date with day := date.day + 1 }
  else if date.month < 12 then ⟨date.year, date.month + 1, 1⟩
  else ⟨date.year + 1, 1, 1⟩

def number (date : Date) : Int := dayNumber date.year date.month date.day

end Date

def epoch : Date := ⟨1970, 1, 1⟩

/-- So many days lead from the epoch to the date, or from the date to the epoch if it comes before. -/
def IsDayNumber (date : Date) : Int → Prop
  | .ofNat days => Date.next^[days] epoch = date
  | .negSucc days => Date.next^[days + 1] date = epoch

section Years

variable {year : Int} {month : Nat}

theorem isLeap_iff : isLeap year = true ↔ year % 4 = 0 ∧ (year % 100 ≠ 0 ∨ year % 400 = 0) := by
  simp [isLeap]

theorem daysBeforeYear_succ (year : Int) :
    daysBeforeYear (year + 1) = daysBeforeYear year + if isLeap year then 366 else 365 := by
  unfold daysBeforeYear
  rw [Int.fdiv_eq_ediv_of_nonneg _ (by decide), Int.fdiv_eq_ediv_of_nonneg _ (by decide),
    Int.fdiv_eq_ediv_of_nonneg _ (by decide), Int.fdiv_eq_ediv_of_nonneg _ (by decide),
    Int.fdiv_eq_ediv_of_nonneg _ (by decide), Int.fdiv_eq_ediv_of_nonneg _ (by decide)]
  split
  next leap =>
    have rule := isLeap_iff.1 leap
    omega
  next common =>
    have rule := mt isLeap_iff.2 common
    omega

theorem daysBeforeYear_le {first last : Int} (ordered : first ≤ last) :
    daysBeforeYear first ≤ daysBeforeYear last := by
  have rises (year : Int) : daysBeforeYear year ≤ daysBeforeYear (year + 1) := by
    rw [daysBeforeYear_succ]
    split <;> omega
  exact monotone_int_of_le_succ rises ordered

theorem monthLength_pos (year : Int) (month : Nat) : 0 < monthLength year month := by
  unfold monthLength
  split
  · split <;> decide
  all_goals decide

theorem daysBeforeMonth_succ (positive : 1 ≤ month) :
    daysBeforeMonth year (month + 1) = daysBeforeMonth year month + monthLength year month := by
  obtain ⟨month, rfl⟩ := Nat.exists_eq_add_of_le' positive
  rfl

theorem daysBeforeMonth_mono (year : Int) : Monotone (daysBeforeMonth year) := by
  refine monotone_nat_of_le_succ fun month => ?_
  rcases Nat.eq_zero_or_pos month with rfl | positive
  · exact Nat.le_refl 0
  · rw [daysBeforeMonth_succ positive]
    exact Nat.le_add_right _ _

/-- After December comes the next year. -/
theorem daysBeforeMonth_year (year : Int) :
    daysBeforeYear year + daysBeforeMonth year 13 = daysBeforeYear (year + 1) := by
  rw [daysBeforeYear_succ]
  simp only [daysBeforeMonth, monthLength]
  split <;> simp

end Years

namespace Date

variable {date other : Date} {days : Int}

theorem isValid_iff : date.IsValid ↔ 1 ≤ date.month ∧ date.month ≤ 12 ∧ 1 ≤ date.day ∧
    date.day ≤ monthLength date.year date.month := by
  simp [IsValid, isDate, and_assoc]

theorem IsValid.next (valid : date.IsValid) : date.next.IsValid := by
  obtain ⟨first, last, begins, ends⟩ := isValid_iff.1 valid
  rw [isValid_iff, Date.next]
  split
  next within => exact ⟨first, last, Nat.le_add_left 1 _, within⟩
  next =>
    split
    next before => exact ⟨Nat.le_add_left 1 _, before, Nat.le_refl 1, monthLength_pos _ _⟩
    next => exact ⟨Nat.le_refl 1, Nat.le_add_left 1 11, Nat.le_refl 1, monthLength_pos _ _⟩

/-- The next day has the next number. -/
theorem number_next (valid : date.IsValid) : date.next.number = date.number + 1 := by
  obtain ⟨first, last, begins, ends⟩ := isValid_iff.1 valid
  unfold Date.next number dayNumber
  split
  next =>
    push_cast
    omega
  next ended =>
    have whole : date.day = monthLength date.year date.month := by omega
    split
    next =>
      rw [daysBeforeMonth_succ first, whole]
      push_cast
      omega
    next december =>
      have month : date.month = 12 := by omega
      have year := daysBeforeMonth_year date.year
      rw [daysBeforeMonth_succ (by decide)] at year
      rw [month] at whole ⊢
      rw [← year, whole]
      push_cast
      simp only [daysBeforeMonth]
      omega

theorem iterate_next (valid : date.IsValid) (steps : Nat) :
    (Date.next^[steps] date).IsValid ∧ (Date.next^[steps] date).number = date.number + steps := by
  induction steps with
  | zero => exact ⟨valid, (Int.add_zero _).symm⟩
  | succ steps ih =>
    rw [Function.iterate_succ_apply', number_next ih.1, ih.2]
    exact ⟨ih.1.next, by push_cast; omega⟩

theorem number_within (valid : date.IsValid) :
    daysBeforeYear date.year ≤ date.number + epochDay ∧
      date.number + epochDay < daysBeforeYear (date.year + 1) := by
  obtain ⟨first, last, begins, ends⟩ := isValid_iff.1 valid
  have month := daysBeforeMonth_mono date.year (show date.month + 1 ≤ 13 by omega)
  rw [daysBeforeMonth_succ first] at month
  have year := daysBeforeMonth_year date.year
  unfold number dayNumber
  omega

theorem year_le (valid : date.IsValid) (validToo : other.IsValid)
    (ordered : date.number ≤ other.number) : date.year ≤ other.year := by
  refine Int.not_lt.1 fun (later : other.year + 1 ≤ date.year) => ?_
  have low := (number_within valid).1
  have high := (number_within validToo).2
  have reached := daysBeforeYear_le later
  omega

/-- Different days have different numbers. -/
theorem number_inj (valid : date.IsValid) (validToo : other.IsValid)
    (same : date.number = other.number) : date = other := by
  have year : date.year = other.year :=
    Int.le_antisymm (year_le valid validToo same.le) (year_le validToo valid same.ge)
  obtain ⟨year, month, day⟩ := date
  obtain ⟨_, otherMonth, otherDay⟩ := other
  dsimp only at year
  subst year
  obtain ⟨first, last, begins, ends⟩ := isValid_iff.1 valid
  obtain ⟨firstToo, lastToo, beginsToo, endsToo⟩ := isValid_iff.1 validToo
  dsimp only at *
  simp only [number, dayNumber] at same
  -- a day of an earlier month comes before the month that follows it
  have apart {earlier later : Nat} (positive : 1 ≤ earlier) (before : earlier < later) :
      daysBeforeMonth year earlier + monthLength year earlier ≤ daysBeforeMonth year later := by
    rw [← daysBeforeMonth_succ positive]
    exact daysBeforeMonth_mono year before
  rcases Nat.lt_trichotomy month otherMonth with before | equal | after
  · have gap := apart first before
    omega
  · subst equal
    obtain rfl : day = otherDay := by omega
    rfl
  · have gap := apart firstToo after
    omega

/-- Whatever lies as many days later is reached in as many steps. -/
theorem iterate_number (valid : date.IsValid) (validToo : other.IsValid) {steps : Nat}
    (later : other.number = date.number + steps) : Date.next^[steps] date = other := by
  obtain ⟨reached, number⟩ := iterate_next valid steps
  exact number_inj reached validToo (number.trans later.symm)

end Date

theorem epoch_valid : epoch.IsValid := rfl

theorem epoch_number : epoch.number = 0 := rfl

/-- Every day has one number, the one that the count gives. -/
theorem isDayNumber_iff {date : Date} (valid : date.IsValid) {days : Int} :
    IsDayNumber date days ↔ days = date.number := by
  cases days with
  | ofNat days =>
    constructor
    · rintro rfl
      rw [(Date.iterate_next epoch_valid days).2, epoch_number, Int.zero_add]
      rfl
    · intro same
      exact Date.iterate_number epoch_valid valid (by rw [epoch_number, Int.zero_add, ← same]; rfl)
  | negSucc days =>
    constructor
    · intro counted
      have number := (Date.iterate_next valid (days + 1)).2
      rw [counted, epoch_number] at number
      omega
    · intro same
      refine Date.iterate_number valid epoch_valid ?_
      rw [epoch_number, ← same]
      omega

example : IsDayNumber ⟨1969, 12, 31⟩ (-1) := rfl

end Inquiry.Calendar
