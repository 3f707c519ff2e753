import Mathlib.Algebra.BigOperators.Intervals
import Mathlib.Algebra.Order.BigOperators.Group.Finset
import Mathlib.Logic.Function.Iterate
import Mathlib.Tactic.Common
import Mathlib.Tactic.IntervalCases

/-!
# The Gregorian Calendar

Dates of the Gregorian calendar and the days since 1 January 1970. The calendar is given by
the day that follows a date; the date of day `n` is the `n`-th after the epoch. A date is
found from its number by counting: `dayNumber` sums the years before it, the months of its
year before it, and its day. The two directions are inverse to each other on the dates of the
calendar from the epoch on.
-/

open Finset

namespace Calendar

/-- A year, a month from 1 and a day from 1. -/
@[ext] structure Date where
  year : ℕ
  month : ℕ
  day : ℕ
  deriving DecidableEq

/-- Every fourth year is a leap year, but of the centuries only every fourth. -/
def IsLeap (year : ℕ) : Prop := year % 4 = 0 ∧ (year % 100 ≠ 0 ∨ year % 400 = 0)

instance (year : ℕ) : Decidable (IsLeap year) := inferInstanceAs (Decidable (_ ∧ _))

/-- The number of days of a month. -/
def monthLength (year : ℕ) : ℕ → ℕ
  | 2 => if IsLeap year then 29 else 28
  | 4 | 6 | 9 | 11 => 30
  | _ => 31

/-- The number of days of a year. -/
def yearLength (year : ℕ) : ℕ := if IsLeap year then 366 else 365

/-- The date exists. -/
structure Date.Valid (d : Date) : Prop where
  month_pos : 1 ≤ d.month
  month_le : d.month ≤ 12
  day_pos : 1 ≤ d.day
  day_le : d.day ≤ monthLength d.year d.month

/-- The day after: the next of the month, or the first of the next month, or New Year. -/
def Date.next (d : Date) : Date :=
  if d.day < monthLength d.year d.month then ⟨d.year, d.month, d.day + 1⟩
  else if d.month < 12 then ⟨d.year, d.month + 1, 1⟩
  else ⟨d.year + 1, 1, 1⟩

/-- 1 January 1970. -/
def epoch : Date := ⟨1970, 1, 1⟩

/-- The date `n` days after the epoch. -/
def dateOf (n : ℕ) : Date := Date.next^[n] epoch

/-- 29 February 1972. -/
example : dateOf 789 = ⟨1972, 2, 29⟩ := by decide +kernel

/-! ## Counting days -/

/-- The days of the months before a month. -/
def daysBeforeMonth (year month : ℕ) : ℕ := ∑ m ∈ Ico 1 month, monthLength year m

/-- The days of the years before a year, since the epoch. -/
def daysBeforeYear (year : ℕ) : ℕ := ∑ y ∈ Ico 1970 year, yearLength y

/-- The number of days from the epoch to a date. -/
def Date.dayNumber (d : Date) : ℕ :=
  daysBeforeYear d.year + daysBeforeMonth d.year d.month + (d.day - 1)

theorem monthLength_pos (year month : ℕ) : 1 ≤ monthLength year month := by
  unfold monthLength
  split <;> try split
  all_goals simp

theorem monthLength_le (year month : ℕ) : monthLength year month ≤ 31 := by
  unfold monthLength
  split <;> try split
  all_goals simp

theorem daysBeforeMonth_succ (year : ℕ) {month : ℕ} (h : 1 ≤ month) :
    daysBeforeMonth year (month + 1) = daysBeforeMonth year month + monthLength year month :=
  sum_Ico_succ_top h _

theorem daysBeforeYear_succ {year : ℕ} (h : 1970 ≤ year) :
    daysBeforeYear (year + 1) = daysBeforeYear year + yearLength year :=
  sum_Ico_succ_top h _

theorem daysBeforeMonth_mono (year : ℕ) {m m' : ℕ} (h : m ≤ m') :
    daysBeforeMonth year m ≤ daysBeforeMonth year m' :=
  sum_le_sum_of_subset (Ico_subset_Ico_right h)

theorem daysBeforeYear_mono {y y' : ℕ} (h : y ≤ y') : daysBeforeYear y ≤ daysBeforeYear y' :=
  sum_le_sum_of_subset (Ico_subset_Ico_right h)

/-- The twelve months make a year. -/
theorem daysBeforeMonth_thirteen (year : ℕ) : daysBeforeMonth year 13 = yearLength year := by
  simp only [daysBeforeMonth, yearLength, monthLength, sum_Ico_succ_top, Nat.reduceLeDiff,
    Ico_self, sum_empty]
  split <;> rfl

/-! ## The day after -/

section Next

variable {d : Date}

theorem Date.Valid.next (h : d.Valid) : d.next.Valid := by
  unfold Date.next
  split
  · exact ⟨h.month_pos, h.month_le, by simp, by assumption⟩
  · split
    · exact ⟨by simp, by assumption, le_rfl, monthLength_pos _ _⟩
    · exact ⟨le_rfl, by simp, le_rfl, monthLength_pos _ _⟩

theorem Date.year_le_next (d : Date) : d.year ≤ d.next.year := by
  unfold Date.next
  split
  · exact le_rfl
  · split <;> simp

/-- The day after has the next number. -/
theorem Date.Valid.dayNumber_next (h : d.Valid) (hyear : 1970 ≤ d.year) :
    d.next.dayNumber = d.dayNumber + 1 := by
  obtain ⟨year, month, day⟩ := d
  obtain ⟨hmonth, hmonth', hday, hday'⟩ := h
  simp only at hmonth hmonth' hday hday' hyear
  unfold Date.dayNumber
  by_cases hlt : day < monthLength year month
  · -- inside a month the days count on
    rw [Date.next, if_pos hlt]
    simp only
    omega
  · -- the month is over: its days are counted with the months before
    have hlast : day = monthLength year month := by omega
    have hsucc := daysBeforeMonth_succ year hmonth
    by_cases hdecember : month < 12
    · rw [Date.next, if_neg hlt, if_pos hdecember]
      simp only
      omega
    · -- the year is over: its months are counted with the years before
      obtain rfl : month = 12 := by omega
      rw [daysBeforeMonth_thirteen] at hsucc
      rw [Date.next, if_neg hlt, if_neg hdecember]
      have hjanuary : daysBeforeMonth (year + 1) 1 = 0 := by simp [daysBeforeMonth]
      simp only [daysBeforeYear_succ hyear, hjanuary]
      omega

end Next

/-! ## The date of a day -/

theorem epoch_valid : epoch.Valid := ⟨by decide, by decide, by decide, by decide⟩

@[simp] theorem dateOf_zero : dateOf 0 = epoch := rfl

theorem dateOf_succ (n : ℕ) : dateOf (n + 1) = (dateOf n).next :=
  Function.iterate_succ_apply' ..

theorem dateOf_valid (n : ℕ) : (dateOf n).Valid := by
  induction n with
  | zero => exact epoch_valid
  | succ n ih =>
    rw [dateOf_succ]
    exact ih.next

theorem year_dateOf (n : ℕ) : 1970 ≤ (dateOf n).year := by
  induction n with
  | zero => exact le_rfl
  | succ n ih =>
    rw [dateOf_succ]
    exact ih.trans (Date.year_le_next _)

/-- The `n`-th date after the epoch has number `n`. -/
theorem dayNumber_dateOf (n : ℕ) : (dateOf n).dayNumber = n := by
  induction n with
  | zero => rfl
  | succ n ih => rw [dateOf_succ, (dateOf_valid n).dayNumber_next (year_dateOf n), ih]

theorem dateOf_injective : Function.Injective dateOf := by
  intro n n' h
  rw [← dayNumber_dateOf n, h, dayNumber_dateOf]

/-! ## The number of a date -/

section Number

variable {d d' : Date}

/-- A date falls into its month. -/
theorem Date.Valid.day_lt (h : d.Valid) :
    daysBeforeMonth d.year d.month + (d.day - 1) < daysBeforeMonth d.year (d.month + 1) := by
  have hday := h.day_le
  have hpos := h.day_pos
  rw [daysBeforeMonth_succ _ h.month_pos]
  omega

/-- A date falls into its year. -/
theorem Date.Valid.dayNumber_lt (h : d.Valid) (hyear : 1970 ≤ d.year) :
    d.dayNumber < daysBeforeYear (d.year + 1) := by
  have hmonth : daysBeforeMonth d.year (d.month + 1) ≤ daysBeforeMonth d.year 13 :=
    daysBeforeMonth_mono d.year (Nat.succ_le_succ h.month_le)
  have hday := h.day_lt
  rw [daysBeforeMonth_thirteen] at hmonth
  rw [daysBeforeYear_succ hyear, Date.dayNumber]
  omega

/-- Of two dates with one number, neither is in a later year. -/
private theorem year_le_of_dayNumber_eq (h : d.Valid) (hyear : 1970 ≤ d.year)
    (heq : d.dayNumber = d'.dayNumber) : d'.year ≤ d.year := by
  by_contra hlt
  have hmono : daysBeforeYear (d.year + 1) ≤ daysBeforeYear d'.year :=
    daysBeforeYear_mono (Nat.lt_of_not_le hlt)
  have hday := h.dayNumber_lt hyear
  rw [heq, Date.dayNumber] at hday
  omega

private theorem month_le_of_eq {year : ℕ} {month month' day day' : ℕ}
    (h : Date.Valid ⟨year, month, day⟩)
    (heq : daysBeforeMonth year month + (day - 1) = daysBeforeMonth year month' + (day' - 1)) :
    month' ≤ month := by
  by_contra hlt
  have hmono : daysBeforeMonth year (month + 1) ≤ daysBeforeMonth year month' :=
    daysBeforeMonth_mono year (Nat.lt_of_not_le hlt)
  have hday := h.day_lt
  simp only at hday
  omega

/-- Different dates have different numbers. -/
theorem Date.Valid.eq_of_dayNumber_eq (h : d.Valid) (h' : d'.Valid) (hyear : 1970 ≤ d.year)
    (hyear' : 1970 ≤ d'.year) (heq : d.dayNumber = d'.dayNumber) : d = d' := by
  -- a later year begins only after all days of an earlier one
  have hyears : d.year = d'.year := le_antisymm
    (year_le_of_dayNumber_eq h' hyear' heq.symm) (year_le_of_dayNumber_eq h hyear heq)
  obtain ⟨year, month, day⟩ := d
  obtain ⟨year', month', day'⟩ := d'
  obtain rfl : year = year' := hyears
  -- in one year, the months are told apart in the same way, and then the days
  have hrest : daysBeforeMonth year month + (day - 1) =
      daysBeforeMonth year month' + (day' - 1) := by
    simp only [Date.dayNumber] at heq
    omega
  obtain rfl : month = month' := le_antisymm (month_le_of_eq h' hrest.symm) (month_le_of_eq h hrest)
  have hpos := h.day_pos
  have hpos' := h'.day_pos
  simp only at hpos hpos'
  have hdays : day = day' := by omega
  rw [hdays]

/-- **The date of a day number**: the only date from the epoch on that has the number. -/
theorem dateOf_eq_iff {n : ℕ} :
    dateOf n = d ↔ d.Valid ∧ 1970 ≤ d.year ∧ d.dayNumber = n := by
  constructor
  · intro h
    rw [← h]
    exact ⟨dateOf_valid n, year_dateOf n, dayNumber_dateOf n⟩
  · intro ⟨hvalid, hyear, hnumber⟩
    apply (dateOf_valid n).eq_of_dayNumber_eq hvalid (year_dateOf n) hyear
    rw [dayNumber_dateOf, hnumber]

end Number

end Calendar
