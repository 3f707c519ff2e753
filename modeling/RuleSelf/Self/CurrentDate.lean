import Mathlib.Data.List.GetD
import RuleSelf.Library.Calendar
import RuleSelf.Self.Pipeline

/-!
# The Current Date

The calendar of the `Formatter` library is the Gregorian calendar, and the date check of the
hub compares days: the digits of a proof pass it in the blocks of the day they write, and in
no other block.
-/

namespace RuleSelf

open Evm Revert Calendar

namespace Formatter

/-! ## The calendar of `toTimestamp` -/

theorem isLeapYear_eq_ok {year : ℕ} (h : 1970 ≤ year) (h' : year ≤ 2100) :
    isLeapYear year = .ok (decide (IsLeap year)) := by
  have hrange : ¬ (year < 1970 ∨ 2100 < year) := by omega
  simp only [isLeapYear, revertIf, hrange, if_false, IsLeap]
  by_cases h4 : year % 4 = 0 <;> by_cases h100 : year % 100 = 0 <;>
    simp [h4, h100, ok_bind, pure, Except.pure]

/-- The table of month lengths, at a month. -/
theorem getD_monthDayCounts (year : ℕ) {month : ℕ} (h : 1 ≤ month) (h' : month ≤ 12) :
    (monthDayCounts (decide (IsLeap year))).getD (month - 1) 0 = monthLength year month := by
  interval_cases month <;> simp [monthDayCounts, monthLength]

/-- The table of month lengths, up to a month. -/
theorem sum_take_monthDayCounts (year : ℕ) {month : ℕ} (h : 1 ≤ month) (h' : month ≤ 12) :
    ((monthDayCounts (decide (IsLeap year))).take (month - 1)).sum =
      daysBeforeMonth year month := by
  induction month, h using Nat.le_induction with
  | base => simp [daysBeforeMonth]
  | succ month h ih =>
    have hget := getD_monthDayCounts year h (by omega)
    have hlen : month - 1 < (monthDayCounts (decide (IsLeap year))).length := by
      simp [monthDayCounts]
      omega
    obtain ⟨k, rfl⟩ : ∃ k, month = k + 1 := ⟨month - 1, by omega⟩
    -- one more month adds its own days on both sides
    rw [daysBeforeMonth_succ year h, ← ih (by omega), ← hget]
    simp only [Nat.add_sub_cancel] at hlen ⊢
    rw [List.sum_take_succ _ _ hlen, List.getD_eq_getElem _ _ hlen]

/-- The loop over the years before. -/
theorem foldlM_years (k : ℕ) (h : 1970 + k ≤ 2101) :
    (List.range' 1970 k).foldlM (fun timestamp i => do
      let leap ← isLeapYear i
      return timestamp + (if leap then 366 else 365) * day) 0 =
        (.ok (daysBeforeYear (1970 + k) * day) : Except Error ℕ) := by
  induction k with
  | zero => simp [daysBeforeYear, pure, Except.pure]
  | succ k ih =>
    have hyear := daysBeforeYear_succ (show 1970 ≤ 1970 + k by omega)
    rw [List.range'_1_concat, List.foldlM_append, ih (by omega), ok_bind, List.foldlM_cons,
      isLeapYear_eq_ok (by omega) (by omega), ← Nat.add_assoc, hyear, yearLength]
    simp [ok_bind, pure, Except.pure, Nat.add_mul]

/-- **The timestamp of a date**: a date that exists, in the years the function covers, is
converted to the midnight its day begins with; anything else reverts. -/
theorem toTimestamp_eq_ok {year month dayOfMonth timestamp : ℕ} :
    toTimestamp year month dayOfMonth = .ok timestamp ↔
      1970 ≤ year ∧ year ≤ 2100 ∧ Date.Valid ⟨year, month, dayOfMonth⟩ ∧
        Date.dayNumber ⟨year, month, dayOfMonth⟩ * day = timestamp := by
  unfold toTimestamp
  by_cases hyear : 1970 ≤ year ∧ year ≤ 2100
  · obtain ⟨h1970, h2100⟩ := hyear
    -- the loop over the years adds the days of each, leap days included
    have hyears := foldlM_years (year - 1970) (by omega)
    rw [Nat.add_sub_cancel' h1970] at hyears
    rw [hyears, isLeapYear_eq_ok h1970 h2100]
    simp only [check_bind_eq_ok, revertIf_eq_ok, ok_bind, pure_eq_ok, not_or, not_lt]
    constructor
    · rintro ⟨_, ⟨hmonth, hmonth'⟩, ⟨hday, hday'⟩, htimestamp⟩
      rw [getD_monthDayCounts year hmonth hmonth'] at hday'
      rw [sum_take_monthDayCounts year hmonth hmonth'] at htimestamp
      refine ⟨h1970, h2100, ⟨hmonth, hmonth', hday, hday'⟩, ?_⟩
      rw [← htimestamp, Date.dayNumber, Nat.add_mul, Nat.add_mul]
    · rintro ⟨_, _, hvalid, htimestamp⟩
      refine ⟨⟨h1970, h2100⟩, ⟨hvalid.month_pos, hvalid.month_le⟩, ?_, ?_⟩
      · rw [getD_monthDayCounts year hvalid.month_pos hvalid.month_le]
        exact ⟨hvalid.day_pos, hvalid.day_le⟩
      · rw [sum_take_monthDayCounts year hvalid.month_pos hvalid.month_le, ← htimestamp,
          Date.dayNumber, Nat.add_mul, Nat.add_mul]
  · -- the first check of the function reverts
    have hrange : year < 1970 ∨ 2100 < year := by omega
    simp only [check_bind_eq_ok, revertIf_eq_ok, hrange, not_true_eq_false, false_and, false_iff]
    rintro ⟨h1970, h2100, _⟩
    exact hyear ⟨h1970, h2100⟩

/-! ## Digits -/

/-- The character a digit is written with. -/
private theorem toNat_character {n : ℕ} (h : n ≤ 9) :
    (UInt8.ofNat (48 + n % 10)).toNat = 48 + n := by
  simp
  omega

/-- Two characters are parsed to the number they write. -/
private theorem parseDatePart_eq_ok {b₁ b₂ : UInt8} {n₁ n₂ : ℕ} (h₁ : b₁.toNat = 48 + n₁)
    (h₂ : b₂.toNat = 48 + n₂) : parseDatePart [b₁, b₂] = .ok (10 * n₁ + n₂) := by
  simp [parseDatePart, numAsciiToUint, h₁, h₂, ok_bind, pure, Except.pure, Nat.mul_comm]

/-- What `checkDate` compares: the month is at most 12, and the day at most 31. -/
private theorem checkDate_eq_ok {b : Fin 6 → UInt8} {n : Fin 6 → ℕ}
    (hb : ∀ i, (b i).toNat = 48 + n i) (hn : ∀ i, n i ≤ 9) :
    checkDate [b 0, b 1, b 2, b 3, b 4, b 5] = .ok () ↔
      10 * n 2 + n 3 ≤ 12 ∧ 10 * n 4 + n 5 ≤ 31 := by
  unfold checkDate
  simp only [check_bind_eq_ok, revertIf_eq_ok, gt_iff_lt, UInt8.lt_iff_toNat_lt,
    ← UInt8.toNat_inj, hb]
  have h3 := hn 3
  have h5 := hn 5
  simp
  omega

private theorem dateToUnixTimestamp_eq_ok {b : Fin 6 → UInt8} {n : Fin 6 → ℕ}
    (hb : ∀ i, (b i).toNat = 48 + n i) (hn : ∀ i, n i ≤ 9) (timestamp : ℕ) :
    dateToUnixTimestamp [b 0, b 1, b 2, b 3, b 4, b 5] = .ok timestamp ↔
      toTimestamp (10 * n 0 + n 1 + 2000) (10 * n 2 + n 3) (10 * n 4 + n 5) = .ok timestamp := by
  have hyear := parseDatePart_eq_ok (hb 0) (hb 1)
  have hmonth := parseDatePart_eq_ok (hb 2) (hb 3)
  have hday := parseDatePart_eq_ok (hb 4) (hb 5)
  unfold dateToUnixTimestamp
  rw [check_bind_eq_ok, checkDate_eq_ok hb hn]
  simp only [substring, List.length_cons, List.length_nil, List.drop, List.take, Nat.reduceAdd,
    Nat.reduceLT, Nat.reduceSub, if_false, and_false, ok_bind, hyear, hmonth, hday]
  -- a date that exists is within the bounds of the check
  refine and_iff_right_of_imp fun h => ?_
  obtain ⟨-, -, hvalid, -⟩ := toTimestamp_eq_ok.mp h
  exact ⟨hvalid.month_le, hvalid.day_le.trans (monthLength_le _ _)⟩

/-- The date six digits `YYMMDD` write, in the century from 2000 on. -/
def dateOfDigits (dateNum : Fin 6 → Word) : Date where
  year := 2000 + 10 * (dateNum 0).toNat + (dateNum 1).toNat
  month := 10 * (dateNum 2).toNat + (dateNum 3).toNat
  day := 10 * (dateNum 4).toNat + (dateNum 5).toNat

/-- **The timestamp of six digits**: the midnight of the date they write. -/
theorem proofDateToUnixTimestamp_eq_ok {dateNum : Fin 6 → Word} {timestamp : ℕ} :
    proofDateToUnixTimestamp dateNum = .ok timestamp ↔
      (∀ i, (dateNum i).toNat ≤ 9) ∧ (dateOfDigits dateNum).Valid ∧
        (dateOfDigits dateNum).dayNumber * day = timestamp := by
  unfold proofDateToUnixTimestamp
  rw [check_bind_eq_ok, revertIf_eq_ok, not_exists]
  simp only [not_lt]
  refine and_congr_right fun hdigits => ?_
  -- the digits are written as characters, which are read back
  have hcharacters (i : Fin 6) :
      (UInt8.ofNat (48 + (dateNum i).toNat % 10)).toNat = 48 + (dateNum i).toNat :=
    toNat_character (hdigits i)
  have hdate := dateToUnixTimestamp_eq_ok hcharacters hdigits timestamp
  have hyear : 10 * (dateNum 0).toNat + (dateNum 1).toNat + 2000 =
      2000 + 10 * (dateNum 0).toNat + (dateNum 1).toNat := by omega
  have h0 := hdigits 0
  have h1 := hdigits 1
  rw [hyear, toTimestamp_eq_ok] at hdate
  refine hdate.trans ⟨fun ⟨_, _, h⟩ => h, fun h => ⟨by omega, by omega, h⟩⟩

end Formatter

namespace IdentityVerificationHub

open Formatter

/-! ## The date check -/

/-- Digits that write the date of day `n` of the calendar. -/
def WritesDay (dateNum : Fin 6 → Word) (n : ℕ) : Prop :=
  (∀ i, (dateNum i).toNat ≤ 9) ∧ dateOf n = dateOfDigits dateNum

/-- Digits write one day at most. -/
theorem WritesDay.unique {dateNum : Fin 6 → Word} {n n' : ℕ} (h : WritesDay dateNum n)
    (h' : WritesDay dateNum n') : n = n' :=
  dateOf_injective (h.2.trans h'.2.symm)

/-- **The date check compares days**: the digits write the day of the block, which is not the
first day of all. -/
theorem dateInRange_iff {block : Block} {dateNum : Fin 6 → Word} :
    DateInRange block dateNum ↔
      day ≤ block.timestamp ∧ WritesDay dateNum (block.timestamp / day) := by
  unfold DateInRange WritesDay
  simp only [proofDateToUnixTimestamp_eq_ok, getStartOfDayTimestamp, dateOf_eq_iff, day]
  constructor
  · intro ⟨timestamp, ⟨hdigits, hvalid, htimestamp⟩, hfirst, hlow, hhigh⟩
    -- both are midnights, less than a day apart
    refine ⟨by omega, hdigits, hvalid, ?_, by omega⟩
    simp only [dateOfDigits]
    omega
  · intro ⟨hfirst, hdigits, hvalid, _, hnumber⟩
    exact ⟨_, ⟨hdigits, hvalid, rfl⟩, by omega, by omega, by omega⟩

end IdentityVerificationHub

end RuleSelf
