import RuleSelf.Self.ScalarField

/-!
# Date Circuits

The templates `DateIsLess`, `IsOlderThan` and `IsValid`, as the relations their constraints
impose on the signals, and what the relations say of the dates the signals write: years of
two digits, and any small numbers where the characters are not digits.
-/

namespace RuleSelf

open Circuit

namespace DateCircuits

attribute [local instance] neZero_two neZero_four neZero_six

/-! ## Templates -/

/-- `DateIsLess` -/
def DateIsLess (firstDay secondDay firstMonth secondMonth firstYear secondYear out : Signal) :
    Prop :=
  ∃ isYearLess isMonthLess isDayLess isYearEqual isMonthEqual : Signal,
    LessThan 8 firstYear secondYear isYearLess ∧
    LessThan 8 firstMonth secondMonth isMonthLess ∧
    LessThan 8 firstDay secondDay isDayLess ∧
    IsEqual firstYear secondYear isYearEqual ∧
    IsEqual firstMonth secondMonth isMonthEqual ∧
    GreaterThan 3 (isYearLess + isYearEqual * isMonthLess +
      isYearEqual * isMonthEqual * isDayLess) 0 out

/-- `IsOlderThan` -/
def IsOlderThan (majorityASCII : Fin 2 → Signal) (currDate birthDateASCII : Fin 6 → Signal)
    (out : Signal) : Prop :=
  let birthdateNum (i : Fin 6) : Signal := birthDateASCII i - 48
  let currDateYear := currDate 0 * 10 + currDate 1
  let birthYear := birthdateNum 0 * 10 + birthdateNum 1
  let majorityNum := (majorityASCII 0 - 48) * 10 + (majorityASCII 1 - 48)
  ∃ (lessThan : Fin 4 → Signal) (isPrevCentury : Signal),
    -- the majority is between 0 and 99, in characters
    LessThan 8 47 (majorityASCII 0) (lessThan 0) ∧
    LessThan 8 47 (majorityASCII 1) (lessThan 1) ∧
    LessThan 8 (majorityASCII 0) 58 (lessThan 2) ∧
    LessThan 8 (majorityASCII 1) 58 (lessThan 3) ∧
    lessThan 0 * lessThan 1 * lessThan 2 * lessThan 3 = 1 ∧
    LessThan 8 currDateYear birthYear isPrevCentury ∧
    DateIsLess (birthdateNum 4 * 10 + birthdateNum 5) (currDate 4 * 10 + currDate 5)
      (birthdateNum 2 * 10 + birthdateNum 3) (currDate 2 * 10 + currDate 3)
      (birthYear + majorityNum) (currDateYear + isPrevCentury * 100) out

/-- `IsValid` -/
def IsValid (currDate validityDateASCII : Fin 6 → Signal) : Prop :=
  let validityDateNum (i : Fin 6) : Signal := validityDateASCII i - 48
  DateIsLess (currDate 4 * 10 + currDate 5) (validityDateNum 4 * 10 + validityDateNum 5)
    (currDate 2 * 10 + currDate 3) (validityDateNum 2 * 10 + validityDateNum 3)
    (currDate 0 * 10 + currDate 1) (validityDateNum 0 * 10 + validityDateNum 1) 1

/-! ## Dates of six numbers -/

/-- A date as the circuits compute with it. -/
@[ext] structure DateNumbers where
  year : ℤ
  month : ℤ
  day : ℤ
  deriving DecidableEq

namespace DateNumbers

/-- The date six numbers `YYMMDD` write. -/
def ofNumbers (n : Fin 6 → ℤ) : DateNumbers :=
  ⟨n 0 * 10 + n 1, n 2 * 10 + n 3, n 4 * 10 + n 5⟩

def addYears (d : DateNumbers) (years : ℤ) : DateNumbers := { d with year := d.year + years }

/-- The order of dates. -/
def Before (a b : DateNumbers) : Prop :=
  a.year < b.year ∨ a.year = b.year ∧ (a.month < b.month ∨ a.month = b.month ∧ a.day < b.day)

instance (a b : DateNumbers) : Decidable (a.Before b) := inferInstanceAs (Decidable (_ ∨ _))

/-- The difference of two numbers fits the comparators of the dates. -/
def Fits (x y : ℤ) : Prop := -2 ^ 8 ≤ x - y ∧ x - y < 2 ^ 8

/-- Two dates the constraints let be compared. -/
def Comparable (a b : DateNumbers) : Prop :=
  Fits a.year b.year ∧ Fits a.month b.month ∧ Fits a.day b.day

/-- The numbers of a date are small. -/
def Small (d : DateNumbers) : Prop := |d.year| ≤ 10000 ∧ |d.month| ≤ 10000 ∧ |d.day| ≤ 10000

/-- Years have two digits: one after this year's is of the previous century. -/
def century (birth today : DateNumbers) : ℤ := if today.year < birth.year then 100 else 0

/-- The birthday of `age` years was before today. -/
def Older (birth : DateNumbers) (age : ℕ) (today : DateNumbers) : Prop :=
  (birth.addYears age).Before (today.addYears (birth.century today))

instance (birth : DateNumbers) (age : ℕ) (today : DateNumbers) :
    Decidable (birth.Older age today) :=
  inferInstanceAs (Decidable (Before _ _))

/-- Who was older than an age was older than every lower one. -/
theorem Older.mono {birth today : DateNumbers} {age age' : ℕ} (h : birth.Older age today)
    (hle : age' ≤ age) : birth.Older age' today := by
  unfold Older Before addYears at *
  dsimp only at *
  omega

end DateNumbers

open DateNumbers

/-! ## What the constraints say -/

/-- Small numbers are far from the order of the field. -/
private theorem small_sub {x y : ℤ} (hx : |x| ≤ 10000) (hy : |y| ≤ 10000) :
    |x - y| + 2 ^ 8 < (Formatter.snarkScalarField : ℤ) := by
  have h := abs_sub x y
  have hlarge : (10000 + 10000 + 2 ^ 8 : ℤ) < Formatter.snarkScalarField := by decide
  omega

private theorem lessThan_small {x y : ℤ} (hx : |x| ≤ 10000) (hy : |y| ≤ 10000) {out : Signal} :
    LessThan 8 (x : Signal) (y : Signal) out ↔ Fits x y ∧ out = if x < y then 1 else 0 :=
  lessThan_intCast (small_sub hx hy)

private theorem isEqual_small {x y : ℤ} (hx : |x| ≤ 10000) (hy : |y| ≤ 10000) {out : Signal} :
    IsEqual (x : Signal) (y : Signal) out ↔ out = if x = y then 1 else 0 :=
  isEqual_intCast (by have := small_sub hx hy; omega)

/-- A bit is greater than 0 when it is 1. -/
private theorem greaterThan_bit {P : Prop} [Decidable P] {out : Signal} :
    GreaterThan 3 (if P then 1 else 0) 0 out ↔ out = if P then 1 else 0 := by
  have hcast : (if P then 1 else 0 : Signal) = ((if P then 1 else 0 : ℤ) : Signal) := by
    split <;> simp
  have hlarge : (1 + 2 ^ 3 : ℤ) < Formatter.snarkScalarField := by decide
  rw [hcast, GreaterThan, ← Int.cast_zero, lessThan_intCast (by split <;> simp <;> omega)]
  by_cases hP : P <;> simp [hP]

/-- The three ways to be less exclude each other. -/
private theorem sum_eq (a b : DateNumbers) :
    ((if a.year < b.year then 1 else 0) +
        (if a.year = b.year then 1 else 0) * (if a.month < b.month then 1 else 0) +
        (if a.year = b.year then 1 else 0) * (if a.month = b.month then 1 else 0) *
          (if a.day < b.day then 1 else 0) : Signal) =
      if a.Before b then 1 else 0 := by
  unfold Before
  rcases lt_trichotomy a.year b.year with hyear | hyear | hyear
  · simp [hyear, hyear.ne]
  · rcases lt_trichotomy a.month b.month with hmonth | hmonth | hmonth
    · simp [hyear, hmonth, hmonth.ne]
    · simp [hyear, hmonth]
    · simp [hyear, hmonth.not_gt, hmonth.ne']
  · simp [hyear.not_gt, hyear.ne']

/-- **Dates are compared**: comparable ones, by their order. -/
theorem dateIsLess_iff {a b : DateNumbers} (ha : a.Small) (hb : b.Small) {out : Signal} :
    DateIsLess (a.day : Signal) (b.day : Signal) (a.month : Signal) (b.month : Signal)
        (a.year : Signal) (b.year : Signal) out ↔
      a.Comparable b ∧ out = if a.Before b then 1 else 0 := by
  obtain ⟨hayear, hamonth, haday⟩ := ha
  obtain ⟨hbyear, hbmonth, hbday⟩ := hb
  unfold DateIsLess Comparable
  simp only [lessThan_small hayear hbyear, lessThan_small hamonth hbmonth,
    lessThan_small haday hbday, isEqual_small hayear hbyear, isEqual_small hamonth hbmonth]
  -- at most one of the three summands is 1, so the sum is a bit
  constructor
  · rintro ⟨_, _, _, _, _, ⟨hyear, rfl⟩, ⟨hmonth, rfl⟩, ⟨hday, rfl⟩, rfl, rfl, hout⟩
    rw [sum_eq, greaterThan_bit] at hout
    exact ⟨⟨hyear, hmonth, hday⟩, hout⟩
  · rintro ⟨⟨hyear, hmonth, hday⟩, hout⟩
    refine ⟨_, _, _, _, _, ⟨hyear, rfl⟩, ⟨hmonth, rfl⟩, ⟨hday, rfl⟩, rfl, rfl, ?_⟩
    rwa [sum_eq, greaterThan_bit]

/-! ## Ages -/

/-- The two characters of an age. -/
def ageCharacters (age : ℕ) : Fin 2 → Signal := ![((48 + age / 10 : ℕ) : Signal),
  ((48 + age % 10 : ℕ) : Signal)]

/-- A signal between two comparators is a digit. -/
private theorem digit_iff {x low high : Signal} :
    (LessThan 8 47 x low ∧ LessThan 8 x 58 high ∧ low = 1 ∧ high = 1) ↔
      ∃ digit : ℕ, digit ≤ 9 ∧ x = ((48 + digit : ℕ) : Signal) ∧ low = 1 ∧ high = 1 := by
  have h47 : (47 : Signal) = ((47 : ℤ) : Signal) := by simp
  have h58 : (58 : Signal) = ((58 : ℤ) : Signal) := by simp
  rw [h47, h58]
  constructor
  · rintro ⟨hlow, hhigh, rfl, rfl⟩
    obtain ⟨a, rfl, h1, h2⟩ := hhigh.exists_left
    have ha : |a| ≤ 10000 := by rw [abs_le]; omega
    rw [lessThan_small (by decide) ha] at hlow
    rw [lessThan_small ha (by decide)] at hhigh
    -- both comparisons have come out as 1
    have hgt : 47 < a := by
      by_contra hnot
      exact absurd hlow.2 (by rw [if_neg hnot]; exact one_ne_zero)
    have hlt : a < 58 := by
      by_contra hnot
      exact absurd hhigh.2 (by rw [if_neg hnot]; exact one_ne_zero)
    refine ⟨(a - 48).toNat, by omega, ?_, rfl, rfl⟩
    have hnat : ((48 + (a - 48).toNat : ℕ) : ℤ) = a := by omega
    rw [← Int.cast_natCast, hnat]
  · rintro ⟨digit, hdigit, rfl, rfl, rfl⟩
    have ha : |((48 + digit : ℕ) : ℤ)| ≤ 10000 := by rw [abs_le]; omega
    rw [← Int.cast_natCast, lessThan_small (by decide) ha, lessThan_small ha (by decide)]
    unfold Fits
    refine ⟨⟨by omega, ?_⟩, ⟨by omega, ?_⟩, rfl, rfl⟩
    · rw [if_pos (by omega)]
    · rw [if_pos (by omega)]

private theorem ofNumbers_small {n : Fin 6 → ℤ} (hn : ∀ i, |n i| ≤ 255) {years : ℤ}
    (hyears : |years| ≤ 100) : ((ofNumbers n).addYears years).Small := by
  simp only [abs_le] at hn hyears
  have h0 := hn 0
  have h1 := hn 1
  have h2 := hn 2
  have h3 := hn 3
  have h4 := hn 4
  have h5 := hn 5
  unfold DateNumbers.Small ofNumbers addYears
  simp only [abs_le]
  omega

theorem abs_century_le (birth today : DateNumbers) : |birth.century today| ≤ 100 := by
  unfold century
  split <;> simp

/-- The constraints let the birthday of an age be compared with today. -/
def AgeComparable (birth : DateNumbers) (age : ℕ) (today : DateNumbers) : Prop :=
  Fits today.year birth.year ∧
    (birth.addYears age).Comparable (today.addYears (birth.century today))

/-- **Who is older than a majority**: the two characters write an age, and the output says
whether its birthday was before today. -/
theorem isOlderThan_iff {c n : Fin 6 → ℤ} (hc : ∀ i, |c i| ≤ 255) (hn : ∀ i, |n i| ≤ 255)
    {majorityASCII : Fin 2 → Signal} {out : Signal} :
    IsOlderThan majorityASCII (fun i => (c i : Signal)) (fun i => (n i : Signal) + 48) out ↔
      ∃ age : ℕ, age ≤ 99 ∧ majorityASCII = ageCharacters age ∧
        AgeComparable (ofNumbers n) age (ofNumbers c) ∧
        out = if (ofNumbers n).Older age (ofNumbers c) then 1 else 0 := by
  have hsmall {m : Fin 6 → ℤ} (hm : ∀ i, |m i| ≤ 255) : |m 0 * 10 + m 1| ≤ 10000 :=
    (add_zero (m 0 * 10 + m 1) ▸ (ofNumbers_small hm (by simp : |(0 : ℤ)| ≤ 100)).1)
  have hnumber (m : Fin 6 → ℤ) (i j : Fin 6) :
      (m i : Signal) * 10 + (m j : Signal) = ((m i * 10 + m j : ℤ) : Signal) := by
    push_cast
    rfl
  -- the comparison the last constraints make
  have hcompare {age : ℕ} (hage : age ≤ 99) {majorityNum : Signal}
      (hmajority : majorityNum = ((age : ℤ) : Signal)) :
      DateIsLess ((n 4 * 10 + n 5 : ℤ) : Signal) ((c 4 * 10 + c 5 : ℤ) : Signal)
        ((n 2 * 10 + n 3 : ℤ) : Signal) ((c 2 * 10 + c 3 : ℤ) : Signal)
        (((n 0 * 10 + n 1 : ℤ) : Signal) + majorityNum)
        (((c 0 * 10 + c 1 : ℤ) : Signal) +
          (if c 0 * 10 + c 1 < n 0 * 10 + n 1 then 1 else 0) * 100) out ↔
      ((ofNumbers n).addYears age).Comparable
          ((ofNumbers c).addYears ((ofNumbers n).century (ofNumbers c))) ∧
        out = if (ofNumbers n).Older age (ofNumbers c) then 1 else 0 := by
    have hcentury : ((if c 0 * 10 + c 1 < n 0 * 10 + n 1 then 1 else 0) * 100 : Signal) =
        (((ofNumbers n).century (ofNumbers c) : ℤ) : Signal) := by
      unfold century ofNumbers
      split <;> simp
    rw [hmajority, hcentury, ← Int.cast_add, ← Int.cast_add]
    exact dateIsLess_iff (ofNumbers_small hn (by rw [abs_le]; omega))
      (ofNumbers_small hc (abs_century_le _ _))
  unfold IsOlderThan
  simp only [add_sub_cancel_right, hnumber, lessThan_small (hsmall hc) (hsmall hn)]
  constructor
  · -- the four comparisons are all 1, so the two characters are digits
    rintro ⟨lessThan, _, h0, h1, h2, h3, hone, ⟨hfits, rfl⟩, hless⟩
    rw [((h0.isBit.mul h1.isBit).mul h2.isBit).mul_eq_one, (h0.isBit.mul h1.isBit).mul_eq_one,
      h0.isBit.mul_eq_one] at hone
    obtain ⟨⟨⟨hone0, hone1⟩, hone2⟩, hone3⟩ := hone
    obtain ⟨tens, htens, hmajority0, -⟩ := digit_iff.mp ⟨h0, h2, hone0, hone2⟩
    obtain ⟨units, hunits, hmajority1, -⟩ := digit_iff.mp ⟨h1, h3, hone1, hone3⟩
    have hage : (majorityASCII 0 - 48) * 10 + (majorityASCII 1 - 48) =
        (((tens * 10 + units : ℕ) : ℤ) : Signal) := by
      rw [hmajority0, hmajority1]
      push_cast
      ring
    obtain ⟨hcomparable, rfl⟩ := (hcompare (by omega) hage).mp hless
    refine ⟨tens * 10 + units, by omega, ?_, ⟨hfits, hcomparable⟩, rfl⟩
    funext i
    match i with
    | 0 => rw [hmajority0, ageCharacters, Matrix.cons_val_zero,
        show (tens * 10 + units) / 10 = tens by omega]
    | 1 => rw [hmajority1, ageCharacters, Matrix.cons_val_one, Matrix.cons_val_zero,
        show (tens * 10 + units) % 10 = units by omega]
  · rintro ⟨age, hage, rfl, ⟨hfits, hcomparable⟩, hout⟩
    -- the two digits of the age pass the comparisons
    obtain ⟨h0, h2, -⟩ := digit_iff.mpr ⟨age / 10, by omega, rfl, rfl, rfl⟩
    obtain ⟨h1, h3, -⟩ := digit_iff.mpr ⟨age % 10, by omega, rfl, rfl, rfl⟩
    refine ⟨fun _ => 1, _, h0, h1, h2, h3, by simp, ⟨hfits, rfl⟩, ?_⟩
    refine (hcompare hage ?_).mpr ⟨hcomparable, hout⟩
    have hdigits : age / 10 * 10 + age % 10 = age := by omega
    rw [Int.cast_natCast, ← congrArg (Nat.cast : ℕ → Signal) hdigits]
    simp only [ageCharacters, Matrix.cons_val_zero, Matrix.cons_val_one]
    push_cast
    ring

/-- **What is valid**: the date after which a document is not valid is after today. -/
theorem isValid_iff {c n : Fin 6 → ℤ} (hc : ∀ i, |c i| ≤ 255) (hn : ∀ i, |n i| ≤ 255) :
    IsValid (fun i => (c i : Signal)) (fun i => (n i : Signal) + 48) ↔
      (ofNumbers c).Comparable (ofNumbers n) ∧ (ofNumbers c).Before (ofNumbers n) := by
  have hsmall {m : Fin 6 → ℤ} (hm : ∀ i, |m i| ≤ 255) : (ofNumbers m).Small := by
    have h := ofNumbers_small hm (by simp : |(0 : ℤ)| ≤ 100)
    rwa [addYears, add_zero] at h
  have hless := @dateIsLess_iff _ _ (hsmall hc) (hsmall hn) 1
  -- the constraint asks for the result 1, and leaves no other
  have hone (P : Prop) [Decidable P] : (1 : Signal) = (if P then 1 else 0) ↔ P := by
    by_cases hP : P <;> simp [hP]
  rw [hone] at hless
  rw [← hless]
  unfold IsValid ofNumbers
  simp only [add_sub_cancel_right]
  push_cast
  rfl

end DateCircuits

end RuleSelf
