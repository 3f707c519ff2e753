import Mathlib.Algebra.BigOperators.Fin
import Mathlib.Algebra.Field.ZMod
import Mathlib.Data.ZMod.Basic
import Mathlib.Tactic.Positivity
import Mathlib.Tactic.Ring
import Mathlib.Tactic.Zify

/-!
# Circuits

The comparators arithmetic circuits are built from, as the relations their constraints
impose on signals of a prime field. What they say is stated for integers: a subtraction
in a circuit may go below zero, and where the numbers are small the field does not notice.
-/

namespace Circuit

/-! ## Lengths

The lengths of arrays of signals, for modules that index them by numerals. -/

theorem neZero_two : NeZero 2 := ⟨by decide⟩

theorem neZero_three : NeZero 3 := ⟨by decide⟩

theorem neZero_four : NeZero 4 := ⟨by decide⟩

theorem neZero_six : NeZero 6 := ⟨by decide⟩

variable {p : ℕ} [Fact p.Prime]

/-! ## Bits -/

/-- `b * (b - 1) === 0` -/
def IsBit (b : ZMod p) : Prop := b * (b - 1) = 0

theorem isBit_iff {b : ZMod p} : IsBit b ↔ b = 0 ∨ b = 1 := by
  rw [IsBit, mul_eq_zero, sub_eq_zero]

/-- The signal of a bit. -/
def ofBool (b : Bool) : ZMod p := if b then 1 else 0

theorem isBit_ofBool (b : Bool) : IsBit (ofBool b : ZMod p) := by
  rw [isBit_iff]
  cases b <;> simp [ofBool]

theorem IsBit.exists_ofBool {b : ZMod p} (h : IsBit b) : ∃ c, b = ofBool c := by
  rcases isBit_iff.mp h with rfl | rfl
  · exact ⟨false, rfl⟩
  · exact ⟨true, rfl⟩

/-- `Num2Bits(n)`: the bits of a number, lowest first. -/
structure Num2Bits (n : ℕ) (x : ZMod p) (out : Fin n → ZMod p) : Prop where
  isBit : ∀ i, IsBit (out i)
  sum : ∑ i, out i * 2 ^ (i : ℕ) = x

theorem cast_ofBits {n : ℕ} (bits : Fin n → Bool) :
    ((Nat.ofBits bits : ℕ) : ZMod p) = ∑ i, ofBool (bits i) * 2 ^ (i : ℕ) := by
  induction n with
  | zero => simp
  | succ n ih =>
    have hrest := ih (bits ∘ Fin.succ)
    rw [Nat.ofBits_succ, Fin.sum_univ_succ, Nat.cast_add, Nat.cast_mul, hrest, Finset.mul_sum]
    -- the bits behind the lowest one count twice as much as by themselves
    have hshift : ∑ i : Fin n, ((2 : ℕ) : ZMod p) * (ofBool (bits i.succ) * 2 ^ (i : ℕ)) =
        ∑ i : Fin n, ofBool (bits i.succ) * 2 ^ ((i : ℕ) + 1) := by
      refine Finset.sum_congr rfl fun i _ => ?_
      push_cast
      ring
    have hlowest : (((bits 0).toNat : ℕ) : ZMod p) = ofBool (bits 0) := by
      cases bits 0 <;> simp [ofBool]
    simp only [Function.comp_apply, Fin.val_succ, Fin.val_zero, pow_zero, mul_one]
    rw [hshift, hlowest, add_comm]

/-- A signal has bits when it is the number they are the bits of. -/
theorem num2Bits_iff {n : ℕ} {x : ZMod p} {out : Fin n → ZMod p} :
    Num2Bits n x out ↔
      ∃ bits : Fin n → Bool, (out = fun i => ofBool (bits i)) ∧ x = (Nat.ofBits bits : ℕ) := by
  constructor
  · rintro ⟨hbits, hsum⟩
    choose bits hout using fun i => (hbits i).exists_ofBool
    refine ⟨bits, funext hout, ?_⟩
    rw [cast_ofBits, ← hsum]
    simp [hout]
  · rintro ⟨bits, rfl, rfl⟩
    exact ⟨fun i => isBit_ofBool _, (cast_ofBits bits).symm⟩

/-- A signal with `n` bits is a number of `n` bits. -/
theorem exists_num2Bits_iff {n : ℕ} {x : ZMod p} :
    (∃ out, Num2Bits n x out) ↔ ∃ t < 2 ^ n, x = ((t : ℕ) : ZMod p) := by
  constructor
  · rintro ⟨out, h⟩
    obtain ⟨bits, -, rfl⟩ := num2Bits_iff.mp h
    exact ⟨_, Nat.ofBits_lt_two_pow bits, rfl⟩
  · rintro ⟨t, ht, rfl⟩
    refine ⟨_, num2Bits_iff.mpr ⟨fun i => t.testBit i, rfl, ?_⟩⟩
    rw [Nat.ofBits_testBit, Nat.mod_eq_of_lt ht]

/-! ## Comparators -/

/-- `IsEqual`: the inverse of the difference is a hint. -/
def IsEqual (a b out : ZMod p) : Prop :=
  ∃ inv, out = -(b - a) * inv + 1 ∧ (b - a) * out = 0

/-- `LessThan(n)` -/
def LessThan (n : ℕ) (a b out : ZMod p) : Prop :=
  ∃ bits, Num2Bits (n + 1) (a + 2 ^ n - b) bits ∧ out = 1 - bits (Fin.last n)

/-- `GreaterThan(n)` -/
def GreaterThan (n : ℕ) (a b out : ZMod p) : Prop := LessThan n b a out

theorem isEqual_iff {a b out : ZMod p} : IsEqual a b out ↔ out = if a = b then 1 else 0 := by
  unfold IsEqual
  by_cases h : a = b
  · subst h
    simp
  · -- the inverse is a witness of the prover; it exists exactly when the difference is not 0
    have hne : b - a ≠ 0 := sub_ne_zero.mpr (Ne.symm h)
    rw [if_neg h]
    constructor
    · rintro ⟨_, -, hzero⟩
      exact (mul_eq_zero.mp hzero).resolve_left hne
    · rintro rfl
      exact ⟨(b - a)⁻¹, by rw [neg_mul, mul_inv_cancel₀ hne, neg_add_cancel], mul_zero _⟩

/-- The comparison looks at the highest bit of the difference. -/
theorem lessThan_iff {n : ℕ} {a b out : ZMod p} :
    LessThan n a b out ↔
      ∃ t < 2 ^ (n + 1), a + 2 ^ n - b = ((t : ℕ) : ZMod p) ∧
        out = if t < 2 ^ n then 1 else 0 := by
  -- the highest bit of a number of `n + 1` bits
  have hlast (t : ℕ) (ht : t < 2 ^ (n + 1)) :
      1 - ofBool (t.testBit n) = (if t < 2 ^ n then 1 else 0 : ZMod p) := by
    by_cases hlt : t < 2 ^ n
    · simp [Nat.testBit_lt_two_pow hlt, ofBool, hlt]
    · have hbit : t.testBit n = true := by
        rw [Nat.testBit_eq_decide_div_mod_eq, decide_eq_true_eq]
        rw [pow_succ] at ht
        have hdiv : t / 2 ^ n = 1 := Nat.div_eq_of_lt_le (by omega) (by omega)
        rw [hdiv]
      simp [hbit, ofBool, hlt]
  unfold LessThan
  simp only [num2Bits_iff]
  constructor
  · -- from the bits the number they denote, and back
    rintro ⟨_, ⟨bits, rfl, hsum⟩, rfl⟩
    have ht := Nat.ofBits_lt_two_pow bits
    refine ⟨Nat.ofBits bits, ht, hsum, ?_⟩
    rw [← hlast _ ht, Nat.testBit_ofBits_lt bits n (by omega)]
    rfl
  · rintro ⟨t, ht, hsum, rfl⟩
    refine ⟨_, ⟨fun i => t.testBit i, rfl, ?_⟩, ?_⟩
    · rw [hsum, Nat.ofBits_testBit, Nat.mod_eq_of_lt ht]
    · exact (hlast t ht).symm

theorem LessThan.isBit {n : ℕ} {a b out : ZMod p} (h : LessThan n a b out) : IsBit out := by
  obtain ⟨t, -, -, rfl⟩ := lessThan_iff.mp h
  rw [isBit_iff]
  split
  · exact .inr rfl
  · exact .inl rfl

/-- A product with a bit is 1 when both factors are. -/
theorem IsBit.mul_eq_one {a : ZMod p} (ha : IsBit a) (b : ZMod p) :
    a * b = 1 ↔ a = 1 ∧ b = 1 := by
  rcases isBit_iff.mp ha with rfl | rfl
  · simp
  · simp

theorem IsBit.mul {a b : ZMod p} (ha : IsBit a) (hb : IsBit b) : IsBit (a * b) := by
  rcases isBit_iff.mp ha with rfl | rfl
  · rw [zero_mul]
    exact ha
  · rwa [one_mul]

/-! ## Small integers -/

/-- Integers that differ by less than the order of the field are the same signal only when
they are equal. -/
theorem intCast_inj {a b : ℤ} (h : |a - b| < p) : (a : ZMod p) = (b : ZMod p) ↔ a = b := by
  constructor
  · intro heq
    rw [ZMod.intCast_eq_intCast_iff_dvd_sub, ← dvd_neg, neg_sub] at heq
    have := Int.eq_zero_of_abs_lt_dvd heq h
    omega
  · rintro rfl
    rfl

theorem isEqual_intCast {a b : ℤ} (h : |a - b| < p) {out : ZMod p} :
    IsEqual (a : ZMod p) (b : ZMod p) out ↔ out = if a = b then 1 else 0 := by
  rw [isEqual_iff]
  simp only [intCast_inj h]

/-- Small integers are compared when their difference fits; then their order decides. -/
theorem lessThan_intCast {n : ℕ} {a b : ℤ} (h : |a - b| + 2 ^ n < p) {out : ZMod p} :
    LessThan n (a : ZMod p) (b : ZMod p) out ↔
      (-2 ^ n ≤ a - b ∧ a - b < 2 ^ n) ∧ out = if a < b then 1 else 0 := by
  -- within the bound the field equation is one of integers: nothing wraps around
  have hdifference (t : ℕ) (ht : t < 2 ^ (n + 1)) :
      (a : ZMod p) + 2 ^ n - b = ((t : ℕ) : ZMod p) ↔ a + 2 ^ n - b = t := by
    have hlt : |a + 2 ^ n - b - t| < p := by
      rw [abs_lt]
      have habs := abs_lt.mp (show |a - b| < p - 2 ^ n by omega)
      have ht' : (t : ℤ) < 2 ^ n + 2 ^ n := by
        have := ht
        rw [pow_succ] at this
        zify at this
        omega
      omega
    rw [← intCast_inj hlt]
    push_cast
    rfl
  rw [lessThan_iff]
  constructor
  · rintro ⟨t, ht, heq, rfl⟩
    rw [hdifference t ht] at heq
    rw [pow_succ] at ht
    zify at ht
    refine ⟨by omega, if_congr ?_ rfl rfl⟩
    zify
    omega
  · rintro ⟨⟨hlow, hhigh⟩, rfl⟩
    obtain ⟨t, ht⟩ := Int.eq_ofNat_of_zero_le (show 0 ≤ a + 2 ^ n - b by omega)
    have hlt : t < 2 ^ (n + 1) := by
      rw [pow_succ]
      zify
      omega
    refine ⟨t, hlt, (hdifference t hlt).mpr ht, if_congr ?_ rfl rfl⟩
    zify
    omega

/-- What is compared with a number is near to it. -/
theorem LessThan.exists_left {n : ℕ} {x : ZMod p} {b : ℤ} {out : ZMod p}
    (h : LessThan n x (b : ZMod p) out) :
    ∃ a : ℤ, x = (a : ZMod p) ∧ -2 ^ n ≤ a - b ∧ a - b < 2 ^ n := by
  obtain ⟨t, ht, heq, -⟩ := lessThan_iff.mp h
  rw [pow_succ] at ht
  zify at ht
  refine ⟨b + t - 2 ^ n, ?_, by omega, by omega⟩
  push_cast
  rw [← heq]
  ring

end Circuit
