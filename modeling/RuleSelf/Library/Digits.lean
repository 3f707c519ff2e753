import Mathlib.Data.Nat.Digits.Lemmas
import RuleSelf.Library.Words

/-!
# Digits and Bytes of Numbers

Numbers as hexadecimal strings, with the strings of bytes among them, and the single bytes
of a machine word, which masks and shifts move about.
-/

namespace Evm

/-! ## Padding -/

/-- A list, filled up behind to a length. -/
def padEnd {α : Type} (s : List α) (length : ℕ) (filler : α) : List α :=
  s ++ List.replicate (length - s.length) filler

/-- A list, filled up in front to a length. -/
def padStart {α : Type} (s : List α) (length : ℕ) (filler : α) : List α :=
  List.replicate (length - s.length) filler ++ s

/-! ## Hexadecimal strings -/

/-- A hexadecimal string: the digits behind `0x`. -/
abbrev Hex := List ℕ

/-- The digits of a number, without leading zeros. -/
def toHex (n : ℕ) : Hex := if n = 0 then [0] else (Nat.digits 16 n).reverse

/-- The number a hexadecimal string denotes. -/
def hexValue (digits : Hex) : ℕ := Nat.ofDigits 16 digits.reverse

/-- The pairs of digits; a last single digit is dropped. -/
def pairs : Hex → List Hex
  | a :: b :: rest => [a, b] :: pairs rest
  | _ => []

theorem padStart_length {α : Type} {s : List α} {length : ℕ} {filler : α} (h : s.length ≤ length) :
    (padStart s length filler).length = length := by
  rw [padStart, List.length_append, List.length_replicate]
  omega

theorem hexValue_toHex (n : ℕ) : hexValue (toHex n) = n := by
  unfold toHex hexValue
  split
  · rename_i h
    rw [h]
    rfl
  · rw [List.reverse_reverse, Nat.ofDigits_digits]

theorem hexValue_padStart (s : Hex) (length : ℕ) : hexValue (padStart s length 0) = hexValue s := by
  rw [hexValue, padStart, List.reverse_append, List.reverse_replicate, Nat.ofDigits_append,
    Nat.ofDigits_replicate_zero, mul_zero, add_zero, hexValue]

theorem hexValue_append_pair (s : Hex) (a b : ℕ) :
    hexValue (s ++ [a, b]) = b + 16 * a + 256 * hexValue s := by
  rw [hexValue, List.reverse_append, List.reverse_cons, List.reverse_singleton,
    List.singleton_append, List.cons_append, List.singleton_append, Nat.ofDigits_cons,
    Nat.ofDigits_cons, hexValue]
  ring

theorem toHex_lt {n digit : ℕ} (h : digit ∈ toHex n) : digit < 16 := by
  unfold toHex at h
  split at h
  · rw [List.mem_singleton.mp h]
    decide
  · exact Nat.digits_lt_base (by decide) (List.mem_reverse.mp h)

theorem toHex_length_le {n k : ℕ} (hk : 0 < k) (h : n < 16 ^ k) : (toHex n).length ≤ k := by
  unfold toHex
  split
  · exact hk
  · rw [List.length_reverse]
    exact (Nat.digits_length_le_iff (by decide) n).mpr h

/-- Digits are determined by the number they denote. -/
theorem hex_ext {s t : Hex} (hlen : s.length = t.length) (hs : ∀ digit ∈ s, digit < 16)
    (ht : ∀ digit ∈ t, digit < 16) (h : hexValue s = hexValue t) : s = t := by
  have hrev := Nat.ofDigits_inj_of_len_eq (b := 16) (by decide)
    (by rw [List.length_reverse, List.length_reverse, hlen])
    (fun digit hdigit => hs digit (List.mem_reverse.mp hdigit))
    (fun digit hdigit => ht digit (List.mem_reverse.mp hdigit)) h
  exact List.reverse_injective hrev

/-- A word as 64 hexadecimal digits. -/
def hexWord (n : ℕ) : Hex := padStart (toHex n) 64 0

theorem hexValue_hexWord (n : ℕ) : hexValue (hexWord n) = n := by
  rw [hexWord, hexValue_padStart, hexValue_toHex]

theorem hexWord_zero : hexWord 0 = List.replicate 64 0 := rfl

theorem padStart_eq_hexWord {s : Hex} (hlen : s.length ≤ 64) (hs : ∀ digit ∈ s, digit < 16) :
    padStart s 64 0 = hexWord (hexValue s) := by
  have hfit : hexValue s < 16 ^ 64 := by
    have hlt : hexValue s < 16 ^ s.reverse.length :=
      Nat.ofDigits_lt_base_pow_length (by decide) fun x hx => hs x (List.mem_reverse.mp hx)
    rw [List.length_reverse] at hlt
    exact hlt.trans_le (Nat.pow_le_pow_right (by decide) hlen)
  -- two digit strings of one length and one value are equal
  refine hex_ext ?_ ?_ ?_ ?_
  · rw [hexWord, padStart_length hlen, padStart_length (toHex_length_le (by decide) hfit)]
  · intro digit hdigit
    rcases List.mem_append.mp hdigit with hzero | hmem
    · rw [List.eq_of_mem_replicate hzero]
      decide
    · exact hs digit hmem
  · intro digit hdigit
    rcases List.mem_append.mp hdigit with hzero | hmem
    · rw [List.eq_of_mem_replicate hzero]
      decide
    · exact toHex_lt hmem
  · rw [hexValue_hexWord, hexValue_padStart]

/-! ## Bytes in hexadecimal -/

/-- The two digits of a byte. -/
def bytePair (b : UInt8) : Hex := [b.toNat / 16, b.toNat % 16]

/-- Bytes as hexadecimal digits, the last byte in front. -/
def hexOfBytes (bs : Bytes) : Hex := (bs.map bytePair).reverse.flatten

theorem padStart_toHex_byte (b : UInt8) : padStart (toHex b.toNat) 2 0 = bytePair b := by
  have hb := b.toNat_lt
  -- again by length and value; the second digit string is never shorter than two
  refine hex_ext ?_ ?_ ?_ ?_
  · rw [padStart_length (toHex_length_le (by decide) (by omega))]
    rfl
  · intro digit hdigit
    rcases List.mem_append.mp hdigit with hzero | hmem
    · rw [List.eq_of_mem_replicate hzero]
      decide
    · exact toHex_lt hmem
  · intro digit hdigit
    simp only [bytePair, List.mem_cons, List.not_mem_nil, or_false] at hdigit
    omega
  · rw [hexValue_padStart, hexValue_toHex]
    have hpair := hexValue_append_pair [] (b.toNat / 16) (b.toNat % 16)
    have hnil : hexValue [] = 0 := rfl
    rw [List.nil_append, hnil] at hpair
    rw [bytePair, hpair]
    omega

theorem hexOfBytes_cons (b : UInt8) (bs : Bytes) :
    hexOfBytes (b :: bs) = hexOfBytes bs ++ bytePair b := by
  simp [hexOfBytes]

theorem hexOfBytes_append (bs bs' : Bytes) :
    hexOfBytes (bs ++ bs') = hexOfBytes bs' ++ hexOfBytes bs := by
  simp [hexOfBytes]

theorem hexOfBytes_length (bs : Bytes) : (hexOfBytes bs).length = 2 * bs.length := by
  induction bs with
  | nil => rfl
  | cons b bs ih =>
    rw [hexOfBytes_cons, List.length_append, ih, List.length_cons]
    rfl

theorem hexOfBytes_lt {bs : Bytes} {digit : ℕ} (h : digit ∈ hexOfBytes bs) : digit < 16 := by
  induction bs with
  | nil => simp [hexOfBytes] at h
  | cons b bs ih =>
    have hb := b.toNat_lt
    rw [hexOfBytes_cons, List.mem_append] at h
    rcases h with h | h
    · exact ih h
    · simp only [bytePair, List.mem_cons, List.not_mem_nil, or_false] at h
      omega

theorem hexValue_hexOfBytes (bs : Bytes) : hexValue (hexOfBytes bs) = leNat bs := by
  induction bs with
  | nil => rfl
  | cons b bs ih =>
    rw [hexOfBytes_cons, bytePair, hexValue_append_pair, ih, leNat]
    omega

theorem pairs_flatMap_bytePair (bs : Bytes) : pairs (bs.flatMap bytePair) = bs.map bytePair := by
  induction bs with
  | nil => rfl
  | cons b bs ih => 
    rw [List.flatMap_cons, List.map_cons, ← ih]
    rfl

/-! ## Bytes of a word -/

/-- The byte at a place of a packed string. -/
theorem byte_leNat (bs : Bytes) (k : ℕ) :
    UInt8.ofNat (leNat bs / 256 ^ k % 256) = bs.getD k 0 := by
  induction bs generalizing k with
  | nil => simp [leNat]
  | cons b bs ih =>
    have hb := b.toNat_lt
    have hmod : (b.toNat + 256 * leNat bs) % 256 = b.toNat := by omega
    have hdiv : (b.toNat + 256 * leNat bs) / 256 = leNat bs := by omega
    -- the byte in front is the remainder by 256, the others are those of the quotient
    cases k with
    | zero => rw [leNat, pow_zero, Nat.div_one, hmod, UInt8.ofNat_toNat, List.getD_cons_zero]
    | succ k => rw [leNat, pow_succ', ← Nat.div_div_eq_div_mul, hdiv, ih, List.getD_cons_succ]

/-- A byte of a word, counted from the lowest. -/
def byteAt (x : Word) (k : ℕ) : UInt8 := UInt8.ofNat (x.toNat / 256 ^ k % 256)

theorem testBit_byte (n k i : ℕ) :
    (n / 256 ^ k % 256).testBit i = (decide (i < 8) && n.testBit (k * 8 + i)) := by
  have hpow : 256 ^ k = 2 ^ (k * 8) := (pow_mul' 2 k 8).symm
  have hmod : n / 2 ^ (k * 8) % 256 = n / 2 ^ (k * 8) % 2 ^ 8 := rfl
  rw [hpow, hmod, Nat.testBit_mod_two_pow, Nat.testBit_div_two_pow, Nat.add_comm]

theorem byteAt_congr {x y : Word} {k m : ℕ}
    (h : ∀ i < 8, x.getLsbD (k * 8 + i) = y.getLsbD (m * 8 + i)) : byteAt x k = byteAt y m := by
  unfold byteAt
  refine congrArg UInt8.ofNat (Nat.eq_of_testBit_eq fun i => ?_)
  rw [testBit_byte, testBit_byte, BitVec.testBit_toNat, BitVec.testBit_toNat]
  by_cases hi : i < 8
  · rw [h i hi]
  · rw [decide_eq_false hi, Bool.false_and, Bool.false_and]

/-- The bits of a mask. -/
theorem getLsbD_mask (width start : ℕ) (h : start + width ≤ 256) (i : ℕ) :
    (BitVec.ofNat 256 ((2 ^ width - 1) <<< start)).getLsbD i =
      decide (start ≤ i ∧ i < start + width) := by
  rw [BitVec.getLsbD_ofNat, Nat.testBit_shiftLeft, Nat.testBit_two_pow_sub_one,
    Bool.eq_iff_iff]
  simp only [Bool.and_eq_true, decide_eq_true_eq]
  omega

theorem getLsbD_0xffffff (i : ℕ) : (0xFFFFFF : Word).getLsbD i = decide (0 ≤ i ∧ i < 24) :=
  getLsbD_mask 24 0 (by decide) i

theorem getLsbD_0xffff (i : ℕ) : (0xffff : Word).getLsbD i = decide (0 ≤ i ∧ i < 16) :=
  getLsbD_mask 16 0 (by decide) i

theorem getLsbD_0xff (i : ℕ) : (0xff : Word).getLsbD i = decide (0 ≤ i ∧ i < 8) :=
  getLsbD_mask 8 0 (by decide) i

theorem getLsbD_0xff00 (i : ℕ) : (0xff00 : Word).getLsbD i = decide (8 ≤ i ∧ i < 16) :=
  getLsbD_mask 8 8 (by decide) i

theorem getLsbD_0xff0000 (i : ℕ) : (0xff0000 : Word).getLsbD i = decide (16 ≤ i ∧ i < 24) :=
  getLsbD_mask 8 16 (by decide) i

end Evm
