import Mathlib.Data.List.Induction
import Mathlib.Tactic.Ring

/-!
# Words, Addresses and Byte Strings

The fixed-width values an Ethereum contract computes on, and the byte strings it
exchanges with its callers: 256-bit words, 160-bit addresses, and lists of bytes
with the big-endian encoding of a word on 32 bytes and the little-endian
unpacking of a word into single bytes.
-/

namespace Evm

/-- A byte string: calldata, memory bytes, a packed encoding. -/
abbrev Bytes := List UInt8

/-- A 256-bit machine word (`uint256`, `bytes32`). -/
abbrev Word := BitVec 256

/-- A 160-bit account address. -/
abbrev Address := BitVec 160

/-! ## Big-endian numbers -/

/-- The number a byte string denotes, most significant byte first. -/
def beNat (bs : Bytes) : ℕ :=
  bs.foldl (fun acc b => acc * 256 + b.toNat) 0

/-- The `k` low bytes of a number, most significant byte first. -/
def beBytes : ℕ → ℕ → Bytes
  | 0, _ => []
  | k + 1, n => beBytes k (n / 256) ++ [UInt8.ofNat (n % 256)]

@[simp] theorem beNat_nil : beNat [] = 0 := rfl

@[simp] theorem beNat_append_singleton (bs : Bytes) (b : UInt8) :
    beNat (bs ++ [b]) = beNat bs * 256 + b.toNat := by
  simp [beNat]

@[simp] theorem beBytes_length (k n : ℕ) : (beBytes k n).length = k := by
  induction k generalizing n with
  | zero => rfl
  | succ k ih => simp [beBytes, ih]

/-- Reading back `k` written bytes gives the number modulo `256 ^ k`. -/
theorem beNat_beBytes (k n : ℕ) : beNat (beBytes k n) = n % 256 ^ k := by
  induction k generalizing n with
  | zero => simp [beBytes, Nat.mod_one]
  | succ k ih =>
    have hb : (UInt8.ofNat (n % 256)).toNat = n % 256 := by
      simp [UInt8.toNat_ofNat']
    -- the last byte is the remainder, the bytes in front denote the quotient
    rw [beBytes, beNat_append_singleton, ih, hb, pow_succ']
    rw [Nat.mod_mul]
    omega

/-! ## Words on 32 bytes -/

/-- `abi.encodePacked` of a word: its 32 bytes, most significant first. -/
def Word.toBytes (w : Word) : Bytes := beBytes 32 w.toNat

/-- The word 32 bytes denote (`bytes32(data[i:i+32])`). -/
def Word.ofBytes (bs : Bytes) : Word := BitVec.ofNat 256 (beNat bs)

@[simp] theorem Word.toBytes_length (w : Word) : (Word.toBytes w).length = 32 :=
  beBytes_length 32 _

/-- A word is read back from its 32 bytes. -/
@[simp] theorem Word.ofBytes_toBytes (w : Word) : Word.ofBytes (Word.toBytes w) = w := by
  have hw : w.toNat % 256 ^ 32 = w.toNat := Nat.mod_eq_of_lt (by have := w.isLt; omega)
  rw [Word.ofBytes, Word.toBytes, beNat_beBytes, hw, BitVec.ofNat_toNat, BitVec.setWidth_eq]

/-- Different words have different bytes. -/
theorem Word.toBytes_injective : Function.Injective Word.toBytes := by
  intro v w h
  have := congrArg Word.ofBytes h
  simpa using this

/-- The slice `data[start:stop]`. -/
def slice (data : Bytes) (start stop : ℕ) : Bytes := (data.drop start).take (stop - start)

theorem slice_length {data : Bytes} {start stop : ℕ} (h : stop ≤ data.length) :
    (slice data start stop).length = stop - start := by
  rw [slice, List.length_take, List.length_drop]
  omega

/-- A slice that starts behind a prefix of length `k`. -/
theorem slice_append {front data : Bytes} {k : ℕ} (hk : front.length = k) (start stop : ℕ) :
    slice (front ++ data) (k + start) (k + stop) = slice data start stop := by
  unfold slice
  rw [← List.drop_drop, List.drop_left' hk]
  congr 1
  omega

/-- The slice that is the prefix. -/
theorem slice_prefix {front data : Bytes} {k : ℕ} (hk : front.length = k) :
    slice (front ++ data) 0 k = front := by
  unfold slice
  exact List.take_left' hk

/-- The slice that is one of the parts a byte string was put together from. -/
theorem slice_part {front part rest : Bytes} {start stop : ℕ} (hstart : front.length = start)
    (hstop : start + part.length = stop) : slice (front ++ (part ++ rest)) start stop = part := by
  unfold slice
  rw [List.drop_left' hstart]
  exact List.take_left' (by omega)

/-- Consecutive slices put together are the slice they cover. -/
theorem slice_append_slice (data : Bytes) (i j k : ℕ) (hij : i ≤ j) (hjk : j ≤ k) :
    slice data i j ++ slice data j k = slice data i k := by
  have hj : data.drop j = (data.drop i).drop (j - i) := by
    rw [List.drop_drop]
    congr 1
    omega
  have hk : k - i = (j - i) + (k - j) := by omega
  unfold slice
  rw [hj, hk, List.take_add]

/-! ## Addresses inside words -/

/-- `uint256(uint160(a))`: the word an address is looked up under. -/
def Address.toWord (a : Address) : Word := a.setWidth 256

theorem Address.toWord_toNat (a : Address) : a.toWord.toNat = a.toNat := by
  have := a.isLt
  rw [Address.toWord, BitVec.toNat_setWidth, Nat.mod_eq_of_lt (by omega)]

theorem Address.toWord_injective : Function.Injective Address.toWord := by
  intro a b h
  apply BitVec.eq_of_toNat_eq
  rw [← Address.toWord_toNat a, ← Address.toWord_toNat b, h]

/-- The words that are addresses are those below `2 ^ 160`. -/
theorem Address.exists_toWord_eq (w : Word) :
    (∃ a : Address, a.toWord = w) ↔ w.toNat < 2 ^ 160 := by
  -- the address of a word below `2 ^ 160` is its low 160 bits
  constructor
  · rintro ⟨a, rfl⟩
    rw [Address.toWord_toNat]
    exact a.isLt
  · intro h
    refine ⟨BitVec.ofNat 160 w.toNat, BitVec.eq_of_toNat_eq ?_⟩
    rw [Address.toWord_toNat, BitVec.toNat_ofNat, Nat.mod_eq_of_lt h]

@[simp] theorem Address.toWord_zero : Address.toWord 0 = 0 := rfl

/-! ## Little-endian unpacking -/

/-- The `k` low bytes of a number, least significant byte first. -/
def leBytes : ℕ → ℕ → Bytes
  | 0, _ => []
  | k + 1, n => UInt8.ofNat (n % 256) :: leBytes k (n / 256)

/-- The number a byte string denotes, least significant byte first. -/
def leNat : Bytes → ℕ
  | [] => 0
  | b :: bs => b.toNat + 256 * leNat bs

@[simp] theorem leBytes_length (k n : ℕ) : (leBytes k n).length = k := by
  induction k generalizing n with
  | zero => rfl
  | succ k ih => simp [leBytes, ih]

/-- Unpacking a packed byte string gives the string back. -/
theorem leBytes_leNat (bs : Bytes) : leBytes bs.length (leNat bs) = bs := by
  induction bs with
  | nil => rfl
  | cons b bs ih =>
    have hb := b.toNat_lt
    have hmod : (b.toNat + 256 * leNat bs) % 256 = b.toNat := by omega
    have hdiv : (b.toNat + 256 * leNat bs) / 256 = leNat bs := by omega
    rw [List.length_cons, leNat, leBytes, hmod, hdiv, ih, UInt8.ofNat_toNat]

theorem leNat_lt (bs : Bytes) : leNat bs < 256 ^ bs.length := by
  induction bs with
  | nil => simp [leNat]
  | cons b bs ih =>
    have hb := b.toNat_lt
    rw [List.length_cons, leNat, pow_succ]
    omega

/-- Bytes packed into more room are unpacked with zeros behind them. -/
theorem leBytes_leNat_of_le {bs : Bytes} {k : ℕ} (h : bs.length ≤ k) :
    leBytes k (leNat bs) = bs ++ List.replicate (k - bs.length) 0 := by
  induction bs generalizing k with
  | nil =>
    rw [List.length_nil, Nat.sub_zero, List.nil_append]
    clear h
    induction k with
    | zero => rfl
    | succ k ih => rw [leNat] at ih ⊢; rw [leBytes, Nat.zero_div, ih]; rfl
  | cons b bs ih =>
    obtain ⟨k, rfl⟩ : ∃ m, k = m + 1 := ⟨k - 1, by rw [List.length_cons] at h; omega⟩
    rw [List.length_cons, Nat.add_le_add_iff_right] at h
    -- one byte is written, the rest of the number goes on to the next
    have hb := b.toNat_lt
    have hmod : (b.toNat + 256 * leNat bs) % 256 = b.toNat := by omega
    have hdiv : (b.toNat + 256 * leNat bs) / 256 = leNat bs := by omega
    rw [leNat, leBytes, hmod, hdiv, ih h, UInt8.ofNat_toNat, List.length_cons,
      Nat.add_sub_add_right]
    rfl

theorem leNat_append (bs bs' : Bytes) :
    leNat (bs ++ bs') = leNat bs + 256 ^ bs.length * leNat bs' := by
  induction bs with
  | nil => simp [leNat]
  | cons b bs ih =>
    rw [List.cons_append, leNat, leNat, ih, List.length_cons, pow_succ]
    ring

theorem leNat_replicate_zero (n : ℕ) : leNat (List.replicate n 0) = 0 := by
  induction n with
  | zero => rfl
  | succ n ih => rw [List.replicate_succ, leNat, ih]; rfl

/-- Unpacking the chunks of a byte string gives the string back, with zeros behind it. -/
theorem flatMap_leBytes_slice (bs : Bytes) (width n : ℕ) (h : bs.length ≤ width * n) :
    (List.range n).flatMap (fun i =>
      leBytes width (leNat (slice bs (width * i) (width * i + width)))) =
      bs ++ List.replicate (width * n - bs.length) 0 := by
  induction n generalizing bs with
  | zero =>
    obtain rfl : bs = [] := List.length_eq_zero_iff.mp (by omega)
    rfl
  | succ n ih =>
    -- the slices behind the first are those of the list without it
    have hlater (i : ℕ) : slice bs (width * (i + 1)) (width * (i + 1) + width) =
        slice (bs.drop width) (width * i) (width * i + width) := by
      rw [slice, slice, List.drop_drop, Nat.add_sub_cancel_left, Nat.add_sub_cancel_left,
        mul_add, mul_one, Nat.add_comm width]
    have hfirst : slice bs (width * 0) (width * 0 + width) = bs.take width := by
      simp [slice]
    have hrest : (bs.drop width).length ≤ width * n := by
      rw [List.length_drop]
      rw [mul_add, mul_one] at h
      omega
    rw [List.range_succ_eq_map, List.flatMap_cons, List.flatMap_map, hfirst]
    simp only [hlater]
    rw [ih _ hrest, leBytes_leNat_of_le (List.length_take_le ..), List.length_take,
      List.length_drop, mul_add, mul_one]
    -- a list shorter than one slice is padded, and nothing is left for the others
    rcases Nat.lt_or_ge bs.length width with hlt | hge
    · rw [List.take_of_length_le hlt.le, List.drop_of_length_le hlt.le, List.nil_append,
        List.append_assoc, List.replicate_append_replicate]
      congr 2
      omega
    · rw [Nat.min_eq_left hge, Nat.sub_self, List.replicate_zero, List.append_nil,
        ← List.append_assoc, List.take_append_drop]
      congr 2
      omega
end Evm
