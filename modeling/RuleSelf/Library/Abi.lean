import Mathlib.Data.Fin.VecNotation
import RuleSelf.Library.Words

/-!
# The Contract ABI

Encoding and decoding of contract data. A tuple is laid out as a *head* and a
*tail*: a static component stands in the head, a dynamic one leaves its offset in
the head and its contents in the tail. Decoders read the head at a position,
follow offsets relative to the start of the enclosing tuple, and ignore whatever
bytes they are not led to.

A `Codec` is an encoder with a decoder that provably reads back what the encoder
wrote, wherever in a larger byte string it was written. Codecs are built from
`word`, `bool` and `bytes` by `pair`, `vector`, `array`, `dynamic` and `map`, so
the round trip of a struct comes with its layout.
-/

namespace Abi

open Evm

/-! ## Byte strings inside byte strings -/

/-- `part` stands in `data` from byte `pos` on. -/
def At (data : Bytes) (pos : ℕ) (part : Bytes) : Prop :=
  pos ≤ data.length ∧ part <+: data.drop pos

variable {data a b part : Bytes} {pos : ℕ}

theorem At.left (h : At data pos (a ++ b)) : At data pos a :=
  ⟨h.1, (List.prefix_append a b).trans h.2⟩

theorem At.length_le (h : At data pos part) : pos + part.length ≤ data.length := by
  have hle := h.2.length_le
  have hpos := h.1
  rw [List.length_drop] at hle
  omega

theorem At.right (h : At data pos (a ++ b)) : At data (pos + a.length) b := by
  refine ⟨h.left.length_le, ?_⟩
  -- the data from `pos` on is `a`, then `b`, then the rest
  obtain ⟨rest, hrest⟩ := h.2
  refine ⟨rest, ?_⟩
  rw [← List.drop_drop, ← hrest, List.append_assoc, List.drop_left]

theorem At.take (h : At data pos part) : (data.drop pos).take part.length = part :=
  (List.prefix_iff_eq_take.mp h.2).symm

theorem At.of_append (part rest : Bytes) : At (part ++ rest) 0 part :=
  ⟨Nat.zero_le _, by simp⟩

/-! ## Reading words -/

/-- The word at a position, if the data reaches that far. -/
def wordAt (data : Bytes) (pos : ℕ) : Option Word :=
  if pos + 32 ≤ data.length then some (Word.ofBytes ((data.drop pos).take 32)) else none

/-- An offset or a length: a word the decoder accepts only below `2 ^ 64`. -/
def sizeAt (data : Bytes) (pos : ℕ) : Option ℕ :=
  (wordAt data pos).bind fun w => if w.toNat < 2 ^ 64 then some w.toNat else none

theorem wordAt_of_at {w : Word} (h : At data pos w.toBytes) : wordAt data pos = some w := by
  have hlen := h.length_le
  have htake := h.take
  rw [Word.toBytes_length] at hlen htake
  rw [wordAt, if_pos hlen, htake, Word.ofBytes_toBytes]

theorem sizeAt_of_at {n : ℕ} (h : At data pos (Word.toBytes (BitVec.ofNat 256 n)))
    (hn : n < 2 ^ 64) : sizeAt data pos = some n := by
  have hmod : n % 2 ^ 256 = n := Nat.mod_eq_of_lt (by omega)
  rw [sizeAt, wordAt_of_at h, Option.bind_some, BitVec.toNat_ofNat, hmod, if_pos hn]

/-! ## Codecs -/

/-- How one component of a tuple is written and read. `head off x` is what `x`
leaves in the head when its tail starts `off` bytes after the start of the tuple;
`decode data base pos` reads a component whose head is at `pos`, in a tuple that
starts at `base`. -/
structure Codec (α : Type) where
  headSize : ℕ
  head : ℕ → α → Bytes
  tail : α → Bytes
  decode : Bytes → ℕ → ℕ → Option α
  head_length : ∀ off x, (head off x).length = headSize
  /-- What was written, anywhere, is read back. -/
  decode_at : ∀ {data base pos off x}, data.length < 2 ^ 64 → At data pos (head off x) →
    At data (base + off) (tail x) → decode data base pos = some x

namespace Codec

variable {α β : Type}

/-- `uint256`, `bytes32`: one word in the head. -/
def word : Codec Word where
  headSize := 32
  head _ w := w.toBytes
  tail _ := []
  decode data _ pos := wordAt data pos
  head_length _ w := w.toBytes_length
  decode_at _ hhead _ := wordAt_of_at hhead

/-- `bool`: a word that is 0 or 1; any other word is rejected. -/
def bool : Codec Bool where
  headSize := 32
  head _ b := Word.toBytes (if b then 1 else 0)
  tail _ := []
  decode data _ pos :=
    (wordAt data pos).bind fun w =>
      if w = 0 then some false else if w = 1 then some true else none
  head_length _ _ := Word.toBytes_length _
  decode_at {_ _ _ _ b} _ hhead _ := by
    rw [wordAt_of_at hhead]
    cases b <;> simp

/-- Two components of a tuple, in order. -/
def pair (c : Codec α) (d : Codec β) : Codec (α × β) where
  headSize := c.headSize + d.headSize
  head off p := c.head off p.1 ++ d.head (off + (c.tail p.1).length) p.2
  tail p := c.tail p.1 ++ d.tail p.2
  decode data base pos :=
    (c.decode data base pos).bind fun x =>
      (d.decode data base (pos + c.headSize)).map fun y => (x, y)
  head_length off p := by simp [c.head_length, d.head_length]
  decode_at {data base pos off p} hdata hhead htail := by
    -- the head and the tail of the second component follow those of the first
    have hx := c.decode_at hdata hhead.left htail.left
    have hright := hhead.right
    rw [c.head_length] at hright
    have htail' := htail.right
    rw [Nat.add_assoc] at htail'
    have hy := d.decode_at hdata hright htail'
    rw [hx, Option.bind_some, hy, Option.map_some]

/-- A component read into, and written from, another type. -/
def map (c : Codec α) (f : α → β) (g : β → α) (hfg : ∀ y, f (g y) = y) : Codec β where
  headSize := c.headSize
  head off y := c.head off (g y)
  tail y := c.tail (g y)
  decode data base pos := (c.decode data base pos).map f
  head_length off y := c.head_length off (g y)
  decode_at hdata hhead htail := by
    rw [c.decode_at hdata hhead htail, Option.map_some, hfg]

/-- `T[n]` for a static `T`: the elements one after the other. -/
def vector (c : Codec α) : (n : ℕ) → Codec (Fin n → α)
  | 0 =>
    { headSize := 0
      head := fun _ _ => []
      tail := fun _ => []
      decode := fun _ _ _ => some ![]
      head_length := fun _ _ => rfl
      decode_at := fun _ _ _ => congrArg some (Subsingleton.elim _ _) }
  | n + 1 =>
    (c.pair (vector c n)).map (fun p => Matrix.vecCons p.1 p.2)
      (fun v => (Matrix.vecHead v, Matrix.vecTail v)) Matrix.cons_head_tail

/-- A dynamic tuple: its offset in the head, its own head and tail in the tail. -/
def dynamic (c : Codec α) : Codec α where
  headSize := 32
  head off _ := Word.toBytes (BitVec.ofNat 256 off)
  tail x := c.head c.headSize x ++ c.tail x
  decode data base pos :=
    -- the offsets inside the tuple count from where the tuple starts
    (sizeAt data pos).bind fun off => c.decode data (base + off) (base + off)
  head_length _ _ := Word.toBytes_length _
  decode_at {data base pos off x} hdata hhead htail := by
    have hoff : off < 2 ^ 64 := by have := htail.length_le; omega
    have htail' := htail.right
    rw [c.head_length] at htail'
    rw [sizeAt_of_at hhead hoff, Option.bind_some]
    exact c.decode_at hdata htail.left htail'

/-- Zero bytes up to the next multiple of 32. -/
def padding (n : ℕ) : Bytes := List.replicate ((32 - n % 32) % 32) 0

theorem padding_length_lt (n : ℕ) : (padding n).length < 32 := by
  rw [padding, List.length_replicate]
  omega

/-- `bytes`, `string`: the length and the zero-padded contents in the tail. The
decoder does not look at the padding. -/
def bytes : Codec Bytes where
  headSize := 32
  head off _ := Word.toBytes (BitVec.ofNat 256 off)
  tail bs := Word.toBytes (BitVec.ofNat 256 bs.length) ++ (bs ++ padding bs.length)
  decode data base pos :=
    (sizeAt data pos).bind fun off => (sizeAt data (base + off)).bind fun len =>
      if base + off + 32 + len ≤ data.length then
        some ((data.drop (base + off + 32)).take len)
      else none
  head_length _ _ := Word.toBytes_length _
  decode_at {data base pos off bs} hdata hhead htail := by
    -- behind the length word stand the contents, and the padding is not read
    have hcontents := htail.right.left
    rw [Word.toBytes_length] at hcontents
    have hlen := hcontents.length_le
    have hsize := sizeAt_of_at htail.left (by omega)
    rw [sizeAt_of_at hhead (by omega), Option.bind_some, hsize, Option.bind_some,
      if_pos hlen, hcontents.take]

/-! ### Dynamic arrays -/

/-- The heads of consecutive components. -/
def headList (c : Codec α) : ℕ → List α → Bytes
  | _, [] => []
  | off, x :: xs => c.head off x ++ headList c (off + (c.tail x).length) xs

/-- The tails of consecutive components. -/
def tailList (c : Codec α) (xs : List α) : Bytes := xs.flatMap c.tail

/-- Read `k` consecutive components. -/
def decodeList (c : Codec α) : ℕ → Bytes → ℕ → ℕ → Option (List α)
  | 0, _, _, _ => some []
  | k + 1, data, base, pos =>
    (c.decode data base pos).bind fun x =>
      (decodeList c k data base (pos + c.headSize)).map fun xs => x :: xs

theorem headList_length (c : Codec α) (off : ℕ) (xs : List α) :
    (headList c off xs).length = c.headSize * xs.length := by
  induction xs generalizing off with
  | nil => rfl
  | cons x xs ih =>
    rw [headList, List.length_append, c.head_length, ih, List.length_cons, Nat.mul_succ]
    omega

theorem decodeList_at (c : Codec α) {data : Bytes} {base pos off : ℕ} {xs : List α}
    (hdata : data.length < 2 ^ 64) (hhead : At data pos (headList c off xs))
    (htail : At data (base + off) (tailList c xs)) :
    decodeList c xs.length data base pos = some xs := by
  induction xs generalizing pos off with
  | nil => rfl
  | cons x xs ih =>
    rw [tailList, List.flatMap_cons] at htail
    -- the first element stands at the front of both parts, the others behind it
    have hx := c.decode_at hdata hhead.left htail.left
    have hright := hhead.right
    rw [c.head_length] at hright
    have htail' := htail.right
    rw [Nat.add_assoc] at htail'
    have hxs := ih hright htail'
    rw [List.length_cons, decodeList, hx, Option.bind_some, hxs, Option.map_some]

/-- `T[]`: the number of elements, then the elements as a tuple of their own. -/
def array (c : Codec α) (hc : 0 < c.headSize) : Codec (List α) where
  headSize := 32
  head off _ := Word.toBytes (BitVec.ofNat 256 off)
  tail xs := Word.toBytes (BitVec.ofNat 256 xs.length) ++
    (headList c (c.headSize * xs.length) xs ++ tailList c xs)
  decode data base pos :=
    (sizeAt data pos).bind fun off => (sizeAt data (base + off)).bind fun len =>
      decodeList c len data (base + off + 32) (base + off + 32)
  head_length _ _ := Word.toBytes_length _
  decode_at {data base pos off xs} hdata hhead htail := by
    -- the elements are a tuple that starts behind the length word
    have helems := htail.right
    rw [Word.toBytes_length] at helems
    have hheads := helems.left
    have hlen := hheads.length_le
    rw [headList_length] at hlen
    have hmul : xs.length ≤ c.headSize * xs.length := Nat.le_mul_of_pos_left _ hc
    have htails := helems.right
    rw [headList_length] at htails
    have hsize := sizeAt_of_at htail.left (by omega)
    rw [sizeAt_of_at hhead (by omega), Option.bind_some, hsize, Option.bind_some]
    exact decodeList_at c hdata hheads htails

/-! ## Whole values -/

/-- `abi.encode(x)` -/
def encode (c : Codec α) (x : α) : Bytes := c.head c.headSize x ++ c.tail x

/-- `abi.decode(data, (T))` -/
def read (c : Codec α) (data : Bytes) : Option α := c.decode data 0 0

/-- **Round trip**: an encoded value is read back, whatever bytes follow it. -/
theorem read_encode_append (c : Codec α) (x : α) (rest : Bytes)
    (h : (c.encode x ++ rest).length < 2 ^ 64) : c.read (c.encode x ++ rest) = some x := by
  have hat := At.of_append (c.encode x) rest
  have htail := hat.right
  rw [c.head_length] at htail
  exact c.decode_at h hat.left htail

theorem read_encode (c : Codec α) (x : α) (h : (c.encode x).length < 2 ^ 64) :
    c.read (c.encode x) = some x := by
  have := c.read_encode_append x [] (by simpa using h)
  simpa using this

/-- Different values of bounded size have different encodings. -/
theorem encode_injective_of_length (c : Codec α) (hlen : ∀ x, (c.encode x).length < 2 ^ 64) :
    Function.Injective c.encode := by
  intro x y h
  -- both values are read back from one byte string
  have hx := c.read_encode x (hlen x)
  rw [h, c.read_encode y (hlen y)] at hx
  exact (Option.some.inj hx).symm

theorem encode_length (c : Codec α) (x : α) :
    (c.encode x).length = c.headSize + (c.tail x).length := by
  rw [encode, List.length_append, c.head_length]

/-! ### Sizes -/

@[simp] theorem tail_word (w : Word) : word.tail w = [] := rfl

@[simp] theorem tail_bool (b : Bool) : bool.tail b = [] := rfl

@[simp] theorem tail_pair (c : Codec α) (d : Codec β) (p : α × β) :
    (c.pair d).tail p = c.tail p.1 ++ d.tail p.2 := rfl

@[simp] theorem headSize_word : word.headSize = 32 := rfl

@[simp] theorem headSize_bool : bool.headSize = 32 := rfl

@[simp] theorem headSize_bytes : bytes.headSize = 32 := rfl

@[simp] theorem headSize_pair (c : Codec α) (d : Codec β) :
    (c.pair d).headSize = c.headSize + d.headSize := rfl

@[simp] theorem headSize_vector (c : Codec α) (n : ℕ) :
    (c.vector n).headSize = n * c.headSize := by
  induction n with
  | zero => simp [vector]
  | succ n ih =>
    rw [show (c.vector (n + 1)).headSize = c.headSize + (c.vector n).headSize from rfl, ih]
    ring

/-- An array of static elements is static. -/
theorem tail_vector (c : Codec α) (hc : ∀ x, c.tail x = []) (n : ℕ) (v : Fin n → α) :
    (c.vector n).tail v = [] := by
  induction n with
  | zero => rfl
  | succ n ih =>
    rw [show (c.vector (n + 1)).tail v =
      c.tail (Matrix.vecHead v) ++ (c.vector n).tail (Matrix.vecTail v) from rfl, hc, ih]
    rfl

@[simp] theorem headSize_array (c : Codec α) (hc : 0 < c.headSize) :
    (c.array hc).headSize = 32 := rfl

/-- The size of an array whose elements have tails of at most `k` bytes. -/
theorem tail_array_length_le (c : Codec α) (hc : 0 < c.headSize) (xs : List α) {k : ℕ}
    (hk : ∀ x ∈ xs, (c.tail x).length ≤ k) :
    ((c.array hc).tail xs).length ≤ 32 + xs.length * (c.headSize + k) := by
  -- the tails of the elements, by induction on them; the heads have one size
  have htails : (tailList c xs).length ≤ xs.length * k := by
    unfold tailList
    induction xs with
    | nil => simp
    | cons x xs ih =>
      have hx : (c.tail x).length ≤ k := hk x List.mem_cons_self
      have hxs := ih fun y hy => hk y (List.mem_cons_of_mem x hy)
      rw [List.flatMap_cons, List.length_append, List.length_cons, Nat.succ_mul]
      omega
  simp only [array, List.length_append, Word.toBytes_length, headList_length]
  rw [Nat.mul_add, Nat.mul_comm xs.length c.headSize]
  omega

theorem tail_bytes_length_le (bs : Bytes) : (bytes.tail bs).length ≤ bs.length + 64 := by
  have := padding_length_lt bs.length
  simp only [bytes, List.length_append, Word.toBytes_length]
  omega

end Codec

end Abi
