import Mathlib.NumberTheory.LucasPrimality
import Mathlib.Data.List.Prime
import Mathlib.Tactic.ReduceModChar
import Mathlib.Tactic.NormNum.Prime
import RuleSelf.Library.Circuit
import RuleSelf.Self.Formatter

/-!
# The Scalar Field

The order of the field the circuits compute in is prime: Lucas's test, with the prime
factors of the predecessor certified before.
-/

namespace RuleSelf

/-! ## Lucas's test -/

/-- A number is prime if its predecessor is a product of powers of primes, and some residue has
the order of the predecessor. -/
theorem prime_of_lucas {n : ℕ} (a : ZMod n) (factors : List (ℕ × ℕ))
    (hproduct : n - 1 = (factors.map fun f => f.1 ^ f.2).prod) (hone : a ^ (n - 1) = 1)
    (hfactors : ∀ f ∈ factors, f.1.Prime ∧ a ^ ((n - 1) / f.1) ≠ 1) : n.Prime := by
  refine lucas_primality n a hone fun q hq hdvd => ?_
  -- a prime that divides the predecessor is one of the factors
  rw [hproduct] at hdvd
  obtain ⟨x, hx, hqx⟩ := (Prime.dvd_prod_iff hq.prime).mp hdvd
  obtain ⟨f, hf, rfl⟩ := List.mem_map.mp hx
  obtain ⟨hprime, hne⟩ := hfactors f hf
  rwa [(Nat.prime_dvd_prime_iff_eq hq hprime).mp (hq.dvd_of_dvd_pow hqx)]

/-! ## The prime factors -/

private theorem prime_12048837557 : Nat.Prime 12048837557 := by
  refine prime_of_lucas (2 : ZMod 12048837557) [(2, 2), (7, 2), (661, 1), (93001, 1)]
    (by norm_num) (by reduce_mod_char) ?_
  simp only [List.forall_mem_cons]
  refine ⟨⟨by norm_num, ?_⟩, ⟨by norm_num, ?_⟩, ⟨by norm_num, ?_⟩, ⟨by norm_num, ?_⟩, by simp⟩
  all_goals
    norm_num only
    reduce_mod_char
    decide

private theorem prime_5156902474397 : Nat.Prime 5156902474397 := by
  refine prime_of_lucas (2 : ZMod 5156902474397) [(2, 2), (107, 1), (12048837557, 1)]
    (by norm_num) (by reduce_mod_char) ?_
  simp only [List.forall_mem_cons]
  refine ⟨⟨by norm_num, ?_⟩, ⟨by norm_num, ?_⟩, ⟨prime_12048837557, ?_⟩, by simp⟩
  all_goals
    norm_num only
    reduce_mod_char
    decide

private theorem prime_1670836401704629 : Nat.Prime 1670836401704629 := by
  refine prime_of_lucas (2 : ZMod 1670836401704629) [(2, 2), (3, 4), (5156902474397, 1)]
    (by norm_num) (by reduce_mod_char) ?_
  simp only [List.forall_mem_cons]
  refine ⟨⟨by norm_num, ?_⟩, ⟨by norm_num, ?_⟩, ⟨prime_5156902474397, ?_⟩, by simp⟩
  all_goals
    norm_num only
    reduce_mod_char
    decide

private theorem prime_405928799 : Nat.Prime 405928799 := by
  refine prime_of_lucas (22 : ZMod 405928799) [(2, 1), (11, 1), (3691, 1), (4999, 1)]
    (by norm_num) (by reduce_mod_char) ?_
  simp only [List.forall_mem_cons]
  refine ⟨⟨by norm_num, ?_⟩, ⟨by norm_num, ?_⟩, ⟨by norm_num, ?_⟩, ⟨by norm_num, ?_⟩, by simp⟩
  all_goals
    norm_num only
    reduce_mod_char
    decide

private theorem prime_639533339 : Nat.Prime 639533339 := by
  refine prime_of_lucas (2 : ZMod 639533339) [(2, 1), (229, 1), (853, 1), (1637, 1)]
    (by norm_num) (by reduce_mod_char) ?_
  simp only [List.forall_mem_cons]
  refine ⟨⟨by norm_num, ?_⟩, ⟨by norm_num, ?_⟩, ⟨by norm_num, ?_⟩, ⟨by norm_num, ?_⟩, by simp⟩
  all_goals
    norm_num only
    reduce_mod_char
    decide

private theorem prime_65865678001877903 : Nat.Prime 65865678001877903 := by
  refine prime_of_lucas (5 : ZMod 65865678001877903)
    [(2, 1), (83, 1), (379, 1), (1637, 1), (639533339, 1)]
    (by norm_num) (by reduce_mod_char) ?_
  simp only [List.forall_mem_cons]
  refine ⟨⟨by norm_num, ?_⟩, ⟨by norm_num, ?_⟩, ⟨by norm_num, ?_⟩, ⟨by norm_num, ?_⟩,
    ⟨prime_639533339, ?_⟩, by simp⟩
  all_goals
    norm_num only
    reduce_mod_char
    decide

private theorem prime_13818364434197438864469338081 : Nat.Prime 13818364434197438864469338081 := by
  refine prime_of_lucas (3 : ZMod 13818364434197438864469338081)
    [(2, 5), (5, 1), (823, 1), (1593227, 1), (65865678001877903, 1)]
    (by norm_num) (by reduce_mod_char) ?_
  simp only [List.forall_mem_cons]
  refine ⟨⟨by norm_num, ?_⟩, ⟨by norm_num, ?_⟩, ⟨by norm_num, ?_⟩, ⟨by norm_num, ?_⟩,
    ⟨prime_65865678001877903, ?_⟩, by simp⟩
  all_goals
    norm_num only
    reduce_mod_char
    decide

/-! ## The order of the field -/

/-- The order of the scalar field is prime. -/
theorem prime_snarkScalarField : Formatter.snarkScalarField.Prime := by
  unfold Formatter.snarkScalarField
  refine prime_of_lucas
    (5 : ZMod 21888242871839275222246405745257275088548364400416034343698204186575808495617)
    [(2, 28), (3, 2), (13, 1), (29, 1), (983, 1), (11003, 1), (237073, 1), (405928799, 1),
      (1670836401704629, 1), (13818364434197438864469338081, 1)]
    (by norm_num) (by reduce_mod_char) ?_
  simp only [List.forall_mem_cons]
  refine ⟨⟨by norm_num, ?_⟩, ⟨by norm_num, ?_⟩, ⟨by norm_num, ?_⟩, ⟨by norm_num, ?_⟩,
    ⟨by norm_num, ?_⟩, ⟨by norm_num, ?_⟩, ⟨by norm_num, ?_⟩, ⟨prime_405928799, ?_⟩,
    ⟨prime_1670836401704629, ?_⟩, ⟨prime_13818364434197438864469338081, ?_⟩, by simp⟩
  all_goals
    norm_num only
    reduce_mod_char
    decide

instance : Fact Formatter.snarkScalarField.Prime := ⟨prime_snarkScalarField⟩

/-- A signal of the circuits. -/
abbrev Signal := ZMod Formatter.snarkScalarField

end RuleSelf
