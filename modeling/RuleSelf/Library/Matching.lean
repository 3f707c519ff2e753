import Mathlib.Data.List.Pairwise
import Mathlib.Data.List.Perm.Basic
import Mathlib.Data.Set.Insert
import Mathlib.Tactic.Common

/-!
# Matchings

A *matching* between two types is a set of pairs in which no left component and no
right component occurs twice: a partial one-to-one correspondence. It is the
mathematical content of a registry that binds keys to holders, each key to one
holder and each holder by one key. A pair can be added to a matching exactly when
it is *free*, that is when it shares no component with a pair already there.

Pairs that are offered one after the other, each matched if it can be, make the
matching grow greedily: to a maximal one, whichever pairs are refused, and to the
same one in whatever order, as long as the pairs share no component.
-/

/-- A set of pairs that uses every left and every right component at most once. -/
structure Matching (N U : Type*) where
  /-- The pairs that are matched. -/
  pairs : Set (N × U)
  left_unique : ∀ {n u u'}, (n, u) ∈ pairs → (n, u') ∈ pairs → u = u'
  right_unique : ∀ {n n' u}, (n, u) ∈ pairs → (n', u) ∈ pairs → n = n'

namespace Matching

variable {N U : Type*}

/-- Two matchings are equal when they match the same pairs. -/
@[ext] theorem ext {M M' : Matching N U} (h : ∀ p, p ∈ M.pairs ↔ p ∈ M'.pairs) : M = M' := by
  cases M
  cases M'
  congr
  exact Set.ext h

/-- The matching with no pair. -/
def empty : Matching N U where
  pairs := ∅
  left_unique := fun h => absurd h (Set.notMem_empty _)
  right_unique := fun h => absurd h (Set.notMem_empty _)

/-- `p` shares no component with a pair of `M`. -/
def Free (M : Matching N U) (p : N × U) : Prop :=
  ∀ q ∈ M.pairs, q.1 ≠ p.1 ∧ q.2 ≠ p.2

/-- A free pair is added to a matching. -/
def insert (M : Matching N U) (p : N × U) (hp : M.Free p) : Matching N U where
  pairs := Insert.insert p M.pairs
  left_unique := by
    rintro n u u' (rfl | h) (h' | h')
    · exact (Prod.ext_iff.mp h').2.symm
    · exact absurd rfl (hp _ h').1
    · subst h'
      exact absurd rfl (hp _ h).1
    · exact M.left_unique h h'
  right_unique := by
    rintro n n' u (rfl | h) (h' | h')
    · exact (Prod.ext_iff.mp h').1.symm
    · exact absurd rfl (hp _ h').2
    · subst h'
      exact absurd rfl (hp _ h).2
    · exact M.right_unique h h'

@[simp] theorem mem_empty (p : N × U) : p ∉ (empty : Matching N U).pairs :=
  Set.notMem_empty p

@[simp] theorem mem_insert {M : Matching N U} {p q : N × U} (hp : M.Free p) :
    q ∈ (M.insert p hp).pairs ↔ q = p ∨ q ∈ M.pairs := Iff.rfl

/-! ## Pairs that share no component -/

/-- `p` and `q` share no component. -/
def Apart (p q : N × U) : Prop := p.1 ≠ q.1 ∧ p.2 ≠ q.2

theorem Apart.symm {p q : N × U} (h : Apart p q) : Apart q p := ⟨h.1.symm, h.2.symm⟩

instance : Std.Symm (Apart : N × U → N × U → Prop) := ⟨fun _ _ => Apart.symm⟩

theorem free_iff_apart {M : Matching N U} {p : N × U} :
    M.Free p ↔ ∀ q ∈ M.pairs, Apart q p := Iff.rfl

/-- Two pairs of a matching share no component. -/
theorem apart_of_mem {M : Matching N U} {p q : N × U} (hp : p ∈ M.pairs) (hq : q ∈ M.pairs)
    (hne : p ≠ q) : Apart p q := by
  obtain ⟨n, u⟩ := p
  obtain ⟨n', u'⟩ := q
  constructor
  · rintro rfl
    exact hne (congrArg (n, ·) (M.left_unique hp hq))
  · rintro rfl
    exact hne (congrArg (·, u) (M.right_unique hp hq))

/-! ## Offers -/

section Offers

variable (A : N × U → Prop)

open Classical in
/-- A pair is offered: it is matched if it is admissible and free, and refused otherwise. -/
noncomputable def offer (M : Matching N U) (p : N × U) : Matching N U :=
  if h : A p ∧ M.Free p then M.insert p h.2 else M

/-- Pairs are offered one after the other. -/
noncomputable def offers (M : Matching N U) (L : List (N × U)) : Matching N U :=
  L.foldl (offer A) M

open Classical in
/-- The offered pairs that are matched, in order. -/
noncomputable def taken : Matching N U → List (N × U) → List (N × U)
  | _, [] => []
  | M, p :: L => if A p ∧ M.Free p then p :: taken (offer A M p) L else taken (offer A M p) L

variable {A} {M : Matching N U} {p q : N × U} {L : List (N × U)}

theorem offer_of_free (hA : A p) (hp : M.Free p) : offer A M p = M.insert p hp :=
  dif_pos ⟨hA, hp⟩

theorem offer_of_refused (h : ¬ (A p ∧ M.Free p)) : offer A M p = M := dif_neg h

theorem mem_offer : q ∈ (offer A M p).pairs ↔ q ∈ M.pairs ∨ (q = p ∧ A p ∧ M.Free p) := by
  by_cases h : A p ∧ M.Free p
  · rw [offer_of_free h.1 h.2, mem_insert, or_comm]
    simp [h]
  · rw [offer_of_refused h]
    simp [h]

/-- A pair is free after an offer if it was before, and is apart from a pair just matched. -/
theorem free_offer : (offer A M p).Free q ↔
    M.Free q ∧ (A p → M.Free p → Apart p q) := by
  simp only [free_iff_apart, mem_offer]
  constructor
  · intro h
    exact ⟨fun r hr => h r (.inl hr), fun hA hp => h p (.inr ⟨rfl, hA, hp⟩)⟩
  · intro ⟨hq, hpq⟩ r hr
    rcases hr with hr | ⟨rfl, hA, hp⟩
    · exact hq r hr
    · exact hpq hA hp

theorem free_offer_of_apart (h : Apart p q) : (offer A M p).Free q ↔ M.Free q := by
  simp [free_offer, h]

/-- Pairs that are apart can be offered in any order. -/
theorem offer_comm (h : Apart p q) : offer A (offer A M p) q = offer A (offer A M q) p := by
  ext r
  simp only [mem_offer, free_offer_of_apart h, free_offer_of_apart h.symm]
  tauto

@[simp] theorem offers_nil : offers A M [] = M := rfl

@[simp] theorem offers_cons : offers A M (p :: L) = offers A (offer A M p) L := rfl

theorem offers_append (L' : List (N × U)) :
    offers A M (L ++ L') = offers A (offers A M L) L' := List.foldl_append

@[simp] theorem taken_nil : taken A M [] = [] := rfl

open Classical in
theorem taken_cons : taken A M (p :: L) =
    (if A p ∧ M.Free p then [p] else []) ++ taken A (offer A M p) L := by
  rw [taken]
  split <;> rfl

theorem taken_append (L' : List (N × U)) :
    taken A M (L ++ L') = taken A M L ++ taken A (offers A M L) L' := by
  induction L generalizing M with
  | nil => rfl
  | cons p L ih => rw [List.cons_append, taken_cons, taken_cons, ih, offers_cons, List.append_assoc]

/-- What is taken is the first pair, if it is admissible and free, or is taken later. -/
theorem mem_taken_cons : q ∈ taken A M (p :: L) ↔
    (q = p ∧ A p ∧ M.Free p) ∨ q ∈ taken A (offer A M p) L := by
  rw [taken_cons, List.mem_append]
  split <;> simp_all

/-- After the offers, the pairs taken are matched besides those matched before. -/
theorem mem_offers : q ∈ (offers A M L).pairs ↔ q ∈ M.pairs ∨ q ∈ taken A M L := by
  induction L generalizing M with
  | nil => simp
  | cons p L ih => rw [offers_cons, ih, mem_offer, mem_taken_cons, or_assoc]

/-- What is taken was free. -/
theorem free_of_mem_taken (h : q ∈ taken A M L) : M.Free q := by
  induction L generalizing M with
  | nil => simp at h
  | cons p L ih =>
    rcases mem_taken_cons.mp h with ⟨rfl, -, hfree⟩ | h
    · exact hfree
    · exact (free_offer.mp (ih h)).1

/-- The pairs taken share no component with each other. -/
theorem pairwise_apart_taken : (taken A M L).Pairwise Apart := by
  induction L generalizing M with
  | nil => exact List.Pairwise.nil
  | cons p L ih =>
    rw [taken_cons]
    split
    · rename_i hp
      -- what is taken later is free next to `p`
      refine List.Pairwise.cons (fun q hq => ?_) ih
      exact (free_offer.mp (free_of_mem_taken hq)).2 hp.1 hp.2
    · exact ih

/-- **Maximality**: a pair that is not free after the offers shares a component with a pair that was
matched before the offers, or was taken. -/
theorem exists_not_apart_of_not_free (h : ¬ (offers A M L).Free p) :
    ∃ q, (q ∈ M.pairs ∨ q ∈ taken A M L) ∧ ¬ Apart q p := by
  rw [free_iff_apart] at h
  push Not at h
  obtain ⟨q, hq, hshared⟩ := h
  exact ⟨q, mem_offers.mp hq, hshared⟩

/-- Free admissible pairs that share no component are all taken. -/
theorem taken_eq_self (hL : L.Pairwise Apart) (hfree : ∀ p ∈ L, A p ∧ M.Free p) :
    taken A M L = L := by
  induction L generalizing M with
  | nil => rfl
  | cons p L ih =>
    obtain ⟨hp, hL⟩ := List.pairwise_cons.mp hL
    obtain ⟨hA, hM⟩ := hfree p List.mem_cons_self
    rw [taken_cons, if_pos ⟨hA, hM⟩, ih hL, List.singleton_append]
    -- the others are free next to `p`
    intro q hq
    obtain ⟨hAq, hMq⟩ := hfree q (List.mem_cons_of_mem p hq)
    exact ⟨hAq, (free_offer_of_apart (hp q hq)).mpr hMq⟩

/-- Pairs that share no component can be offered in any order. -/
theorem offers_perm {L' : List (N × U)} (hperm : L.Perm L') (hL : L.Pairwise Apart) :
    offers A M L = offers A M L' := by
  refine hperm.foldl_eq' (fun p hp q hq M => ?_) M
  by_cases hpq : p = q
  · rw [hpq]
  · exact offer_comm (hL.forall hp hq hpq)

/-- Two neighbours that share no component can be offered in either order. -/
theorem offers_swap (h : Apart p q) (L' : List (N × U)) :
    offers A M (L ++ p :: q :: L') = offers A M (L ++ q :: p :: L') := by
  simp only [offers_append, offers_cons, offer_comm h]

/-- The same pairs are taken, whichever of two such neighbours is offered first. -/
theorem taken_swap (h : Apart p q) (L' : List (N × U)) :
    (taken A M (L ++ p :: q :: L')).Perm (taken A M (L ++ q :: p :: L')) := by
  rw [taken_append, taken_append]
  refine List.Perm.append_left _ ?_
  -- each is free next to the other if it is free
  rw [taken_cons, taken_cons, taken_cons, taken_cons, free_offer_of_apart h,
    free_offer_of_apart h.symm, offer_comm h]
  exact List.perm_append_comm_assoc ..

end Offers

end Matching
