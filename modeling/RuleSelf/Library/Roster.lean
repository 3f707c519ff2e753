import Mathlib.Data.List.Nodup
import Mathlib.Data.List.Perm.Basic
import Mathlib.Logic.Function.Basic
import Mathlib.Tactic.Common

/-!
# Rosters

Sets kept in lists: an element is added at the end, and removed by moving the last element to
its place. A *division* is several such lists without a common element, with a flag for
every element that says whether it stands in one of them.
-/

namespace Roster

variable {α ι : Type*}

/-! ## Removal -/

/-- Removes the element at an index: the last element is moved to its place. -/
def swapPop (l : List α) (i : ℕ) : List α :=
  match l.getLast? with
  | some last => (if i ≠ l.length - 1 then l.set i last else l).dropLast
  | none => []

theorem swapPop_concat_last (l : List α) (last : α) : swapPop (l ++ [last]) l.length = l := by
  simp [swapPop]

theorem swapPop_concat {l : List α} {i : ℕ} (hi : i < l.length) (last : α) :
    swapPop (l ++ [last]) i = l.set i last := by
  have hne : i ≠ (l ++ [last]).length - 1 := by
    rw [List.length_append, List.length_singleton]
    omega
  rw [swapPop, List.getLast?_concat]
  simp only
  rw [if_pos hne, List.set_append_left _ _ hi, List.dropLast_concat]

/-- What was removed and what is left is what there was. -/
theorem perm_swapPop {l : List α} {i : ℕ} {a : α} (h : l[i]? = some a) :
    l.Perm (a :: swapPop l i) := by
  rcases List.eq_nil_or_concat l with rfl | ⟨init, last, rfl⟩
  · simp at h
  · rw [List.concat_eq_append] at h ⊢
    obtain ⟨hi, hget⟩ := List.getElem?_eq_some_iff.mp h
    rw [List.length_append, List.length_singleton] at hi
    rcases Nat.lt_succ_iff_lt_or_eq.mp hi with hlt | rfl
    · -- the last element stands where the removed one stood
      have ha : init[i] = a := by rw [← hget, List.getElem_append_left hlt]
      have hinit : init = init.take i ++ a :: init.drop (i + 1) := by
        rw [← ha, List.getElem_cons_drop, List.take_append_drop]
      rw [swapPop_concat hlt, List.set_eq_take_append_cons_drop, if_pos hlt]
      have hfront : (init ++ [last]).Perm
          (a :: (init.take i ++ (init.drop (i + 1) ++ [last]))) := by
        conv_lhs => rw [hinit, List.append_assoc, List.cons_append]
        exact List.perm_middle
      exact hfront.trans (((List.perm_append_singleton last _).append_left _).cons a)
    · -- the removed element is the last one, and is only popped
      obtain rfl : last = a := by rw [← hget, List.getElem_concat_length rfl]
      rw [swapPop_concat_last]
      exact List.perm_append_singleton last init

theorem mem_swapPop {l : List α} {i : ℕ} {a b : α} (hl : l.Nodup) (h : l[i]? = some a) :
    b ∈ swapPop l i ↔ b ∈ l ∧ b ≠ a := by
  have hperm := perm_swapPop h
  -- without duplicates the removed element does not occur in what remains
  obtain ⟨hnot, -⟩ := List.nodup_cons.mp (hperm.nodup_iff.mp hl)
  rw [hperm.mem_iff, List.mem_cons]
  constructor
  · intro hb
    exact ⟨.inr hb, fun heq => hnot (heq ▸ hb)⟩
  · rintro ⟨rfl | hb, hne⟩
    · exact absurd rfl hne
    · exact hb

theorem nodup_swapPop {l : List α} {i : ℕ} {a : α} (hl : l.Nodup) (h : l[i]? = some a) :
    (swapPop l i).Nodup :=
  (List.nodup_cons.mp ((perm_swapPop h).nodup_iff.mp hl)).2

/-! ## Divisions -/

/-- Lists without repetitions and without a common element, and the flag of an element. -/
structure Divided (lists : ι → List α) (flag : α → Bool) : Prop where
  nodup : ∀ i, (lists i).Nodup
  disjoint : ∀ i j a, a ∈ lists i → a ∈ lists j → i = j
  flag_iff : ∀ a, flag a = true ↔ ∃ i, a ∈ lists i

variable {lists : ι → List α} {flag : α → Bool} {i : ι} {a : α}

theorem divided_empty : Divided (fun _ : ι => ([] : List α)) fun _ => false where
  nodup _ := List.nodup_nil
  disjoint _ _ _ h _ := absurd h List.not_mem_nil
  flag_iff a := by simp

/-- The lists in which an element stands, after one list has been replaced. -/
theorem mem_update [DecidableEq ι] {l : List α} {j : ι} :
    a ∈ Function.update lists i l j ↔ if j = i then a ∈ l else a ∈ lists j := by
  by_cases hj : j = i
  · subst hj
    simp
  · simp [hj]

namespace Divided

variable (h : Divided lists flag)

include h

theorem flag_eq_false : flag a = false ↔ ∀ i, a ∉ lists i := by
  rw [← Bool.not_eq_true, h.flag_iff, not_exists]

variable [DecidableEq ι]

/-- A list is replaced by one whose elements stand in no other list. -/
theorem replace {l : List α} (hl : l.Nodup) (hother : ∀ a ∈ l, ∀ j, j ≠ i → a ∉ lists j)
    {flag' : α → Bool}
    (hflag : ∀ a, flag' a = true ↔ a ∈ l ∨ ∃ j, j ≠ i ∧ a ∈ lists j) :
    Divided (Function.update lists i l) flag' where
  nodup j := by
    by_cases hj : j = i
    · subst hj
      rwa [Function.update_self]
    · rw [Function.update_of_ne hj]
      exact h.nodup j
  disjoint j k a hj hk := by
    rw [mem_update] at hj hk
    -- either list may be the new one
    split at hj <;> split at hk
    · simp_all
    · exact absurd hk (hother a hj k ‹_›)
    · exact absurd hj (hother a hk j ‹_›)
    · exact h.disjoint j k a hj hk
  flag_iff a := by
    rw [hflag]
    constructor
    · rintro (hmem | ⟨j, hne, hmem⟩)
      · exact ⟨i, mem_update.mpr (by rwa [if_pos rfl])⟩
      · exact ⟨j, mem_update.mpr (by rwa [if_neg hne])⟩
    · rintro ⟨j, hmem⟩
      rw [mem_update] at hmem
      split at hmem
      · exact .inl hmem
      · exact .inr ⟨j, ‹_›, hmem⟩

/-- An element that stands in no list is added to one. -/
theorem enlist [DecidableEq α] (ha : flag a = false) :
    Divided (Function.update lists i (lists i ++ [a])) (Function.update flag a true) := by
  have hnot := h.flag_eq_false.mp ha
  refine h.replace ?_ ?_ ?_
  · -- an element without a flag is in no list, so it may be added to one
    exact List.nodup_append_comm.mp (List.nodup_cons.mpr ⟨hnot i, h.nodup i⟩)
  · intro b hb j hne hmem
    rcases List.mem_append.mp hb with hb | hb
    · exact hne (h.disjoint j i b hmem hb)
    · rw [List.mem_singleton.mp hb] at hmem
      exact hnot j hmem
  · intro b
    rw [Function.update_apply]
    split
    · rename_i hb
      simp [hb]
    · rename_i hb
      rw [h.flag_iff, List.mem_append, List.mem_singleton, or_iff_left hb]
      constructor
      · rintro ⟨j, hmem⟩
        by_cases hj : j = i
        · exact .inl (hj ▸ hmem)
        · exact .inr ⟨j, hj, hmem⟩
      · rintro (hmem | ⟨j, -, hmem⟩)
        · exact ⟨i, hmem⟩
        · exact ⟨j, hmem⟩

/-- The element at an index is removed from a list. -/
theorem strike [DecidableEq α] {k : ℕ} (hk : (lists i)[k]? = some a) :
    Divided (Function.update lists i (swapPop (lists i) k)) (Function.update flag a false) := by
  have ha : a ∈ lists i := List.mem_of_getElem? hk
  refine h.replace (nodup_swapPop (h.nodup i) hk) ?_ ?_
  · intro b hb j hne hj
    exact hne (h.disjoint j i b hj ((mem_swapPop (h.nodup i) hk).mp hb).1)
  · intro b
    rw [Function.update_apply, mem_swapPop (h.nodup i) hk]
    split
    · rename_i hb
      subst hb
      -- the struck element was in this list alone
      refine iff_of_false Bool.false_ne_true ?_
      rintro (⟨-, hne⟩ | ⟨j, hne, hj⟩)
      · exact hne rfl
      · exact hne (h.disjoint j i b hj ha)
    · rename_i hb
      rw [h.flag_iff, and_iff_left hb]
      constructor
      · rintro ⟨j, hj⟩
        by_cases hji : j = i
        · exact .inl (hji ▸ hj)
        · exact .inr ⟨j, hji, hj⟩
      · rintro (hj | ⟨j, -, hj⟩)
        · exact ⟨i, hj⟩
        · exact ⟨j, hj⟩

end Divided

end Roster
