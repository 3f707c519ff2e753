import Mathlib.Data.List.Induction
import Mathlib.Tactic.Common

/-!
# Journals

A component that writes down every change it makes: the state is what *replaying* its
journal gives, and an entry is *legal* where a rule of the component allowed it. From
legality follows what must stand between two entries: a fact that holds after the one
and not before the other was undone by an entry in between.
-/

namespace Journal

variable {σ ε : Type*} (apply : σ → ε → σ) (ok : σ → ε → Prop)

/-- The state after the entries of a journal. -/
def replay (s : σ) (entries : List ε) : σ :=
  entries.foldl apply s

@[simp] theorem replay_nil (s : σ) : replay apply s [] = s := rfl

@[simp] theorem replay_cons (s : σ) (e : ε) (es : List ε) :
    replay apply s (e :: es) = replay apply (apply s e) es := rfl

theorem replay_append (s : σ) (es es' : List ε) :
    replay apply s (es ++ es') = replay apply (replay apply s es) es' := by
  simp [replay]

@[simp] theorem replay_concat (s : σ) (es : List ε) (e : ε) :
    replay apply s (es ++ [e]) = apply (replay apply s es) e := by
  simp [replay]

/-- Every entry was allowed in the state it was made in. -/
inductive Legal : σ → List ε → Prop where
  | nil (s : σ) : Legal s []
  | cons {s : σ} {e : ε} {es : List ε} (h : ok s e) (hrest : Legal (apply s e) es) :
    Legal s (e :: es)

variable {apply ok} {s : σ} {e : ε} {es es' : List ε}

theorem legal_append :
    Legal apply ok s (es ++ es') ↔
      Legal apply ok s es ∧ Legal apply ok (replay apply s es) es' := by
  induction es generalizing s with
  | nil => exact ⟨fun h => ⟨.nil s, h⟩, fun h => h.2⟩
  | cons e es ih =>
    constructor
    · -- the first entry is legal where it stands, the rest by induction from the state behind it
      intro h
      obtain _ | ⟨hok, hrest⟩ := h
      obtain ⟨hes, hes'⟩ := ih.mp hrest
      exact ⟨.cons hok hes, hes'⟩
    · rintro ⟨h, hes'⟩
      obtain _ | ⟨hok, hrest⟩ := h
      exact .cons hok (ih.mpr ⟨hrest, hes'⟩)

/-- One more entry, allowed where it is made. -/
theorem Legal.concat (h : Legal apply ok s es) (hok : ok (replay apply s es) e) :
    Legal apply ok s (es ++ [e]) :=
  legal_append.mpr ⟨h, .cons hok (.nil _)⟩

/-- An entry of a legal journal was allowed after those before it. -/
theorem Legal.entry {before since : List ε}
    (h : Legal apply ok s (before ++ e :: since)) : ok (replay apply s before) e := by
  obtain ⟨-, hrest⟩ := legal_append.mp h
  obtain _ | ⟨hok, -⟩ := hrest
  exact hok

/-- A fact that holds before some entries and not after them was undone by one of them. -/
theorem exists_undoing {P : σ → Prop} (hbefore : P s) (hafter : ¬ P (replay apply s es)) :
    ∃ before x since, es = before ++ x :: since ∧
      P (replay apply s before) ∧ ¬ P (apply (replay apply s before) x) := by
  induction es using List.reverseRecOn with
  | nil => exact absurd hbefore hafter
  | append_singleton es x ih =>
    by_cases hmid : P (replay apply s es)
    · rw [replay_concat] at hafter
      exact ⟨es, x, [], rfl, hmid, hafter⟩
    · obtain ⟨before, y, since, rfl, hchange⟩ := ih hmid
      exact ⟨before, y, since ++ [x], by simp, hchange⟩

/-- **Between two entries**: where the first makes a fact true and the second is allowed only
where it is not, an entry in between undoes it. -/
theorem Legal.exists_between {P : σ → Prop} {e' : ε} {before mid since : List ε}
    (h : Legal apply ok s (before ++ e :: (mid ++ e' :: since)))
    (hfirst : ∀ t, ok t e → P (apply t e)) (hsecond : ∀ t, ok t e' → ¬ P t) :
    ∃ x ∈ mid, ∃ t, P t ∧ ¬ P (apply t x) := by
  obtain ⟨-, hrest⟩ := legal_append.mp h
  obtain _ | ⟨hok, hrest⟩ := hrest
  obtain ⟨before', x, since', rfl, hx⟩ :=
    exists_undoing (hfirst _ hok) (hsecond _ hrest.entry)
  exact ⟨x, by simp, _, hx⟩

/-- A fact that is false at first and true after a journal became true at one of its
entries. -/
theorem exists_making {P : σ → Prop} (hbefore : ¬ P s) (hafter : P (replay apply s es)) :
    ∃ before x since, es = before ++ x :: since ∧
      ¬ P (replay apply s before) ∧ P (apply (replay apply s before) x) := by
  obtain ⟨before, x, since, hes, hmid, hx⟩ :=
    exists_undoing (P := fun t => ¬ P t) hbefore (not_not.mpr hafter)
  exact ⟨before, x, since, hes, hmid, not_not.mp hx⟩

end Journal
