import Mathlib.Tactic.Common

/-!
# Calls that May Revert

A contract call either returns a value or reverts with an error, and a revert
undoes everything the call did. Calls are modelled in `Except ε`; this module has
the statements a call is made of (`revertIf`, `require`, `orRevert`) and says of
each of them, and of sequencing, when it succeeds. A proof about a call rewrites
with these equivalences and never unfolds the monad.
-/

namespace Revert

variable {ε : Type*} {α β : Type}

/-- `if (p) { revert e; }` -/
def revertIf (p : Prop) [Decidable p] (e : ε) : Except ε Unit :=
  if p then .error e else .ok ()

/-- `require(p, e)` -/
def require (p : Prop) [Decidable p] (e : ε) : Except ε Unit :=
  if p then .ok () else .error e

/-- `if (b) { x }` -/
def onlyIf (b : Bool) (x : Except ε Unit) : Except ε Unit :=
  if b then x else .ok ()

/-- The value of a partial operation, or a revert where it has none. -/
def orRevert (x : Option α) (e : ε) : Except ε α :=
  match x with
  | some a => .ok a
  | none => .error e

@[simp] theorem revertIf_eq_ok {p : Prop} [Decidable p] {e : ε} {u : Unit} :
    revertIf p e = .ok u ↔ ¬ p := by
  by_cases hp : p <;> simp [revertIf, hp]

@[simp] theorem require_eq_ok {p : Prop} [Decidable p] {e : ε} {u : Unit} :
    require p e = .ok u ↔ p := by
  by_cases hp : p <;> simp [require, hp]

@[simp] theorem onlyIf_eq_ok {b : Bool} {x : Except ε Unit} {u : Unit} :
    onlyIf b x = .ok u ↔ (b = true → x = .ok ()) := by
  cases b <;> simp [onlyIf]

@[simp] theorem orRevert_eq_ok {x : Option α} {e : ε} {a : α} :
    orRevert x e = .ok a ↔ x = some a := by
  cases x <;> simp [orRevert]

/-- A sequence of two calls succeeds when both do, in turn. -/
@[simp] theorem bind_eq_ok {x : Except ε α} {f : α → Except ε β} {b : β} :
    (x >>= f) = .ok b ↔ ∃ a, x = .ok a ∧ f a = .ok b := by
  cases x with
  | error e => simp [bind, Except.bind]
  | ok a => simp [bind, Except.bind]

theorem ok_bind (a : α) (f : α → Except ε β) : (Except.ok a >>= f) = f a := rfl

/-- A check followed by a call. -/
@[simp high] theorem check_bind_eq_ok {x : Except ε Unit} {f : Unit → Except ε β} {b : β} :
    (x >>= f) = .ok b ↔ x = .ok () ∧ f () = .ok b := by
  rw [bind_eq_ok]
  constructor
  · rintro ⟨⟨⟩, hx, hf⟩
    exact ⟨hx, hf⟩
  · rintro ⟨hx, hf⟩
    exact ⟨(), hx, hf⟩

@[simp] theorem pure_eq_ok {a b : α} : (pure a : Except ε α) = .ok b ↔ a = b := by
  simp [pure, Except.pure]

@[simp] theorem map_eq_ok {x : Except ε α} {f : α → β} {b : β} :
    (f <$> x) = .ok b ↔ ∃ a, x = .ok a ∧ f a = b := by
  cases x with
  | error e => simp [Functor.map, Except.map]
  | ok a => simp [Functor.map, Except.map]

end Revert
