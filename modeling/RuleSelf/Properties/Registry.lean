import RuleSelf.Contract.System
import RuleSelf.Library.Matching

/-!
# The Registry

What the two maps of RuleSelf are for: they hold a matching between nullifiers and
user identifiers. Registering a pair adds a free pair to the matching, and nothing
else changes it. The event log is the history of that matching: each of its pairs is
logged exactly once, while registration was open.
-/

namespace RuleSelf

open Evm

variable {Roles : Type} {s s' : Storage Roles}

/-! ## The matching behind the maps -/

/-- The storage holds the matching `M`: 0 stands for "no identifier" in the first map,
and the second map is the set of right components. -/
structure Represents (M : Matching Word Word) (s : Storage Roles) : Prop where
  graph : ∀ n u, (n, u) ∈ M.pairs ↔ s.nullifierToUserIdentifier n = u ∧ u ≠ 0
  registered : ∀ u, s.registeredUserIdentifiers u = true ↔ ∃ n, (n, u) ∈ M.pairs

/-- A pair that can be registered is free in the matching. -/
theorem CanRegister.free {M : Matching Word Word} {u n : Word} (h : CanRegister s u n)
    (hM : Represents M s) : M.Free (n, u) := by
  rintro ⟨n', u'⟩ hmem
  constructor
  · -- the nullifier is unused, so it has no pair
    rintro rfl
    obtain ⟨hu', hne⟩ := (hM.graph n' u').mp hmem
    rw [h.nullifier_unused] at hu'
    exact hne hu'.symm
  · -- the identifier is not registered, so it has no pair
    rintro rfl
    have hreg := (hM.registered u').mpr ⟨n', hmem⟩
    rw [h.unregistered] at hreg
    exact Bool.false_ne_true hreg

/-- While registration is open, a pair can be registered exactly if it is free and its
identifier is not 0. -/
theorem Represents.canRegister_iff {M : Matching Word Word} {p : Word × Word}
    (hM : Represents M s) (hopen : s.isRegistrationOpen = true) :
    CanRegister s p.2 p.1 ↔ p.2 ≠ 0 ∧ M.Free p := by
  constructor
  · intro h
    exact ⟨h.nonzero, h.free hM⟩
  · intro ⟨hne, hfree⟩
    refine ⟨hopen, ?_, hne, ?_⟩
    · -- a used nullifier, or a registered identifier, has a pair, which would not be apart
      by_contra hused
      exact (hfree _ ((hM.graph p.1 _).mpr ⟨rfl, hused⟩)).1 rfl
    · rw [← Bool.not_eq_true]
      intro hregistered
      obtain ⟨n, hn⟩ := (hM.registered p.2).mp hregistered
      exact (hfree _ hn).2 rfl

/-- Registering a pair adds it to the matching. -/
theorem Represents.register {M : Matching Word Word} {u n : Word} (hM : Represents M s)
    (h : CanRegister s u n) : Represents (M.insert (n, u) (h.free hM)) (register u n s) := by
  -- both sides of the graph: the new pair, and what was there before
  constructor
  · intro n' u'
    rw [Matching.mem_insert, Prod.mk.injEq, hM.graph]
    by_cases hn : n' = n
    · subst hn
      rw [register_stored, h.nullifier_unused]
      constructor
      · rintro (⟨-, rfl⟩ | ⟨rfl, hne⟩)
        · exact ⟨rfl, h.nonzero⟩
        · exact absurd rfl hne
      · rintro ⟨rfl, -⟩
        exact .inl ⟨rfl, rfl⟩
    · rw [register_stored_of_ne s u n hn]
      simp [hn]
  · intro u'
    -- only the new identifier becomes registered
    by_cases hu : u' = u
    · subst hu
      exact iff_of_true (register_registered s u' n) ⟨n, .inl rfl⟩
    · rw [register_registered_of_ne s u n hu, hM.registered]
      simp [hu]

/-- Maintenance keeps the matching. -/
theorem Represents.maintenance {M : Matching Word Word} (hM : Represents M s)
    (h : Maintenance s s') : Represents M s' := by
  obtain ⟨hmap, hset⟩ := h.registry_eq
  constructor
  · rw [hmap]
    exact hM.graph
  · rw [hset]
    exact hM.registered

/-- An effect keeps the matching or adds a free pair to it. -/
theorem Represents.effect {M : Matching Word Word} (hM : Represents M s) (h : Effect s s') :
    Represents M s' ∨ ∃ p, ∃ hp : M.Free p, Represents (M.insert p hp) s' := by
  cases h with
  | register u n hcan => exact .inr ⟨_, _, hM.register hcan⟩
  | maintain h => exact .inl (hM.maintenance h)

/-! ## The event log -/

/-- Registration is open at the end of a log: it was opened, and not closed since. -/
def OpenAfter (log : List Event) : Prop :=
  ∃ before since, log = before ++ .registrationOpen :: since ∧ .registrationClose ∉ since

theorem OpenAfter.concat {log : List Event} {e : Event} (h : OpenAfter log)
    (he : e ≠ .registrationClose) : OpenAfter (log ++ [e]) := by
  obtain ⟨before, since, rfl, hsince⟩ := h
  refine ⟨before, since ++ [e], by simp, ?_⟩
  rw [List.mem_append, List.mem_singleton, not_or]
  exact ⟨hsince, fun heq => he heq.symm⟩

/-- The log tells the state: whether registration is open, and which pairs are held.
Every registration is logged after registration was opened and before it was closed. -/
structure Logged (s : Storage Roles) : Prop where
  open_after : s.isRegistrationOpen = true → OpenAfter s.events
  count : ∀ u n, s.events.count (.userIdentifierRegistered u n) =
    if s.nullifierToUserIdentifier n = u ∧ u ≠ 0 then 1 else 0
  while_open : ∀ before since u n,
    s.events = before ++ .userIdentifierRegistered u n :: since → OpenAfter before

/-- An event that is not a registration leaves the log of registrations as it is. -/
private theorem Logged.concat {e : Event} (h : Logged s)
    (he : ∀ u n, e ≠ .userIdentifierRegistered u n)
    (hevents : s'.events = s.events ++ [e])
    (hmap : s'.nullifierToUserIdentifier = s.nullifierToUserIdentifier)
    (hopen : s'.isRegistrationOpen = true → OpenAfter s'.events) : Logged s' := by
  refine ⟨hopen, fun u n => ?_, fun before since u n hsplit => ?_⟩
  · rw [hevents, List.count_append, hmap, h.count, List.count_singleton]
    simp [he u n]
  · -- the registration is not the new event, so it stands in the old log
    rw [hevents] at hsplit
    rcases Run.concat_eq_append_cons hsplit with ⟨-, heq, -⟩ | ⟨since', -, hold⟩
    · exact absurd heq (he u n)
    · exact h.while_open before since' u n hold

/-- Registering a pair logs it, for the first time and while registration is open. -/
private theorem Logged.register {u n : Word} (h : Logged s) (hcan : CanRegister s u n) :
    Logged (register u n s) := by
  have hopen := h.open_after hcan.isOpen
  refine ⟨fun _ => hopen.concat (by simp), fun u' n' => ?_, fun before since u' n' hsplit => ?_⟩
  · have hevents : (RuleSelf.register u n s).events =
        s.events ++ [.userIdentifierRegistered u n] := rfl
    rw [hevents, List.count_append, h.count, List.count_singleton]
    by_cases hn : n' = n
    · subst hn
      -- the pair was not held before, and is now when `u'` is the identifier registered
      have hbefore : ¬ (0 = u' ∧ u' ≠ 0) := fun hu' => hu'.2 hu'.1.symm
      rw [register_stored, hcan.nullifier_unused, if_neg hbefore]
      by_cases hu : u' = u
      · subst hu
        have hafter : u' = u' ∧ u' ≠ 0 := ⟨rfl, hcan.nonzero⟩
        rw [if_pos hafter]
        simp
      · have hafter : ¬ (u = u' ∧ u' ≠ 0) := fun hu' => hu hu'.1.symm
        rw [if_neg hafter]
        simp [Ne.symm hu]
    · rw [register_stored_of_ne s u n hn]
      simp [Ne.symm hn]
  · change s.events ++ [.userIdentifierRegistered u n] = _ at hsplit
    rcases Run.concat_eq_append_cons hsplit with ⟨rfl, -⟩ | ⟨since', -, hold⟩
    · exact hopen
    · exact h.while_open before since' u' n' hold

private theorem Logged.maintenance (h : Logged s) (hmaintain : Maintenance s s') :
    Logged s' := by
  -- whatever is set, no registration is logged; the two switches log which way they go
  cases hmaintain with
  | none => exact h
  | setScope newScope =>
    exact h.concat (e := .scopeUpdated newScope) (by simp) rfl rfl
      fun hopen => (h.open_after hopen).concat (by simp)
  | openRegistration =>
    exact h.concat (e := .registrationOpen) (by simp) rfl rfl
      fun _ => ⟨s.events, [], rfl, by simp⟩
  | closeRegistration =>
    exact h.concat (e := .registrationClose) (by simp) rfl rfl
      fun hopen => absurd hopen Bool.false_ne_true
  | setConfigId | setRoles => exact ⟨h.open_after, h.count, h.while_open⟩

theorem Logged.effect (h : Logged s) (heffect : Effect s s') : Logged s' := by
  cases heffect with
  | maintain hmaintain => exact h.maintenance hmaintain
  | register u n hcan => exact h.register hcan

/-! ## Runs -/

/-- The registry invariant: the first map is injective where it is not 0, the second
is the set of its non-zero values, and the logged registrations are its graph, each
logged once and while registration was open. -/
structure RegistryInvariant (s : Storage Roles) : Prop where
  injective : ∀ n₁ n₂, s.nullifierToUserIdentifier n₁ = s.nullifierToUserIdentifier n₂ →
    s.nullifierToUserIdentifier n₁ ≠ 0 → n₁ = n₂
  registered_iff : ∀ u, s.registeredUserIdentifiers u = true ↔
    u ≠ 0 ∧ ∃ n, s.nullifierToUserIdentifier n = u
  logged_iff : ∀ u n, .userIdentifierRegistered u n ∈ s.events ↔
    s.nullifierToUserIdentifier n = u ∧ u ≠ 0
  logged_once : ∀ u n, s.events.count (.userIdentifierRegistered u n) ≤ 1
  logged_while_open : ∀ before since u n,
    s.events = before ++ .userIdentifierRegistered u n :: since →
      ∃ earlier later, before = earlier ++ .registrationOpen :: later ∧
        .registrationClose ∉ later

theorem RegistryInvariant.of_represents {M : Matching Word Word} (hM : Represents M s)
    (hlog : Logged s) : RegistryInvariant s where
  injective n₁ n₂ heq hne := by
    -- both nullifiers are matched to one identifier
    have h₁ := (hM.graph n₁ _).mpr ⟨rfl, hne⟩
    have h₂ := (hM.graph n₂ _).mpr ⟨heq.symm, hne⟩
    exact M.right_unique h₁ h₂
  registered_iff u := by
    rw [hM.registered]
    constructor
    · rintro ⟨n, hn⟩
      obtain ⟨hu, hne⟩ := (hM.graph n u).mp hn
      exact ⟨hne, n, hu⟩
    · rintro ⟨hne, n, hu⟩
      exact ⟨n, (hM.graph n u).mpr ⟨hu, hne⟩⟩
  logged_iff u n := by
    rw [← List.count_pos_iff, hlog.count]
    split <;> simp_all
  logged_once u n := by
    rw [hlog.count]
    split <;> simp
  logged_while_open := hlog.while_open

/-- The matching and the log at the end of a run from a state that has them. -/
theorem World.run_represents (dep : Deployment Roles) {w : World Roles}
    (hM : ∃ M, Represents M w.ruleSelf) (hlog : Logged w.ruleSelf) (txs : List Transaction) :
    (∃ M, Represents M (w.run dep txs).ruleSelf) ∧ Logged (w.run dep txs).ruleSelf := by
  refine World.run_invariant (I := fun s => (∃ M, Represents M s) ∧ Logged s) ?_ ⟨hM, hlog⟩
    txs
  -- one step: the matching grows by a free pair or stays, and the log with it
  rintro s s' ⟨⟨M, hM⟩, hlog⟩ heffect
  refine ⟨?_, hlog.effect heffect⟩
  rcases hM.effect heffect with hM' | ⟨p, hp, hM'⟩
  · exact ⟨M, hM'⟩
  · exact ⟨M.insert p hp, hM'⟩

/-- The constructor leaves the empty matching and an empty log. -/
theorem represents_deploy (ac : AccessControl Roles) (deployer : Address)
    (configId scopeValue : Word) :
    Represents Matching.empty (deploy ac deployer configId scopeValue) ∧
      Logged (deploy ac deployer configId scopeValue) := by
  refine ⟨⟨fun n u => ?_, fun u => ?_⟩,
    ⟨?_, fun u n => ?_, fun before since u n hsplit => ?_⟩⟩
  · exact iff_of_false (Matching.mem_empty _) fun h => h.2 h.1.symm
  · exact iff_of_false Bool.false_ne_true fun ⟨n, hn⟩ => Matching.mem_empty _ hn
  · exact fun h => absurd h Bool.false_ne_true
  · exact (if_neg fun h => h.2 h.1.symm).symm
  · exact absurd hsplit (by simp [deploy])

/-- **The registry invariant holds in every reached state**: after any transactions, by
any senders, in any order, reverting ones included. -/
theorem registry_invariant (dep : Deployment Roles) (hub : IdentityVerificationHub.Storage)
    (registries : Registries) (txs : List Transaction) :
    RegistryInvariant ((World.deploy dep hub registries).run dep txs).ruleSelf := by
  obtain ⟨hM, hlog⟩ := represents_deploy dep.access dep.deployer dep.configId dep.scope
  obtain ⟨⟨M, hM'⟩, hlog'⟩ :=
    World.run_represents dep (w := World.deploy dep hub registries) ⟨_, hM⟩ hlog txs
  exact .of_represents hM' hlog'

end RuleSelf
