import RuleSelf.Contract.Roles

/-!
# Write Authority

Who writes what: configuration and role flags are written by administrators, the registry by
registrations, and neither kind of step writes what belongs to the other. When the last
administrator is gone, nobody can ever become one, and what administrators write is frozen.
-/

namespace RuleSelf

open Evm

variable {dep : Deployment AccessControl.RoleFlags} {w w' : World AccessControl.RoleFlags}
  {s s' : Storage AccessControl.RoleFlags} {tx : Transaction}

/-! ## One step -/

/-- What a step from `s` to `s'` may have written, given the transaction. -/
structure Authorised (tx : Transaction) (s s' : Storage AccessControl.RoleFlags) : Prop where
  configuration : s'.isRegistrationOpen ≠ s.isRegistrationOpen ∨ s'.configId ≠ s.configId ∨
    s'.scope ≠ s.scope → IsAdmin s tx.sender
  flag_set : ∀ role account, s.roles role account = false → s'.roles role account = true →
    IsAdmin s tx.sender
  flag_cleared : ∀ role account, s.roles role account = true → s'.roles role account = false →
    IsAdmin s tx.sender ∨ (tx.call = .renounceRole role account ∧ account = tx.sender)
  administrative : tx.call.isAdministrative = true →
    s'.registeredUserIdentifiers = s.registeredUserIdentifiers ∧
      s'.nullifierToUserIdentifier = s.nullifierToUserIdentifier
  registering : tx.call.isAdministrative = false →
    s'.isRegistrationOpen = s.isRegistrationOpen ∧ s'.configId = s.configId ∧
      s'.scope = s.scope ∧ s'.roles = s.roles

/-- A step that writes nothing is authorised. -/
theorem Authorised.refl (tx : Transaction) (s : Storage AccessControl.RoleFlags) :
    Authorised tx s s where
  configuration := by simp
  flag_set _ _ hfalse htrue := by simp_all
  flag_cleared _ _ htrue hfalse := by simp_all
  administrative _ := ⟨rfl, rfl⟩
  registering _ := ⟨rfl, rfl, rfl, rfl⟩

/-- An administrator writes anything but the registry. -/
private theorem authorised_of_admin (hadmin : IsAdmin s tx.sender)
    (hcall : tx.call.isAdministrative = true) (hmaintain : Maintenance s s') :
    Authorised tx s s' where
  configuration _ := hadmin
  flag_set _ _ _ _ := hadmin
  flag_cleared _ _ _ _ := .inl hadmin
  administrative _ := hmaintain.registry_eq.symm
  registering h := by simp [hcall] at h

/-- Giving up a role clears the flag of the sender. -/
private theorem authorised_of_renounce {role : Word}
    (hcall : tx.call = .renounceRole role tx.sender) {roles : AccessControl.RoleFlags}
    (hroles : AccessControl.revokeFlag (hasRole .flags) s.roles role tx.sender = roles) :
    Authorised tx s { s with roles := roles } where
  configuration := by simp
  flag_set r a hfalse htrue := by
    subst hroles
    simp [revokeFlag_eq_true, hfalse] at htrue
  flag_cleared r a htrue hfalse := by
    -- the only flag that is cleared is the sender's, for the role given up
    subst hroles
    rw [Bool.eq_false_iff, ne_eq, revokeFlag_eq_true, not_and, not_not] at hfalse
    obtain ⟨rfl, rfl⟩ := hfalse htrue
    exact .inr ⟨hcall, rfl⟩
  administrative _ := ⟨rfl, rfl⟩
  registering h := by simp [hcall, Call.isAdministrative] at h

private theorem Administers.authorised
    (h : Administers .flags s tx.sender tx.call s') : Authorised tx s s' := by
  have hmaintain := h.maintenance
  -- every function but one asks for the admin role; what is given up is one's own
  generalize hcall : tx.call = call at h
  cases h with
  | setScope _ hadmin | openRegistration hadmin | closeRegistration hadmin
  | setConfigId _ hadmin => exact authorised_of_admin hadmin (by rw [hcall]; rfl) hmaintain
  | grantRole role account roles hroles =>
    have hadmin := (grantRole_flags_eq_ok.mp hroles).1
    exact authorised_of_admin hadmin (by rw [hcall]; rfl) hmaintain
  | revokeRole role account roles hroles =>
    have hadmin := (revokeRole_flags_eq_ok.mp hroles).1
    exact authorised_of_admin hadmin (by rw [hcall]; rfl) hmaintain
  | renounceRole role callerConfirmation roles hroles =>
    obtain ⟨rfl, hroles⟩ := renounceRole_flags_eq_ok.mp hroles
    exact authorised_of_renounce hcall hroles

/-- A registration writes the registry and the log only. -/
private theorem authorised_register (hcall : tx.call.isAdministrative = false) (u n : Word) :
    Authorised tx s (register u n s) where
  configuration := by simp [register]
  flag_set r a hfalse htrue := by simp_all [register]
  flag_cleared r a htrue hfalse := by simp_all [register]
  administrative h := by simp [hcall] at h
  registering _ := ⟨rfl, rfl, rfl, rfl⟩

/-- Every step is authorised, a reverting one included. -/
theorem step_authorised (dep : Deployment AccessControl.RoleFlags)
    (w : World AccessControl.RoleFlags) (tx : Transaction) :
    Authorised tx w.ruleSelf (Run.step (World.exec dep.packaged) w tx).ruleSelf := by
  refine Run.step_preserves
    (I := fun t : World AccessControl.RoleFlags => Authorised tx w.ruleSelf t.ruleSelf)
    (Authorised.refl tx w.ruleSelf) fun w' hexec => ?_
  cases hcall : tx.call.isAdministrative with
  | true => exact (World.exec_administers hcall hexec).authorised
  | false =>
    -- whoever calls, a registration touches no setting and no role
    rcases World.exec_registering hcall hexec with hsame | ⟨u, n, -, hregister⟩
    · rw [hsame]
      exact Authorised.refl tx w.ruleSelf
    · rw [hregister]
      exact authorised_register hcall u n

/-! ## Lock-out -/

/-- No account is an administrator. -/
def LockedOut (s : Storage AccessControl.RoleFlags) : Prop := ∀ account, ¬ IsAdmin s account

/-- What stays as it is from a state without administrators on. -/
structure Frozen (s s' : Storage AccessControl.RoleFlags) : Prop where
  lockedOut : LockedOut s'
  no_flag_set : ∀ role account, s'.roles role account = true → s.roles role account = true
  isRegistrationOpen : s'.isRegistrationOpen = s.isRegistrationOpen
  configId : s'.configId = s.configId
  scope : s'.scope = s.scope
  registry : s.isRegistrationOpen = false →
    s'.registeredUserIdentifiers = s.registeredUserIdentifiers ∧
      s'.nullifierToUserIdentifier = s.nullifierToUserIdentifier

theorem Frozen.refl (h : LockedOut s) : Frozen s s :=
  ⟨h, fun _ _ hflag => hflag, rfl, rfl, rfl, fun _ => ⟨rfl, rfl⟩⟩

theorem Frozen.trans {s'' : Storage AccessControl.RoleFlags} (h : Frozen s s')
    (h' : Frozen s' s'') : Frozen s s'' where
  lockedOut := h'.lockedOut
  no_flag_set role account hflag := h.no_flag_set role account (h'.no_flag_set role account hflag)
  isRegistrationOpen := h'.isRegistrationOpen.trans h.isRegistrationOpen
  configId := h'.configId.trans h.configId
  scope := h'.scope.trans h.scope
  registry hclosed := by
    obtain ⟨hset, hmap⟩ := h.registry hclosed
    obtain ⟨hset', hmap'⟩ := h'.registry (h.isRegistrationOpen.trans hclosed)
    exact ⟨hset'.trans hset, hmap'.trans hmap⟩

/-- While registration is closed, no effect reaches the registry. -/
private theorem Effect.registry_eq (h : Effect s s') (hclosed : s.isRegistrationOpen = false) :
    s'.registeredUserIdentifiers = s.registeredUserIdentifiers ∧
      s'.nullifierToUserIdentifier = s.nullifierToUserIdentifier := by
  cases h with
  | maintain hmaintain => exact hmaintain.registry_eq.symm
  | register u n hcan => simp [hcan.isOpen] at hclosed

/-- A step without an administrator to send it freezes. -/
theorem step_frozen (dep : Deployment AccessControl.RoleFlags)
    (h : LockedOut w.ruleSelf) (hexec : w.exec dep.packaged tx = .ok w') :
    Frozen w.ruleSelf w'.ruleSelf := by
  have hauthorised := step_authorised dep w tx
  rw [Run.step_of_ok hexec] at hauthorised
  -- a flag that is set was set by an administrator, and there is none
  have hflags : ∀ role account, w'.ruleSelf.roles role account = true →
      w.ruleSelf.roles role account = true := by
    intro role account hset
    by_contra hunset
    rw [Bool.not_eq_true] at hunset
    exact h _ (hauthorised.flag_set role account hunset hset)
  have hconfiguration : ¬ (w'.ruleSelf.isRegistrationOpen ≠ w.ruleSelf.isRegistrationOpen ∨
      w'.ruleSelf.configId ≠ w.ruleSelf.configId ∨ w'.ruleSelf.scope ≠ w.ruleSelf.scope) :=
    fun hchange => h _ (hauthorised.configuration hchange)
  simp only [ne_eq, not_or, not_not] at hconfiguration
  obtain ⟨hopen, hconfig, hscope⟩ := hconfiguration
  refine ⟨fun account hadmin => ?_, hflags, hopen, hconfig, hscope,
    (World.exec_effect hexec).registry_eq⟩
  -- a new administrator would have had the flag before
  unfold IsAdmin at hadmin
  rw [hasRole_flags_admin] at hadmin
  apply h account
  unfold IsAdmin
  rw [hasRole_flags_admin]
  exact hflags _ _ hadmin

/-- A run from a state without administrators freezes. -/
theorem run_frozen (dep : Deployment AccessControl.RoleFlags) (h : LockedOut w.ruleSelf)
    (txs : List Transaction) : Frozen w.ruleSelf (w.run dep.packaged txs).ruleSelf := by
  refine Run.run_invariant (A := fun _ => True)
    (I := fun t : World AccessControl.RoleFlags => Frozen w.ruleSelf t.ruleSelf) ?_ (.refl h)
    fun _ _ => trivial
  intro t tx t' _ ht hexec
  exact ht.trans (step_frozen dep ht.lockedOut hexec)

/-! ## Runs -/

/-- **Write authority**: in every run from the deployment, every step is authorised; and once no
account is an administrator, whatever two later states are compared, the second has no
administrator either and no role flag the first has not, the configuration is the same, and so
is the registry if registration was closed. -/
theorem write_authority (dep : Deployment AccessControl.RoleFlags)
    (hub : IdentityVerificationHub.Storage) (registries : Registries) (txs : List Transaction) :
    (∀ t tx, Run.StepOf (World.exec dep.packaged) (World.deploy dep.packaged hub registries) txs
        t tx →
      Authorised tx t.ruleSelf (Run.step (World.exec dep.packaged) t tx).ruleSelf) ∧
    (LockedOut ((World.deploy dep.packaged hub registries).run dep.packaged txs).ruleSelf →
      ∀ txs' txs'',
        Frozen
          ((World.deploy dep.packaged hub registries).run dep.packaged (txs ++ txs')).ruleSelf
          ((World.deploy dep.packaged hub registries).run dep.packaged
            (txs ++ txs' ++ txs'')).ruleSelf) := by
  refine ⟨fun t tx _ => step_authorised dep t tx, fun hlocked txs' txs'' => ?_⟩
  have hfirst := (run_frozen dep hlocked txs').lockedOut
  rw [← World.run_append] at hfirst
  rw [World.run_append _ _ (txs ++ txs')]
  exact run_frozen dep hfirst txs''

end RuleSelf
