import RuleSelf.Contract.System

/-!
# Roles

The role flags of the package under the `hasRole` of RuleSelf. The override makes an
administrator hold every role, and the package consults it in every one of its functions: a
grant to an administrator sets no flag, and a revocation clears the flag whoever held it.
-/

namespace RuleSelf

open Evm Revert

/-- The deployment with the `AccessControl` of the package. -/
def Deployment.packaged (dep : Deployment AccessControl.RoleFlags) :
    Deployment AccessControl.RoleFlags :=
  { dep with access := .flags }

/-- The account holds the default admin role. -/
def IsAdmin (s : Storage AccessControl.RoleFlags) (account : Address) : Prop :=
  hasRole .flags s.roles defaultAdminRole account = true

open AccessControl (RoleFlags setFlag grantFlag revokeFlag)

variable {roles roles' : RoleFlags} {role : Word} {account sender : Address}

/-- An account has a role by its flag, or as an administrator. -/
theorem hasRole_flags : hasRole .flags roles role account = true ↔
    roles defaultAdminRole account = true ∨ roles role account = true := by
  unfold hasRole
  split <;> simp_all [AccessControl.flags]

/-- The default admin role is had by its flag only. -/
theorem hasRole_flags_admin :
    hasRole .flags roles defaultAdminRole account = roles defaultAdminRole account := by
  rw [Bool.eq_iff_iff, hasRole_flags, or_self]

/-- A grant sets the flag of an account that is no administrator. -/
theorem grantFlag_eq_true {r : Word} {a : Address} :
    grantFlag (hasRole .flags) roles role account r a = true ↔
      roles r a = true ∨ (r = role ∧ a = account ∧ roles defaultAdminRole account = false) := by
  unfold grantFlag
  split
  · rename_i h
    -- whoever has the role already is an administrator, or has the flag
    rw [hasRole_flags] at h
    refine ⟨.inl, fun h' => h'.elim id ?_⟩
    intro ⟨hr, ha, hadmin⟩
    simp_all
  · rename_i h
    rw [hasRole_flags, not_or] at h
    unfold setFlag
    split <;> simp_all

/-- A revocation clears the flag. -/
theorem revokeFlag_eq_true {r : Word} {a : Address} :
    revokeFlag (hasRole .flags) roles role account r a = true ↔
      roles r a = true ∧ ¬ (r = role ∧ a = account) := by
  unfold revokeFlag
  split
  · unfold setFlag
    split <;> simp_all
  · -- an account without the role is without its flag
    rename_i h
    rw [hasRole_flags, not_or] at h
    refine ⟨fun hra => ⟨hra, ?_⟩, And.left⟩
    intro ⟨hr, ha⟩
    subst hr ha
    exact h.2 hra

theorem grantRole_flags_eq_ok :
    AccessControl.flags.grantRole (hasRole .flags) roles sender role account = .ok roles' ↔
      hasRole .flags roles defaultAdminRole sender = true ∧
        grantFlag (hasRole .flags) roles role account = roles' := by
  simp [AccessControl.flags]

theorem revokeRole_flags_eq_ok :
    AccessControl.flags.revokeRole (hasRole .flags) roles sender role account = .ok roles' ↔
      hasRole .flags roles defaultAdminRole sender = true ∧
        revokeFlag (hasRole .flags) roles role account = roles' := by
  simp [AccessControl.flags]

theorem renounceRole_flags_eq_ok :
    AccessControl.flags.renounceRole (hasRole .flags) roles sender role account = .ok roles' ↔
      account = sender ∧ revokeFlag (hasRole .flags) roles role account = roles' := by
  simp [AccessControl.flags]

end RuleSelf
