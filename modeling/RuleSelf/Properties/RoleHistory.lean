import RuleSelf.Contract.Completeness
import RuleSelf.Contract.Roles

/-!
# The History of a Role

Whether the calls that name a role and an account determine whether the account has the role.
The last of them does, for an account that was no administrator when the role was granted. A
grant to an administrator sets no flag, and is forgotten when the administrator leaves. Who is an
administrator is itself determined by the calls, so that they tell which grants are forgotten.
-/

namespace RuleSelf

open Evm AccessControl

variable {dep : Deployment AccessControl.RoleFlags} {w w' : World AccessControl.RoleFlags}
  {role : Word} {account deployer : Address} {txs : List Transaction} {tx : Transaction}
  {calls : List Call} {call : Call}

/-! ## Calls that name a role and an account -/

/-- The call grants, revokes or gives up the role of the account. -/
def Call.namesRole (role : Word) (account : Address) : Call → Bool
  | .grantRole r a | .revokeRole r a | .renounceRole r a => r = role ∧ a = account
  | _ => false

/-- The call takes the role from the account. -/
def Call.TakesRole (role : Word) (account : Address) (call : Call) : Prop :=
  call = .revokeRole role account ∨ call = .renounceRole role account

/-- The last of the calls that names the role and the account. -/
def lastNamed (calls : List Call) (role : Word) (account : Address) : Option Call :=
  (calls.filter (Call.namesRole role account)).getLast?

/-- The calls of a run that did not revert. -/
def committedCalls (dep : Deployment AccessControl.RoleFlags)
    (w : World AccessControl.RoleFlags) (txs : List Transaction) : List Call :=
  (Run.committed (World.exec dep) w txs).map (·.call)

/-- The last call of a run that named the role and the account, and did not revert. -/
def lastNaming (dep : Deployment AccessControl.RoleFlags) (w : World AccessControl.RoleFlags)
    (txs : List Transaction) (role : Word) (account : Address) : Option Call :=
  lastNamed (committedCalls dep w txs) role account

/-- The history of the role determines it: an account has it if it is an administrator, or if
the last call that named both granted it. -/
def RoleByHistory (dep : Deployment AccessControl.RoleFlags) (w : World AccessControl.RoleFlags)
    (txs : List Transaction) (role : Word) (account : Address) : Prop :=
  hasRole .flags (w.run dep txs).ruleSelf.roles role account = true ↔
    IsAdmin (w.run dep txs).ruleSelf account ∨
      lastNaming dep w txs role account = some (.grantRole role account)

/-- By the calls, the account is an administrator: the last of them that names the admin role and
the account grants it, or there is none and the account has deployed the contract. -/
def AdminAfter (deployer : Address) (calls : List Call) (account : Address) : Prop :=
  match lastNamed calls defaultAdminRole account with
  | some call => call = .grantRole defaultAdminRole account
  | none => account = deployer

/-- One of the calls grants the role while the account is no administrator by those before it, and
no later one takes the role away. -/
def GrantLasts (deployer : Address) (calls : List Call) (role : Word) (account : Address) : Prop :=
  ∃ before since, calls = before ++ .grantRole role account :: since ∧
    ¬ AdminAfter deployer before account ∧ ∀ call ∈ since, ¬ call.TakesRole role account

/-- The calls forget a grant: the last that names the role grants it to an account that is no
administrator at the end, and was one at every grant of the role since it was last taken away. -/
structure ForgetsGrant (deployer : Address) (calls : List Call) (role : Word)
    (account : Address) : Prop where
  granted : lastNamed calls role account = some (.grantRole role account)
  left : ¬ AdminAfter deployer calls account
  masked : ∀ before since, calls = before ++ .grantRole role account :: since →
    (∀ call ∈ since, ¬ call.TakesRole role account) → AdminAfter deployer before account

/-! ## One more call -/

theorem lastNamed_concat : lastNamed (calls ++ [call]) role account =
    if call.namesRole role account = true then some call else lastNamed calls role account := by
  unfold lastNamed
  rw [List.filter_append]
  by_cases hnames : call.namesRole role account = true <;> simp [hnames]

/-- A call that takes a role names it. -/
private theorem Call.TakesRole.namesRole (h : call.TakesRole role account) :
    call.namesRole role account = true := by
  rcases h with rfl | rfl <;> simp [Call.namesRole]

/-- A grant takes no role away. -/
private theorem Call.not_takesRole_grantRole :
    ¬ (Call.grantRole role account).TakesRole role account := by
  simp [Call.TakesRole]

/-- A call that names a role grants it or takes it. -/
private theorem Call.eq_grantRole_of_namesRole (h : call.namesRole role account = true)
    (htakes : ¬ call.TakesRole role account) : call = .grantRole role account := by
  unfold Call.namesRole at h
  split at h <;> simp_all [Call.TakesRole]

/-- An account is an administrator if it has just been made one, or was one and goes on. -/
theorem adminAfter_concat : AdminAfter deployer (calls ++ [call]) account ↔
    call = .grantRole defaultAdminRole account ∨
      (AdminAfter deployer calls account ∧ ¬ call.TakesRole defaultAdminRole account) := by
  unfold AdminAfter
  rw [lastNamed_concat]
  by_cases hnames : call.namesRole defaultAdminRole account = true
  · rw [if_pos hnames]
    constructor
    · exact .inl
    · rintro (hgrant | ⟨-, htakes⟩)
      · exact hgrant
      · exact Call.eq_grantRole_of_namesRole hnames htakes
  · rw [if_neg hnames]
    -- a call that does not name the admin role changes nothing about it
    have hgrant : call ≠ .grantRole defaultAdminRole account := by
      rintro rfl
      simp [Call.namesRole] at hnames
    have htakes : ¬ call.TakesRole defaultAdminRole account := fun h => hnames h.namesRole
    simp [hgrant, htakes]

/-- A lasting grant is the last call, or lasts already and is not taken away. -/
theorem grantLasts_concat : GrantLasts deployer (calls ++ [call]) role account ↔
    (call = .grantRole role account ∧ ¬ AdminAfter deployer calls account) ∨
      (GrantLasts deployer calls role account ∧ ¬ call.TakesRole role account) := by
  constructor
  · intro ⟨before, since, hsplit, hadmin, hlasts⟩
    rcases Run.concat_eq_append_cons hsplit with ⟨rfl, rfl, -⟩ | ⟨since, rfl, rfl⟩
    · -- the grant is the last call
      exact .inl ⟨rfl, hadmin⟩
    · -- the grant is an earlier call, and the last one is among those since
      rw [List.forall_mem_append] at hlasts
      exact .inr ⟨⟨before, since, rfl, hadmin, hlasts.1⟩, hlasts.2 call (List.mem_singleton_self _)⟩
  · rintro (⟨rfl, hadmin⟩ | ⟨⟨before, since, rfl, hadmin, hlasts⟩, htakes⟩)
    · exact ⟨calls, [], rfl, hadmin, by simp⟩
    · refine ⟨before, since ++ [call], by simp, hadmin, List.forall_mem_append.mpr ⟨hlasts, ?_⟩⟩
      simpa using htakes

/-- After a grant that lasts, the last call is a grant. -/
theorem lastNamed_of_grantLasts (h : GrantLasts deployer calls role account) :
    lastNamed calls role account = some (.grantRole role account) := by
  induction calls using List.reverseRecOn with
  | nil =>
    obtain ⟨before, since, hsplit, -⟩ := h
    simp at hsplit
  | append_singleton calls call ih =>
    rw [lastNamed_concat]
    rcases grantLasts_concat.mp h with ⟨rfl, -⟩ | ⟨hlasts, htakes⟩
    · simp [Call.namesRole]
    · split
      · rename_i hnames
        -- the call names the role and does not take it
        rw [Call.eq_grantRole_of_namesRole hnames htakes]
      · exact ih hlasts

/-- A grant is forgotten if it is the last call, the account is no administrator, and no grant
lasts. -/
theorem forgetsGrant_iff : ForgetsGrant deployer calls role account ↔
    lastNamed calls role account = some (.grantRole role account) ∧
      ¬ AdminAfter deployer calls account ∧ ¬ GrantLasts deployer calls role account := by
  constructor
  · intro h
    refine ⟨h.granted, h.left, ?_⟩
    intro ⟨before, since, hsplit, hadmin, hlasts⟩
    exact hadmin (h.masked before since hsplit hlasts)
  · intro ⟨hgranted, hleft, hlasts⟩
    refine ⟨hgranted, hleft, fun before since hsplit hsince => ?_⟩
    by_contra hadmin
    exact hlasts ⟨before, since, hsplit, hadmin, hsince⟩

/-! ## One more transaction -/

@[simp] theorem committedCalls_nil : committedCalls dep w [] = [] := rfl

theorem committedCalls_concat_of_error {e : Error}
    (h : (w.run dep txs).exec dep tx = .error e) :
    committedCalls dep w (txs ++ [tx]) = committedCalls dep w txs := by
  unfold committedCalls
  rw [Run.committed_concat_of_error h]

theorem committedCalls_concat_of_ok (h : (w.run dep txs).exec dep tx = .ok w') :
    committedCalls dep w (txs ++ [tx]) = committedCalls dep w txs ++ [tx.call] := by
  unfold committedCalls
  rw [Run.committed_concat_of_ok h, List.map_append, List.map_singleton]

/-! ## The flag -/

/-- What administration makes of a flag. -/
private theorem Administers.flag_iff {s s' : Storage AccessControl.RoleFlags} {sender : Address}
    {call : Call} (h : Administers .flags s sender call s') :
    s'.roles role account = true ↔
      (call = .grantRole role account ∧ ¬ IsAdmin s account) ∨
        (s.roles role account = true ∧ ¬ call.TakesRole role account) := by
  cases h with
  | setScope | openRegistration | closeRegistration | setConfigId => simp [Call.TakesRole]
  | grantRole r a roles hroles =>
    obtain ⟨-, rfl⟩ := grantRole_flags_eq_ok.mp hroles
    simp only [grantFlag_eq_true, IsAdmin, hasRole_flags_admin, Call.TakesRole,
      Call.grantRole.injEq, reduceCtorEq, or_self, not_false_eq_true, and_true, Bool.not_eq_true]
    -- the flag is set if the account is no administrator; a grant takes no flag
    rw [or_comm]
    refine or_congr ?_ Iff.rfl
    constructor
    · intro ⟨hr, ha, hadmin⟩
      exact ⟨⟨hr.symm, ha.symm⟩, ha ▸ hadmin⟩
    · intro ⟨⟨hr, ha⟩, hadmin⟩
      exact ⟨hr.symm, ha.symm, ha ▸ hadmin⟩
  | revokeRole r a roles hroles =>
    obtain ⟨-, rfl⟩ := revokeRole_flags_eq_ok.mp hroles
    simp [revokeFlag_eq_true, Call.TakesRole, eq_comm (a := role), eq_comm (a := account)]
  | renounceRole r a roles hroles =>
    obtain ⟨-, rfl⟩ := renounceRole_flags_eq_ok.mp hroles
    simp [revokeFlag_eq_true, Call.TakesRole, eq_comm (a := role), eq_comm (a := account)]

/-- **What a transaction that commits makes of a flag**: it is set after a grant to an account
that is no administrator, and otherwise if it was set and is not taken away. -/
theorem flag_exec_iff (h : w.exec dep.packaged tx = .ok w') :
    w'.ruleSelf.roles role account = true ↔
      (tx.call = .grantRole role account ∧ ¬ IsAdmin w.ruleSelf account) ∨
        (w.ruleSelf.roles role account = true ∧ ¬ tx.call.TakesRole role account) := by
  cases hcall : tx.call.isAdministrative with
  | true => exact (World.exec_administers hcall h).flag_iff
  | false =>
    -- any other call leaves the roles as they are, and is neither a grant nor takes a role
    have hroles : w'.ruleSelf.roles = w.ruleSelf.roles := by
      rcases World.exec_registering hcall h with hsame | ⟨u, n, -, hregister⟩
      · rw [hsame]
      · rw [hregister]
        rfl
    have hgrant : tx.call ≠ .grantRole role account := by
      intro heq
      simp [heq, Call.isAdministrative] at hcall
    have htakes : ¬ tx.call.TakesRole role account := by
      intro heq
      rcases heq with heq | heq <;> simp [heq, Call.isAdministrative] at hcall
    simp [hroles, hgrant, htakes]

/-- **The calls tell who is an administrator**: an administrator who is granted the admin role has
its flag already, so no such grant is lost. -/
theorem isAdmin_iff_adminAfter {w : World AccessControl.RoleFlags}
    (hdeployed : ∀ account, IsAdmin w.ruleSelf account ↔ account = deployer)
    (txs : List Transaction) (account : Address) :
    IsAdmin (w.run dep.packaged txs).ruleSelf account ↔
      AdminAfter deployer (committedCalls dep.packaged w txs) account := by
  induction txs using List.reverseRecOn with
  | nil => exact hdeployed account
  | append_singleton txs tx ih =>
    cases hexec : (w.run dep.packaged txs).exec dep.packaged tx with
    | error e =>
      rw [World.run_concat_of_error hexec, committedCalls_concat_of_error hexec, ih]
    | ok w' =>
      rw [World.run_concat_of_ok hexec, committedCalls_concat_of_ok hexec, adminAfter_concat, ← ih]
      unfold IsAdmin
      rw [hasRole_flags_admin, hasRole_flags_admin, flag_exec_iff hexec, IsAdmin,
        hasRole_flags_admin]
      constructor
      · exact Or.imp_left And.left
      · rintro (hgrant | hstays)
        · -- a grant to an administrator sets no flag, and needs to set none
          by_cases hadmin : (w.run dep.packaged txs).ruleSelf.roles defaultAdminRole account = true
          · exact .inr ⟨hadmin, hgrant ▸ Call.not_takesRole_grantRole⟩
          · exact .inl ⟨hgrant, hadmin⟩
        · exact .inr hstays

/-- The flag is set after a run exactly when a grant lasts, if it was not set before. -/
theorem flag_iff_grantLasts {w : World AccessControl.RoleFlags}
    (hdeployed : ∀ account, IsAdmin w.ruleSelf account ↔ account = deployer)
    (hunset : w.ruleSelf.roles role account = false) (txs : List Transaction) :
    (w.run dep.packaged txs).ruleSelf.roles role account = true ↔
      GrantLasts deployer (committedCalls dep.packaged w txs) role account := by
  induction txs using List.reverseRecOn with
  | nil =>
    -- the empty run has no grant
    have hnone : ¬ GrantLasts deployer [] role account := by
      intro ⟨before, since, hsplit, _⟩
      simp at hsplit
    simp [World.run, hunset, hnone]
  | append_singleton txs tx ih =>
    cases hexec : (w.run dep.packaged txs).exec dep.packaged tx with
    | error e =>
      rw [World.run_concat_of_error hexec, committedCalls_concat_of_error hexec, ih]
    | ok w' =>
      rw [World.run_concat_of_ok hexec, committedCalls_concat_of_ok hexec, grantLasts_concat,
        flag_exec_iff hexec, ih, isAdmin_iff_adminAfter hdeployed]

/-! ## Grants that take effect -/

/-- An administrator who grants the role to the account finds that the account is no
administrator, or that it has the flag already. -/
def GrantsTakeEffect (dep : Deployment AccessControl.RoleFlags)
    (w : World AccessControl.RoleFlags) (txs : List Transaction) (role : Word)
    (account : Address) : Prop :=
  ∀ t tx, Run.StepOf (World.exec dep) w txs t tx → tx.call = .grantRole role account →
    IsAdmin t.ruleSelf tx.sender → IsAdmin t.ruleSelf account →
      t.ruleSelf.roles role account = true

theorem GrantsTakeEffect.of_append {txs' : List Transaction}
    (h : GrantsTakeEffect dep w (txs ++ txs') role account) :
    GrantsTakeEffect dep w txs role account :=
  fun t tx hstep => h t tx (hstep.append txs')

/-- Only administrators grant roles. -/
private theorem isAdmin_of_grantRole (hcall : tx.call = .grantRole role account)
    (h : w.exec dep.packaged tx = .ok w') : IsAdmin w.ruleSelf tx.sender := by
  have hadministers := World.exec_administers (by rw [hcall]; rfl) h
  rw [hcall] at hadministers
  generalize w'.ruleSelf = s' at hadministers
  cases hadministers with
  | grantRole _ _ roles hroles => exact (grantRole_flags_eq_ok.mp hroles).1

/-- Where grants take effect, the flag is set after a last call that is a grant. -/
theorem flag_of_lastNaming (hgrants : GrantsTakeEffect dep.packaged w txs role account)
    (hlast : lastNaming dep.packaged w txs role account = some (.grantRole role account)) :
    (w.run dep.packaged txs).ruleSelf.roles role account = true := by
  induction txs using List.reverseRecOn with
  | nil => simp [lastNaming, lastNamed] at hlast
  | append_singleton txs tx ih =>
    cases hexec : (w.run dep.packaged txs).exec dep.packaged tx with
    | error e =>
      rw [lastNaming, committedCalls_concat_of_error hexec] at hlast
      rw [World.run_concat_of_error hexec]
      exact ih hgrants.of_append hlast
    | ok w' =>
      rw [lastNaming, committedCalls_concat_of_ok hexec, lastNamed_concat] at hlast
      rw [World.run_concat_of_ok hexec, flag_exec_iff hexec]
      split at hlast
      · -- the last call is the grant: to no administrator, or to one that has the flag
        have hcall : tx.call = .grantRole role account := Option.some.inj hlast
        by_cases hadmin : IsAdmin (w.run dep.packaged txs).ruleSelf account
        · have hsender := isAdmin_of_grantRole hcall hexec
          have hflag := hgrants _ tx (Run.StepOf.last w txs tx) hcall hsender hadmin
          exact .inr ⟨hflag, hcall ▸ Call.not_takesRole_grantRole⟩
        · exact .inl ⟨hcall, hadmin⟩
      · rename_i hnames
        exact .inr ⟨ih hgrants.of_append hlast, fun htakes => hnames htakes.namesRole⟩

/-! ## Runs from the deployment -/

/-- The constructor sets the deployer's admin flag and no other. -/
private theorem flag_deploy (hub : IdentityVerificationHub.Storage) (registries : Registries)
    (hrole : role ≠ defaultAdminRole) :
    (World.deploy dep.packaged hub registries).ruleSelf.roles role account = false := by
  rw [← Bool.not_eq_true]
  intro hflag
  change grantFlag (hasRole .flags) (fun _ _ => false) defaultAdminRole dep.deployer role
    account = true at hflag
  rw [grantFlag_eq_true] at hflag
  rcases hflag with hfalse | ⟨heq, -⟩
  · exact Bool.false_ne_true hfalse
  · exact hrole heq

/-- The deployer is the one administrator. -/
private theorem isAdmin_deploy (hub : IdentityVerificationHub.Storage) (registries : Registries)
    (account : Address) :
    IsAdmin (World.deploy dep.packaged hub registries).ruleSelf account ↔
      account = dep.deployer := by
  have hflag : hasRole .flags (World.deploy dep.packaged hub registries).ruleSelf.roles
      defaultAdminRole account = grantFlag (hasRole .flags) (fun _ _ => false) defaultAdminRole
        dep.deployer defaultAdminRole account := hasRole_flags_admin
  unfold IsAdmin
  rw [hflag, grantFlag_eq_true]
  simp

/-- After a run from the deployment, the history determines the role exactly if no grant is
forgotten. -/
private theorem roleByHistory_iff (hub : IdentityVerificationHub.Storage)
    (registries : Registries) (hrole : role ≠ defaultAdminRole) (txs : List Transaction) :
    RoleByHistory dep.packaged (World.deploy dep.packaged hub registries) txs role account ↔
      ¬ ForgetsGrant dep.deployer
        (committedCalls dep.packaged (World.deploy dep.packaged hub registries) txs) role
        account := by
  let w := World.deploy dep.packaged hub registries
  let calls := committedCalls dep.packaged w txs
  have hadmin : IsAdmin (w.run dep.packaged txs).ruleSelf account ↔
      AdminAfter dep.deployer calls account :=
    isAdmin_iff_adminAfter (isAdmin_deploy hub registries) txs account
  have hflag : (w.run dep.packaged txs).ruleSelf.roles role account = true ↔
      GrantLasts dep.deployer calls role account :=
    flag_iff_grantLasts (isAdmin_deploy hub registries) (flag_deploy hub registries hrole) txs
  have hlast : GrantLasts dep.deployer calls role account →
      lastNamed calls role account = some (.grantRole role account) := lastNamed_of_grantLasts
  -- the role is had by an administrator, or by the flag, which is set where a grant lasts
  have hrole : hasRole .flags (w.run dep.packaged txs).ruleSelf.roles role account = true ↔
      AdminAfter dep.deployer calls account ∨ GrantLasts dep.deployer calls role account := by
    rw [hasRole_flags, ← hadmin, ← hflag, IsAdmin, hasRole_flags_admin]
  rw [forgetsGrant_iff, RoleByHistory, hrole, hadmin, lastNaming]
  tauto

/-- **The history of a role**: in every run from the deployment whose grants of a role to an
account take effect, the history of the role determines it in every state reached. In any run at
all it does so exactly if the calls of the run forget no grant. -/
theorem role_determined_by_history_iff (dep : Deployment AccessControl.RoleFlags)
    (hub : IdentityVerificationHub.Storage) (registries : Registries) (role : Word)
    (hrole : role ≠ defaultAdminRole) (account : Address) :
    (∀ txs, GrantsTakeEffect dep.packaged (World.deploy dep.packaged hub registries) txs role
        account →
      ∀ pre, pre <+: txs →
        RoleByHistory dep.packaged (World.deploy dep.packaged hub registries) pre role account) ∧
    ∀ txs,
      RoleByHistory dep.packaged (World.deploy dep.packaged hub registries) txs role account ↔
        ¬ ForgetsGrant dep.deployer
          (committedCalls dep.packaged (World.deploy dep.packaged hub registries) txs) role
          account := by
  refine ⟨fun txs hgrants pre hpre => ?_, roleByHistory_iff hub registries hrole⟩
  obtain ⟨rest, rfl⟩ := hpre
  rw [roleByHistory_iff hub registries hrole]
  intro hforgets
  -- the last call has set the flag, so the grant lasts
  have hflag := flag_of_lastNaming hgrants.of_append hforgets.granted
  have hlasts := (flag_iff_grantLasts (isAdmin_deploy hub registries)
    (flag_deploy hub registries hrole) pre).mp hflag
  exact (forgetsGrant_iff.mp hforgets).2.2 hlasts

/-- The history of role 1 for account 4. -/
theorem role_one_determined_by_history :
    (1 : Word) ≠ defaultAdminRole ∧
    RoleByHistory plainDeployment.packaged
      (World.deploy plainDeployment.packaged plainHub (openRegistries 0 0 0))
      [⟨newYear, 3, .grantRole 1 4⟩] 1 4 := by
  have hrole : (1 : Word) ≠ defaultAdminRole := by decide
  refine ⟨hrole, ?_⟩
  refine (role_determined_by_history_iff plainDeployment plainHub
    (openRegistries 0 0 0) 1 hrole 4).1 [⟨newYear, 3, .grantRole 1 4⟩] ?_ _ List.prefix_rfl
  -- account 4 is no administrator when it is granted the role
  intro t tx ⟨before, since, hsplit, ht⟩ _ _ hadmin
  cases before with
  | nil =>
    subst ht
    exact absurd hadmin Bool.false_ne_true
  | cons x before => simp at hsplit

/-- The deployer grants itself role 1, which sets no flag, and gives up the admin role: the last
call that named role 1 granted it, and yet the deployer does not have it. -/
theorem not_role_determined_by_history :
    ¬ RoleByHistory plainDeployment.packaged
      (World.deploy plainDeployment.packaged plainHub (openRegistries 0 0 0))
      [⟨newYear, 3, .grantRole 1 3⟩, ⟨newYear, 3, .renounceRole 0 3⟩] 1 3 := by
  intro h
  have hgranted : lastNaming plainDeployment.packaged
      (World.deploy plainDeployment.packaged plainHub (openRegistries 0 0 0))
      [⟨newYear, 3, .grantRole 1 3⟩, ⟨newYear, 3, .renounceRole 0 3⟩] 1 3 =
      some (.grantRole 1 3) := rfl
  have hhas := h.mpr (.inr hgranted)
  exact Bool.false_ne_true hhas

end RuleSelf
