import RuleSelf.Contract.TransferRule
import RuleSelf.Library.Run

/-!
# The Deployed System

RuleSelf and the hub it was constructed with, and the transactions anybody can send
to either of them. A transaction that reverts changes nothing; the runs of the
system are those of `Run.run`. `Effect` says once what a committed transaction can do
to RuleSelf, and every invariant is derived from it.
-/

namespace RuleSelf

open Evm Revert SelfStructs

/-! ## Transactions -/

/-- What a deployment fixes: the code outside the repository, the addresses of the
two contracts, and the arguments of RuleSelf's constructor. -/
structure Deployment (Roles : Type) where
  oracles : Oracles
  access : AccessControl Roles
  hub : Address
  ruleSelf : Address
  deployer : Address
  configId : Word
  scope : Word

/-- The storage of the two contracts, and of the registries the hub consults. -/
structure World (Roles : Type) where
  ruleSelf : Storage Roles
  hub : IdentityVerificationHub.Storage
  registries : Registries

/-- The calls of a transaction. -/
inductive Call where
  -- RuleSelf
  | setScope (newScope : Word)
  | openRegistration
  | closeRegistration
  | setConfigId (configId : Word)
  | grantRole (role : Word) (account : Address)
  | revokeRole (role : Word) (account : Address)
  | renounceRole (role : Word) (callerConfirmation : Address)
  | verifySelfProof (proofPayload userContextData : Bytes)
  | onVerificationSuccess (output userData : Bytes)
  -- the hub
  | setVerificationConfigV2 (config : VerificationConfigV2)
  | verify (baseVerificationInput userContextData : Bytes)
  /-- Whatever the owners of the hub and of the registries update. -/
  | environment (registries : Registries) (hubRegistries discloseVerifiers : Word → Address)

/-- A call, by an account, in a block. -/
structure Transaction where
  block : Block
  sender : Address
  call : Call

namespace World

variable {Roles : Type}

/-- RuleSelf just constructed, next to a hub and registries in any state. -/
def deploy (dep : Deployment Roles) (hub : IdentityVerificationHub.Storage)
    (registries : Registries) : World Roles where
  ruleSelf := RuleSelf.deploy dep.access dep.deployer dep.configId dep.scope
  hub := hub
  registries := registries

/-- The hub's `verify` in the current state. -/
def hubVerify (dep : Deployment Roles) (block : Block) (w : World Roles) :
    Bytes → Bytes → Except Error IdentityVerificationHub.Callback :=
  IdentityVerificationHub.verify dep.oracles w.registries block w.hub

/-- The world after a call of RuleSelf. -/
def onRuleSelf (w : World Roles) (s : Except Error (Storage Roles)) :
    Except Error (World Roles) := do
  let s ← s
  return { w with ruleSelf := s }

/-- Executes a transaction. -/
def exec (dep : Deployment Roles) (w : World Roles) (tx : Transaction) :
    Except Error (World Roles) :=
  match tx.call with
  | .setScope newScope => w.onRuleSelf (setScope dep.access tx.sender newScope w.ruleSelf)
  | .openRegistration => w.onRuleSelf (openRegistration dep.access tx.sender w.ruleSelf)
  | .closeRegistration => w.onRuleSelf (closeRegistration dep.access tx.sender w.ruleSelf)
  | .setConfigId configId => w.onRuleSelf (setConfigId dep.access tx.sender configId w.ruleSelf)
  | .grantRole role account =>
    w.onRuleSelf (grantRole dep.access tx.sender role account w.ruleSelf)
  | .revokeRole role account =>
    w.onRuleSelf (revokeRole dep.access tx.sender role account w.ruleSelf)
  | .renounceRole role callerConfirmation =>
    w.onRuleSelf (renounceRole dep.access tx.sender role callerConfirmation w.ruleSelf)
  | .verifySelfProof proofPayload userContextData =>
    w.onRuleSelf (verifySelfProof (w.hubVerify dep tx.block) dep.hub proofPayload
      userContextData w.ruleSelf)
  | .onVerificationSuccess output userData =>
    w.onRuleSelf (onVerificationSuccess dep.hub tx.sender output userData w.ruleSelf)
  | .setVerificationConfigV2 config =>
    .ok { w with hub :=
      IdentityVerificationHub.setVerificationConfigV2 dep.oracles config w.hub }
  | .verify baseVerificationInput userContextData => do
    let callback ← w.hubVerify dep tx.block baseVerificationInput userContextData
    -- the hub calls its caller back; what another contract does then is its own calls
    if tx.sender = dep.ruleSelf then
      w.onRuleSelf (onVerificationSuccess dep.hub dep.hub callback.output callback.userData
        w.ruleSelf)
    else .ok w
  | .environment registries hubRegistries discloseVerifiers =>
    .ok { w with
      hub := { w.hub with registries := hubRegistries, discloseVerifiers := discloseVerifiers }
      registries := registries }

/-- The world after user identifier `u` has been registered with nullifier `n`. -/
def register (w : World Roles) (u n : Word) : World Roles :=
  { w with ruleSelf := RuleSelf.register u n w.ruleSelf }

@[simp] theorem ruleSelf_register (w : World Roles) (u n : Word) :
    (w.register u n).ruleSelf = RuleSelf.register u n w.ruleSelf := rfl

/-- The world after a list of transactions, reverting ones included. -/
def run (dep : Deployment Roles) (w : World Roles) (txs : List Transaction) : World Roles :=
  Run.run (exec dep) w txs

end World

/-! ## Effects -/

/-- What a committed transaction can do to the storage of RuleSelf without registering
anybody. -/
inductive Maintenance {Roles : Type} (s : Storage Roles) : Storage Roles → Prop where
  | none : Maintenance s s
  | setScope (newScope : Word) :
    Maintenance s { s with scope := newScope, events := s.events ++ [.scopeUpdated newScope] }
  | openRegistration : Maintenance s
      { s with isRegistrationOpen := true, events := s.events ++ [.registrationOpen] }
  | closeRegistration : Maintenance s
      { s with isRegistrationOpen := false, events := s.events ++ [.registrationClose] }
  | setConfigId (configId : Word) : Maintenance s { s with configId := configId }
  | setRoles (roles : Roles) : Maintenance s { s with roles := roles }

/-- What the administration of RuleSelf does to its storage, call by call, and who may ask
for it. -/
inductive Administers {Roles : Type} (ac : AccessControl Roles) (s : Storage Roles)
    (sender : Address) : Call → Storage Roles → Prop where
  | setScope (newScope : Word) (h : hasRole ac s.roles defaultAdminRole sender = true) :
    Administers ac s sender (.setScope newScope)
      { s with scope := newScope, events := s.events ++ [.scopeUpdated newScope] }
  | openRegistration (h : hasRole ac s.roles defaultAdminRole sender = true) :
    Administers ac s sender .openRegistration
      { s with isRegistrationOpen := true, events := s.events ++ [.registrationOpen] }
  | closeRegistration (h : hasRole ac s.roles defaultAdminRole sender = true) :
    Administers ac s sender .closeRegistration
      { s with isRegistrationOpen := false, events := s.events ++ [.registrationClose] }
  | setConfigId (configId : Word) (h : hasRole ac s.roles defaultAdminRole sender = true) :
    Administers ac s sender (.setConfigId configId) { s with configId := configId }
  | grantRole (role : Word) (account : Address) (roles : Roles)
      (h : ac.grantRole (hasRole ac) s.roles sender role account = .ok roles) :
    Administers ac s sender (.grantRole role account) { s with roles := roles }
  | revokeRole (role : Word) (account : Address) (roles : Roles)
      (h : ac.revokeRole (hasRole ac) s.roles sender role account = .ok roles) :
    Administers ac s sender (.revokeRole role account) { s with roles := roles }
  | renounceRole (role : Word) (callerConfirmation : Address) (roles : Roles)
      (h : ac.renounceRole (hasRole ac) s.roles sender role callerConfirmation = .ok roles) :
    Administers ac s sender (.renounceRole role callerConfirmation) { s with roles := roles }

/-- Administration registers nobody. -/
theorem Administers.maintenance {Roles : Type} {ac : AccessControl Roles} {s s' : Storage Roles}
    {sender : Address} {call : Call} (h : Administers ac s sender call s') :
    Maintenance s s' := by
  cases h with
  | setScope newScope => exact .setScope newScope
  | openRegistration => exact .openRegistration
  | closeRegistration => exact .closeRegistration
  | setConfigId configId => exact .setConfigId configId
  | grantRole _ _ roles | revokeRole _ _ roles | renounceRole _ _ roles => exact .setRoles roles

/-- The functions of RuleSelf that administer it. -/
def Call.isAdministrative : Call → Bool
  | .setScope _ | .openRegistration | .closeRegistration | .setConfigId _ => true
  | .grantRole _ _ | .revokeRole _ _ | .renounceRole _ _ => true
  | .verifySelfProof _ _ | .onVerificationSuccess _ _ => false
  | .setVerificationConfigV2 _ | .verify _ _ | .environment _ _ _ => false

theorem Administers.isAdministrative {Roles : Type} {ac : AccessControl Roles}
    {s s' : Storage Roles} {sender : Address} {call : Call}
    (h : Administers ac s sender call s') : call.isAdministrative = true := by
  cases h <;> rfl

/-- What a committed transaction can do to the storage of RuleSelf. -/
inductive Effect {Roles : Type} (s : Storage Roles) : Storage Roles → Prop where
  | maintain {s' : Storage Roles} (h : Maintenance s s') : Effect s s'
  | register (u n : Word) (h : CanRegister s u n) : Effect s (register u n s)

/-- Maintenance leaves the two maps of the registry as they are. -/
theorem Maintenance.registry_eq {Roles : Type} {s s' : Storage Roles} (h : Maintenance s s') :
    s'.nullifierToUserIdentifier = s.nullifierToUserIdentifier ∧
      s'.registeredUserIdentifiers = s.registeredUserIdentifiers := by
  cases h <;> exact ⟨rfl, rfl⟩

/-- A transaction that is neither a callback sent by the hub nor a verification asked for
by RuleSelf: the two contracts send these in the course of `verifySelfProof` only. -/
def Transaction.External {Roles : Type} (dep : Deployment Roles) (tx : Transaction) : Prop :=
  match tx.call with
  | .onVerificationSuccess _ _ => tx.sender ≠ dep.hub
  | .verify _ _ => tx.sender ≠ dep.ruleSelf
  | _ => True

namespace World

variable {Roles : Type} {dep : Deployment Roles} {w w' : World Roles} {tx : Transaction}

theorem onRuleSelf_eq_ok {s : Except Error (Storage Roles)} :
    w.onRuleSelf s = .ok w' ↔ ∃ s', s = .ok s' ∧ { w with ruleSelf := s' } = w' := by
  unfold onRuleSelf
  simp only [bind_eq_ok, pure_eq_ok]

/-- **One administrative transaction**: whatever commits is what its call does, asked for by
somebody who may. -/
theorem exec_administers (hcall : tx.call.isAdministrative = true) (h : exec dep w tx = .ok w') :
    Administers dep.access w.ruleSelf tx.sender tx.call w'.ruleSelf := by
  obtain ⟨block, sender, call⟩ := tx
  -- seven functions of administration, each behind its own check; no other call is administrative
  cases call with
  | setScope newScope =>
    obtain ⟨s', hs, rfl⟩ := onRuleSelf_eq_ok.mp h
    obtain ⟨hadmin, rfl⟩ := onlyAdmin_bind_eq_ok.mp hs
    exact .setScope newScope hadmin
  | openRegistration =>
    obtain ⟨s', hs, rfl⟩ := onRuleSelf_eq_ok.mp h
    obtain ⟨hadmin, rfl⟩ := onlyAdmin_bind_eq_ok.mp hs
    exact .openRegistration hadmin
  | closeRegistration =>
    obtain ⟨s', hs, rfl⟩ := onRuleSelf_eq_ok.mp h
    obtain ⟨hadmin, rfl⟩ := onlyAdmin_bind_eq_ok.mp hs
    exact .closeRegistration hadmin
  | setConfigId configId =>
    obtain ⟨s', hs, rfl⟩ := onRuleSelf_eq_ok.mp h
    obtain ⟨hadmin, rfl⟩ := onlyAdmin_bind_eq_ok.mp hs
    exact .setConfigId configId hadmin
  | grantRole role account =>
    obtain ⟨s', hs, rfl⟩ := onRuleSelf_eq_ok.mp h
    obtain ⟨roles, hroles, rfl⟩ := setRoles_eq_ok.mp hs
    exact .grantRole role account roles hroles
  | revokeRole role account =>
    obtain ⟨s', hs, rfl⟩ := onRuleSelf_eq_ok.mp h
    obtain ⟨roles, hroles, rfl⟩ := setRoles_eq_ok.mp hs
    exact .revokeRole role account roles hroles
  | renounceRole role callerConfirmation =>
    obtain ⟨s', hs, rfl⟩ := onRuleSelf_eq_ok.mp h
    obtain ⟨roles, hroles, rfl⟩ := setRoles_eq_ok.mp hs
    exact .renounceRole role callerConfirmation roles hroles
  | verifySelfProof | onVerificationSuccess | setVerificationConfigV2 | verify | environment =>
    exact absurd hcall Bool.false_ne_true

/-- **One transaction**: whatever commits administers RuleSelf, leaves it as it is, is a
`verifySelfProof`, or is a callback that no external transaction makes. -/
theorem exec_inversion (h : exec dep w tx = .ok w') :
    Administers dep.access w.ruleSelf tx.sender tx.call w'.ruleSelf ∨
    (tx.call.isAdministrative = false ∧ w'.ruleSelf = w.ruleSelf) ∨
    (∃ proofPayload userContextData s',
      tx.call = .verifySelfProof proofPayload userContextData ∧
      verifySelfProof (w.hubVerify dep tx.block) dep.hub proofPayload userContextData
        w.ruleSelf = .ok s' ∧ w' = { w with ruleSelf := s' }) ∨
    (¬ tx.External dep ∧ ∃ sender output userData s',
      RuleSelf.onVerificationSuccess dep.hub sender output userData w.ruleSelf = .ok s' ∧
        w' = { w with ruleSelf := s' }) := by
  by_cases hcall : tx.call.isAdministrative = true
  · exact .inl (exec_administers hcall h)
  right
  obtain ⟨block, sender, call⟩ := tx
  cases call with
  | verifySelfProof proofPayload userContextData =>
    obtain ⟨s', hs, rfl⟩ := onRuleSelf_eq_ok.mp h
    exact .inr (.inl ⟨_, _, s', rfl, hs, rfl⟩)
  | onVerificationSuccess output userData =>
    obtain ⟨s', hs, rfl⟩ := onRuleSelf_eq_ok.mp h
    -- only the hub may call back, and what accounts send is not from the hub
    have hsender := (onVerificationSuccess_eq_ok.mp hs).1
    exact .inr (.inr ⟨fun hext => hext hsender, _, _, _, s', hs, rfl⟩)
  | setVerificationConfigV2 config =>
    cases h
    exact .inl ⟨rfl, rfl⟩
  | verify baseVerificationInput userContextData =>
    unfold exec at h
    rw [bind_eq_ok] at h
    obtain ⟨callback, -, hcallback⟩ := h
    -- the callback reaches RuleSelf only when RuleSelf is the caller
    split at hcallback
    · rename_i hsender
      obtain ⟨s', hs, rfl⟩ := onRuleSelf_eq_ok.mp hcallback
      exact .inr (.inr ⟨fun hext => hext hsender, _, _, _, s', hs, rfl⟩)
    · cases hcallback
      exact .inl ⟨rfl, rfl⟩
  | environment registries hubRegistries discloseVerifiers =>
    cases h
    exact .inl ⟨rfl, rfl⟩
  | setScope | openRegistration | closeRegistration | setConfigId | grantRole | revokeRole
  | renounceRole => exact absurd rfl hcall

/-- Whatever commits is maintenance, a `verifySelfProof`, or a callback that no external
transaction makes. -/
theorem exec_cases (h : exec dep w tx = .ok w') :
    Maintenance w.ruleSelf w'.ruleSelf ∨
    (∃ proofPayload userContextData s',
      tx.call = .verifySelfProof proofPayload userContextData ∧
      verifySelfProof (w.hubVerify dep tx.block) dep.hub proofPayload userContextData
        w.ruleSelf = .ok s' ∧ w' = { w with ruleSelf := s' }) ∨
    (¬ tx.External dep ∧ ∃ sender output userData s',
      RuleSelf.onVerificationSuccess dep.hub sender output userData w.ruleSelf = .ok s' ∧
        w' = { w with ruleSelf := s' }) := by
  rcases exec_inversion h with hadministers | ⟨-, hsame⟩ | hregisters
  · exact .inl hadministers.maintenance
  · rw [hsame]
    exact .inl .none
  · exact .inr hregisters

/-- **Any other transaction**: whatever commits leaves RuleSelf as it is, or registers a pair
that can be registered. -/
theorem exec_registering (hcall : tx.call.isAdministrative = false)
    (h : exec dep w tx = .ok w') : w'.ruleSelf = w.ruleSelf ∨
      ∃ u n, CanRegister w.ruleSelf u n ∧ w'.ruleSelf = RuleSelf.register u n w.ruleSelf := by
  rcases exec_inversion h with hadministers | ⟨-, hsame⟩ | ⟨_, _, s', -, hs, rfl⟩ |
    ⟨-, _, _, _, s', hs, rfl⟩
  · simp [hadministers.isAdministrative] at hcall
  · exact .inl hsame
  · -- the call leads to a callback, which registers
    obtain ⟨-, -, callback, -, hcallback⟩ := verifySelfProof_eq_ok.mp hs
    obtain ⟨-, out, -, hcan, hregister⟩ := onVerificationSuccess_eq_ok.mp hcallback
    exact .inr ⟨_, _, hcan, hregister⟩
  · obtain ⟨-, out, -, hcan, hregister⟩ := onVerificationSuccess_eq_ok.mp hs
    exact .inr ⟨_, _, hcan, hregister⟩

/-- Whatever commits has one of the effects. -/
theorem exec_effect (h : exec dep w tx = .ok w') : Effect w.ruleSelf w'.ruleSelf := by
  cases hcall : tx.call.isAdministrative with
  | true => exact .maintain (exec_administers hcall h).maintenance
  | false =>
    rcases exec_registering hcall h with hsame | ⟨u, n, hcan, hregister⟩
    · rw [hsame]
      exact .maintain .none
    · rw [hregister]
      exact .register u n hcan

theorem run_append (dep : Deployment Roles) (w : World Roles) (txs txs' : List Transaction) :
    w.run dep (txs ++ txs') = (w.run dep txs).run dep txs' :=
  Run.run_append ..

theorem run_concat_of_ok {txs : List Transaction} (h : (w.run dep txs).exec dep tx = .ok w') :
    w.run dep (txs ++ [tx]) = w' :=
  (Run.run_concat ..).trans (Run.step_of_ok h)

theorem run_concat_of_error {txs : List Transaction} {e : Error}
    (h : (w.run dep txs).exec dep tx = .error e) :
    w.run dep (txs ++ [tx]) = w.run dep txs :=
  (Run.run_concat ..).trans (Run.step_of_error h)

/-- **Invariants over runs**: what every effect preserves holds after every run. -/
theorem run_invariant {I : Storage Roles → Prop}
    (hstep : ∀ s s', I s → Effect s s' → I s')
    (hs : I w.ruleSelf) (txs : List Transaction) : I (run dep w txs).ruleSelf := by
  unfold run
  -- every committed transaction has an effect
  refine Run.run_invariant (A := fun _ => True) (I := fun w : World Roles => I w.ruleSelf) ?_ hs
    fun _ _ => trivial
  intro w tx w' _ hw h
  exact hstep _ _ hw (exec_effect h)

end World

end RuleSelf
