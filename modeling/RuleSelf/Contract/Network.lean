import RuleSelf.Contract.System
import RuleSelf.Self.HubRegistration
import RuleSelf.Self.RegistryLedger

/-!
# The Network

RuleSelf, the hub and the identity registries, each with everything it stores, and the
transactions anybody can send to any of them. Where the deployed system takes what the
owners of the hub and of the registries do as given, the network has the functions they
call. A run of the network is one of the deployed system, so what holds of every run of
the one holds of every run of the other.
-/

namespace RuleSelf

open Evm Revert

variable {Roles Owners Tree : Type}

/-! ## Transactions -/

/-- What an installation fixes besides the deployment of RuleSelf: the code outside the
repository, and the addresses at which there are registries. -/
structure Installation (Roles Owners Tree : Type) extends Deployment Roles where
  registrationOracles : RegistrationOracles
  ownable : Ownable2Step Owners
  imt : LeanIMT Tree
  implementation : Address → Option Implementation

/-- The storage of all contracts. -/
structure Network (Roles Owners Tree : Type) where
  ruleSelf : Storage Roles
  hub : IdentityVerificationHub.FullStorage Owners
  registries : Address → IdentityRegistry.Storage Owners Tree

/-- Whether a call of the deployed system stands for what the owners do. -/
def Call.isEnvironment : Call → Bool
  | .environment _ _ _ => true
  | _ => false

/-- The calls of a transaction. -/
inductive NetworkCall where
  /-- A function of RuleSelf, or of the hub's verification. -/
  | contract (call : Call) (h : call.isEnvironment = false)
  -- the hub
  | registerCommitment (attestationId registerCircuitVerifierId : Word)
      (proof : RegisterCircuitProof)
  | registerDscKeyCommitment (attestationId dscCircuitVerifierId : Word) (proof : DscCircuitProof)
  | admin (call : IdentityVerificationHub.AdminCall)
  -- a registry
  | registry (address : Address) (call : IdentityRegistry.Call)

/-- A call, by an account, in a block. -/
structure NetworkTransaction where
  block : Block
  sender : Address
  call : NetworkCall

namespace Network

/-- RuleSelf just constructed, next to a hub and registries nobody has initialized. -/
def deploy (inst : Installation Roles Owners Tree) : Network Roles Owners Tree where
  ruleSelf := RuleSelf.deploy inst.access inst.deployer inst.configId inst.scope
  hub := {
    registries := fun _ => 0
    discloseVerifiers := fun _ => 0
    v2VerificationConfigs := fun _ => ⟨false, 0, false, fun _ => 0, fun _ => false⟩
    implRoot := ImplRoot.uninitialized inst.ownable
    registerCircuitVerifiers := fun _ _ => 0
    dscCircuitVerifiers := fun _ _ => 0 }
  registries _ := IdentityRegistry.blank inst.imt inst.ownable

/-- What the deployed system is made of. -/
def world (n : Network Roles Owners Tree) : World Roles where
  ruleSelf := n.ruleSelf
  hub := n.hub.toStorage
  registries := {
    passport := fun address => (n.registries address).toPassport
    idCard := fun address => (n.registries address).toIdCard }

/-- The network after a call of RuleSelf or of the hub's verification. -/
def withWorld (n : Network Roles Owners Tree) (w : World Roles) : Network Roles Owners Tree :=
  { n with
    ruleSelf := w.ruleSelf
    hub := { n.hub with toStorage := w.hub } }

/-- The registry at an address. -/
def registryAt (inst : Installation Roles Owners Tree) (n : Network Roles Owners Tree)
    (address : Address) : Except RegistrationError (IdentityRegistry.Storage Owners Tree) :=
  match inst.implementation address with
  | some _ => .ok (n.registries address)
  | none => .error .noFunction

/-- A call of the registry at an address. -/
def callRegistry (inst : Installation Roles Owners Tree) (ctx : IdentityRegistry.Context)
    (address : Address) (call : IdentityRegistry.Call) (n : Network Roles Owners Tree) :
    Except RegistrationError (Network Roles Owners Tree) := do
  let impl ← orRevert (inst.implementation address) .noFunction
  let s ← IdentityRegistry.exec inst.imt inst.ownable impl ctx call (n.registries address)
  return { n with registries := Function.update n.registries address s }

/-- The hub's call of a registry. -/
def callFromHub (inst : Installation Roles Owners Tree) (block : Block)
    (call : IdentityVerificationHub.RegistryCall) (n : Network Roles Owners Tree) :
    Except RegistrationError (Network Roles Owners Tree) :=
  n.callRegistry inst ⟨inst.hub, block.timestamp⟩ call.registry call.call

/-- Executes a transaction. -/
def exec (inst : Installation Roles Owners Tree) (n : Network Roles Owners Tree)
    (tx : NetworkTransaction) : Except RegistrationError (Network Roles Owners Tree) :=
  match tx.call with
  | .contract call _ =>
    match n.world.exec inst.toDeployment ⟨tx.block, tx.sender, call⟩ with
    | .ok w => .ok (n.withWorld w)
    | .error e => .error (.verification e)
  | .registerCommitment attestationId registerCircuitVerifierId proof => do
    let call ← IdentityVerificationHub.registerCommitment inst.imt inst.registrationOracles
      (n.registryAt inst) attestationId registerCircuitVerifierId proof n.hub
    n.callFromHub inst tx.block call
  | .registerDscKeyCommitment attestationId dscCircuitVerifierId proof => do
    let call ← IdentityVerificationHub.registerDscKeyCommitment inst.registrationOracles
      (n.registryAt inst) attestationId dscCircuitVerifierId proof n.hub
    n.callFromHub inst tx.block call
  | .admin call => do
    let hub ← IdentityVerificationHub.execAdmin inst.ownable tx.sender call n.hub
    return { n with hub }
  | .registry address call => n.callRegistry inst ⟨tx.sender, tx.block.timestamp⟩ address call

/-- The network after a list of transactions, reverting ones included. -/
def run (inst : Installation Roles Owners Tree) (n : Network Roles Owners Tree)
    (txs : List NetworkTransaction) : Network Roles Owners Tree :=
  Run.run (exec inst) n txs

end Network

/-- A transaction an account sends, not one of the two contracts: they call each other, and
the hub calls a registry, in the course of the transactions above only. -/
def NetworkTransaction.External (dep : Deployment Roles) (tx : NetworkTransaction) : Prop :=
  tx.sender ≠ dep.hub ∧ tx.sender ≠ dep.ruleSelf

namespace Network

variable {inst : Installation Roles Owners Tree} {n n' : Network Roles Owners Tree}
  {tx : NetworkTransaction}

/-! ## Steps -/

theorem registryAt_eq_ok {address : Address} {s : IdentityRegistry.Storage Owners Tree} :
    n.registryAt inst address = .ok s ↔
      (∃ impl, inst.implementation address = some impl) ∧ n.registries address = s := by
  unfold registryAt
  cases inst.implementation address <;> simp

/-- A call of the deployed system commits in the network when it commits there. -/
theorem exec_contract {block : Block} {sender : Address} {call : Call}
    (hcall : call.isEnvironment = false) {w : World Roles}
    (h : n.world.exec inst.toDeployment ⟨block, sender, call⟩ = .ok w) :
    exec inst n ⟨block, sender, .contract call hcall⟩ = .ok (n.withWorld w) := by
  simp [exec, h]

/-- A committed call of the registry at an address. -/
structure CallsRegistry (inst : Installation Roles Owners Tree) (n : Network Roles Owners Tree)
    (ctx : IdentityRegistry.Context) (address : Address) (call : IdentityRegistry.Call)
    (n' : Network Roles Owners Tree) where
  impl : Implementation
  after : IdentityRegistry.Storage Owners Tree
  implementation : inst.implementation address = some impl
  exec : IdentityRegistry.exec inst.imt inst.ownable impl ctx call (n.registries address) =
    .ok after
  result : n' = { n with registries := Function.update n.registries address after }

theorem callRegistry_eq_ok {ctx : IdentityRegistry.Context} {address : Address}
    {call : IdentityRegistry.Call} (h : n.callRegistry inst ctx address call = .ok n') :
    Nonempty (CallsRegistry inst n ctx address call n') := by
  unfold callRegistry at h
  obtain ⟨impl, himpl, h⟩ := bind_eq_ok.mp h
  obtain ⟨s, hs, h⟩ := bind_eq_ok.mp h
  cases h
  exact ⟨⟨impl, s, orRevert_eq_ok.mp himpl, hs, rfl⟩⟩

/-- Where a call of a registry comes from: its sender sends it, or it registers, through the
hub, what a proof the hub has verified is about. -/
inductive Origin (inst : Installation Roles Owners Tree) (n : Network Roles Owners Tree)
    (tx : NetworkTransaction) : Address → Address → IdentityRegistry.Call → Prop where
  | direct (address : Address) (call : IdentityRegistry.Call)
      (h : tx.call = .registry address call) : Origin inst n tx tx.sender address call
  | commitment (attestationId verifierId : Word) (proof : RegisterCircuitProof)
      (h : tx.call = .registerCommitment attestationId verifierId proof)
      (hverifier : n.hub.registerCircuitVerifiers attestationId verifierId ≠ 0)
      (hroot : inst.imt.root (n.registries (n.hub.registries attestationId)).dscKeyCommitmentIMT =
        proof.merkleRoot)
      (hproof : inst.registrationOracles.verifyRegisterProof
        (n.hub.registerCircuitVerifiers attestationId verifierId) proof = true) :
    Origin inst n tx inst.hub (n.hub.registries attestationId)
      (.registerCommitment attestationId proof.nullifier proof.commitment)
  | dscKeyCommitment (attestationId verifierId : Word) (proof : DscCircuitProof)
      (h : tx.call = .registerDscKeyCommitment attestationId verifierId proof)
      (hverifier : n.hub.dscCircuitVerifiers attestationId verifierId ≠ 0)
      (hroot : (n.registries (n.hub.registries attestationId)).cscaRoot = proof.cscaRoot)
      (hproof : inst.registrationOracles.verifyDscProof
        (n.hub.dscCircuitVerifiers attestationId verifierId) proof = true) :
    Origin inst n tx inst.hub (n.hub.registries attestationId)
      (.registerDscKeyCommitment proof.treeLeaf)

/-- **One transaction**: whatever commits is a call of the deployed system, the hub's
administration, or one call of one registry. -/
theorem exec_cases (h : exec inst n tx = .ok n') :
    (∃ call hcall w, tx.call = .contract call hcall ∧
      n.world.exec inst.toDeployment ⟨tx.block, tx.sender, call⟩ = .ok w ∧ n' = n.withWorld w) ∨
    (∃ call hub, tx.call = .admin call ∧
      IdentityVerificationHub.execAdmin inst.ownable tx.sender call n.hub = .ok hub ∧
      n' = { n with hub }) ∨
    ∃ sender address call, Origin inst n tx sender address call ∧
      Nonempty (CallsRegistry inst n ⟨sender, tx.block.timestamp⟩ address call n') := by
  obtain ⟨block, sender, call⟩ := tx
  cases call with
  | contract call hcall =>
    -- a call of the contracts is executed in the world, and reverts when it does
    unfold exec at h
    cases hw : n.world.exec inst.toDeployment ⟨block, sender, call⟩ with
    | error e => simp [hw] at h
    | ok w =>
      simp only [hw, Except.ok.injEq] at h
      exact .inl ⟨call, hcall, w, rfl, hw, h.symm⟩
  | admin call =>
    obtain ⟨hub, hhub, h⟩ := bind_eq_ok.mp h
    cases h
    exact .inr (.inl ⟨call, hub, rfl, hhub, rfl⟩)
  | registerCommitment attestationId verifierId proof =>
    obtain ⟨call, hcall, h⟩ := bind_eq_ok.mp h
    obtain ⟨⟨hverifier, ⟨registry, hregistry, hroot⟩, hproof⟩, rfl⟩ :=
      IdentityVerificationHub.registerCommitment_eq_ok.mp hcall
    -- the registry that is called is the one the hub has under the attestation id
    obtain ⟨-, hat⟩ := IdentityVerificationHub.registryOf_eq_ok.mp hregistry
    obtain ⟨-, rfl⟩ := registryAt_eq_ok.mp hat
    exact .inr (.inr ⟨_, _, _,
      .commitment attestationId verifierId proof rfl hverifier hroot hproof,
      callRegistry_eq_ok h⟩)
  | registerDscKeyCommitment attestationId verifierId proof =>
    obtain ⟨call, hcall, h⟩ := bind_eq_ok.mp h
    obtain ⟨⟨hverifier, ⟨registry, hregistry, hroot⟩, hproof⟩, rfl⟩ :=
      IdentityVerificationHub.registerDscKeyCommitment_eq_ok.mp hcall
    obtain ⟨-, hat⟩ := IdentityVerificationHub.registryOf_eq_ok.mp hregistry
    obtain ⟨-, rfl⟩ := registryAt_eq_ok.mp hat
    exact .inr (.inr ⟨_, _, _,
      .dscKeyCommitment attestationId verifierId proof rfl hverifier hroot hproof,
      callRegistry_eq_ok h⟩)
  | registry address call =>
    exact .inr (.inr ⟨_, _, _, .direct address call rfl, callRegistry_eq_ok h⟩)

/-! ## The registries -/

/-- A call of the deployed system writes RuleSelf's storage and the hub's configs only. -/
theorem world_exec_frame {dep : Deployment Roles} {w w' : World Roles} {t : Transaction}
    (hcall : t.call.isEnvironment = false) (h : w.exec dep t = .ok w') :
    w'.registries = w.registries ∧ w'.hub.registries = w.hub.registries ∧
      w'.hub.discloseVerifiers = w.hub.discloseVerifiers := by
  -- what RuleSelf makes of its own storage changes nothing of the others
  have honRuleSelf {s : Except Error (Storage Roles)} (h : w.onRuleSelf s = .ok w') :
      w'.registries = w.registries ∧ w'.hub.registries = w.hub.registries ∧
        w'.hub.discloseVerifiers = w.hub.discloseVerifiers := by
    obtain ⟨_, -, rfl⟩ := World.onRuleSelf_eq_ok.mp h
    exact ⟨rfl, rfl, rfl⟩
  obtain ⟨block, sender, call⟩ := t
  cases call with
  | environment => simp [Call.isEnvironment] at hcall
  | setVerificationConfigV2 config =>
    cases h
    exact ⟨rfl, rfl, rfl⟩
  | verify baseVerificationInput userContextData =>
    obtain ⟨callback, -, h⟩ := bind_eq_ok.mp h
    -- the callback, if there is one, is made on RuleSelf
    split at h
    · exact honRuleSelf h
    · cases h
      exact ⟨rfl, rfl, rfl⟩
  | setScope | openRegistration | closeRegistration | setConfigId | grantRole | revokeRole
  | renounceRole | verifySelfProof | onVerificationSuccess => exact honRuleSelf h

/-- **One transaction, at one registry**: whatever commits leaves the registry as it is, or is
one call of it. -/
theorem exec_registry_cases (h : exec inst n tx = .ok n') (address : Address) :
    n'.registries address = n.registries address ∨
      ∃ sender call impl, Origin inst n tx sender address call ∧
        inst.implementation address = some impl ∧
        IdentityRegistry.exec inst.imt inst.ownable impl ⟨sender, tx.block.timestamp⟩ call
          (n.registries address) = .ok (n'.registries address) := by
  rcases exec_cases h with ⟨_, _, w, -, -, rfl⟩ | ⟨_, _, -, -, rfl⟩ |
    ⟨sender, address', call, horigin, ⟨⟨impl, after, himpl, hexec, rfl⟩⟩⟩
  · exact .inl rfl
  · exact .inl rfl
  · -- a call writes the registry it is made of and no other
    by_cases haddress : address = address'
    · subst haddress
      refine .inr ⟨sender, call, impl, horigin, himpl, ?_⟩
      simpa using hexec
    · exact .inl (Function.update_of_ne haddress _ _)

/-- **One transaction, at one log**: whatever commits leaves the log of the registry and its hub
as they are, or is an authorized call of it that logs one event. -/
theorem exec_log_cases (hl : inst.imt.Lawful) (h : exec inst n tx = .ok n') (address : Address) :
    ((n'.registries address).events = (n.registries address).events ∧
      (n'.registries address).hub = (n.registries address).hub) ∨
    ∃ sender call impl e, Origin inst n tx sender address call ∧
      inst.implementation address = some impl ∧
      IdentityRegistry.Authorized inst.ownable ⟨sender, tx.block.timestamp⟩
        (n.registries address) call ∧
      IdentityRegistry.Logged inst.imt impl ⟨sender, tx.block.timestamp⟩ call
        (n.registries address) (n'.registries address) e := by
  rcases exec_registry_cases h address with hsame | ⟨sender, call, impl, horigin, himpl, hexec⟩
  · rw [hsame]
    exact .inl ⟨rfl, rfl⟩
  · obtain ⟨hauthorized, ⟨e, hlogged⟩ | ⟨_, implRoot, -, heq⟩⟩ :=
      IdentityRegistry.exec_logged hl hexec
    · exact .inr ⟨sender, call, impl, e, horigin, himpl, hauthorized, hlogged⟩
    · -- a call of the ownership's functions
      rw [heq]
      exact .inl ⟨rfl, rfl⟩

/-- Every registry keeps a legal log, and represents the ledger it announces, after every
run. -/
theorem run_journaled (hl : inst.imt.Lawful) (txs : List NetworkTransaction)
    (address : Address) :
    IdentityRegistry.Journaled inst.imt (((deploy inst).run inst txs).registries address) := by
  unfold run
  refine Run.run_invariant (A := fun _ => True)
    (I := fun n : Network Roles Owners Tree =>
      IdentityRegistry.Journaled inst.imt (n.registries address)) ?_
    (IdentityRegistry.journaled_blank hl) fun _ _ => trivial
  -- one transaction: the registry is as before, or executed a call that was journaled
  intro n tx n' _ hn h
  rcases exec_registry_cases h address with hsame | ⟨_, _, _, -, -, hexec⟩
  · rw [hsame]
    exact hn
  · exact hn.exec hl hexec

/-- A log only grows. -/
theorem run_events (hl : inst.imt.Lawful) (n : Network Roles Owners Tree)
    (txs : List NetworkTransaction) (address : Address) :
    (n.registries address).events <+: ((n.run inst txs).registries address).events := by
  unfold run
  refine Run.run_preserves (I := fun n' : Network Roles Owners Tree =>
    (n.registries address).events <+: (n'.registries address).events) List.prefix_rfl ?_
  intro t tx t' _ h ht
  rcases exec_log_cases hl h address with ⟨hsame, -⟩ | ⟨_, _, _, e, -, -, -, hlogged⟩
  · rwa [hsame]
  · rw [hlogged.events]
    exact ht.trans (List.prefix_append _ _)

/-- What is logged at a step of a run is in the log after the run. -/
theorem stepOf_events (hl : inst.imt.Lawful) {s : Network Roles Owners Tree}
    {txs : List NetworkTransaction} (hstep : Run.StepOf (exec inst) s txs n tx)
    (h : exec inst n tx = .ok n') (address : Address) :
    (n'.registries address).events <+: ((s.run inst txs).registries address).events := by
  obtain ⟨pre, post, rfl, rfl⟩ := hstep
  -- the transactions after the step are a run from where it leads
  have hrun : s.run inst (pre ++ tx :: post) = n'.run inst post := by
    unfold run
    rw [Run.run_append, Run.run_cons, Run.step_of_ok h]
  rw [hrun]
  exact run_events hl n' post address

/-! ## The deployed system -/

/-- What the network's transaction does to the deployed system: the same call, or whatever the
owners' functions and the registrations update. -/
def shadow (inst : Installation Roles Owners Tree) (n : Network Roles Owners Tree)
    (tx : NetworkTransaction) : Transaction where
  block := tx.block
  sender := tx.sender
  call :=
    match tx.call with
    | .contract call _ => call
    | _ =>
      let w := (Run.step (exec inst) n tx).world
      .environment w.registries w.hub.registries w.hub.discloseVerifiers

/-- The deployed system's run beside a run of the network. -/
def shadows (inst : Installation Roles Owners Tree) (n : Network Roles Owners Tree)
    (txs : List NetworkTransaction) : List Transaction :=
  Run.shadows (exec inst) (shadow inst) n txs

/-- A transaction that writes neither RuleSelf nor the configs is the environment's. -/
theorem step_environment (dep : Deployment Roles) {w w' : World Roles} (block : Block)
    (sender : Address) (hruleSelf : w'.ruleSelf = w.ruleSelf)
    (hconfigs : w'.hub.v2VerificationConfigs = w.hub.v2VerificationConfigs) :
    Run.step (World.exec dep) w
      ⟨block, sender, .environment w'.registries w'.hub.registries w'.hub.discloseVerifiers⟩ =
        w' := by
  refine Run.step_of_ok (congrArg Except.ok ?_)
  obtain ⟨ruleSelf, ⟨registries, verifiers, configs⟩, regs⟩ := w'
  cases hruleSelf
  cases hconfigs
  rfl

/-- A step that is not a call of the deployed system writes neither RuleSelf nor the
configs. -/
theorem step_frame (inst : Installation Roles Owners Tree) (n : Network Roles Owners Tree)
    (hcall : ∀ call h, tx.call ≠ .contract call h) :
    (Run.step (exec inst) n tx).ruleSelf = n.ruleSelf ∧
      (Run.step (exec inst) n tx).hub.v2VerificationConfigs = n.hub.v2VerificationConfigs := by
  refine Run.step_preserves (I := fun n' : Network Roles Owners Tree => n'.ruleSelf = n.ruleSelf ∧
    n'.hub.v2VerificationConfigs = n.hub.v2VerificationConfigs) ⟨rfl, rfl⟩ ?_
  intro n' h
  rcases exec_cases h with ⟨call, hcall', _, htx, -⟩ | ⟨_, _, -, hhub, rfl⟩ |
    ⟨_, _, _, -, ⟨⟨_, _, -, -, rfl⟩⟩⟩
  · exact absurd htx (hcall call hcall')
  · exact ⟨rfl, (IdentityVerificationHub.execAdmin_cases hhub).1⟩
  · exact ⟨rfl, rfl⟩

/-- **One step of the network is one of the deployed system.** -/
theorem step_shadow (inst : Installation Roles Owners Tree) (n : Network Roles Owners Tree)
    (tx : NetworkTransaction) :
    Run.step (World.exec inst.toDeployment) n.world (shadow inst n tx) =
      (Run.step (exec inst) n tx).world := by
  obtain ⟨block, sender, call⟩ := tx
  by_cases hcontract : ∃ c h, call = .contract c h
  · obtain ⟨c, hc, rfl⟩ := hcontract
    -- both execute the call on the same world
    cases hw : n.world.exec inst.toDeployment ⟨block, sender, c⟩ with
    | error e =>
      have hexec : exec inst n ⟨block, sender, .contract c hc⟩ = .error (.verification e) := by
        simp [exec, hw]
      rw [Run.step_of_error hexec]
      exact Run.step_of_error hw
    | ok w =>
      rw [Run.step_of_ok (exec_contract hc hw)]
      -- the registries are not written
      have hregistries := (world_exec_frame hc hw).1
      refine (Run.step_of_ok hw).trans ?_
      obtain ⟨ruleSelf, hub, registries⟩ := w
      cases hregistries
      rfl
  · -- any other call shows as a change of the environment, which leaves RuleSelf and the configs
    have hcall : ∀ c h, call ≠ .contract c h := fun c h heq => hcontract ⟨c, h, heq⟩
    let tx : NetworkTransaction := ⟨block, sender, call⟩
    let w' : World Roles := (Run.step (exec inst) n tx).world
    obtain ⟨hruleSelf, hconfigs⟩ :
        w'.ruleSelf = n.world.ruleSelf ∧
          w'.hub.v2VerificationConfigs = n.world.hub.v2VerificationConfigs :=
      step_frame inst n hcall
    have henvironment := step_environment inst.toDeployment block sender hruleSelf hconfigs
    cases call with
    | contract c h => exact absurd rfl (hcall c h)
    | registerCommitment | registerDscKeyCommitment | admin | registry => exact henvironment

/-- What an account sends is external in the deployed system too. -/
theorem shadow_external (htx : tx.External inst.toDeployment) :
    (shadow inst n tx).External inst.toDeployment := by
  obtain ⟨block, sender, call⟩ := tx
  obtain ⟨hhub, hruleSelf⟩ := htx
  cases call with
  | contract c h =>
    -- only these two calls depend on who sends them
    cases c with
    | onVerificationSuccess => exact hhub
    | verify => exact hruleSelf
    | setScope | openRegistration | closeRegistration | setConfigId | grantRole | revokeRole
    | renounceRole | verifySelfProof | setVerificationConfigV2 | environment => trivial
  | registerCommitment | registerDscKeyCommitment | admin | registry => trivial

/-- **The network is simulated by the deployed system**: every run of the network leads where
its shadow leads the deployed system, each step of it shows as one step there, and what
accounts send stays external. So what is proved of every run of the deployed system, whatever
the owners update, holds of every run of the network. -/
theorem network_simulated (inst : Installation Roles Owners Tree) (n : Network Roles Owners Tree)
    (txs : List NetworkTransaction) :
    n.world.run inst.toDeployment (shadows inst n txs) = (n.run inst txs).world ∧
      (∀ t tx, Run.StepOf (exec inst) n txs t tx →
        Run.StepOf (World.exec inst.toDeployment) n.world (shadows inst n txs) t.world
          (shadow inst t tx)) ∧
      ((∀ tx ∈ txs, tx.External inst.toDeployment) →
        ∀ tx ∈ shadows inst n txs, tx.External inst.toDeployment) := by
  refine ⟨Run.run_shadows (step_shadow inst) n txs, ?_, ?_⟩
  · exact fun t tx hstep => hstep.lift (step_shadow inst)
  · intro hext tx htx
    obtain ⟨t, tx, hstep, rfl⟩ := Run.exists_stepOf_of_mem_shadows htx
    exact shadow_external (hext tx hstep.mem)

end Network

end RuleSelf
