import RuleSelf.Contract.Completeness

/-!
# Provenance of Registrations

Where a registration can come from. As long as the hub and RuleSelf only call each
other in the course of `verifySelfProof`, every change of the registry is a successful
`verifySelfProof` call that carries a verified proof, made while registration was open,
for the scope and under the config RuleSelf had at that moment.
-/

namespace RuleSelf

open Evm SelfStructs IdentityVerificationHub

variable {Roles : Type} {dep : Deployment Roles} {w w' : World Roles} {tx : Transaction}

/-! ## One transaction -/

/-- The registry is not the same in two storages. -/
def RegistryChanged (s s' : Storage Roles) : Prop :=
  s'.registeredUserIdentifiers ≠ s.registeredUserIdentifiers ∨
    s'.nullifierToUserIdentifier ≠ s.nullifierToUserIdentifier

theorem RegistryChanged.not_maintenance {s s' : Storage Roles} (h : RegistryChanged s s') :
    ¬ Maintenance s s' := by
  intro hmaintain
  obtain ⟨hmap, hset⟩ := hmaintain.registry_eq
  rcases h with h | h
  · exact h hset
  · exact h hmap

/-- Registering a pair that can be registered changes the registry. -/
theorem CanRegister.registryChanged {s : Storage Roles} {u n : Word} (h : CanRegister s u n) :
    RegistryChanged s (register u n s) := by
  refine .inl fun heq => ?_
  have hu := congrFun heq u
  rw [h.unregistered, register_registered] at hu
  exact Bool.false_ne_true hu.symm

/-- The transaction is a verified call of `verifySelfProof`, and registers the user
identifier of its context with the nullifier of its proof. -/
structure Registers (dep : Deployment Roles) (w : World Roles) (tx : Transaction)
    (w' : World Roles) (proofPayload userContextData : Bytes) (d : DocumentType)
    (c : VerificationConfigV2) (proof : VcAndDiscloseProof) : Prop where
  call : tx.call = .verifySelfProof proofPayload userContextData
  verified : Verified dep tx.block w proofPayload userContextData d c proof
  canRegister : CanRegister w.ruleSelf (userIdentifierOf userContextData)
    (d.nullifier proof.pubSignals)
  result : w' = w.register (userIdentifierOf userContextData) (d.nullifier proof.pubSignals)

/-- An external transaction that commits is maintenance or registers. -/
theorem exec_external (hext : tx.External dep) (h : World.exec dep w tx = .ok w') :
    Maintenance w.ruleSelf w'.ruleSelf ∨ ∃ proofPayload userContextData d c proof,
      Registers dep w tx w' proofPayload userContextData d c proof := by
  rcases World.exec_cases h with hmaintain | ⟨P, C, s', hcall, hs, rfl⟩ | ⟨hnot, -⟩
  · exact .inl hmaintain
  · obtain ⟨d, c, proof, hverified, hcan, rfl⟩ := verifySelfProof_iff.mp hs
    exact .inr ⟨P, C, d, c, proof, ⟨hcall, hverified, hcan, rfl⟩⟩
  · exact absurd hext hnot

/-- A transaction that registers commits. -/
theorem Registers.exec_eq {proofPayload userContextData : Bytes} {d : DocumentType}
    {c : VerificationConfigV2} {proof : VcAndDiscloseProof}
    (h : Registers dep w tx w' proofPayload userContextData d c proof) :
    World.exec dep w tx = .ok w' := by
  obtain ⟨block, sender, call⟩ := tx
  obtain ⟨rfl, hverified, hcan, rfl⟩ := h
  have hregister := verifySelfProof_iff.mpr ⟨d, c, proof, hverified, hcan, rfl⟩
  exact World.onRuleSelf_eq_ok.mpr ⟨_, hregister, rfl⟩

/-- A `verifySelfProof` that commits registers, with the document type and the proof its
payload holds. -/
theorem registers_of_exec {proofPayload userContextData : Bytes} {d : DocumentType}
    {proof : VcAndDiscloseProof} (hcall : tx.call = .verifySelfProof proofPayload userContextData)
    (hheader : Word.ofBytes (slice proofPayload 0 32) = d.attestationId)
    (hpayload : VcAndDiscloseProof.codec.read (proofPayload.drop 32) = some proof)
    (h : World.exec dep w tx = .ok w') :
    ∃ c, Registers dep w tx w' proofPayload userContextData d c proof := by
  obtain ⟨block, sender, call⟩ := tx
  subst hcall
  obtain ⟨s', hs, rfl⟩ := World.onRuleSelf_eq_ok.mp h
  obtain ⟨d', c, proof', hverified, hcan, rfl⟩ := verifySelfProof_iff.mp hs
  -- the payload determines the document type and the proof
  obtain rfl : d = d' :=
    DocumentType.attestationId_injective (hheader.symm.trans hverified.attestationId)
  obtain rfl : proof = proof' := Option.some.inj (hpayload.symm.trans hverified.payload)
  exact ⟨c, rfl, hverified, hcan, rfl⟩

/-- An external step that changes the registry registers. -/
theorem step_registers (hext : tx.External dep)
    (hchanged : RegistryChanged w.ruleSelf (Run.step (World.exec dep) w tx).ruleSelf) :
    ∃ proofPayload userContextData d c proof, Registers dep w tx
      (Run.step (World.exec dep) w tx) proofPayload userContextData d c proof := by
  -- a step that changes the registry commits
  have hne : Run.step (World.exec dep) w tx ≠ w := by
    intro heq
    rw [heq] at hchanged
    rcases hchanged with h | h <;> exact h rfl
  rcases exec_external hext (Run.exec_of_step_ne hne) with hmaintain | hregisters
  · exact absurd hmaintain hchanged.not_maintenance
  · exact hregisters

/-- **Where a stored identifier comes from**: after a run of external transactions, the
identifier stored for a nullifier is the one of the context of a step that registers the
nullifier. -/
theorem stored_registered {hub : IdentityVerificationHub.Storage} {registries : Registries}
    {txs : List Transaction} (hext : ∀ tx ∈ txs, tx.External dep) {n : Word}
    (hstored : ((World.deploy dep hub registries).run dep
      txs).ruleSelf.nullifierToUserIdentifier n ≠ 0) :
    ∃ t tx t' proofPayload userContextData d c proof,
      Run.StepOf (World.exec dep) (World.deploy dep hub registries) txs t tx ∧
      Registers dep t tx t' proofPayload userContextData d c proof ∧
      d.nullifier proof.pubSignals = n ∧
      ((World.deploy dep hub registries).run dep txs).ruleSelf.nullifierToUserIdentifier n =
        userIdentifierOf userContextData := by
  generalize hu : ((World.deploy dep hub registries).run dep
    txs).ruleSelf.nullifierToUserIdentifier n = u at hstored
  -- the step at which the identifier was stored; before the run, 0 was
  obtain ⟨t, tx, hstep, hnot, t', hexec, hafter⟩ := Run.exists_stepOf_of_change
    (P := fun w : World Roles => w.ruleSelf.nullifierToUserIdentifier n = u) hstored.symm hu
  rcases exec_external (hext tx hstep.mem) hexec with hmaintain | ⟨P, C, d, c, proof, hregisters⟩
  · rw [hmaintain.registry_eq.1] at hafter
    exact absurd hafter hnot
  · rw [hregisters.result, World.ruleSelf_register] at hafter
    -- a registration stores one nullifier
    by_cases hn : n = d.nullifier proof.pubSignals
    · subst hn
      rw [register_stored] at hafter
      exact ⟨t, tx, t', P, C, d, c, proof, hstep, hregisters, rfl, hafter.symm⟩
    · rw [register_stored_of_ne _ _ _ hn] at hafter
      exact absurd hafter hnot

/-- Every config the hub holds is one of `S`. -/
def ConfigsIn (S : Set VerificationConfigV2) (w : World Roles) : Prop :=
  ∀ configId, w.hub.v2VerificationConfigs configId ∈ S

/-- A transaction submits only configs of `S`. -/
def SubmitsIn (S : Set VerificationConfigV2) (tx : Transaction) : Prop :=
  ∀ config, tx.call = .setVerificationConfigV2 config → config ∈ S

private theorem exec_configsIn {S : Set VerificationConfigV2} (htx : SubmitsIn S tx)
    (hw : ConfigsIn S w) (h : World.exec dep w tx = .ok w') : ConfigsIn S w' := by
  -- RuleSelf does not write the configs of the hub
  have honRuleSelf {s : Except Error (Storage Roles)} (h : w.onRuleSelf s = .ok w') :
      ConfigsIn S w' := by
    obtain ⟨_, -, rfl⟩ := World.onRuleSelf_eq_ok.mp h
    exact hw
  obtain ⟨block, sender, call⟩ := tx
  cases call with
  | setVerificationConfigV2 config =>
    cases h
    intro configId
    change Function.update w.hub.v2VerificationConfigs _ config configId ∈ S
    -- the new config is stored under its own id, the others stay
    by_cases hid : configId = generateConfigId dep.oracles config
    · subst hid
      rw [Function.update_self]
      exact htx config rfl
    · rw [Function.update_of_ne hid]
      exact hw configId
  | verify baseVerificationInput userContextData =>
    unfold World.exec at h
    rw [Revert.bind_eq_ok] at h
    obtain ⟨callback, -, hcallback⟩ := h
    split at hcallback
    · exact honRuleSelf hcallback
    · cases hcallback
      exact hw
  | environment registries hubRegistries discloseVerifiers =>
    cases h
    exact hw
  | _ => exact honRuleSelf h

/-- The hub holds only submitted configs, and those it was deployed with. -/
theorem run_configsIn {S : Set VerificationConfigV2} (hw : ConfigsIn S w)
    {txs : List Transaction} (htxs : ∀ tx ∈ txs, SubmitsIn S tx) : ConfigsIn S (w.run dep txs) :=
  Run.run_invariant (I := ConfigsIn S) (fun _ _ _ htx hw h => exec_configsIn htx hw h) hw htxs

/-! ## Runs -/

/-- Where a registration came from: a successful `verifySelfProof` made while registration
was open. The proof is for RuleSelf's scope, the verifier of the header's document type
accepted its signals, and its output passed the custom verification under `c`, the one
config of `S` that has RuleSelf's config id. -/
structure Provenance (dep : Deployment Roles) (S : Set VerificationConfigV2) (w : World Roles)
    (tx : Transaction) (proofPayload userContextData : Bytes) (d : DocumentType)
    (c : VerificationConfigV2) (proof : VcAndDiscloseProof) : Prop where
  call : tx.call = .verifySelfProof proofPayload userContextData
  succeeds : World.exec dep w tx = .ok (Run.step (World.exec dep) w tx)
  isOpen : w.ruleSelf.isRegistrationOpen = true
  header : Word.ofBytes (slice proofPayload 0 32) = d.attestationId
  payload : VcAndDiscloseProof.codec.read (proofPayload.drop 32) = some proof
  scope_eq : DocumentType.scope proof.pubSignals = w.ruleSelf.scope
  verifier : dep.oracles.verifyProof (w.hub.discloseVerifiers d.attestationId) proof = true
  config_mem : c ∈ S
  config_id : generateConfigId dep.oracles c = w.ruleSelf.configId
  config_unique : ∀ c' ∈ S, generateConfigId dep.oracles c' = w.ruleSelf.configId → c' = c
  output : ∃ proofOutput out,
    createVerificationOutput d.attestationId proof d.indices
      (userIdentifierOf userContextData) = .ok proofOutput ∧
    CustomVerifier.customVerify d.attestationId (GenericFormatter.formatV2Config c)
      proofOutput = .ok out ∧
    (Run.step (World.exec dep) w tx).ruleSelf =
      register out.userIdentifier out.nullifier w.ruleSelf

/-- **Provenance of every registration**: in a run of external transactions, every step
that changes the registry has a provenance. `S` is any set of configs that holds those in
play (the hub's at deployment, and those submitted) and on which config ids do not
collide. -/
theorem registration_provenance (hub : IdentityVerificationHub.Storage) (registries : Registries)
    (txs : List Transaction) (hext : ∀ tx ∈ txs, tx.External dep) {S : Set VerificationConfigV2}
    (hinj : Set.InjOn (generateConfigId dep.oracles) S)
    (hhub : ∀ configId, hub.v2VerificationConfigs configId ∈ S)
    (hsubmits : ∀ tx ∈ txs, SubmitsIn S tx)
    (hstep : Run.StepOf (World.exec dep) (World.deploy dep hub registries) txs w tx)
    (hchanged : RegistryChanged w.ruleSelf (Run.step (World.exec dep) w tx).ruleSelf) :
    ∃ proofPayload userContextData d c proof,
      Provenance dep S w tx proofPayload userContextData d c proof := by
  have hmem := hstep.mem
  obtain ⟨pre, post, rfl, rfl⟩ := hstep
  obtain ⟨P, C, d, c, proof, hregisters⟩ := step_registers (hext tx hmem) hchanged
  have hexec := hregisters.exec_eq
  obtain ⟨hcall, hverified, hcan, hresult⟩ := hregisters
  have haccepts := hverified.accepts
  -- the config the hub looked up is one of those in play
  have hin : ConfigsIn S ((World.deploy dep hub registries).run dep pre) :=
    run_configsIn (w := World.deploy dep hub registries) hhub fun tx htx =>
      hsubmits tx (List.mem_append_left _ htx)
  have hc : c ∈ S := haccepts.configured ▸ hin _
  -- the custom verification the hub ran, on the output it created
  obtain ⟨out, hout⟩ := CustomVerifier.verify_succeeds (userIdentifierOf C)
    (d.nullifier proof.pubSignals) (d.revealedData_length proof.pubSignals) haccepts.meets
    haccepts.dates_readable
  obtain ⟨-, -, huser, hnullifier, -⟩ := CustomVerifier.verify_eq_ok hout
  rw [← customVerify_encodeOutput] at hout
  have hcreate := (createVerificationOutput_eq_ok (d := d) proof (userIdentifierOf C)).mpr
    ⟨haccepts.in_field, rfl⟩
  refine ⟨P, C, d, c, proof, ?_⟩
  exact {
    call := hcall
    succeeds := hexec
    isOpen := hcan.isOpen
    header := hverified.attestationId
    payload := hverified.payload
    scope_eq := haccepts.scope_eq
    verifier := haccepts.groth16
    config_mem := hc
    config_id := hverified.config
    config_unique := fun c' hc' hid => hinj hc' hc (hid.trans hverified.config.symm)
    output := ⟨_, out, hcreate, hout, by rw [hresult, huser, hnullifier]; rfl⟩ }

/-- The provenance of a registration in a run that opens registration and makes it. -/
theorem registration_provenance_blank :
    ∃ proofPayload userContextData d c proof,
      Provenance plainDeployment {noRequirements}
        plainWorld (blankRegistration 9 5) proofPayload userContextData d c proof := by
  refine registration_provenance plainHub (openRegistries 0 0 0)
    [opening, blankRegistration 9 5] ?_ (Set.injOn_singleton _ _) plainHub_config ?_
    ⟨[opening], [], rfl, rfl⟩ ?_
  · -- both are sent by accounts
    exact List.forall_mem_cons.mpr ⟨trivial, List.forall_mem_singleton.mpr trivial⟩
  · -- neither transaction submits a config
    refine List.forall_mem_cons.mpr ⟨?_, List.forall_mem_singleton.mpr ?_⟩ <;>
      exact fun _ hcall => nomatch hcall
  · rw [Run.step_of_ok (exec_blankRegistration (by decide))]
    exact (canRegister_opened (by decide)).registryChanged

end RuleSelf
