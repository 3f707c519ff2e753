import RuleSelf.Properties.Provenance

/-!
# One Identifier per Secret and Scope

The circuit derives the nullifier of a proof from the prover's secret and the scope. A
nullifier registers once in a run, so that a secret registers one identifier per scope;
after the scope has been changed, it registers another.
-/

namespace RuleSelf

open Evm SelfStructs IdentityVerificationHub

variable {Roles Secret : Type} {dep : Deployment Roles} {w w' : World Roles}

/-! ## Nullifiers are used once -/

/-- A used nullifier stays used. -/
private theorem run_nullifier_used (dep : Deployment Roles) {n : Word}
    (h : w.ruleSelf.nullifierToUserIdentifier n ≠ 0) (txs : List Transaction) :
    (w.run dep txs).ruleSelf.nullifierToUserIdentifier n ≠ 0 := by
  refine World.run_invariant (I := fun s => s.nullifierToUserIdentifier n ≠ 0) ?_ h txs
  intro s s' hs heffect
  cases heffect with
  | maintain hmaintain => rwa [hmaintain.registry_eq.1]
  | register u m hcan =>
    -- a registration writes an identifier that is not 0
    by_cases hm : n = m
    · rw [hm, register_stored]
      exact hcan.nonzero
    · rwa [register_stored_of_ne s u m hm]

variable {t t' : World Roles} {tx : Transaction} {proofPayload userContextData : Bytes}
  {d : DocumentType} {c : VerificationConfigV2} {proof : VcAndDiscloseProof}

/-- The nullifier of a registration is used after it. -/
private theorem Registers.nullifier_used
    (h : Registers dep t tx t' proofPayload userContextData d c proof) :
    (Run.step (World.exec dep) t tx).ruleSelf.nullifierToUserIdentifier
      (d.nullifier proof.pubSignals) ≠ 0 := by
  rw [Run.step_of_ok h.exec_eq, h.result, World.ruleSelf_register, register_stored]
  exact h.canRegister.nonzero

/-! ## Secrets -/

/-- A proof is made from a secret: the circuit has derived its nullifier from the secret and
its scope. -/
def MadeFrom (poseidon : Secret → Word → Word) (secret : Secret) (d : DocumentType)
    (proof : VcAndDiscloseProof) : Prop :=
  d.nullifier proof.pubSignals = poseidon secret (DocumentType.scope proof.pubSignals)

/-- A step of the run, made while RuleSelf had the given scope, registers `u` with a proof
made from the secret. -/
def RegisteredFrom (poseidon : Secret → Word → Word) (dep : Deployment Roles) (w : World Roles)
    (txs : List Transaction) (secret : Secret) (scope u : Word) : Prop :=
  ∃ t tx t' proofPayload userContextData d c proof,
    Run.StepOf (World.exec dep) w txs t tx ∧
    Registers dep t tx t' proofPayload userContextData d c proof ∧
    MadeFrom poseidon secret d proof ∧ t.ruleSelf.scope = scope ∧
    userIdentifierOf userContextData = u

/-- The nullifier of a registration is that of the secret and RuleSelf's scope. -/
private theorem Registers.nullifier_eq {poseidon : Secret → Word → Word} {secret : Secret}
    (h : Registers dep t tx t' proofPayload userContextData d c proof)
    (hmade : MadeFrom poseidon secret d proof) :
    d.nullifier proof.pubSignals = poseidon secret t.ruleSelf.scope := by
  rw [← h.verified.accepts.scope_eq]
  exact hmade

/-- **One identifier per secret and scope**: in every run, from any state, all proofs made from
one secret register at most one user identifier while RuleSelf has one scope. -/
theorem one_identifier_per_scope (poseidon : Secret → Word → Word) (dep : Deployment Roles)
    (w : World Roles) (txs : List Transaction) (secret : Secret) (scope : Word) :
    Set.Subsingleton {u | RegisteredFrom poseidon dep w txs secret scope u} := by
  rintro _ ⟨t, tx, t', P, C, d, c, proof, hstep, hregisters, hmade, hscope, rfl⟩
    _ ⟨v, vx, v', P', C', d', c', proof', hstep', hregisters', hmade', hscope', rfl⟩
  have hn := hregisters.nullifier_eq hmade
  have hn' := hregisters'.nullifier_eq hmade'
  rw [hscope] at hn
  rw [hscope'] at hn'
  -- both steps use the nullifier of the secret and the scope, so they are one step
  rcases hstep.compare hstep' with ⟨-, rfl⟩ | ⟨txs', rfl⟩ | ⟨txs', rfl⟩
  · -- one step, hence one context
    have hcall := hregisters.call.symm.trans hregisters'.call
    injection hcall with _ hcontext
    rw [hcontext]
  · -- the second registration would find the nullifier used
    have hused := run_nullifier_used dep hregisters.nullifier_used txs'
    rw [hn, ← hn'] at hused
    exact absurd hregisters'.canRegister.nullifier_unused hused
  · have hused := run_nullifier_used dep hregisters'.nullifier_used txs'
    rw [hn', ← hn] at hused
    exact absurd hregisters.canRegister.nullifier_unused hused

/-! ## A change of scope -/

/-- A hash of a secret and a scope that is injective on those below `2 ^ 128`. -/
def joinHash (secret scope : Word) : Word :=
  BitVec.ofNat 256 (secret.toNat * 2 ^ 128 + scope.toNat)

/-- The secrets and scopes below `2 ^ 128`. -/
def shortPairs : Set (Word × Word) := {p | p.1.toNat < 2 ^ 128 ∧ p.2.toNat < 2 ^ 128}

private theorem joinHash_toNat {p : Word × Word} (hp : p ∈ shortPairs) :
    (joinHash p.1 p.2).toNat = p.1.toNat * 2 ^ 128 + p.2.toNat := by
  obtain ⟨h1, h2⟩ := hp
  rw [joinHash, BitVec.toNat_ofNat]
  exact Nat.mod_eq_of_lt (by omega)

private theorem joinHash_injOn :
    Set.InjOn (fun p : Word × Word => joinHash p.1 p.2) shortPairs := by
  intro p hp q hq h
  have hnat := congrArg BitVec.toNat h
  change (joinHash p.1 p.2).toNat = (joinHash q.1 q.2).toNat at hnat
  rw [joinHash_toNat hp, joinHash_toNat hq] at hnat
  obtain ⟨hp1, hp2⟩ := hp
  obtain ⟨hq1, hq2⟩ := hq
  -- the two halves of the hash are the secret and the scope
  refine Prod.ext (BitVec.eq_of_toNat_eq ?_) (BitVec.eq_of_toNat_eq ?_) <;> omega

/-- Oracles whose passport verifier accepts exactly the proofs made from a secret below
`2 ^ 128`, for a scope below `2 ^ 128`. -/
def joinOracles : Oracles where
  sha256 _ := 0
  ripemd160 _ := 0
  verifyProof verifier proof := verifier == verifierOf AttestationId.ePassport &&
    decide ((proof.pubSignals 19).toNat < 2 ^ 128 ∧
      (proof.pubSignals 7).toNat % 2 ^ 128 = (proof.pubSignals 19).toNat)

/-- Every accepted proof is made from a secret. -/
private theorem madeFrom_of_verifyProof {d : DocumentType} {proof : VcAndDiscloseProof}
    (h : joinOracles.verifyProof (verifierOf d.attestationId) proof = true) :
    ∃ secret, (secret, DocumentType.scope proof.pubSignals) ∈ shortPairs ∧
      MadeFrom joinHash secret d proof := by
  unfold joinOracles at h
  rw [Bool.and_eq_true, beq_iff_eq, decide_eq_true_eq] at h
  obtain ⟨hverifier, hscope, hnullifier⟩ := h
  cases d with
  | idCard => exact absurd hverifier (by decide)
  | passport =>
    -- the secret is the high half of the nullifier
    have hlt := (proof.pubSignals 7).isLt
    have hhigh : (proof.pubSignals 7).toNat / 2 ^ 128 % 2 ^ 256 =
        (proof.pubSignals 7).toNat / 2 ^ 128 := Nat.mod_eq_of_lt (by omega)
    refine ⟨BitVec.ofNat 256 ((proof.pubSignals 7).toNat / 2 ^ 128), ⟨?_, hscope⟩, ?_⟩
    · change (BitVec.ofNat 256 _).toNat < _
      rw [BitVec.toNat_ofNat, hhigh]
      omega
    · apply BitVec.eq_of_toNat_eq
      change (proof.pubSignals 7).toNat = (BitVec.ofNat 256 _).toNat
      rw [BitVec.toNat_ofNat, BitVec.toNat_ofNat, hhigh]
      change _ = (_ * _ + (proof.pubSignals 19).toNat) % _
      rw [← hnullifier]
      omega

/-- A deployment over these oracles, for scope 0. -/
def joinDeployment : Deployment AccessControl.RoleFlags := standing joinOracles noRequirements 0

/-- A hub that is ready for it. -/
def joinHub : IdentityVerificationHub.Storage := readyHub joinOracles noRequirements

/-- Its RuleSelf, opened. -/
def joinWorld : World AccessControl.RoleFlags :=
  opened joinOracles noRequirements 0 (openRegistries 0 0 0)

/-- The deployer changes the scope to 1. -/
def rescoping : Transaction := ⟨newYear, 3, .setScope 1⟩

/-- The holder of secret 7 registers identifier `u` while the scope is `scope`. -/
def registrationOfSeven (scope u : Word) : Transaction :=
  ⟨newYear, 4, blankCall .passport (joinHash 7 scope) scope 0 u⟩

/-- The state after identifier 5 has been registered and the scope changed. -/
def rescopedWorld : World AccessControl.RoleFlags :=
  Run.step (World.exec joinDeployment) (joinWorld.register 5 (joinHash 7 0)) rescoping

private theorem exec_registrationOfSeven :
    joinWorld.exec joinDeployment (registrationOfSeven 0 5) =
      .ok (joinWorld.register 5 (joinHash 7 0)) :=
  exec_blankCall ready_opened .passport 4 rfl rfl rfl (canRegister_opened (by decide))

private theorem exec_registrationOfSeven_rescoped :
    rescopedWorld.exec joinDeployment (registrationOfSeven 1 6) =
      .ok (rescopedWorld.register 6 (joinHash 7 1)) := by
  have hready : Ready joinDeployment noRequirements rescopedWorld := ⟨rfl, ⟨0, 0, 0, rfl⟩, rfl⟩
  have hnullifier : joinHash 7 1 ≠ joinHash 7 0 := by decide
  have hidentifier : (6 : Word) ≠ 5 := by decide
  -- under the new scope the nullifier is another one, which has not been used
  have hcan : CanRegister rescopedWorld.ruleSelf 6 (joinHash 7 1) := {
    isOpen := rfl
    nullifier_unused := by
      change (register 5 (joinHash 7 0) joinWorld.ruleSelf).nullifierToUserIdentifier
        (joinHash 7 1) = 0
      rw [register_stored_of_ne _ _ _ hnullifier]
      rfl
    nonzero := by decide
    unregistered := by
      change (register 5 (joinHash 7 0) joinWorld.ruleSelf).registeredUserIdentifiers 6 = false
      rw [register_registered_of_ne _ _ _ hidentifier]
      rfl }
  exact exec_blankCall hready .passport 4 rfl rfl rfl hcan

/-- Secret 7 registers identifier 5 for scope 0, and identifier 6 after the scope has been
changed to 1. -/
theorem two_identifiers_after_setScope :
    Set.InjOn (fun p : Word × Word => joinHash p.1 p.2) shortPairs ∧
    (∀ (d : DocumentType) (proof : VcAndDiscloseProof),
      joinOracles.verifyProof (verifierOf d.attestationId) proof = true →
        ∃ secret, (secret, DocumentType.scope proof.pubSignals) ∈ shortPairs ∧
          MadeFrom joinHash secret d proof) ∧
    ¬ Set.Subsingleton {u | ∃ scope, RegisteredFrom joinHash joinDeployment
      (World.deploy joinDeployment joinHub (openRegistries 0 0 0))
      [opening, registrationOfSeven 0 5, rescoping, registrationOfSeven 1 6] 7 scope u} := by
  refine ⟨joinHash_injOn, fun d proof h => madeFrom_of_verifyProof h, fun hsub => ?_⟩
  obtain ⟨c, hfirst⟩ :=
    registers_of_exec rfl (payloadOf_header _ _) (payloadOf_proof _ _) exec_registrationOfSeven
  obtain ⟨c', hsecond⟩ := registers_of_exec rfl (payloadOf_header _ _) (payloadOf_proof _ _)
    exec_registrationOfSeven_rescoped
  -- the state in which the second registration is made
  have hrun : rescopedWorld = Run.run (World.exec joinDeployment)
      (World.deploy joinDeployment joinHub (openRegistries 0 0 0))
      [opening, registrationOfSeven 0 5, rescoping] := by
    have hopened : joinWorld = Run.run (World.exec joinDeployment)
        (World.deploy joinDeployment joinHub (openRegistries 0 0 0))
        [opening] := rfl
    have hsplit : [opening, registrationOfSeven 0 5, rescoping] =
        [opening] ++ [registrationOfSeven 0 5] ++ [rescoping] := rfl
    rw [hsplit, Run.run_concat, Run.run_concat, ← hopened,
      Run.step_of_ok exec_registrationOfSeven, rescopedWorld]
  have h5 : (5 : Word) = 6 := hsub
    ⟨0, _, _, _, _, _, _, _, _, ⟨[opening], _, rfl, rfl⟩, hfirst, rfl, rfl,
      userIdentifierOf_contextOf 1 5⟩
    ⟨1, _, _, _, _, _, _, _, _, ⟨[opening, registrationOfSeven 0 5, rescoping], [], rfl, hrun⟩,
      hsecond, rfl, rfl, userIdentifierOf_contextOf 1 6⟩
  exact absurd h5 (by decide)

end RuleSelf
