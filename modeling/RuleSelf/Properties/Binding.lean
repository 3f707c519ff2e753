import RuleSelf.Properties.Provenance

/-!
# Binding of Proofs to Contexts

A proof carries the hash of the context it was made for, and the hub hashes the context it
is sent with. As long as that hash has one preimage, a proof registers the identifier of
its author's context and no other, whoever sends it, whatever the header says and whatever
bytes are added.
-/

namespace RuleSelf

open Evm SelfStructs IdentityVerificationHub

variable {Roles : Type} {dep : Deployment Roles} {w w' : World Roles} {tx : Transaction}

/-- No two contexts have the hash `h`. -/
def OnePreimage (o : Oracles) (h : Word) : Prop :=
  ∀ C C', hashUserContext o C = h → hashUserContext o C' = h → C' = C

/-- Every proof with nullifier `n` that one of the hub's verifiers accepts, as a proof over a
document of the verifier's type, is made for the user identifier signal `h`. -/
def Bound (dep : Deployment Roles) (w : World Roles) (n h : Word) : Prop :=
  ∀ (d : DocumentType) (proof : VcAndDiscloseProof),
    dep.oracles.verifyProof (w.hub.discloseVerifiers d.attestationId) proof = true →
      d.nullifier proof.pubSignals = n → DocumentType.userIdentifier proof.pubSignals = h

/-- The identifier stored for `n` is the one of the only context with hash `h`. -/
def StandsFor (dep : Deployment Roles) (w : World Roles) (n h : Word) : Prop :=
  ∃ C, hashUserContext dep.oracles C = h ∧ (∀ C', hashUserContext dep.oracles C' = h → C' = C) ∧
    w.ruleSelf.nullifierToUserIdentifier n = userIdentifierOf C

/-- A registration is made with the context its proof was made for. -/
theorem Registers.hash_eq {proofPayload userContextData : Bytes} {d : DocumentType}
    {c : VerificationConfigV2} {proof : VcAndDiscloseProof}
    (h : Registers dep w tx w' proofPayload userContextData d c proof) :
    hashUserContext dep.oracles userContextData = DocumentType.userIdentifier proof.pubSignals :=
  h.verified.accepts.userIdentifier_eq.symm

/-- After every run, a bound nullifier is unused or stands for the context it is bound to. -/
private theorem run_standsFor {h : Word} (hone : OnePreimage dep.oracles h)
    (hub : IdentityVerificationHub.Storage) (registries : Registries) {txs : List Transaction}
    (hext : ∀ tx ∈ txs, tx.External dep) {n : Word}
    (hbound : ∀ t tx, Run.StepOf (World.exec dep) (World.deploy dep hub registries) txs t tx →
      Bound dep t n h) :
    ((World.deploy dep hub registries).run dep txs).ruleSelf.nullifierToUserIdentifier n = 0 ∨
      StandsFor dep ((World.deploy dep hub registries).run dep txs) n h := by
  by_cases hstored :
      ((World.deploy dep hub registries).run dep txs).ruleSelf.nullifierToUserIdentifier n = 0
  · exact .inl hstored
  · obtain ⟨t, tx, t', P, C, d, c, proof, hstep, hregisters, hn, hvalue⟩ :=
      stored_registered hext hstored
    -- the verifier accepted the proof of the step that stored the identifier
    have hsignal : DocumentType.userIdentifier proof.pubSignals = h :=
      hbound t tx hstep d proof hregisters.verified.accepts.groth16 hn
    have hhash : hashUserContext dep.oracles C = h := hregisters.hash_eq.trans hsignal
    exact .inr ⟨C, hhash, fun C' hC' => hone C C' hhash hC', hvalue⟩

/-- A `verifySelfProof` that succeeds is sent with a context of the hash its proof carries. -/
private theorem hash_eq_of_exec {block : Block} {sender : Address}
    {proofPayload userContextData : Bytes} {proof : VcAndDiscloseProof}
    (hproof : VcAndDiscloseProof.codec.read (proofPayload.drop 32) = some proof)
    (h : w.exec dep ⟨block, sender, .verifySelfProof proofPayload userContextData⟩ = .ok w') :
    hashUserContext dep.oracles userContextData =
      DocumentType.userIdentifier proof.pubSignals := by
  obtain ⟨s', hs, -⟩ := World.onRuleSelf_eq_ok.mp h
  obtain ⟨d, c, proof', hverified, -, -⟩ := verifySelfProof_iff.mp hs
  -- the hub decodes the same proof
  obtain rfl : proof = proof' := Option.some.inj (hproof.symm.trans hverified.payload)
  exact hverified.accepts.userIdentifier_eq.symm

/-- **A proof is bound to its author's context**, when the hash `h` of the context has one
preimage. In every run of external transactions, a nullifier that verifiers accept with the
user identifier signal `h` only is unused or stands for the identifier of the context. And
two payloads that carry `h`, sent by any accounts in any two states, succeed with the same
context only. -/
theorem proof_bound_to_context (dep : Deployment Roles) {h : Word}
    (hone : OnePreimage dep.oracles h) :
    (∀ (hub : IdentityVerificationHub.Storage) (registries : Registries)
      (txs : List Transaction) (n : Word), (∀ tx ∈ txs, tx.External dep) →
      (∀ t tx, Run.StepOf (World.exec dep) (World.deploy dep hub registries) txs t tx →
        Bound dep t n h) →
      ((World.deploy dep hub registries).run dep txs).ruleSelf.nullifierToUserIdentifier n = 0 ∨
        StandsFor dep ((World.deploy dep hub registries).run dep txs) n h) ∧
    ∀ (w₁ w₁' w₂ w₂' : World Roles) (block₁ block₂ : Block) (sender₁ sender₂ : Address)
      (p₁ p₂ c₁ c₂ : Bytes) (proof₁ proof₂ : VcAndDiscloseProof),
      VcAndDiscloseProof.codec.read (p₁.drop 32) = some proof₁ →
      VcAndDiscloseProof.codec.read (p₂.drop 32) = some proof₂ →
      DocumentType.userIdentifier proof₁.pubSignals = h →
      DocumentType.userIdentifier proof₂.pubSignals = h →
      w₁.exec dep ⟨block₁, sender₁, .verifySelfProof p₁ c₁⟩ = .ok w₁' →
      w₂.exec dep ⟨block₂, sender₂, .verifySelfProof p₂ c₂⟩ = .ok w₂' → c₁ = c₂ := by
  constructor
  · intro hub registries txs n hext hbound
    exact run_standsFor hone hub registries hext hbound
  · intro w₁ w₁' w₂ w₂' block₁ block₂ sender₁ sender₂ p₁ p₂ c₁ c₂ proof₁ proof₂ hproof₁ hproof₂
      hsignal₁ hsignal₂ hexec₁ hexec₂
    have hhash₁ := (hash_eq_of_exec hproof₁ hexec₁).trans hsignal₁
    have hhash₂ := (hash_eq_of_exec hproof₂ hexec₂).trans hsignal₂
    exact hone c₂ c₁ hhash₂ hhash₁

/-! ## A proof made for one context -/

/-- Oracles that tell the context of identifier 5 on chain 1 from every other, and whose
verifiers accept the proofs made for it. -/
def contextOracles : Oracles where
  sha256 bs := if bs = contextOf 1 5 then 1 else 0
  ripemd160 bs := if bs = Word.toBytes 1 then 1 else 0
  verifyProof _ proof := proof.pubSignals 20 == 1

private theorem hashUserContext_contextOracles (C : Bytes) :
    hashUserContext contextOracles C = if C = contextOf 1 5 then 1 else 0 := by
  have hne : Word.toBytes 0 ≠ Word.toBytes 1 := fun h =>
    absurd (Word.toBytes_injective h) (by decide)
  unfold hashUserContext contextOracles
  by_cases hC : C = contextOf 1 5
  · simp only [if_pos hC]
    rfl
  · simp only [if_neg hC, if_neg hne]
    rfl

private theorem onePreimage_contextOracles : OnePreimage contextOracles 1 := by
  have hcontext (C : Bytes) (h : hashUserContext contextOracles C = 1) : C = contextOf 1 5 := by
    rw [hashUserContext_contextOracles] at h
    by_contra hC
    rw [if_neg hC] at h
    exact absurd h (by decide)
  intro C C' hC hC'
  rw [hcontext C hC, hcontext C' hC']

/-- A deployment over these oracles. -/
def contextDeployment : Deployment AccessControl.RoleFlags :=
  standing contextOracles noRequirements 0

/-- A hub that is ready for it. -/
def contextHub : IdentityVerificationHub.Storage := readyHub contextOracles noRequirements

/-- Its RuleSelf, opened. -/
def contextWorld : World AccessControl.RoleFlags :=
  opened contextOracles noRequirements 0 (openRegistries 0 0 0)

private theorem exec_contextWorld (sender : Address) :
    contextWorld.exec contextDeployment ⟨newYear, sender, blankCall .passport 9 0 1 5⟩ =
      .ok (contextWorld.register 5 9) := by
  refine exec_blankCall ready_opened .passport sender rfl ?_ rfl (canRegister_opened (by decide))
  exact ((hashUserContext_contextOracles _).trans (if_pos rfl)).symm

/-- Nullifier 9 stands for the context of identifier 5, and the proof relayed with the
context of identifier 6 fails. -/
theorem proof_bound_to_context_blank :
    (((World.deploy contextDeployment contextHub (openRegistries 0 0 0)).run
        contextDeployment
          [opening, ⟨newYear, 4, blankCall .passport 9 0 1 5⟩]).ruleSelf.nullifierToUserIdentifier
            9 = 0 ∨
      StandsFor contextDeployment ((World.deploy contextDeployment contextHub
        (openRegistries 0 0 0)).run contextDeployment
          [opening, ⟨newYear, 4, blankCall .passport 9 0 1 5⟩]) 9 1) ∧
    ¬ ∃ w', contextWorld.exec contextDeployment ⟨newYear, 8, .verifySelfProof
      (payloadOf .passport ((Disclosure.blank .passport 9 0 1).proof .passport))
      (contextOf 1 6)⟩ = .ok w' := by
  obtain ⟨hruns, hpairs⟩ := proof_bound_to_context contextDeployment onePreimage_contextOracles
  constructor
  · apply hruns
    · -- the two transactions are sent by accounts, and the verifier accepts only this context
      exact List.forall_mem_cons.mpr ⟨trivial, List.forall_mem_singleton.mpr trivial⟩
    · intro t tx _ d proof haccepted _
      exact beq_iff_eq.mp haccepted
  · rintro ⟨w', h⟩
    have hcontexts := hpairs _ _ _ _ _ _ _ _ _ _ _ _ _ _ (payloadOf_proof _ _)
      (payloadOf_proof _ _) rfl rfl (exec_contextWorld 4) h
    -- equal contexts name equal identifiers
    have huser := congrArg userIdentifierOf hcontexts
    change userIdentifierOf (contextOf 1 5) = userIdentifierOf (contextOf 1 6) at huser
    rw [userIdentifierOf_contextOf, userIdentifierOf_contextOf] at huser
    exact absurd huser (by decide)

end RuleSelf
