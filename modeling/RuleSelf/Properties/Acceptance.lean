import RuleSelf.Contract.VerifiedCall

/-!
# Acceptance

When `verifySelfProof` succeeds, and what it does then. The conditions are those a caller has
to meet and a state has to offer, each read with the signal index of the document type; the
guards on lengths and the packing between the two contracts add nothing to them.
-/

namespace RuleSelf

open Evm Revert SelfStructs IdentityVerificationHub

variable {Roles : Type} {dep : Deployment Roles} {block : Block} {w : World Roles}
  {proofPayload userContextData : Bytes} {d : DocumentType} {proof : VcAndDiscloseProof}

/-- The config the hub holds under RuleSelf's config id. -/
def heldConfig (w : World Roles) : VerificationConfigV2 :=
  w.hub.v2VerificationConfigs w.ruleSelf.configId

/-- A call of `verifySelfProof` carries a proof over a document of type `d` that passes every
check of the hub, and a user identifier that can be registered with the nullifier `n`. -/
structure Acceptable (dep : Deployment Roles) (block : Block) (w : World Roles)
    (proofPayload userContextData : Bytes) (d : DocumentType) (proof : VcAndDiscloseProof)
    (n : Word) : Prop where
  context_length : 64 ≤ userContextData.length
  attestationId : Word.ofBytes (slice proofPayload 0 32) = d.attestationId
  payload : VcAndDiscloseProof.codec.read (proofPayload.drop 32) = some proof
  config : generateConfigId dep.oracles (heldConfig w) = w.ruleSelf.configId
  scope : proof.signal d.indices.scopeIndex = .ok w.ruleSelf.scope
  userIdentifier : proof.signal d.indices.userIdentifierIndex =
    .ok (hashUserContext dep.oracles userContextData)
  registry_set : w.hub.registries d.attestationId ≠ 0
  root : ∃ root, proof.signal d.indices.merkleRootIndex = .ok root ∧
    RootKnown w.registries d (w.hub.registries d.attestationId) root
  date : performCurrentDateCheck block proof d.indices = .ok ()
  groth16 : dep.oracles.verifyProof (w.hub.discloseVerifiers d.attestationId) proof = true
  in_field : d.RevealedInField proof.pubSignals
  compliant : ∃ out, CustomVerifier.customVerify d.attestationId
    (GenericFormatter.formatV2Config (heldConfig w))
    (encodeOutput d proof (userIdentifierOf userContextData)) = .ok out
  chain : Word.ofBytes (slice userContextData 0 32) = block.chainid
  nullifier : proof.signal d.indices.nullifierIndex = .ok n
  isOpen : w.ruleSelf.isRegistrationOpen = true
  nullifier_unused : w.ruleSelf.nullifierToUserIdentifier n = 0
  nonzero : userIdentifierOf userContextData ≠ 0
  unregistered : w.ruleSelf.registeredUserIdentifiers (userIdentifierOf userContextData) = false

/-! ## Compliance -/

/-- The output of a proof is verified exactly when the document meets the config and its dates
can be formatted. -/
private theorem customVerify_succeeds_iff (c : VerificationConfigV2) (u : Word) :
    (∃ out, CustomVerifier.customVerify d.attestationId (GenericFormatter.formatV2Config c)
      (encodeOutput d proof u) = .ok out) ↔
      d.Meets (CustomVerifier.checkedFlag d) c (d.revealedData proof.pubSignals)
          (d.forbiddenCountries proof.pubSignals) ∧
        CustomVerifier.DatesReadable d (d.revealedData proof.pubSignals) := by
  rw [customVerify_encodeOutput]
  constructor
  · intro ⟨out, hout⟩
    obtain ⟨hmeets, hdates, -⟩ := CustomVerifier.verify_eq_ok hout
    exact ⟨hmeets, hdates⟩
  · intro ⟨hmeets, hdates⟩
    exact CustomVerifier.verify_succeeds u _ (d.revealedData_length proof.pubSignals) hmeets hdates

/-! ## The call -/

/-- A payload with a proof behind its header is longer than the header. -/
private theorem payload_length_of_read
    (h : VcAndDiscloseProof.codec.read (proofPayload.drop 32) = some proof) :
    32 < proofPayload.length := by
  by_contra hlen
  rw [List.drop_eq_nil_of_le (Nat.le_of_not_lt hlen)] at h
  exact absurd h (by simp [show VcAndDiscloseProof.codec.read [] = none from rfl])

/-- An acceptable call is a verified one whose pair can be registered. -/
private theorem acceptable_iff :
    (∃ c, Verified dep block w proofPayload userContextData d c proof) ∧
        CanRegister w.ruleSelf (userIdentifierOf userContextData) (d.nullifier proof.pubSignals) ↔
      Acceptable dep block w proofPayload userContextData d proof
        (d.nullifier proof.pubSignals) := by
  constructor
  · intro ⟨⟨c, hverified⟩, hcan⟩
    have haccepts := hverified.accepts
    -- the config of the call is the one that is held
    have hheld : heldConfig w = c := by
      unfold heldConfig
      rw [← hverified.config]
      exact haccepts.configured
    exact {
      context_length := hverified.context_length
      attestationId := hverified.attestationId
      payload := hverified.payload
      config := by rw [hheld, hverified.config]
      scope := by rw [d.signal_scopeIndex, haccepts.scope_eq]
      userIdentifier := by rw [d.signal_userIdentifierIndex, haccepts.userIdentifier_eq]
      registry_set := haccepts.registry_set
      root := ⟨_, d.signal_merkleRootIndex proof, haccepts.root_known⟩
      date := (performCurrentDateCheck_eq_ok proof).mpr haccepts.date_in_range
      groth16 := haccepts.groth16
      in_field := haccepts.in_field
      compliant := by
        rw [hheld]
        exact (customVerify_succeeds_iff c _).mpr ⟨haccepts.meets, haccepts.dates_readable⟩
      chain := hverified.chain
      nullifier := d.signal_nullifierIndex proof
      isOpen := hcan.isOpen
      nullifier_unused := hcan.nullifier_unused
      nonzero := hcan.nonzero
      unregistered := hcan.unregistered }
  · intro h
    -- each signal is read at an index that exists
    obtain ⟨root, hroot, hknown⟩ := h.root
    rw [d.signal_merkleRootIndex] at hroot
    obtain rfl := Except.ok.inj hroot
    obtain ⟨hmeets, hdates⟩ := (customVerify_succeeds_iff _ _).mp h.compliant
    have hscope := h.scope
    rw [d.signal_scopeIndex] at hscope
    have huser := h.userIdentifier
    rw [d.signal_userIdentifierIndex] at huser
    refine ⟨⟨heldConfig w, ?_⟩, h.isOpen, h.nullifier_unused, h.nonzero, h.unregistered⟩
    exact {
      payload_length := payload_length_of_read h.payload
      context_length := h.context_length
      attestationId := h.attestationId
      payload := h.payload
      config := h.config
      accepts := {
        configured := by rw [h.config]; rfl
        scope_eq := Except.ok.inj hscope
        userIdentifier_eq := Except.ok.inj huser
        registry_set := h.registry_set
        root_known := hknown
        date_in_range := (performCurrentDateCheck_eq_ok proof).mp h.date
        groth16 := h.groth16
        in_field := h.in_field
        meets := hmeets
        dates_readable := hdates }
      chain := h.chain }

/-- **When `verifySelfProof` succeeds**: exactly for acceptable calls, in any state, in any block
and whoever sends them. Then the user identifier of the context is stored for the nullifier of the
proof, counts as registered and is announced, and nothing else changes. -/
theorem verifySelfProof_succeeds_iff (dep : Deployment Roles) (block : Block) (sender : Address)
    (w w' : World Roles) (proofPayload userContextData : Bytes) :
    w.exec dep ⟨block, sender, .verifySelfProof proofPayload userContextData⟩ = .ok w' ↔
      ∃ d proof n, Acceptable dep block w proofPayload userContextData d proof n ∧
        w' = { w with
          ruleSelf := { w.ruleSelf with
            nullifierToUserIdentifier := Function.update w.ruleSelf.nullifierToUserIdentifier n
              (userIdentifierOf userContextData)
            registeredUserIdentifiers := Function.update w.ruleSelf.registeredUserIdentifiers
              (userIdentifierOf userContextData) true
            events := w.ruleSelf.events ++
              [.userIdentifierRegistered (userIdentifierOf userContextData) n] } } := by
  -- the transaction is the call of the contract, and reverts when that does
  have hexec : w.exec dep ⟨block, sender, .verifySelfProof proofPayload userContextData⟩ =
      w.onRuleSelf (verifySelfProof (w.hubVerify dep block) dep.hub proofPayload
        userContextData w.ruleSelf) := rfl
  rw [hexec, World.onRuleSelf_eq_ok]
  constructor
  · intro ⟨s', hs, hw'⟩
    obtain ⟨d, c, proof, hverified, hcan, rfl⟩ := verifySelfProof_iff.mp hs
    exact ⟨d, proof, _, acceptable_iff.mp ⟨⟨c, hverified⟩, hcan⟩, hw'.symm⟩
  · intro ⟨d, proof, n, h, hw'⟩
    -- the nullifier is the signal of its index
    have hn := h.nullifier
    rw [d.signal_nullifierIndex] at hn
    obtain rfl := Except.ok.inj hn
    obtain ⟨⟨c, hverified⟩, hcan⟩ := acceptable_iff.mpr h
    exact ⟨_, verifySelfProof_iff.mpr ⟨d, c, proof, hverified, hcan, rfl⟩, hw'.symm⟩

end RuleSelf
