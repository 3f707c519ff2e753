import RuleSelf.Self.Hub

/-!
# The Verification Pipeline

What it takes for the hub to accept a proof. Each check of the hub gets its
condition, stated with the signals of the document type it is made for, and the
conditions are collected in `Accepts`: `verify` calls back exactly when its input
decodes to a proof that is accepted, and then with the user identifier of the
context and the nullifier of the proof.
-/

namespace RuleSelf

open Evm Abi Revert SelfStructs CircuitConstantsV2

/-! ## The public signals of a document type -/

namespace DocumentType

/-- The scope signal. -/
def scope (signals : Fin 21 → Word) : Word := signals 19

/-- The user identifier signal. -/
def userIdentifier (signals : Fin 21 → Word) : Word := signals 20

/-- The nullifier signal. -/
def nullifier : DocumentType → (Fin 21 → Word) → Word
  | passport, signals => signals 7
  | idCard, signals => signals 8

/-- The root of the commitment tree. -/
def merkleRoot : DocumentType → (Fin 21 → Word) → Word
  | passport, signals => signals 9
  | idCard, signals => signals 10

/-- The six digits of the current date. -/
def currentDate : DocumentType → (Fin 21 → Word) → Fin 6 → Word
  | passport, signals, i => signals ⟨10 + i, by omega⟩
  | idCard, signals, i => signals ⟨11 + i, by omega⟩

/-- The packed list of forbidden countries the proof is made against. -/
def forbiddenCountries : DocumentType → (Fin 21 → Word) → Fin 4 → Word
  | passport, signals, i => signals ⟨3 + i, by omega⟩
  | idCard, signals, i => signals ⟨4 + i, by omega⟩

/-- Every revealed-data signal is a field element. -/
def RevealedInField : DocumentType → (Fin 21 → Word) → Prop
  | passport, signals =>
    ∀ i : Fin 3, (signals ⟨0 + i, by omega⟩).toNat < Formatter.snarkScalarField
  | idCard, signals =>
    ∀ i : Fin 4, (signals ⟨0 + i, by omega⟩).toNat < Formatter.snarkScalarField

/-- The revealed data: the little-endian unpacking of its signals. -/
def revealedData : DocumentType → (Fin 21 → Word) → Bytes
  | passport, signals =>
    Formatter.unpackElements ![31, 31, 31] fun i : Fin 3 => signals ⟨0 + i, by omega⟩
  | idCard, signals =>
    Formatter.unpackElements ![31, 31, 31, 1] fun i : Fin 4 => signals ⟨0 + i, by omega⟩

theorem signal_scopeIndex (d : DocumentType) (proof : VcAndDiscloseProof) :
    proof.signal d.indices.scopeIndex = .ok (scope proof.pubSignals) := by
  cases d <;> rfl

theorem signal_userIdentifierIndex (d : DocumentType) (proof : VcAndDiscloseProof) :
    proof.signal d.indices.userIdentifierIndex = .ok (userIdentifier proof.pubSignals) := by
  cases d <;> rfl

theorem signal_merkleRootIndex (d : DocumentType) (proof : VcAndDiscloseProof) :
    proof.signal d.indices.merkleRootIndex = .ok (d.merkleRoot proof.pubSignals) := by
  cases d <;> rfl

theorem signal_nullifierIndex (d : DocumentType) (proof : VcAndDiscloseProof) :
    proof.signal d.indices.nullifierIndex = .ok (d.nullifier proof.pubSignals) := by
  cases d <;> rfl

theorem revealedData_length (d : DocumentType) (signals : Fin 21 → Word) :
    (d.revealedData signals).length = d.revealedLength := by
  cases d <;> exact Formatter.unpackElements_length _ _

end DocumentType

namespace IdentityVerificationHub

variable {o : Oracles} {regs : Registries} {block : Block} {s : Storage} {d : DocumentType}

/-! ## Conditions of the checks -/

/-- The root was one of the document type's commitment tree, in the registry at an address. -/
def RootKnown (regs : Registries) : DocumentType → Address → Word → Prop
  | .passport, registry, root =>
    IdentityRegistryImplV1.checkIdentityCommitmentRoot (regs.passport registry) root = true
  | .idCard, registry, root =>
    IdentityRegistryIdCardImplV1.checkIdentityCommitmentRoot (regs.idCard registry) root = true

/-- The date is readable and within a day of the start of the block's day. -/
def DateInRange (block : Block) (dateNum : Fin 6 → Word) : Prop :=
  ∃ timestamp, Formatter.proofDateToUnixTimestamp dateNum = .ok timestamp ∧
    Formatter.day ≤ getStartOfDayTimestamp block ∧
    getStartOfDayTimestamp block - Formatter.day + 1 ≤ timestamp ∧
    timestamp ≤ getStartOfDayTimestamp block + Formatter.day - 1

private theorem performScopeCheck_eq_ok (scope : Word) (proof : VcAndDiscloseProof) :
    performScopeCheck scope proof d.indices = .ok () ↔
      DocumentType.scope proof.pubSignals = scope := by
  unfold performScopeCheck
  rw [d.signal_scopeIndex, ok_bind, revertIf_eq_ok, not_not]
  exact eq_comm

private theorem performUserIdentifierCheck_eq_ok (context : Bytes) (proof : VcAndDiscloseProof) :
    performUserIdentifierCheck o context proof d.indices = .ok () ↔
      DocumentType.userIdentifier proof.pubSignals = hashUserContext o (context.drop 32) := by
  unfold performUserIdentifierCheck
  rw [d.signal_userIdentifierIndex, ok_bind, revertIf_eq_ok, not_not]
  exact eq_comm

private theorem performRootCheck_eq_ok (proof : VcAndDiscloseProof) :
    performRootCheck regs s d.attestationId proof d.indices = .ok () ↔
      s.registries d.attestationId ≠ 0 ∧
        RootKnown regs d (s.registries d.attestationId) (d.merkleRoot proof.pubSignals) := by
  unfold performRootCheck
  rw [d.signal_merkleRootIndex, ok_bind]
  simp only [check_bind_eq_ok, revertIf_eq_ok]
  -- each type consults its own registry
  cases d with
  | passport =>
    rw [if_pos (show DocumentType.passport.attestationId = AttestationId.ePassport from rfl),
      revertIf_eq_ok, Bool.not_eq_false]
    rfl
  | idCard =>
    rw [if_neg DocumentType.attestationId_idCard_ne,
      if_pos (show DocumentType.idCard.attestationId = AttestationId.euIdCard from rfl),
      revertIf_eq_ok, Bool.not_eq_false]
    rfl

theorem performCurrentDateCheck_eq_ok (proof : VcAndDiscloseProof) :
    performCurrentDateCheck block proof d.indices = .ok () ↔
      DateInRange block (d.currentDate proof.pubSignals) := by
  have hsignals : proof.signals d.indices.currentDateIndex 6 =
      .ok (d.currentDate proof.pubSignals) := by
    cases d <;> rfl
  unfold performCurrentDateCheck DateInRange
  rw [hsignals, ok_bind]
  simp only [↓check_bind_eq_ok, bind_eq_ok, revertIf_eq_ok, not_or, not_lt, gt_iff_lt]

/-! ## The accepted proofs -/

/-- The hub accepts a proof over a document of type `d`, for a scope, under a config,
and sent with a context (the user context data without the config id in front). -/
structure Accepts (o : Oracles) (regs : Registries) (block : Block) (s : Storage)
    (d : DocumentType) (scope : Word) (c : VerificationConfigV2) (proof : VcAndDiscloseProof)
    (context : Bytes) : Prop where
  configured : s.v2VerificationConfigs (generateConfigId o c) = c
  scope_eq : DocumentType.scope proof.pubSignals = scope
  userIdentifier_eq : DocumentType.userIdentifier proof.pubSignals = hashUserContext o context
  registry_set : s.registries d.attestationId ≠ 0
  root_known : RootKnown regs d (s.registries d.attestationId) (d.merkleRoot proof.pubSignals)
  date_in_range : DateInRange block (d.currentDate proof.pubSignals)
  groth16 : o.verifyProof (s.discloseVerifiers d.attestationId) proof = true
  in_field : d.RevealedInField proof.pubSignals
  meets : d.Meets (CustomVerifier.checkedFlag d) c (d.revealedData proof.pubSignals)
    (d.forbiddenCountries proof.pubSignals)
  dates_readable : CustomVerifier.DatesReadable d (d.revealedData proof.pubSignals)

/-- The output struct of a document type, encoded. -/
def encodeOutput (d : DocumentType) (proof : VcAndDiscloseProof) (userIdentifier : Word) : Bytes :=
  match d with
  | .passport => PassportOutput.codec.encode
      ⟨d.attestationId, d.revealedData proof.pubSignals, userIdentifier,
        d.nullifier proof.pubSignals, d.forbiddenCountries proof.pubSignals⟩
  | .idCard => EuIdOutput.codec.encode
      ⟨d.attestationId, d.revealedData proof.pubSignals, userIdentifier,
        d.nullifier proof.pubSignals, d.forbiddenCountries proof.pubSignals⟩

theorem createVerificationOutput_eq_ok (proof : VcAndDiscloseProof)
    (userIdentifier : Word) {out : Bytes} :
    createVerificationOutput d.attestationId proof d.indices userIdentifier = .ok out ↔
      d.RevealedInField proof.pubSignals ∧ encodeOutput d proof userIdentifier = out := by
  -- four signals of the countries, wherever they begin
  have hcountries : proof.signals d.indices.forbiddenCountriesListPackedIndex 4 =
      .ok (d.forbiddenCountries proof.pubSignals) := by
    cases d <;> rfl
  unfold createVerificationOutput
  cases d with
  | passport =>
    rw [if_pos (show DocumentType.passport.attestationId = AttestationId.ePassport from rfl)]
    have hrevealed : proof.signals DocumentType.passport.indices.revealedDataPackedIndex 3 =
        .ok fun i : Fin 3 => proof.pubSignals ⟨0 + i, by omega⟩ := rfl
    unfold createPassportOutput
    rw [DocumentType.signal_nullifierIndex, hcountries, hrevealed]
    simp only [ok_bind, bind_eq_ok, pure_eq_ok, Formatter.fieldElementsToBytes_eq_ok]
    constructor
    · rintro ⟨_, ⟨hfield, rfl⟩, rfl⟩
      exact ⟨hfield, rfl⟩
    · rintro ⟨hfield, rfl⟩
      exact ⟨_, ⟨hfield, rfl⟩, rfl⟩
  | idCard =>
    -- four elements instead of three, and one signal further on
    rw [if_neg DocumentType.attestationId_idCard_ne,
      if_pos (show DocumentType.idCard.attestationId = AttestationId.euIdCard from rfl)]
    have hrevealed : proof.signals DocumentType.idCard.indices.revealedDataPackedIndex 4 =
        .ok fun i : Fin 4 => proof.pubSignals ⟨0 + i, by omega⟩ := rfl
    unfold createEuIdOutput
    rw [DocumentType.signal_nullifierIndex, hcountries, hrevealed]
    simp only [ok_bind, bind_eq_ok, pure_eq_ok, Formatter.fieldElementsToBytesIdCard_eq_ok]
    constructor
    · rintro ⟨_, ⟨hfield, rfl⟩, rfl⟩
      exact ⟨hfield, rfl⟩
    · rintro ⟨hfield, rfl⟩
      exact ⟨_, ⟨hfield, rfl⟩, rfl⟩

/-- The encoded output struct is verified as the struct it encodes. -/
theorem customVerify_encodeOutput (c : VerificationConfigV2) (proof : VcAndDiscloseProof)
    (userIdentifier : Word) :
    CustomVerifier.customVerify d.attestationId (GenericFormatter.formatV2Config c)
      (encodeOutput d proof userIdentifier) =
      CustomVerifier.verify d c (d.revealedData proof.pubSignals) userIdentifier
        (d.nullifier proof.pubSignals) (d.forbiddenCountries proof.pubSignals) := by
  -- the output is short enough to be decoded
  have hlen := d.revealedData_length proof.pubSignals
  cases d with
  | passport =>
    exact CustomVerifier.customVerify_passport c _ (hlen.trans_lt (by decide))
  | idCard =>
    exact CustomVerifier.customVerify_idCard c _ (hlen.trans_lt (by decide))

private theorem basicVerification_eq_ok {version : UInt8} {scope : Word}
    {proof : VcAndDiscloseProof} {context : Bytes} {userIdentifier : Word} {out : Bytes} :
    basicVerification o regs block s ⟨version, scope, d.attestationId⟩ proof context
      userIdentifier = .ok out ↔
      DocumentType.scope proof.pubSignals = scope ∧
      DocumentType.userIdentifier proof.pubSignals = hashUserContext o (context.drop 32) ∧
      (s.registries d.attestationId ≠ 0 ∧
        RootKnown regs d (s.registries d.attestationId) (d.merkleRoot proof.pubSignals)) ∧
      DateInRange block (d.currentDate proof.pubSignals) ∧
      o.verifyProof (s.discloseVerifiers d.attestationId) proof = true ∧
      d.RevealedInField proof.pubSignals ∧ encodeOutput d proof userIdentifier = out := by
  unfold basicVerification performGroth16ProofVerification
  rw [DocumentType.getDiscloseIndices_attestationId, ok_bind]
  simp only [check_bind_eq_ok, performScopeCheck_eq_ok, performUserIdentifierCheck_eq_ok,
    performRootCheck_eq_ok, performCurrentDateCheck_eq_ok, revertIf_eq_ok, Bool.not_eq_false,
    createVerificationOutput_eq_ok]

/-- **What an executed flow establishes**: the proof is accepted, and the output names the
user identifier of the context and the nullifier of the proof. -/
theorem executeVerificationFlow_eq_ok {header : HubInputHeader} {proofData context : Bytes}
    {output rest : Bytes} {destChainId : Word}
    (h : executeVerificationFlow o regs block s header proofData context =
      .ok (output, destChainId, rest)) :
    ∃ d c proof out, header.attestationId = DocumentType.attestationId d ∧
      VcAndDiscloseProof.codec.read proofData = some proof ∧ 96 ≤ context.length ∧
      Word.ofBytes (slice context 0 32) = generateConfigId o c ∧
      Accepts o regs block s d header.scope c proof (context.drop 32) ∧
      destChainId = Word.ofBytes (slice context 32 64) ∧ rest = context.drop 96 ∧
      output = formatVerificationOutput header.contractVersion out ∧
      out.userIdentifier = Word.ofBytes (slice context 64 96) ∧
      out.nullifier = d.nullifier proof.pubSignals ∧ out.Short := by
  unfold executeVerificationFlow decodeUserContextData getVerificationConfigById
    decodeVcAndDiscloseProof at h
  simp only [↓check_bind_eq_ok, bind_eq_ok, pure_eq_ok, revertIf_eq_ok, orRevert_eq_ok, not_lt,
    not_not, Prod.mk.injEq] at h
  obtain ⟨_, ⟨hlen, rfl⟩, _, ⟨hconfig, rfl⟩, proof, hproof, proofOutput, hbasic, out, hverify,
    houtput, hdest, hrest⟩ := h
  -- only the two document types get past the signal indices
  obtain ⟨version, scope, attestationId⟩ := header
  obtain ⟨d, rfl⟩ : ∃ d : DocumentType, attestationId = d.attestationId := by
    unfold basicVerification at hbasic
    rw [bind_eq_ok] at hbasic
    obtain ⟨indices, hindices, -⟩ := hbasic
    obtain ⟨d, hd, -⟩ := DocumentType.of_getDiscloseIndices_eq_ok hindices
    exact ⟨d, hd⟩
  -- the checks of `basicVerification`, in their order
  rw [basicVerification_eq_ok] at hbasic
  obtain ⟨hscope, huser, ⟨hregistry, hroot⟩, hdate, hgroth, hfield, rfl⟩ := hbasic
  rw [customVerify_encodeOutput] at hverify
  obtain ⟨hmeets, hdates, huserOut, hnullifier, hshort⟩ := CustomVerifier.verify_eq_ok hverify
  refine ⟨d, _, proof, out, rfl, hproof, hlen, hconfig.symm, ?_, hdest.symm, hrest.symm,
    houtput.symm, huserOut, hnullifier, hshort⟩
  exact {
    configured := by rw [hconfig]
    scope_eq := hscope
    userIdentifier_eq := huser
    registry_set := hregistry
    root_known := hroot
    date_in_range := hdate
    groth16 := hgroth
    in_field := hfield
    meets := hmeets
    dates_readable := hdates }

/-- An accepted proof, sent with its config id and its context, is executed. -/
theorem executeVerificationFlow_succeeds (version : UInt8) {scope : Word}
    {c : VerificationConfigV2} {proof : VcAndDiscloseProof} {proofData context : Bytes}
    (hproof : VcAndDiscloseProof.codec.read proofData = some proof) (hlen : 96 ≤ context.length)
    (hconfig : Word.ofBytes (slice context 0 32) = generateConfigId o c)
    (haccepts : Accepts o regs block s d scope c proof (context.drop 32)) :
    ∃ out : SelfStructs.GenericDiscloseOutputV2,
      executeVerificationFlow o regs block s ⟨version, scope, d.attestationId⟩ proofData
        context = .ok (formatVerificationOutput version out,
          Word.ofBytes (slice context 32 64), context.drop 96) ∧
      out.userIdentifier = Word.ofBytes (slice context 64 96) ∧
      out.nullifier = d.nullifier proof.pubSignals ∧ out.Short := by
  obtain ⟨out, hout⟩ := CustomVerifier.verify_succeeds
    (Word.ofBytes (slice context 64 96)) (d.nullifier proof.pubSignals)
    (d.revealedData_length proof.pubSignals) haccepts.meets haccepts.dates_readable
  obtain ⟨-, -, huser, hnullifier, hshort⟩ := CustomVerifier.verify_eq_ok hout
  -- the config that is looked up is the one the id stands for
  have hstored : s.v2VerificationConfigs (Word.ofBytes (slice context 0 32)) = c := by
    rw [hconfig, haccepts.configured]
  refine ⟨out, ?_, huser, hnullifier, hshort⟩
  unfold executeVerificationFlow decodeUserContextData getVerificationConfigById
    decodeVcAndDiscloseProof
  simp only [↓check_bind_eq_ok, bind_eq_ok, pure_eq_ok, revertIf_eq_ok, orRevert_eq_ok, not_lt,
    not_not, Prod.mk.injEq]
  refine ⟨_, ⟨hlen, rfl⟩, _, ⟨?_, rfl⟩, proof, hproof, _, basicVerification_eq_ok.mpr
    ⟨haccepts.scope_eq, haccepts.userIdentifier_eq, ⟨haccepts.registry_set,
      haccepts.root_known⟩, haccepts.date_in_range, haccepts.groth16, haccepts.in_field, rfl⟩,
    out, ?_, rfl, rfl, rfl⟩
  · rw [hstored, hconfig]
  · rw [hstored, customVerify_encodeOutput]
    exact hout

/-- `verify` calls back when its input decodes, the flow executes, and the destination is
the chain it runs on. -/
theorem verify_eq_ok {input context : Bytes} {callback : Callback} :
    verify o regs block s input context = .ok callback ↔
      ∃ header proofData output destChainId rest,
        decodeInput input = .ok (header, proofData) ∧
        executeVerificationFlow o regs block s header proofData context =
          .ok (output, destChainId, rest) ∧
        destChainId = block.chainid ∧ callback = ⟨output, rest⟩ := by
  unfold verify handleVerificationResult
  simp only [↓check_bind_eq_ok, bind_eq_ok, require_eq_ok, pure_eq_ok, Prod.exists]
  constructor
  · rintro ⟨header, proofData, hinput, output, dest, rest, hflow, hchain, rfl⟩
    exact ⟨header, proofData, output, dest, rest, hinput, hflow, hchain, rfl⟩
  · rintro ⟨header, proofData, output, dest, rest, hinput, hflow, hchain, rfl⟩
    exact ⟨header, proofData, hinput, output, dest, rest, hflow, hchain, rfl⟩

end IdentityVerificationHub

end RuleSelf
