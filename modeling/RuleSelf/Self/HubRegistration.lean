import RuleSelf.Self.Hub
import RuleSelf.Self.IdentityRegistry

/-!
# The Hub: Registrations and Administration

The rest of `IdentityVerificationHubImplV2`: identity commitments and DSC key
commitments are registered with a Groth16 proof, in the registry of the attestation id,
and the owner names the registries and the verifiers. What the hub calls in a registry
is returned, with the registry's address.
-/

namespace RuleSelf

open Evm Revert

/-! ## Register and DSC proofs -/

/-- `IRegisterCircuitVerifier.RegisterCircuitProof`: a Groth16 proof and its 3 public
signals. -/
structure RegisterCircuitProof where
  a : Fin 2 → Word
  b : Fin 2 → Fin 2 → Word
  c : Fin 2 → Word
  pubSignals : Fin 3 → Word

/-- `IDscCircuitVerifier.DscCircuitProof`: a Groth16 proof and its 2 public signals. -/
structure DscCircuitProof where
  a : Fin 2 → Word
  b : Fin 2 → Fin 2 → Word
  c : Fin 2 → Word
  pubSignals : Fin 2 → Word

namespace CircuitConstantsV2

/-- Index to access the nullifier in the register circuit public signals. -/
def registerNullifierIndex : Fin 3 := 0

/-- Index to access the commitment in the register circuit public signals. -/
def registerCommitmentIndex : Fin 3 := 1

/-- Index to access the Merkle root in the register circuit public signals. -/
def registerMerkleRootIndex : Fin 3 := 2

/-- Index to access the tree leaf in the DSC circuit public signals. -/
def dscTreeLeafIndex : Fin 2 := 0

/-- Index to access the CSCA root in the DSC circuit public signals. -/
def dscCscaRootIndex : Fin 2 := 1

end CircuitConstantsV2

namespace RegisterCircuitProof

open CircuitConstantsV2

/-- The nullifier the proof is about. -/
def nullifier (proof : RegisterCircuitProof) : Word := proof.pubSignals registerNullifierIndex

/-- The commitment the proof is about. -/
def commitment (proof : RegisterCircuitProof) : Word := proof.pubSignals registerCommitmentIndex

/-- The root of the DSC key commitment tree the proof is about. -/
def merkleRoot (proof : RegisterCircuitProof) : Word := proof.pubSignals registerMerkleRootIndex

end RegisterCircuitProof

namespace DscCircuitProof

open CircuitConstantsV2

/-- The DSC key commitment the proof is about. -/
def treeLeaf (proof : DscCircuitProof) : Word := proof.pubSignals dscTreeLeafIndex

/-- The CSCA root the proof is about. -/
def cscaRoot (proof : DscCircuitProof) : Word := proof.pubSignals dscCscaRootIndex

end DscCircuitProof

/-- The Groth16 verifier contracts of the register and DSC circuits, by their addresses. A
call to an address that holds none reverts, as a rejected proof does. -/
structure RegistrationOracles where
  verifyRegisterProof : Address → RegisterCircuitProof → Bool
  verifyDscProof : Address → DscCircuitProof → Bool

namespace IdentityVerificationHub

/-- Storage of the hub: what its verification reads, the other verifiers, and the owner. -/
structure FullStorage (Owners : Type) extends Storage where
  implRoot : ImplRoot.Storage Owners
  registerCircuitVerifiers : Word → Word → Address
  dscCircuitVerifiers : Word → Word → Address

/-- A registry's address, and what is called there. -/
structure RegistryCall where
  registry : Address
  call : IdentityRegistry.Call

variable {Owners Tree : Type} (imt : LeanIMT Tree) (ow : Ownable2Step Owners)
  (o : RegistrationOracles)
  (registryAt : Address → Except RegistrationError (IdentityRegistry.Storage Owners Tree))

/-- The registry of an attestation id. The two branches of the source call the same functions,
by the interfaces of the two registries. -/
def registryOf (attestationId : Word) (s : FullStorage Owners) :
    Except RegistrationError (IdentityRegistry.Storage Owners Tree) := do
  require (attestationId = AttestationId.ePassport ∨ attestationId = AttestationId.euIdCard)
    .invalidAttestationId
  -- an address without a registry reverts as well
  registryAt (s.registries attestationId)

/-! ## Registrations -/

/-- Verifies the register circuit proof. -/
def verifyRegisterProof (attestationId registerCircuitVerifierId : Word)
    (proof : RegisterCircuitProof) (s : FullStorage Owners) : Except RegistrationError Unit := do
  let verifier := s.registerCircuitVerifiers attestationId registerCircuitVerifierId
  revertIf (verifier = 0) .noVerifierSet
  let registry ← registryOf registryAt attestationId s
  -- only the current root counts, not earlier ones
  revertIf (IdentityRegistry.checkDscKeyCommitmentMerkleRoot imt proof.merkleRoot registry = false)
    .invalidDscCommitmentRoot
  revertIf (o.verifyRegisterProof verifier proof = false) .invalidRegisterProof

/-- Verifies the DSC circuit proof. -/
def verifyDscProof (attestationId dscCircuitVerifierId : Word) (proof : DscCircuitProof)
    (s : FullStorage Owners) : Except RegistrationError Unit := do
  let verifier := s.dscCircuitVerifiers attestationId dscCircuitVerifierId
  revertIf (verifier = 0) .noVerifierSet
  let registry ← registryOf registryAt attestationId s
  revertIf (IdentityRegistry.checkCscaRoot proof.cscaRoot registry = false) .invalidCscaRoot
  revertIf (o.verifyDscProof verifier proof = false) .invalidDscProof

/-- Registers a commitment using a register circuit proof. -/
def registerCommitment (attestationId registerCircuitVerifierId : Word)
    (proof : RegisterCircuitProof) (s : FullStorage Owners) :
    Except RegistrationError RegistryCall := do
  verifyRegisterProof imt o registryAt attestationId registerCircuitVerifierId proof s
  return {
    registry := s.registries attestationId
    call := .registerCommitment attestationId proof.nullifier proof.commitment }

/-- Registers a DSC key commitment using a DSC circuit proof. -/
def registerDscKeyCommitment (attestationId dscCircuitVerifierId : Word)
    (proof : DscCircuitProof) (s : FullStorage Owners) :
    Except RegistrationError RegistryCall := do
  verifyDscProof o registryAt attestationId dscCircuitVerifierId proof s
  return {
    registry := s.registries attestationId
    call := .registerDscKeyCommitment proof.treeLeaf }

/-! ## Administration -/

/-- Initializes the hub. -/
def initializeHub (sender : Address) (s : FullStorage Owners) :
    Except RegistrationError (FullStorage Owners) := do
  -- the initializer makes its caller the owner, whoever that is
  let implRoot ← ImplRoot.init ow sender s.implRoot
  return { s with implRoot }

/-- Updates the registry address. -/
def updateRegistry (sender : Address) (attestationId : Word) (registryAddress : Address)
    (s : FullStorage Owners) : Except RegistrationError (FullStorage Owners) := do
  ImplRoot.onlyOwner ow sender s.implRoot
  return { s with registries := Function.update s.registries attestationId registryAddress }

/-- Updates the VC and Disclose circuit verifier address. -/
def updateVcAndDiscloseCircuit (sender : Address) (attestationId : Word)
    (vcAndDiscloseCircuitVerifierAddress : Address) (s : FullStorage Owners) :
    Except RegistrationError (FullStorage Owners) := do
  ImplRoot.onlyOwner ow sender s.implRoot
  return { s with
    discloseVerifiers := Function.update s.discloseVerifiers attestationId
      vcAndDiscloseCircuitVerifierAddress }

/-- The verifier of one attestation id and type id. -/
def setVerifier (verifiers : Word → Word → Address) (attestationId typeId : Word)
    (verifierAddress : Address) : Word → Word → Address :=
  Function.update verifiers attestationId
    (Function.update (verifiers attestationId) typeId verifierAddress)

/-- Updates the register circuit verifier for a specific signature type. -/
def updateRegisterCircuitVerifier (sender : Address) (attestationId typeId : Word)
    (verifierAddress : Address) (s : FullStorage Owners) :
    Except RegistrationError (FullStorage Owners) := do
  ImplRoot.onlyOwner ow sender s.implRoot
  return { s with
    registerCircuitVerifiers :=
      setVerifier s.registerCircuitVerifiers attestationId typeId verifierAddress }

/-- Updates the DSC circuit verifier for a specific signature type. -/
def updateDscVerifier (sender : Address) (attestationId typeId : Word)
    (verifierAddress : Address) (s : FullStorage Owners) :
    Except RegistrationError (FullStorage Owners) := do
  ImplRoot.onlyOwner ow sender s.implRoot
  return { s with
    dscCircuitVerifiers :=
      setVerifier s.dscCircuitVerifiers attestationId typeId verifierAddress }

/-- The loop of the batch updates, over arrays of one length. -/
def setVerifiers : (Word → Word → Address) → List Word → List Word → List Address →
    Word → Word → Address
  | verifiers, a :: attestationIds, t :: typeIds, v :: verifierAddresses =>
    setVerifiers (setVerifier verifiers a t v) attestationIds typeIds verifierAddresses
  | verifiers, _, _, _ => verifiers

/-- Batch updates register circuit verifiers. -/
def batchUpdateRegisterCircuitVerifiers (sender : Address) (attestationIds typeIds : List Word)
    (verifierAddresses : List Address) (s : FullStorage Owners) :
    Except RegistrationError (FullStorage Owners) := do
  ImplRoot.onlyOwner ow sender s.implRoot
  revertIf (attestationIds.length ≠ typeIds.length ∨
    attestationIds.length ≠ verifierAddresses.length) .lengthMismatch
  return { s with
    registerCircuitVerifiers :=
      setVerifiers s.registerCircuitVerifiers attestationIds typeIds verifierAddresses }

/-- Batch updates DSC circuit verifiers. -/
def batchUpdateDscCircuitVerifiers (sender : Address) (attestationIds typeIds : List Word)
    (verifierAddresses : List Address) (s : FullStorage Owners) :
    Except RegistrationError (FullStorage Owners) := do
  ImplRoot.onlyOwner ow sender s.implRoot
  revertIf (attestationIds.length ≠ typeIds.length ∨
    attestationIds.length ≠ verifierAddresses.length) .lengthMismatch
  return { s with
    dscCircuitVerifiers :=
      setVerifiers s.dscCircuitVerifiers attestationIds typeIds verifierAddresses }

/-- The functions of the hub its owner calls. -/
inductive AdminCall where
  | initializeHub
  | updateRegistry (attestationId : Word) (registryAddress : Address)
  | updateVcAndDiscloseCircuit (attestationId : Word) (verifierAddress : Address)
  | updateRegisterCircuitVerifier (attestationId typeId : Word) (verifierAddress : Address)
  | updateDscVerifier (attestationId typeId : Word) (verifierAddress : Address)
  | batchUpdateRegisterCircuitVerifiers (attestationIds typeIds : List Word)
      (verifierAddresses : List Address)
  | batchUpdateDscCircuitVerifiers (attestationIds typeIds : List Word)
      (verifierAddresses : List Address)
  | ownership (call : OwnershipCall)

/-- Executes one of them. -/
def execAdmin (sender : Address) (call : AdminCall) (s : FullStorage Owners) :
    Except RegistrationError (FullStorage Owners) :=
  match call with
  | .initializeHub => initializeHub ow sender s
  | .updateRegistry attestationId registryAddress =>
    updateRegistry ow sender attestationId registryAddress s
  | .updateVcAndDiscloseCircuit attestationId verifierAddress =>
    updateVcAndDiscloseCircuit ow sender attestationId verifierAddress s
  | .updateRegisterCircuitVerifier attestationId typeId verifierAddress =>
    updateRegisterCircuitVerifier ow sender attestationId typeId verifierAddress s
  | .updateDscVerifier attestationId typeId verifierAddress =>
    updateDscVerifier ow sender attestationId typeId verifierAddress s
  | .batchUpdateRegisterCircuitVerifiers attestationIds typeIds verifierAddresses =>
    batchUpdateRegisterCircuitVerifiers ow sender attestationIds typeIds verifierAddresses s
  | .batchUpdateDscCircuitVerifiers attestationIds typeIds verifierAddresses =>
    batchUpdateDscCircuitVerifiers ow sender attestationIds typeIds verifierAddresses s
  | .ownership call => do
    let implRoot ← ImplRoot.ownership ow sender call s.implRoot
    return { s with implRoot }

/-! ## What they do -/

variable {imt ow o registryAt} {attestationId verifierId : Word} {s s' : FullStorage Owners}

theorem registryOf_eq_ok {registry : IdentityRegistry.Storage Owners Tree} :
    registryOf registryAt attestationId s = .ok registry ↔
      (attestationId = AttestationId.ePassport ∨ attestationId = AttestationId.euIdCard) ∧
        registryAt (s.registries attestationId) = .ok registry := by
  simp [registryOf]

/-- A register proof is verified when a verifier is set and accepts it, for the root the
DSC key commitment tree has now. -/
theorem registerCommitment_eq_ok {proof : RegisterCircuitProof} {call : RegistryCall} :
    registerCommitment imt o registryAt attestationId verifierId proof s = .ok call ↔
      (s.registerCircuitVerifiers attestationId verifierId ≠ 0 ∧
        (∃ registry, registryOf registryAt attestationId s = .ok registry ∧
          imt.root registry.dscKeyCommitmentIMT = proof.merkleRoot) ∧
        o.verifyRegisterProof (s.registerCircuitVerifiers attestationId verifierId) proof = true) ∧
      call = ⟨s.registries attestationId,
        .registerCommitment attestationId proof.nullifier proof.commitment⟩ := by
  simp only [registerCommitment, verifyRegisterProof, bind_eq_ok, revertIf_eq_ok, pure_eq_ok,
    IdentityRegistry.checkDscKeyCommitmentMerkleRoot, ne_eq,
    beq_eq_false_iff_ne, Bool.not_eq_false]
  grind

/-- A DSC proof is verified when a verifier is set and accepts it, for the CSCA root the
registry has now. -/
theorem registerDscKeyCommitment_eq_ok {proof : DscCircuitProof} {call : RegistryCall} :
    registerDscKeyCommitment o registryAt attestationId verifierId proof s = .ok call ↔
      (s.dscCircuitVerifiers attestationId verifierId ≠ 0 ∧
        (∃ registry, registryOf registryAt attestationId s = .ok registry ∧
          registry.cscaRoot = proof.cscaRoot) ∧
        o.verifyDscProof (s.dscCircuitVerifiers attestationId verifierId) proof = true) ∧
      call = ⟨s.registries attestationId, .registerDscKeyCommitment proof.treeLeaf⟩ := by
  simp only [registerDscKeyCommitment, verifyDscProof, bind_eq_ok, revertIf_eq_ok, pure_eq_ok,
    IdentityRegistry.checkCscaRoot, ne_eq, beq_eq_false_iff_ne, Bool.not_eq_false]
  grind

/-- **One administrative call**: whatever commits keeps the configs, and was made by the owner
or changes nothing but the owner. -/
theorem execAdmin_cases {sender : Address} {call : AdminCall}
    (h : execAdmin ow sender call s = .ok s') :
    s'.v2VerificationConfigs = s.v2VerificationConfigs ∧
      (ow.owner s.implRoot.owners = sender ∨ ∃ implRoot, s' = { s with implRoot }) := by
  -- initialization and ownership write the root storage, everything else is the owner's
  cases call with
  | initializeHub | ownership =>
    obtain ⟨implRoot, -, h⟩ := bind_eq_ok.mp h
    cases h
    exact ⟨rfl, .inr ⟨implRoot, rfl⟩⟩
  | updateRegistry | updateVcAndDiscloseCircuit | updateRegisterCircuitVerifier
  | updateDscVerifier =>
    obtain ⟨howner, h⟩ := check_bind_eq_ok.mp h
    cases h
    exact ⟨rfl, .inl (ImplRoot.onlyOwner_eq_ok.mp howner)⟩
  | batchUpdateRegisterCircuitVerifiers | batchUpdateDscCircuitVerifiers =>
    obtain ⟨howner, h⟩ := check_bind_eq_ok.mp h
    obtain ⟨-, h⟩ := check_bind_eq_ok.mp h
    cases h
    exact ⟨rfl, .inl (ImplRoot.onlyOwner_eq_ok.mp howner)⟩

end IdentityVerificationHub

end RuleSelf
