import RuleSelf.Self.CustomVerifier
import RuleSelf.Self.Registry

/-!
# Identity Verification Hub

`IdentityVerificationHubImplV2`, on the path of `verify`: decoding of the input and
of the user context, the checks of `_basicVerification` in their order, the config
lookup, and the callback to `msg.sender`. `verify` writes no storage; what it does
is to call back, so the model returns the arguments of that call.

The hub is deployed behind a proxy and called through it, so `onlyProxy` holds.
-/

namespace RuleSelf

open Evm Abi Revert SelfStructs CircuitConstantsV2

/-- What the hub calls that has no code of its own here: the two hash precompiles and
the Groth16 verifier contracts, by their addresses. A call to an address that holds
no verifier reverts, as a rejected proof does. -/
structure Oracles where
  sha256 : Bytes → Word
  ripemd160 : Bytes → BitVec 160
  verifyProof : Address → VcAndDiscloseProof → Bool

/-- The block a transaction is executed in. -/
structure Block where
  chainid : Word
  timestamp : ℕ

namespace IdentityVerificationHub

/-- Storage of the hub. -/
structure Storage where
  registries : Word → Address
  discloseVerifiers : Word → Address
  v2VerificationConfigs : Word → VerificationConfigV2

/-- The arguments of the call `ISelfVerificationRoot(msg.sender).onVerificationSuccess`. -/
structure Callback where
  output : Bytes
  userData : Bytes

/-! ## Configs -/

/-- Generates a config ID from a verification config. -/
def generateConfigId (o : Oracles) (config : VerificationConfigV2) : Word :=
  o.sha256 (VerificationConfigV2.codec.encode config)

/-- Sets verification config in V2 storage. Anybody may call it. -/
def setVerificationConfigV2 (o : Oracles) (config : VerificationConfigV2) (s : Storage) : Storage :=
  { s with v2VerificationConfigs :=
      Function.update s.v2VerificationConfigs (generateConfigId o config) config }

/-- Gets verification config by configId, as bytes. -/
def getVerificationConfigById (o : Oracles) (s : Storage) (configId : Word) :
    Except Error Bytes := do
  -- nothing stored reads as the zero config, which passes under its own id only
  let verificationConfig := s.v2VerificationConfigs configId
  let config := GenericFormatter.formatV2Config verificationConfig
  revertIf (generateConfigId o verificationConfig ≠ configId) .configNotSet
  return config

/-! ## Decoding -/

/-- Decodes the input data to extract the header and proof data. Format:
| 1 byte contractVersion | 31 bytes buffer | 32 bytes scope | 32 bytes attestationId | proof |. -/
def decodeInput (baseVerificationInput : Bytes) : Except Error (HubInputHeader × Bytes) := do
  revertIf (baseVerificationInput.length < 97) .inputTooShort
  return ({
    contractVersion := baseVerificationInput.headD 0
    scope := Word.ofBytes (slice baseVerificationInput 32 64)
    attestationId := Word.ofBytes (slice baseVerificationInput 64 96) },
    baseVerificationInput.drop 96)

/-- The parts of the user context data. -/
structure UserContext where
  configId : Word
  destChainId : Word
  userIdentifier : Word
  remainingData : Bytes

/-- Decodes userContextData. Format:
| 32 bytes configId | 32 bytes destChainId | 32 bytes userIdentifier | data |. -/
def decodeUserContextData (userContextData : Bytes) : Except Error UserContext := do
  revertIf (userContextData.length < 96) .userContextDataTooShort
  return {
    configId := Word.ofBytes (slice userContextData 0 32)
    destChainId := Word.ofBytes (slice userContextData 32 64)
    userIdentifier := Word.ofBytes (slice userContextData 64 96)
    remainingData := userContextData.drop 96 }

/-- Decodes VC and Disclose proof from bytes data. -/
def decodeVcAndDiscloseProof (data : Bytes) : Except Error VcAndDiscloseProof :=
  orRevert (VcAndDiscloseProof.codec.read data) .abiDecode

/-! ## Checks -/

/-- Performs scope validation. -/
def performScopeCheck (headerScope : Word) (proof : VcAndDiscloseProof)
    (indices : DiscloseIndices) : Except Error Unit := do
  let proofScope ← proof.signal indices.scopeIndex
  revertIf (headerScope ≠ proofScope) .scopeMismatch

/-- The user identifier a proof has to be made for, given the context it is sent with
(without the config id in front). -/
def hashUserContext (o : Oracles) (userContextDataWithoutConfigId : Bytes) : Word :=
  Address.toWord (o.ripemd160 (Word.toBytes (o.sha256 userContextDataWithoutConfigId)))

/-- Performs user identifier validation. -/
def performUserIdentifierCheck (o : Oracles) (userContextData : Bytes)
    (proof : VcAndDiscloseProof) (indices : DiscloseIndices) : Except Error Unit := do
  let proofUserIdentifier ← proof.signal indices.userIdentifierIndex
  revertIf (hashUserContext o (userContextData.drop 32) ≠ proofUserIdentifier)
    .invalidUserIdentifierInProof

/-- Performs identity commitment root verification. -/
def performRootCheck (regs : Registries) (s : Storage) (attestationId : Word)
    (proof : VcAndDiscloseProof) (indices : DiscloseIndices) : Except Error Unit := do
  -- of the roots, only that of the commitment tree is looked up
  let merkleRoot ← proof.signal indices.merkleRootIndex
  let registryAddress := s.registries attestationId
  revertIf (registryAddress = 0) (.message "Registry not set for attestation ID")
  if attestationId = AttestationId.ePassport then
    revertIf (IdentityRegistryImplV1.checkIdentityCommitmentRoot
      (regs.passport registryAddress) merkleRoot = false) .invalidIdentityCommitmentRoot
  else if attestationId = AttestationId.euIdCard then
    revertIf (IdentityRegistryIdCardImplV1.checkIdentityCommitmentRoot
      (regs.idCard registryAddress) merkleRoot = false) .invalidIdentityCommitmentRoot
  else .error .invalidAttestationId

/-- Retrieves the timestamp for the start of the current day. -/
def getStartOfDayTimestamp (block : Block) : ℕ :=
  block.timestamp - block.timestamp % Formatter.day

/-- Performs current date validation. -/
def performCurrentDateCheck (block : Block) (proof : VcAndDiscloseProof)
    (indices : DiscloseIndices) : Except Error Unit := do
  let dateNum ← proof.signals indices.currentDateIndex 6
  let currentTimestamp ← Formatter.proofDateToUnixTimestamp dateNum
  let startOfDay := getStartOfDayTimestamp block
  -- `startOfDay - 1 days` is a checked subtraction
  revertIf (startOfDay < Formatter.day) (.panic 0x11)
  -- from just after the start of the day before to just before that of the day after
  revertIf (currentTimestamp < startOfDay - Formatter.day + 1 ∨
    currentTimestamp > startOfDay + Formatter.day - 1) .currentDateNotInValidRange

/-- Performs Groth16 proof verification. -/
def performGroth16ProofVerification (o : Oracles) (s : Storage) (attestationId : Word)
    (proof : VcAndDiscloseProof) : Except Error Unit :=
  revertIf (o.verifyProof (s.discloseVerifiers attestationId) proof = false)
    .invalidVcAndDiscloseProof

/-! ## Output -/

/-- Creates passport output struct. -/
def createPassportOutput (proof : VcAndDiscloseProof) (indices : DiscloseIndices)
    (attestationId userIdentifier : Word) : Except Error Bytes := do
  let nullifier ← proof.signal indices.nullifierIndex
  let revealedDataPacked ← proof.signals indices.revealedDataPackedIndex 3
  let revealedDataPacked ← Formatter.fieldElementsToBytes revealedDataPacked
  let forbiddenCountriesListPacked ← proof.signals indices.forbiddenCountriesListPackedIndex 4
  return PassportOutput.codec.encode
    { attestationId, revealedDataPacked, userIdentifier, nullifier,
      forbiddenCountriesListPacked }

/-- Creates EU ID output struct. -/
def createEuIdOutput (proof : VcAndDiscloseProof) (indices : DiscloseIndices)
    (attestationId userIdentifier : Word) : Except Error Bytes := do
  let nullifier ← proof.signal indices.nullifierIndex
  let revealedDataPacked ← proof.signals indices.revealedDataPackedIndex 4
  let revealedDataPacked ← Formatter.fieldElementsToBytesIdCard revealedDataPacked
  let forbiddenCountriesListPacked ← proof.signals indices.forbiddenCountriesListPackedIndex 4
  return EuIdOutput.codec.encode
    { attestationId, revealedDataPacked, userIdentifier, nullifier,
      forbiddenCountriesListPacked }

/-- Creates verification output based on attestation type. -/
def createVerificationOutput (attestationId : Word) (proof : VcAndDiscloseProof)
    (indices : DiscloseIndices) (userIdentifier : Word) : Except Error Bytes :=
  if attestationId = AttestationId.ePassport then
    createPassportOutput proof indices attestationId userIdentifier
  else if attestationId = AttestationId.euIdCard then
    createEuIdOutput proof indices attestationId userIdentifier
  else .error .invalidAttestationId

/-- Formats verification output based on contract version; only version 2 has one. -/
def formatVerificationOutput (contractVersion : UInt8)
    (genericDiscloseOutput : SelfStructs.GenericDiscloseOutputV2) : Bytes :=
  if contractVersion = 2 then GenericFormatter.toV2Struct genericDiscloseOutput else []

/-! ## Verification -/

/-- Unified basic verification function for both passport and ID card proofs. -/
def basicVerification (o : Oracles) (regs : Registries) (block : Block) (s : Storage)
    (header : HubInputHeader) (proof : VcAndDiscloseProof) (userContextData : Bytes)
    (userIdentifier : Word) : Except Error Bytes := do
  let indices ← getDiscloseIndices header.attestationId
  performScopeCheck header.scope proof indices
  performUserIdentifierCheck o userContextData proof indices
  performRootCheck regs s header.attestationId proof indices
  performCurrentDateCheck block proof indices
  performGroth16ProofVerification o s header.attestationId proof
  createVerificationOutput header.attestationId proof indices userIdentifier

/-- Executes the complete verification flow: the formatted output, the destination
chain, and the data to pass on. -/
def executeVerificationFlow (o : Oracles) (regs : Registries) (block : Block) (s : Storage)
    (header : HubInputHeader) (proofData userContextData : Bytes) :
    Except Error (Bytes × Word × Bytes) := do
  let context ← decodeUserContextData userContextData
  let config ← getVerificationConfigById o s context.configId
  let proof ← decodeVcAndDiscloseProof proofData
  -- the proof is checked first, and what it discloses is compared with the config after
  let proofOutput ← basicVerification o regs block s header proof userContextData
    context.userIdentifier
  let genericDiscloseOutput ← CustomVerifier.customVerify header.attestationId config proofOutput
  return (formatVerificationOutput header.contractVersion genericDiscloseOutput,
    context.destChainId, context.remainingData)

/-- Handles verification result based on destination chain. -/
def handleVerificationResult (block : Block) (destChainId : Word)
    (output userDataToPass : Bytes) : Except Error Callback := do
  require (destChainId = block.chainid) .crossChainIsNotSupportedYet
  return { output, userData := userDataToPass }

/-- Main verification function with structured input format. -/
def verify (o : Oracles) (regs : Registries) (block : Block) (s : Storage)
    (baseVerificationInput userContextData : Bytes) : Except Error Callback := do
  let (header, proofData) ← decodeInput baseVerificationInput
  let (output, destChainId, userDataToPass) ←
    executeVerificationFlow o regs block s header proofData userContextData
  handleVerificationResult block destChainId output userDataToPass

end IdentityVerificationHub

end RuleSelf
