import RuleSelf.Self.Pipeline

/-!
# Identity Verification Hub, Version 1

`IdentityVerificationHubImplV1`, on the path of `verifyVcAndDisclose`, with the
`CircuitAttributeHandler` it reads the revealed data with: the hub for passports that the
hub of version 2 has replaced. What is required of a document comes with the proof.
-/

namespace RuleSelf

open Evm Abi Revert SelfStructs

/-! ## Circuit constants -/

namespace CircuitConstants

def vcAndDiscloseRevealedDataPackedIndex : ℕ := 0
def vcAndDiscloseForbiddenCountriesListPackedIndex : ℕ := 3
def vcAndDiscloseNullifierIndex : ℕ := 7
def vcAndDiscloseAttestationIdIndex : ℕ := 8
def vcAndDiscloseMerkleRootIndex : ℕ := 9
def vcAndDiscloseCurrentDateIndex : ℕ := 10
def vcAndDisclosePassportNoSmtRootIndex : ℕ := 16
def vcAndDiscloseNameDobSmtRootIndex : ℕ := 17
def vcAndDiscloseNameYobSmtRootIndex : ℕ := 18
def vcAndDiscloseScopeIndex : ℕ := 19
def vcAndDiscloseUserIdentifierIndex : ℕ := 20

end CircuitConstants

/-! ## Attributes -/

namespace CircuitAttributeHandler

open CircuitAttributeHandlerV2 (charcode charcode_eq_ok numAsciiToUint_eq_ok)

def olderThanStart : ℕ := 88
def ofacStart : ℕ := 90

/-- The revealed age: two ASCII digits. -/
def getOlderThan (charcodes : Bytes) : Except Error ℕ := do
  let tens ← charcode charcodes olderThanStart
  let tens ← Formatter.numAsciiToUint tens.toNat
  let units ← charcode charcodes (olderThanStart + 1)
  let units ← Formatter.numAsciiToUint units.toNat
  return tens * 10 + units

/-- The OFAC status for the passport number check. -/
def getPassportNoOfac (charcodes : Bytes) : Except Error UInt8 := charcode charcodes ofacStart

/-- The OFAC status for the name and date of birth check. -/
def getNameAndDobOfac (charcodes : Bytes) : Except Error UInt8 := charcode charcodes (ofacStart + 1)

/-- The OFAC status for the name and year of birth check. -/
def getNameAndYobOfac (charcodes : Bytes) : Except Error UInt8 := charcode charcodes (ofacStart + 2)

/-- `(!check || result == 1) && rest` -/
def checkThen (check : Bool) (result : Except Error UInt8) (rest : Except Error Bool) :
    Except Error Bool :=
  if check then do
    let status ← result
    if status = 1 then rest else return false
  else rest

/-- Performs selective OFAC checks based on provided flags. -/
def compareOfac (charcodes : Bytes) (checkPassportNo checkNameAndDob checkNameAndYob : Bool) :
    Except Error Bool :=
  checkThen checkPassportNo (getPassportNoOfac charcodes) <|
    checkThen checkNameAndDob (getNameAndDobOfac charcodes) <|
      checkThen checkNameAndYob (getNameAndYobOfac charcodes) (return true)

/-- Compares the extracted 'older than' value with a provided threshold. -/
def compareOlderThan (charcodes : Bytes) (olderThan : Word) : Except Error Bool := do
  let age ← getOlderThan charcodes
  return olderThan.toNat ≤ age

theorem checkThen_eq_ok_true {check : Bool} {charcodes : Bytes} {i : ℕ}
    {rest : Except Error Bool} :
    checkThen check (charcode charcodes i) rest = .ok true ↔
      (check = true → DocumentType.ResultByte charcodes i) ∧ rest = .ok true := by
  unfold checkThen DocumentType.ResultByte
  cases check with
  | false => simp
  | true =>
    simp only [if_true, bind_eq_ok, charcode_eq_ok, forall_const]
    constructor
    · rintro ⟨status, hstatus, hrest⟩
      -- the byte is compared with 1, and any other ends the checks
      split at hrest
      · rename_i hone
        exact ⟨hone ▸ hstatus, hrest⟩
      · simp at hrest
    · rintro ⟨hstatus, hrest⟩
      exact ⟨1, hstatus, hrest⟩

/-- The comparison passes when every result it is asked for is good. -/
theorem compareOfac_eq_ok_true {charcodes : Bytes} {flags : Fin 3 → Bool} :
    compareOfac charcodes (flags passportNoOfac) (flags nameAndDobOfac)
        (flags nameAndYobOfac) = .ok true ↔
      ∀ mode i, DocumentType.passport.ofacByte mode = some i → flags mode = true →
        DocumentType.ResultByte charcodes i := by
  unfold compareOfac getPassportNoOfac getNameAndDobOfac getNameAndYobOfac
  rw [checkThen_eq_ok_true, checkThen_eq_ok_true, checkThen_eq_ok_true]
  constructor
  · rintro ⟨hno, hdob, hyob, -⟩ mode i hbyte
    -- each mode has its own byte, and the passport has all three
    match mode, hbyte with
    | 0, rfl => exact hno
    | 1, rfl => exact hdob
    | 2, rfl => exact hyob
  · intro h
    exact ⟨h 0 90 rfl, h 1 91 rfl, h 2 92 rfl, rfl⟩

/-- The comparison passes when two digits denote enough. -/
theorem compareOlderThan_eq_ok_true {charcodes : Bytes} {olderThan : Word} :
    compareOlderThan charcodes olderThan = .ok true ↔
      DocumentType.ReadsAtLeast charcodes DocumentType.passport.positions.olderThanStart
        olderThan.toNat := by
  rw [← DocumentType.compareOlderThan_eq_ok_true]
  -- the handler of version 2 does the same at the passport's positions
  unfold compareOlderThan CircuitAttributeHandlerV2.compareOlderThan getOlderThan
    CircuitAttributeHandlerV2.getOlderThan
  rw [DocumentType.getFieldPositions_attestationId]
  rfl

end CircuitAttributeHandler

/-! ## The hub -/

/-- What a call of the hub reverts with. -/
inductive HubV1Error where
  | invalidCommitmentRoot
  | currentDateNotInValidRange
  | invalidOlderThan
  | invalidOfac
  | invalidOfacRoot
  | invalidForbiddenCountries
  | invalidVcAndDiscloseProof
  /-- A revert of one of the libraries. -/
  | library (e : Error)
  deriving DecidableEq

namespace IdentityVerificationHubV1

/-- Storage of the hub. -/
structure Storage where
  registry : Address
  vcAndDiscloseCircuitVerifier : Address

/-- A proof, with what is required of it. -/
structure VcAndDiscloseHubProof where
  olderThanEnabled : Bool
  olderThan : Word
  forbiddenCountriesEnabled : Bool
  forbiddenCountriesListPacked : Fin 4 → Word
  ofacEnabled : Fin 3 → Bool
  vcAndDiscloseProof : VcAndDiscloseProof

/-- The key result data of a verified proof. -/
structure VcAndDiscloseVerificationResult where
  attestationId : Word
  scope : Word
  userIdentifier : Word
  nullifier : Word
  identityCommitmentRoot : Word
  revealedDataPacked : Fin 3 → Word
  forbiddenCountriesListPacked : Fin 4 → Word

/-- A call of a library. -/
def library {α : Type} (x : Except Error α) : Except HubV1Error α := x.mapError .library

theorem library_eq_ok {α : Type} {x : Except Error α} {a : α} :
    library x = .ok a ↔ x = .ok a := by
  cases x <;> simp [library, Except.mapError]

/-- Retrieves the timestamp for the start of the current day. -/
def getStartOfDayTimestamp (block : Block) : ℕ :=
  block.timestamp - block.timestamp % Formatter.day

open CircuitConstants CircuitAttributeHandler IdentityRegistryImplV1 in
/-- Verifies the VC and Disclose proof; the root of its commitment tree. -/
def verifyVcAndDiscloseProof (o : Oracles) (registries : Address → IdentityRegistryImplV1.Storage)
    (block : Block) (s : Storage) (proof : VcAndDiscloseHubProof) : Except HubV1Error Word := do
  let signal i := library (proof.vcAndDiscloseProof.signal i)
  -- verify identity commitment root
  let merkleRoot ← signal vcAndDiscloseMerkleRootIndex
  revertIf (checkIdentityCommitmentRoot (registries s.registry) merkleRoot = false)
    .invalidCommitmentRoot
  -- verify current date
  let dateNum ← library (proof.vcAndDiscloseProof.signals vcAndDiscloseCurrentDateIndex 6)
  let currentTimestamp ← library (Formatter.proofDateToUnixTimestamp dateNum)
  let startOfDay := getStartOfDayTimestamp block
  revertIf (startOfDay < Formatter.day) (.library (.panic 0x11))
  revertIf (currentTimestamp < startOfDay - Formatter.day + 1 ∨
    currentTimestamp > startOfDay + Formatter.day - 1) .currentDateNotInValidRange
  -- verify attributes
  let revealedDataPacked ←
    library (proof.vcAndDiscloseProof.signals vcAndDiscloseRevealedDataPackedIndex 3)
  onlyIf proof.olderThanEnabled do
    let charcodes ← library (Formatter.fieldElementsToBytes revealedDataPacked)
    let passed ← library (compareOlderThan charcodes proof.olderThan)
    require (passed = true) .invalidOlderThan
  onlyIf (proof.ofacEnabled passportNoOfac || proof.ofacEnabled nameAndDobOfac ||
      proof.ofacEnabled nameAndYobOfac) do
    let charcodes ← library (Formatter.fieldElementsToBytes revealedDataPacked)
    let passed ← library (compareOfac charcodes (proof.ofacEnabled passportNoOfac)
      (proof.ofacEnabled nameAndDobOfac) (proof.ofacEnabled nameAndYobOfac))
    require (passed = true) .invalidOfac
    let passportNoRoot ← signal vcAndDisclosePassportNoSmtRootIndex
    let nameAndDobRoot ← signal vcAndDiscloseNameDobSmtRootIndex
    let nameAndYobRoot ← signal vcAndDiscloseNameYobSmtRootIndex
    require (checkOfacRoots (registries s.registry) passportNoRoot nameAndDobRoot
      nameAndYobRoot = true) .invalidOfacRoot
  let forbiddenCountriesListPacked ←
    library (proof.vcAndDiscloseProof.signals vcAndDiscloseForbiddenCountriesListPackedIndex 4)
  onlyIf proof.forbiddenCountriesEnabled <|
    revertIf (∃ i, proof.forbiddenCountriesListPacked i ≠ forbiddenCountriesListPacked i)
      .invalidForbiddenCountries
  -- verify the proof using the VC and Disclose circuit verifier
  revertIf (o.verifyProof s.vcAndDiscloseCircuitVerifier proof.vcAndDiscloseProof = false)
    .invalidVcAndDiscloseProof
  return merkleRoot

open CircuitConstants in
/-- Verifies the VC and Disclose proof; the data it carries. -/
def verifyVcAndDisclose (o : Oracles) (registries : Address → IdentityRegistryImplV1.Storage)
    (block : Block) (s : Storage) (proof : VcAndDiscloseHubProof) :
    Except HubV1Error VcAndDiscloseVerificationResult := do
  let identityCommitmentRoot ← verifyVcAndDiscloseProof o registries block s proof
  let signal i := library (proof.vcAndDiscloseProof.signal i)
  let signals start n := library (proof.vcAndDiscloseProof.signals start n)
  let revealedDataPacked ← signals vcAndDiscloseRevealedDataPackedIndex 3
  let forbiddenCountriesListPacked ← signals vcAndDiscloseForbiddenCountriesListPackedIndex 4
  let nullifier ← signal vcAndDiscloseNullifierIndex
  let attestationId ← signal vcAndDiscloseAttestationIdIndex
  let userIdentifier ← signal vcAndDiscloseUserIdentifierIndex
  let scope ← signal vcAndDiscloseScopeIndex
  return {
    attestationId, scope, userIdentifier, nullifier, identityCommitmentRoot,
    revealedDataPacked, forbiddenCountriesListPacked }

end IdentityVerificationHubV1

end RuleSelf
