import RuleSelf.Library.Abi
import RuleSelf.Library.Revert

/-!
# Structs, Constants and Errors

The data the verification pipeline passes around: `SelfStructs`,
`ISelfVerificationRoot`, `IVcAndDiscloseCircuitVerifier`, `AttestationId` and
`CircuitConstantsV2`, with the ABI layout of every struct that crosses a contract
boundary, and the errors of all modelled contracts and libraries.
-/

namespace RuleSelf

open Evm Abi Revert

/-- The three OFAC modes are written as numerals. -/
instance neZero_three : NeZero 3 := ⟨by decide⟩

/-- So are the 21 public signals. -/
instance neZero_twentyOne : NeZero 21 := ⟨by decide⟩

/-! ## Errors -/

/-- What a modelled call can revert with. -/
inductive Error where
  -- SelfVerificationRoot
  | invalidDataFormat
  | unauthorizedCaller
  -- RuleSelfVerification
  | registrationNotOpen
  | invalidUserIdentifier
  | userIdentifierAlreadyRegistered
  | registeredNullifier
  -- AccessControl
  | accessControlUnauthorizedAccount (account : Address) (neededRole : Word)
  | accessControlBadConfirmation
  -- IdentityVerificationHubImplV2
  | currentDateNotInValidRange
  | invalidVcAndDiscloseProof
  | invalidIdentityCommitmentRoot
  | invalidAttestationId
  | scopeMismatch
  | crossChainIsNotSupportedYet
  | inputTooShort
  | userContextDataTooShort
  | invalidUserIdentifierInProof
  | configNotSet
  -- CustomVerifier
  | invalidOfacCheck
  | invalidForbiddenCountries
  | invalidOlderThan
  -- CircuitAttributeHandlerV2
  | insufficientCharcodeLen
  -- Formatter
  | invalidDateLength
  | invalidYearRange
  | invalidMonthRange
  | invalidDayRange
  | invalidFieldElement
  | invalidDateDigit
  -- RuleEngine
  | ruleEngineInvalidTransfer (sender recipient : Address) (value : Word)
  /-- `revert("message")` -/
  | message (text : String)
  /-- `Panic(code)`: 0x11 for arithmetic, 0x32 for an index out of bounds. -/
  | panic (code : ℕ)
  /-- The empty revert of a failed `abi.decode`. -/
  | abiDecode
  deriving DecidableEq

/-! ## Attestation ids and signal indices -/

namespace AttestationId

/-- Identifier for an E-PASSPORT attestation: `bytes32(uint256(1))`. -/
def ePassport : Word := 1

/-- Identifier for an EU ID card attestation: `bytes32(uint256(2))`. -/
def euIdCard : Word := 2

theorem euIdCard_ne_ePassport : euIdCard ≠ ePassport := by decide

end AttestationId

namespace CircuitConstantsV2

/-- The circuit indices for a specific attestation type. -/
structure DiscloseIndices where
  revealedDataPackedIndex : ℕ
  forbiddenCountriesListPackedIndex : ℕ
  nullifierIndex : ℕ
  attestationIdIndex : ℕ
  merkleRootIndex : ℕ
  currentDateIndex : ℕ
  namedobSmtRootIndex : ℕ
  nameyobSmtRootIndex : ℕ
  scopeIndex : ℕ
  userIdentifierIndex : ℕ
  /-- Only for passport, 99 for ID card. -/
  passportNoSmtRootIndex : ℕ

/-- The indices of the passport circuit's public signals. -/
def passportIndices : DiscloseIndices where
  revealedDataPackedIndex := 0
  forbiddenCountriesListPackedIndex := 3
  nullifierIndex := 7
  attestationIdIndex := 8
  merkleRootIndex := 9
  currentDateIndex := 10
  namedobSmtRootIndex := 17
  nameyobSmtRootIndex := 18
  scopeIndex := 19
  userIdentifierIndex := 20
  passportNoSmtRootIndex := 16

/-- The indices of the ID card circuit's public signals. -/
def idCardIndices : DiscloseIndices where
  revealedDataPackedIndex := 0
  forbiddenCountriesListPackedIndex := 4
  nullifierIndex := 8
  attestationIdIndex := 9
  merkleRootIndex := 10
  currentDateIndex := 11
  namedobSmtRootIndex := 17
  nameyobSmtRootIndex := 18
  scopeIndex := 19
  userIdentifierIndex := 20
  passportNoSmtRootIndex := 99

/-- The circuit indices for a given attestation type. -/
def getDiscloseIndices (attestationId : Word) : Except Error DiscloseIndices :=
  if attestationId = AttestationId.ePassport then .ok passportIndices
  else if attestationId = AttestationId.euIdCard then .ok idCardIndices
  else .error (.message "Invalid attestation ID")

end CircuitConstantsV2

/-! ## Disclose proofs -/

/-- `IVcAndDiscloseCircuitVerifier.VcAndDiscloseProof`: a Groth16 proof and the 21
public signals it is about. -/
structure VcAndDiscloseProof where
  a : Fin 2 → Word
  b : Fin 2 → Fin 2 → Word
  c : Fin 2 → Word
  pubSignals : Fin 21 → Word

namespace VcAndDiscloseProof

/-- A proof is 29 words, all static. -/
def codec : Codec VcAndDiscloseProof :=
  ((Codec.word.vector 2).pair (((Codec.word.vector 2).vector 2).pair
    ((Codec.word.vector 2).pair (Codec.word.vector 21)))).map
    (fun p => ⟨p.1, p.2.1, p.2.2.1, p.2.2.2⟩)
    (fun p => (p.a, p.b, p.c, p.pubSignals)) (fun _ => rfl)

/-- `proof.pubSignals[i]`, which panics out of bounds. -/
def signal (proof : VcAndDiscloseProof) (i : ℕ) : Except Error Word :=
  if h : i < 21 then .ok (proof.pubSignals ⟨i, h⟩) else .error (.panic 0x32)

/-- The loop that copies `n` signals from `start` on, which panics when it runs out of
bounds. -/
def signals (proof : VcAndDiscloseProof) (start n : ℕ) : Except Error (Fin n → Word) :=
  if h : start + n ≤ 21 then .ok fun i => proof.pubSignals ⟨start + i, by omega⟩
  else .error (.panic 0x32)

theorem encode_length (proof : VcAndDiscloseProof) : (codec.encode proof).length = 928 := by
  have h2 : ∀ v, (Codec.word.vector 2).tail v = [] := Codec.tail_vector _ Codec.tail_word 2
  -- static components have no tail
  rw [Codec.encode_length]
  simp [codec, Codec.map, h2, Codec.tail_vector _ Codec.tail_word, Codec.tail_vector _ h2]

/-- A proof is read back from its encoding, whatever bytes follow. -/
theorem read_encode_append (proof : VcAndDiscloseProof) (rest : Bytes)
    (h : rest.length < 2 ^ 63) : codec.read (codec.encode proof ++ rest) = some proof := by
  apply Codec.read_encode_append
  rw [List.length_append, encode_length]
  omega

end VcAndDiscloseProof

/-! ## SelfStructs -/

namespace SelfStructs

/-- Header of the hub input. -/
structure HubInputHeader where
  contractVersion : UInt8
  scope : Word
  attestationId : Word

/-- Output of a passport verification. -/
structure PassportOutput where
  attestationId : Word
  revealedDataPacked : Bytes
  userIdentifier : Word
  nullifier : Word
  forbiddenCountriesListPacked : Fin 4 → Word

/-- Output of an EU ID card verification. -/
structure EuIdOutput where
  attestationId : Word
  revealedDataPacked : Bytes
  userIdentifier : Word
  nullifier : Word
  forbiddenCountriesListPacked : Fin 4 → Word

/-- OFAC verification mode: passport number only. -/
def passportNoOfac : Fin 3 := 0

/-- OFAC verification mode: name and date of birth. -/
def nameAndDobOfac : Fin 3 := 1

/-- OFAC verification mode: name and year of birth. -/
def nameAndYobOfac : Fin 3 := 2

/-- Verification configuration (version 2). -/
structure VerificationConfigV2 where
  olderThanEnabled : Bool
  olderThan : Word
  forbiddenCountriesEnabled : Bool
  forbiddenCountriesListPacked : Fin 4 → Word
  ofacEnabled : Fin 3 → Bool

/-- Generic disclosure output (version 2), as the hub library declares it. -/
structure GenericDiscloseOutputV2 where
  attestationId : Word
  userIdentifier : Word
  nullifier : Word
  forbiddenCountriesListPacked : Fin 4 → Word
  issuingState : Bytes
  name : List Bytes
  idNumber : Bytes
  nationality : Bytes
  dateOfBirth : Bytes
  gender : Bytes
  expiryDate : Bytes
  olderThan : Word
  ofac : Fin 3 → Bool

/-! ### Layouts -/

/-- The layout `PassportOutput` and `EuIdOutput` share: a dynamic tuple of
`uint256, bytes, uint256, uint256, uint256[4]`. -/
def outputCodec : Codec (Word × Bytes × Word × Word × (Fin 4 → Word)) :=
  (Codec.word.pair (Codec.bytes.pair (Codec.word.pair (Codec.word.pair
    (Codec.word.vector 4))))).dynamic

def PassportOutput.codec : Codec PassportOutput :=
  outputCodec.map (fun p => ⟨p.1, p.2.1, p.2.2.1, p.2.2.2.1, p.2.2.2.2⟩)
    (fun o => (o.attestationId, o.revealedDataPacked, o.userIdentifier, o.nullifier,
      o.forbiddenCountriesListPacked)) (fun _ => rfl)

def EuIdOutput.codec : Codec EuIdOutput :=
  outputCodec.map (fun p => ⟨p.1, p.2.1, p.2.2.1, p.2.2.2.1, p.2.2.2.2⟩)
    (fun o => (o.attestationId, o.revealedDataPacked, o.userIdentifier, o.nullifier,
      o.forbiddenCountriesListPacked)) (fun _ => rfl)

theorem outputCodec_encode_length_le (p : Word × Bytes × Word × Word × (Fin 4 → Word)) :
    (outputCodec.encode p).length ≤ p.2.1.length + 352 := by
  have := Codec.tail_bytes_length_le p.2.1
  have h4 := Codec.tail_vector _ Codec.tail_word 4 p.2.2.2.2
  rw [Codec.encode_length]
  simp only [outputCodec, Codec.dynamic, List.length_append, Codec.head_length]
  simp only [Codec.headSize_pair, Codec.headSize_word, Codec.headSize_bytes,
    Codec.headSize_vector, Codec.tail_pair, Codec.tail_word, h4, List.append_nil,
    List.nil_append]
  omega

theorem PassportOutput.read_encode (o : PassportOutput)
    (h : o.revealedDataPacked.length < 2 ^ 32) :
    PassportOutput.codec.read (PassportOutput.codec.encode o) = some o := by
  apply Codec.read_encode
  have := outputCodec_encode_length_le (o.attestationId, o.revealedDataPacked,
    o.userIdentifier, o.nullifier, o.forbiddenCountriesListPacked)
  exact lt_of_le_of_lt this (by dsimp only; omega)

theorem EuIdOutput.read_encode (o : EuIdOutput)
    (h : o.revealedDataPacked.length < 2 ^ 32) :
    EuIdOutput.codec.read (EuIdOutput.codec.encode o) = some o := by
  apply Codec.read_encode
  have := outputCodec_encode_length_le (o.attestationId, o.revealedDataPacked,
    o.userIdentifier, o.nullifier, o.forbiddenCountriesListPacked)
  exact lt_of_le_of_lt this (by dsimp only; omega)

/-- A configuration is 10 words, all static. -/
def VerificationConfigV2.codec : Codec VerificationConfigV2 :=
  (Codec.bool.pair (Codec.word.pair (Codec.bool.pair ((Codec.word.vector 4).pair
    (Codec.bool.vector 3))))).map
    (fun p => ⟨p.1, p.2.1, p.2.2.1, p.2.2.2.1, p.2.2.2.2⟩)
    (fun c => (c.olderThanEnabled, c.olderThan, c.forbiddenCountriesEnabled,
      c.forbiddenCountriesListPacked, c.ofacEnabled)) (fun _ => rfl)

theorem VerificationConfigV2.encode_length (c : VerificationConfigV2) :
    (VerificationConfigV2.codec.encode c).length = 320 := by
  rw [Codec.encode_length]
  simp [VerificationConfigV2.codec, Codec.map, Codec.tail_vector _ Codec.tail_word,
    Codec.tail_vector _ Codec.tail_bool]

theorem VerificationConfigV2.read_encode (c : VerificationConfigV2) :
    VerificationConfigV2.codec.read (VerificationConfigV2.codec.encode c) = some c :=
  Codec.read_encode _ _ (by rw [VerificationConfigV2.encode_length]; decide)

/-- Different configurations have different encodings. -/
theorem VerificationConfigV2.encode_injective :
    Function.Injective VerificationConfigV2.codec.encode :=
  Codec.encode_injective_of_length _ fun c => by
    rw [VerificationConfigV2.encode_length]
    decide

/-- The dynamic tuple `GenericDiscloseOutputV2` is laid out as, in the struct the hub
encodes and in the one the callback decodes. -/
def discloseLayout : Codec (Word × Word × Word × (Fin 4 → Word) × Bytes × List Bytes ×
    Bytes × Bytes × Bytes × Bytes × Bytes × Word × (Fin 3 → Bool)) :=
  (Codec.word.pair (Codec.word.pair (Codec.word.pair ((Codec.word.vector 4).pair
    (Codec.bytes.pair ((Codec.bytes.array (by decide)).pair (Codec.bytes.pair
      (Codec.bytes.pair (Codec.bytes.pair (Codec.bytes.pair (Codec.bytes.pair
        (Codec.word.pair (Codec.bool.vector 3))))))))))))).dynamic

def GenericDiscloseOutputV2.codec : Codec GenericDiscloseOutputV2 :=
  discloseLayout.map
    (fun (attestationId, userIdentifier, nullifier, forbiddenCountriesListPacked,
        issuingState, name, idNumber, nationality, dateOfBirth, gender, expiryDate,
        olderThan, ofac) =>
      ⟨attestationId, userIdentifier, nullifier, forbiddenCountriesListPacked,
        issuingState, name, idNumber, nationality, dateOfBirth, gender, expiryDate,
        olderThan, ofac⟩)
    (fun o => (o.attestationId, o.userIdentifier, o.nullifier, o.forbiddenCountriesListPacked,
      o.issuingState, o.name, o.idNumber, o.nationality, o.dateOfBirth, o.gender,
      o.expiryDate, o.olderThan, o.ofac)) (fun _ => rfl)

/-- Every string of the output has at most 128 bytes, and the name two parts. -/
structure GenericDiscloseOutputV2.Short (o : GenericDiscloseOutputV2) : Prop where
  issuingState : o.issuingState.length ≤ 128
  name_parts : o.name.length = 2
  name : ∀ part ∈ o.name, part.length ≤ 128
  idNumber : o.idNumber.length ≤ 128
  nationality : o.nationality.length ≤ 128
  dateOfBirth : o.dateOfBirth.length ≤ 128
  gender : o.gender.length ≤ 128
  expiryDate : o.expiryDate.length ≤ 128

theorem GenericDiscloseOutputV2.Short.encode_length_lt {o : GenericDiscloseOutputV2}
    (h : o.Short) : (GenericDiscloseOutputV2.codec.encode o).length < 2 ^ 32 := by
  have hissuing := Codec.tail_bytes_length_le o.issuingState
  have hid := Codec.tail_bytes_length_le o.idNumber
  have hnationality := Codec.tail_bytes_length_le o.nationality
  have hbirth := Codec.tail_bytes_length_le o.dateOfBirth
  have hgender := Codec.tail_bytes_length_le o.gender
  have hexpiry := Codec.tail_bytes_length_le o.expiryDate
  have hname := Codec.tail_array_length_le Codec.bytes (by decide) o.name (k := 192)
    fun part hpart => by
      have := Codec.tail_bytes_length_le part
      have := h.name part hpart
      omega
  have h4 := Codec.tail_vector _ Codec.tail_word 4 o.forbiddenCountriesListPacked
  have h3 := Codec.tail_vector _ Codec.tail_bool 3 o.ofac
  -- nine head words and the offsets, then the tails of the seven strings and of the name
  obtain ⟨b1, b2, -, b3, b4, b5, b6, b7⟩ := h
  rw [b2] at hname
  rw [Codec.encode_length]
  simp only [GenericDiscloseOutputV2.codec, Codec.map, discloseLayout, Codec.dynamic,
    List.length_append, Codec.head_length]
  simp only [Codec.headSize_pair, Codec.headSize_word, Codec.headSize_bytes,
    Codec.headSize_bool, Codec.headSize_vector, Codec.headSize_array, Codec.tail_pair,
    Codec.tail_word, List.length_append, h4, h3, List.length_nil] at hname ⊢
  omega

end SelfStructs

/-! ## ISelfVerificationRoot -/

namespace ISelfVerificationRoot

/-- Generic disclosure output (version 2), as the callback's interface declares it. -/
structure GenericDiscloseOutputV2 where
  attestationId : Word
  userIdentifier : Word
  nullifier : Word
  forbiddenCountriesListPacked : Fin 4 → Word
  issuingState : Bytes
  name : List Bytes
  idNumber : Bytes
  nationality : Bytes
  dateOfBirth : Bytes
  gender : Bytes
  expiryDate : Bytes
  olderThan : Word
  ofac : Fin 3 → Bool

def GenericDiscloseOutputV2.codec : Codec GenericDiscloseOutputV2 :=
  SelfStructs.discloseLayout.map
    (fun (attestationId, userIdentifier, nullifier, forbiddenCountriesListPacked,
        issuingState, name, idNumber, nationality, dateOfBirth, gender, expiryDate,
        olderThan, ofac) =>
      ⟨attestationId, userIdentifier, nullifier, forbiddenCountriesListPacked,
        issuingState, name, idNumber, nationality, dateOfBirth, gender, expiryDate,
        olderThan, ofac⟩)
    (fun o => (o.attestationId, o.userIdentifier, o.nullifier, o.forbiddenCountriesListPacked,
      o.issuingState, o.name, o.idNumber, o.nationality, o.dateOfBirth, o.gender,
      o.expiryDate, o.olderThan, o.ofac)) (fun _ => rfl)

/-- The callback's struct with the fields of the hub's. -/
def GenericDiscloseOutputV2.ofHub (o : SelfStructs.GenericDiscloseOutputV2) :
    GenericDiscloseOutputV2 :=
  ⟨o.attestationId, o.userIdentifier, o.nullifier, o.forbiddenCountriesListPacked,
    o.issuingState, o.name, o.idNumber, o.nationality, o.dateOfBirth, o.gender,
    o.expiryDate, o.olderThan, o.ofac⟩

/-- What the hub encodes is what the callback decodes. -/
theorem GenericDiscloseOutputV2.read_encode (o : SelfStructs.GenericDiscloseOutputV2)
    (h : o.Short) :
    GenericDiscloseOutputV2.codec.read (SelfStructs.GenericDiscloseOutputV2.codec.encode o) =
      some (ofHub o) := by
  have hlen := h.encode_length_lt
  -- both structs are read and written through the same tuple
  have hread := GenericDiscloseOutputV2.codec.read_encode (ofHub o) (lt_trans hlen (by decide))
  exact hread

end ISelfVerificationRoot

end RuleSelf
