import RuleSelf.Self.Formatter

/-!
# Circuit Attribute Handler

`CircuitAttributeHandlerV2`: where each attribute of a document stands in the
revealed data of a passport or an ID card, the functions that extract it, and the
two comparisons of the compliance checks.
-/

namespace RuleSelf

open Evm Abi Revert

namespace CircuitAttributeHandlerV2

/-! ## Field positions -/

/-- Field positions for a specific attestation type; ends are inclusive. -/
structure FieldPositions where
  issuingStateStart : ℕ
  issuingStateEnd : ℕ
  nameStart : ℕ
  nameEnd : ℕ
  documentNumberStart : ℕ
  documentNumberEnd : ℕ
  nationalityStart : ℕ
  nationalityEnd : ℕ
  dateOfBirthStart : ℕ
  dateOfBirthEnd : ℕ
  genderStart : ℕ
  genderEnd : ℕ
  expiryDateStart : ℕ
  expiryDateEnd : ℕ
  olderThanStart : ℕ
  olderThanEnd : ℕ
  ofacStart : ℕ
  ofacEnd : ℕ

/-- The positions in the revealed data of a passport. -/
def passportPositions : FieldPositions where
  issuingStateStart := 2
  issuingStateEnd := 4
  nameStart := 5
  nameEnd := 43
  documentNumberStart := 44
  documentNumberEnd := 52
  nationalityStart := 54
  nationalityEnd := 56
  dateOfBirthStart := 57
  dateOfBirthEnd := 62
  genderStart := 64
  genderEnd := 64
  expiryDateStart := 65
  expiryDateEnd := 70
  olderThanStart := 88
  olderThanEnd := 89
  ofacStart := 90
  ofacEnd := 92

/-- The positions in the revealed data of an ID card. -/
def idCardPositions : FieldPositions where
  issuingStateStart := 2
  issuingStateEnd := 4
  nameStart := 60
  nameEnd := 89
  documentNumberStart := 5
  documentNumberEnd := 13
  nationalityStart := 45
  nationalityEnd := 47
  dateOfBirthStart := 30
  dateOfBirthEnd := 35
  genderStart := 37
  genderEnd := 37
  expiryDateStart := 38
  expiryDateEnd := 43
  olderThanStart := 90
  olderThanEnd := 91
  ofacStart := 92
  ofacEnd := 93

/-- The field positions for a given attestation type. -/
def getFieldPositions (attestationId : Word) : Except Error FieldPositions :=
  if attestationId = AttestationId.ePassport then .ok passportPositions
  else if attestationId = AttestationId.euIdCard then .ok idCardPositions
  else .error (.message "Invalid attestation ID")

@[simp] theorem getFieldPositions_ePassport :
    getFieldPositions AttestationId.ePassport = .ok passportPositions := rfl

@[simp] theorem getFieldPositions_euIdCard :
    getFieldPositions AttestationId.euIdCard = .ok idCardPositions := by
  simp [getFieldPositions, AttestationId.euIdCard_ne_ePassport]

/-! ## Extraction -/

/-- `charcodes[i]`, which panics out of bounds. -/
def charcode (charcodes : Bytes) (i : ℕ) : Except Error UInt8 :=
  orRevert charcodes[i]? (.panic 0x32)

/-- The bytes from `start` to `stop`, both inclusive. -/
def extractStringAttribute (charcodes : Bytes) (start stop : ℕ) : Except Error Bytes := do
  revertIf (charcodes.length ≤ stop) .insufficientCharcodeLen
  return (charcodes.drop start).take (stop - start + 1)

def getIssuingState (attestationId : Word) (charcodes : Bytes) : Except Error Bytes := do
  let positions ← getFieldPositions attestationId
  extractStringAttribute charcodes positions.issuingStateStart positions.issuingStateEnd

def getName (attestationId : Word) (charcodes : Bytes) : Except Error (List Bytes) := do
  let positions ← getFieldPositions attestationId
  let name ← extractStringAttribute charcodes positions.nameStart positions.nameEnd
  return Formatter.formatName name

def getDocumentNumber (attestationId : Word) (charcodes : Bytes) : Except Error Bytes := do
  let positions ← getFieldPositions attestationId
  extractStringAttribute charcodes positions.documentNumberStart positions.documentNumberEnd

def getNationality (attestationId : Word) (charcodes : Bytes) : Except Error Bytes := do
  let positions ← getFieldPositions attestationId
  extractStringAttribute charcodes positions.nationalityStart positions.nationalityEnd

def getDateOfBirth (attestationId : Word) (charcodes : Bytes) : Except Error Bytes := do
  let positions ← getFieldPositions attestationId
  let date ← extractStringAttribute charcodes positions.dateOfBirthStart
    positions.dateOfBirthEnd
  Formatter.formatDate date

def getGender (attestationId : Word) (charcodes : Bytes) : Except Error Bytes := do
  let positions ← getFieldPositions attestationId
  extractStringAttribute charcodes positions.genderStart positions.genderEnd

def getExpiryDate (attestationId : Word) (charcodes : Bytes) : Except Error Bytes := do
  let positions ← getFieldPositions attestationId
  let date ← extractStringAttribute charcodes positions.expiryDateStart positions.expiryDateEnd
  Formatter.formatDate date

/-- The revealed age: two ASCII digits. -/
def getOlderThan (attestationId : Word) (charcodes : Bytes) : Except Error ℕ := do
  let positions ← getFieldPositions attestationId
  let tens ← charcode charcodes positions.olderThanStart
  -- a code below that of `0` underflows; one above that of `9` is let through
  let tens ← Formatter.numAsciiToUint tens.toNat
  let units ← charcode charcodes (positions.olderThanStart + 1)
  let units ← Formatter.numAsciiToUint units.toNat
  return tens * 10 + units

/-- Whether the OFAC result byte at a position says "not on the list". -/
def ofacResult (charcodes : Bytes) (i : ℕ) : Except Error Bool := do
  let result ← charcode charcodes i
  return result == 1

/-- The OFAC status for the document number check. -/
def getDocumentNoOfac (attestationId : Word) (charcodes : Bytes) : Except Error Bool := do
  let positions ← getFieldPositions attestationId
  ofacResult charcodes positions.ofacStart

/-- The OFAC status for the name and date of birth check. -/
def getNameAndDobOfac (attestationId : Word) (charcodes : Bytes) : Except Error Bool := do
  let positions ← getFieldPositions attestationId
  if attestationId = AttestationId.ePassport then ofacResult charcodes (positions.ofacStart + 1)
  -- an ID card has no result for the document number, so its results start here
  else ofacResult charcodes positions.ofacStart

/-- The OFAC status for the name and year of birth check. -/
def getNameAndYobOfac (attestationId : Word) (charcodes : Bytes) : Except Error Bool := do
  let positions ← getFieldPositions attestationId
  if attestationId = AttestationId.ePassport then ofacResult charcodes (positions.ofacStart + 2)
  else ofacResult charcodes (positions.ofacStart + 1)

/-! ## Comparisons -/

/-- A check that is made only when it is enabled, and else counts as passed. -/
def enabledResult (enabled : Bool) (result : Except Error Bool) : Except Error Bool :=
  if enabled then result else .ok true

/-- Selective OFAC checks based on provided flags. -/
def compareOfac (attestationId : Word) (charcodes : Bytes)
    (checkDocumentNo checkNameAndDob checkNameAndYob : Bool) : Except Error Bool := do
  let documentNoResult ← enabledResult
    -- the document number is looked at for passports only
    (checkDocumentNo && attestationId == AttestationId.ePassport)
    (getDocumentNoOfac attestationId charcodes)
  let nameAndDobResult ← enabledResult checkNameAndDob
    (getNameAndDobOfac attestationId charcodes)
  let nameAndYobResult ← enabledResult checkNameAndYob
    (getNameAndYobOfac attestationId charcodes)
  return documentNoResult && nameAndDobResult && nameAndYobResult

/-- Compares the extracted 'older than' value with a provided threshold. -/
def compareOlderThan (attestationId : Word) (charcodes : Bytes) (olderThan : Word) :
    Except Error Bool := do
  let age ← getOlderThan attestationId charcodes
  return olderThan.toNat ≤ age

/-! ## When the functions succeed -/

@[simp] theorem charcode_eq_ok {charcodes : Bytes} {i : ℕ} {b : UInt8} :
    charcode charcodes i = .ok b ↔ charcodes[i]? = some b := by
  simp [charcode]

@[simp] theorem extractStringAttribute_eq_ok {charcodes out : Bytes} {start stop : ℕ} :
    extractStringAttribute charcodes start stop = .ok out ↔
      stop < charcodes.length ∧ (charcodes.drop start).take (stop - start + 1) = out := by
  simp [extractStringAttribute]

theorem enabledResult_eq_ok_true {enabled : Bool} {result : Except Error Bool} :
    enabledResult enabled result = .ok true ↔ (enabled = true → result = .ok true) := by
  cases enabled <;> simp [enabledResult]

@[simp] theorem ofacResult_eq_ok {charcodes : Bytes} {i : ℕ} {b : Bool} :
    ofacResult charcodes i = .ok b ↔ ∃ c, charcodes[i]? = some c ∧ (c == 1) = b := by
  simp [ofacResult]

theorem ofacResult_eq_ok_true {charcodes : Bytes} {i : ℕ} :
    ofacResult charcodes i = .ok true ↔ charcodes[i]? = some 1 := by
  simp

/-- The age two character codes denote is read back when neither is below `'0'`. -/
theorem numAsciiToUint_eq_ok {numAscii n : ℕ} :
    Formatter.numAsciiToUint numAscii = .ok n ↔ 48 ≤ numAscii ∧ numAscii - 48 = n := by
  unfold Formatter.numAsciiToUint
  split
  · simp
    omega
  · simp
    omega

end CircuitAttributeHandlerV2

end RuleSelf
