import RuleSelf.Self.Document

/-!
# Custom Verifier

`CustomVerifier.customVerify`: the compliance checks of a verification config
against what a proof reveals, for passports and ID cards, and the output that is
built when they pass.

The source has one function per document type. They differ in the OFAC flags they
read and hand on, and in the first entry of the output's `ofac` array; everything
else is one definition with these as parameters.
-/

namespace RuleSelf

open Evm Abi Revert SelfStructs

namespace CustomVerifier

open CircuitAttributeHandlerV2

/-! ## Checks and output -/

/-- Which OFAC results a document type is checked for: whether the comparison is made
at all, and the three flags it is made with. -/
structure OfacSelection where
  enabled : Bool
  checkDocumentNo : Bool
  checkNameAndDob : Bool
  checkNameAndYob : Bool

/-- The three checks both document types go through, in order. -/
def checkRequirements (attestationId : Word) (selection : OfacSelection)
    (verificationConfig : VerificationConfigV2) (revealedDataPacked : Bytes)
    (forbiddenCountriesListPacked : Fin 4 → Word) : Except Error Unit := do
  -- the OFAC results, behind a check that some flag is on
  onlyIf selection.enabled do
    let passed ← compareOfac attestationId revealedDataPacked selection.checkDocumentNo
      selection.checkNameAndDob selection.checkNameAndYob
    require (passed = true) .invalidOfacCheck
  -- the packed list has to be the configured one, word for word
  onlyIf verificationConfig.forbiddenCountriesEnabled <|
    revertIf (∃ i, forbiddenCountriesListPacked i ≠
      verificationConfig.forbiddenCountriesListPacked i) .invalidForbiddenCountries
  onlyIf verificationConfig.olderThanEnabled do
    let passed ← compareOlderThan attestationId revealedDataPacked verificationConfig.olderThan
    require (passed = true) .invalidOlderThan

/-- The output both document types build once the checks have passed. -/
def discloseOutput (attestationId : Word) (documentNoOfac : Bytes → Except Error Bool)
    (verificationConfig : VerificationConfigV2) (revealedDataPacked : Bytes)
    (userIdentifier nullifier : Word) (forbiddenCountriesListPacked : Fin 4 → Word) :
    Except Error SelfStructs.GenericDiscloseOutputV2 := do
  let issuingState ← getIssuingState attestationId revealedDataPacked
  let name ← getName attestationId revealedDataPacked
  let idNumber ← getDocumentNumber attestationId revealedDataPacked
  let nationality ← getNationality attestationId revealedDataPacked
  let dateOfBirth ← getDateOfBirth attestationId revealedDataPacked
  let gender ← getGender attestationId revealedDataPacked
  let expiryDate ← getExpiryDate attestationId revealedDataPacked
  let documentNo ← documentNoOfac revealedDataPacked
  let nameAndDob ← getNameAndDobOfac attestationId revealedDataPacked
  let nameAndYob ← getNameAndYobOfac attestationId revealedDataPacked
  return {
    attestationId, userIdentifier, nullifier, forbiddenCountriesListPacked, issuingState,
    name, idNumber, nationality, dateOfBirth, gender, expiryDate
    -- the threshold of the config, not the age the proof reveals
    olderThan := verificationConfig.olderThan
    ofac := ![documentNo, nameAndDob, nameAndYob] }

/-- The OFAC flags `verifyPassport` reads: each mode's own. -/
def passportSelection (c : VerificationConfigV2) : OfacSelection where
  enabled := c.ofacEnabled 0 || c.ofacEnabled 1 || c.ofacEnabled 2
  checkDocumentNo := c.ofacEnabled 0
  checkNameAndDob := c.ofacEnabled 1
  checkNameAndYob := c.ofacEnabled 2

/-- The OFAC flags `verifyIdCard` reads: the first two, for the last two modes. -/
def idCardSelection (c : VerificationConfigV2) : OfacSelection where
  enabled := c.ofacEnabled 0 || c.ofacEnabled 1
  -- flags 0 and 1 are read for modes 1 and 2
  checkDocumentNo := false
  checkNameAndDob := c.ofacEnabled 0
  checkNameAndYob := c.ofacEnabled 1

/-- The checks, then the output. -/
def verifyDocument (attestationId : Word) (selection : OfacSelection)
    (documentNoOfac : Bytes → Except Error Bool) (verificationConfig : VerificationConfigV2)
    (revealedDataPacked : Bytes) (userIdentifier nullifier : Word)
    (forbiddenCountriesListPacked : Fin 4 → Word) :
    Except Error SelfStructs.GenericDiscloseOutputV2 := do
  checkRequirements attestationId selection verificationConfig revealedDataPacked
    forbiddenCountriesListPacked
  discloseOutput attestationId documentNoOfac verificationConfig revealedDataPacked
    userIdentifier nullifier forbiddenCountriesListPacked

/-- Verifies a passport output. -/
def verifyPassport (verificationConfig : VerificationConfigV2) (passportOutput : PassportOutput) :
    Except Error SelfStructs.GenericDiscloseOutputV2 :=
  verifyDocument AttestationId.ePassport (passportSelection verificationConfig)
    (getDocumentNoOfac AttestationId.ePassport) verificationConfig
    passportOutput.revealedDataPacked passportOutput.userIdentifier passportOutput.nullifier
    passportOutput.forbiddenCountriesListPacked

/-- Verifies an ID card output; an ID card has no document number result. -/
def verifyIdCard (verificationConfig : VerificationConfigV2) (idCardOutput : EuIdOutput) :
    Except Error SelfStructs.GenericDiscloseOutputV2 :=
  verifyDocument AttestationId.euIdCard (idCardSelection verificationConfig)
    (fun _ => .ok false) verificationConfig idCardOutput.revealedDataPacked
    idCardOutput.userIdentifier idCardOutput.nullifier
    idCardOutput.forbiddenCountriesListPacked

/-- Verifies the configuration of the custom verifier. -/
def customVerify (attestationId : Word) (config proofOutput : Bytes) :
    Except Error SelfStructs.GenericDiscloseOutputV2 := do
  let verificationConfig ← GenericFormatter.verificationConfigFromBytes config
  if attestationId = AttestationId.ePassport then
    let passportOutput ← orRevert (PassportOutput.codec.read proofOutput) .abiDecode
    verifyPassport verificationConfig passportOutput
  else if attestationId = AttestationId.euIdCard then
    let idCardOutput ← orRevert (EuIdOutput.codec.read proofOutput) .abiDecode
    verifyIdCard verificationConfig idCardOutput
  else .error .invalidAttestationId

/-! ## Requirements -/

open DocumentType

/-- The flag under which `checkRequirements` compares the result byte of an OFAC mode:
the mode's own for a passport, the preceding one for an ID card. -/
def checkedFlag : DocumentType → Fin 3 → Fin 3
  | passport, mode => mode
  | idCard, 2 => 1
  | idCard, _ => 0

/-- The flags of a selection, indexed by OFAC mode. -/
def OfacSelection.flags (selection : OfacSelection) : Fin 3 → Bool :=
  ![selection.checkDocumentNo, selection.checkNameAndDob, selection.checkNameAndYob]

/-- The checks pass exactly when the config is met, for a selection that hands on the
flags `flagOf` names and is enabled when one of them is. -/
private theorem checkRequirements_eq_ok (d : DocumentType) (flagOf : Fin 3 → Fin 3)
    {selection : OfacSelection} {c : VerificationConfigV2} {revealedData : Bytes}
    {forbiddenCountries : Fin 4 → Word}
    (hflags : ∀ mode i, d.ofacByte mode = some i →
      selection.flags mode = c.ofacEnabled (flagOf mode))
    (henabled : ∀ mode i, d.ofacByte mode = some i →
      c.ofacEnabled (flagOf mode) = true → selection.enabled = true) :
    checkRequirements d.attestationId selection c revealedData forbiddenCountries = .ok () ↔
      d.Meets flagOf c revealedData forbiddenCountries := by
  have hofac := compareOfac_eq_ok_true d revealedData selection.flags
  have hage := compareOlderThan_eq_ok_true d revealedData c.olderThan
  unfold checkRequirements
  simp only [↓check_bind_eq_ok, bind_eq_ok, onlyIf_eq_ok, require_eq_ok, revertIf_eq_ok,
    exists_eq_right, not_exists, not_not, hage]
  constructor
  · rintro ⟨h1, h2, h3⟩
    refine ⟨fun mode i hbyte hflag => ?_, fun h => funext (h2 h), h3⟩
    -- the comparison was made, because the flag of this mode is on
    have hcompare := hofac.mp (h1 (henabled mode i hbyte hflag))
    exact hcompare mode i hbyte ((hflags mode i hbyte).trans hflag)
  · rintro ⟨h1, h2, h3⟩
    refine ⟨fun _ => hofac.mpr fun mode i hbyte hflag => ?_, fun h i => congrFun (h2 h) i, h3⟩
    exact h1 mode i hbyte ((hflags mode i hbyte).symm.trans hflag)

/-- The OFAC flags a document type's function reads. -/
def selectionOf : DocumentType → VerificationConfigV2 → OfacSelection
  | passport => passportSelection
  | idCard => idCardSelection

/-- **What the checks establish**: the config is met, with the OFAC flags wired as the
document type's function wires them. -/
theorem checkRequirements_selectionOf (d : DocumentType) (c : VerificationConfigV2)
    (revealedData : Bytes) (forbiddenCountries : Fin 4 → Word) :
    checkRequirements d.attestationId (selectionOf d c) c revealedData forbiddenCountries =
      .ok () ↔ d.Meets (checkedFlag d) c revealedData forbiddenCountries := by
  apply checkRequirements_eq_ok
  · intro mode i hbyte
    -- the passport is checked under its own flags, the ID card under those in front of them
    cases d
    · match mode with
      | 0 | 1 | 2 => rfl
    · match mode, hbyte with
      | 1, _ | 2, _ => rfl
  · intro mode i hbyte hflag
    cases d
    · match mode with
      | 0 | 1 | 2 => simp_all [selectionOf, passportSelection, checkedFlag]
    · match mode, hbyte with
      | 1, _ | 2, _ => simp_all [selectionOf, idCardSelection, checkedFlag]

/-! ## Output -/

/-- The two dates a document reveals are well formed, so that they can be formatted. -/
def DatesReadable (d : DocumentType) (revealedData : Bytes) : Prop :=
  (∃ date, getDateOfBirth d.attestationId revealedData = .ok date) ∧
    ∃ date, getExpiryDate d.attestationId revealedData = .ok date

theorem extractStringAttribute_length_le {charcodes out : Bytes} {start stop : ℕ}
    (h : extractStringAttribute charcodes start stop = .ok out) :
    out.length ≤ stop - start + 1 := by
  rw [extractStringAttribute_eq_ok] at h
  obtain ⟨-, rfl⟩ := h
  rw [List.length_take]
  exact Nat.min_le_left _ _

private theorem formatName_short (input : Bytes) :
    (Formatter.formatName input).length = 2 ∧
      ∀ part ∈ Formatter.formatName input, part.length ≤ input.length := by
  refine ⟨rfl, fun part hpart => ?_⟩
  simp only [Formatter.formatName, List.mem_cons, List.not_mem_nil, or_false] at hpart
  rcases hpart with rfl | rfl
  · refine (Formatter.firstNames_length_le _).trans ?_
    rw [List.length_drop]
    exact Nat.sub_le _ _
  · exact (List.takeWhile_prefix _).length_le

/-- The output names the given user and nullifier, and its strings are short. -/
theorem discloseOutput_eq_ok {d : DocumentType} {documentNoOfac : Bytes → Except Error Bool}
    {c : VerificationConfigV2} {revealedData : Bytes} {userIdentifier nullifier : Word}
    {forbiddenCountries : Fin 4 → Word} {out : SelfStructs.GenericDiscloseOutputV2}
    (h : discloseOutput d.attestationId documentNoOfac c revealedData userIdentifier nullifier
      forbiddenCountries = .ok out) :
    out.userIdentifier = userIdentifier ∧ out.nullifier = nullifier ∧ out.Short ∧
      DatesReadable d revealedData := by
  unfold discloseOutput getIssuingState getName getDocumentNumber getNationality getGender at h
  simp only [getFieldPositions_attestationId, ok_bind, bind_eq_ok, pure_eq_ok] at h
  obtain ⟨issuingState, hissuing, _, ⟨name, hname, rfl⟩, idNumber, hid, nationality,
    hnationality, dateOfBirth, hbirth, gender, hgender, expiryDate, hexpiry, _, -, _, -, _, -,
    rfl⟩ := h
  refine ⟨rfl, rfl, ?_, ⟨_, hbirth⟩, _, hexpiry⟩
  -- every field is a slice of the revealed data, or a date of eight characters
  have hlenBirth : dateOfBirth.length = 8 := by
    unfold getDateOfBirth at hbirth
    simp only [getFieldPositions_attestationId, ok_bind, bind_eq_ok] at hbirth
    obtain ⟨_, -, hformat⟩ := hbirth
    exact Formatter.formatDate_length hformat
  have hlenExpiry : expiryDate.length = 8 := by
    unfold getExpiryDate at hexpiry
    simp only [getFieldPositions_attestationId, ok_bind, bind_eq_ok] at hexpiry
    obtain ⟨_, -, hformat⟩ := hexpiry
    exact Formatter.formatDate_length hformat
  have b1 := extractStringAttribute_length_le hissuing
  have b2 := extractStringAttribute_length_le hname
  have b3 := extractStringAttribute_length_le hid
  have b4 := extractStringAttribute_length_le hnationality
  have b5 := extractStringAttribute_length_le hgender
  -- a name has two parts, neither longer than the field
  have hparts := formatName_short name
  constructor
  · cases d <;> exact b1.trans (by decide)
  · exact hparts.1
  · intro part hpart
    have hlen := (hparts.2 part hpart).trans b2
    cases d <;> exact hlen.trans (by decide)
  · cases d <;> exact b3.trans (by decide)
  · cases d <;> exact b4.trans (by decide)
  · exact hlenBirth.le.trans (by decide)
  · cases d <;> exact b5.trans (by decide)
  · exact hlenExpiry.le.trans (by decide)

theorem extractStringAttribute_of_lt {charcodes : Bytes} (start : ℕ) {stop : ℕ}
    (h : stop < charcodes.length) : ∃ out, extractStringAttribute charcodes start stop = .ok out :=
  ⟨_, extractStringAttribute_eq_ok.mpr ⟨h, rfl⟩⟩

theorem ofacResult_of_lt {charcodes : Bytes} {i : ℕ} (h : i < charcodes.length) :
    ∃ b, ofacResult charcodes i = .ok b :=
  ⟨_, ofacResult_eq_ok.mpr ⟨_, List.getElem?_eq_getElem h, rfl⟩⟩

/-- Where the first entry of the output's `ofac` array comes from. -/
def documentNoOfacOf : DocumentType → Bytes → Except Error Bool
  | passport => getDocumentNoOfac AttestationId.ePassport
  | idCard => fun _ => .ok false

/-- On revealed data of the right length, the output can be built as soon as the two
dates can be formatted. -/
theorem discloseOutput_succeeds {d : DocumentType} {c : VerificationConfigV2}
    {revealedData : Bytes} {userIdentifier nullifier : Word} {forbiddenCountries : Fin 4 → Word}
    (hlen : revealedData.length = d.revealedLength) (hdates : DatesReadable d revealedData) :
    ∃ out, discloseOutput d.attestationId (documentNoOfacOf d) c revealedData userIdentifier
      nullifier forbiddenCountries = .ok out := by
  obtain ⟨⟨birth, hbirth⟩, expiry, hexpiry⟩ := hdates
  -- every field ends inside the revealed data
  have hends : d.positions.issuingStateEnd < d.revealedLength ∧
      d.positions.nameEnd < d.revealedLength ∧
      d.positions.documentNumberEnd < d.revealedLength ∧
      d.positions.nationalityEnd < d.revealedLength ∧
      d.positions.genderEnd < d.revealedLength := by
    cases d <;> decide
  rw [← hlen] at hends
  obtain ⟨e1, e2, e3, e4, e5⟩ := hends
  obtain ⟨issuingState, hissuing⟩ :=
    extractStringAttribute_of_lt d.positions.issuingStateStart e1
  obtain ⟨name, hname⟩ := extractStringAttribute_of_lt d.positions.nameStart e2
  obtain ⟨idNumber, hid⟩ :=
    extractStringAttribute_of_lt d.positions.documentNumberStart e3
  obtain ⟨nationality, hnationality⟩ :=
    extractStringAttribute_of_lt d.positions.nationalityStart e4
  obtain ⟨gender, hgender⟩ :=
    extractStringAttribute_of_lt d.positions.genderStart e5
  obtain ⟨no, hno⟩ : ∃ b, documentNoOfacOf d revealedData = .ok b := by
    cases d
    · change ∃ b, getDocumentNoOfac passport.attestationId revealedData = .ok b
      rw [getDocumentNoOfac_passport]
      exact ofacResult_of_lt (hlen ▸ by decide)
    · exact ⟨false, rfl⟩
  obtain ⟨dob, hdob⟩ : ∃ b, getNameAndDobOfac d.attestationId revealedData = .ok b := by
    rw [getNameAndDobOfac_attestationId]
    cases d <;> exact ofacResult_of_lt (hlen ▸ by decide)
  obtain ⟨yob, hyob⟩ : ∃ b, getNameAndYobOfac d.attestationId revealedData = .ok b := by
    rw [getNameAndYobOfac_attestationId]
    cases d <;> exact ofacResult_of_lt (hlen ▸ by decide)
  unfold discloseOutput getIssuingState getName getDocumentNumber getNationality getGender
  simp only [getFieldPositions_attestationId, ok_bind, hissuing, hname, hid, hnationality,
    hbirth, hgender, hexpiry, hno, hdob, hyob]
  exact ⟨_, rfl⟩

/-! ## Verification of a document -/

/-- The function of a document type, on the contents of its output struct. -/
def verify (d : DocumentType) (c : VerificationConfigV2) (revealedData : Bytes)
    (userIdentifier nullifier : Word) (forbiddenCountries : Fin 4 → Word) :
    Except Error SelfStructs.GenericDiscloseOutputV2 :=
  verifyDocument d.attestationId (selectionOf d c) (documentNoOfacOf d) c revealedData
    userIdentifier nullifier forbiddenCountries

variable {d : DocumentType} {c : VerificationConfigV2} {revealedData : Bytes}
  {userIdentifier nullifier : Word} {forbiddenCountries : Fin 4 → Word}

/-- What a successful verification says of the document and of its output. -/
theorem verify_eq_ok {out : SelfStructs.GenericDiscloseOutputV2}
    (h : verify d c revealedData userIdentifier nullifier forbiddenCountries = .ok out) :
    d.Meets (checkedFlag d) c revealedData forbiddenCountries ∧
      DatesReadable d revealedData ∧
      out.userIdentifier = userIdentifier ∧ out.nullifier = nullifier ∧ out.Short := by
  unfold verify verifyDocument at h
  rw [check_bind_eq_ok, checkRequirements_selectionOf] at h
  obtain ⟨hmeets, hout⟩ := h
  obtain ⟨huser, hnullifier, hshort, hdates⟩ := discloseOutput_eq_ok hout
  exact ⟨hmeets, hdates, huser, hnullifier, hshort⟩

/-- A document that meets the config and whose dates can be formatted is verified. -/
theorem verify_succeeds (userIdentifier nullifier : Word)
    (hlen : revealedData.length = d.revealedLength)
    (hmeets : d.Meets (checkedFlag d) c revealedData forbiddenCountries)
    (hdates : DatesReadable d revealedData) :
    ∃ out, verify d c revealedData userIdentifier nullifier forbiddenCountries = .ok out := by
  unfold verify verifyDocument
  rw [(checkRequirements_selectionOf d c revealedData forbiddenCountries).mpr hmeets, ok_bind]
  exact discloseOutput_succeeds hlen hdates

theorem customVerify_passport (c : VerificationConfigV2) (o : PassportOutput)
    (h : o.revealedDataPacked.length < 2 ^ 32) :
    customVerify passport.attestationId (GenericFormatter.formatV2Config c)
      (PassportOutput.codec.encode o) =
      verify passport c o.revealedDataPacked o.userIdentifier o.nullifier
        o.forbiddenCountriesListPacked := by
  unfold customVerify
  rw [GenericFormatter.verificationConfigFromBytes_formatV2Config, ok_bind,
    PassportOutput.read_encode o h]
  rfl

theorem customVerify_idCard (c : VerificationConfigV2) (o : EuIdOutput)
    (h : o.revealedDataPacked.length < 2 ^ 32) :
    customVerify idCard.attestationId (GenericFormatter.formatV2Config c)
      (EuIdOutput.codec.encode o) =
      verify idCard c o.revealedDataPacked o.userIdentifier o.nullifier
        o.forbiddenCountriesListPacked := by
  unfold customVerify
  rw [GenericFormatter.verificationConfigFromBytes_formatV2Config, ok_bind,
    if_neg attestationId_idCard_ne,
    if_pos (show idCard.attestationId = AttestationId.euIdCard from rfl),
    EuIdOutput.read_encode o h]
  rfl

end CustomVerifier

end RuleSelf
