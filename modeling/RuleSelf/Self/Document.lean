import RuleSelf.Self.AttributeHandler

/-!
# Document Types

The two document types of the pipeline as one enumeration: the attestation id, the
signal indices, the field positions and the OFAC result bytes of each. The source
branches on the attestation id in every function; here each branch is resolved
once, and the compliance checks get one meaning for both types.
-/

namespace RuleSelf

open Evm Revert SelfStructs

/-- The documents a proof can be about. -/
inductive DocumentType where
  | passport
  | idCard
  deriving DecidableEq

namespace DocumentType

open CircuitConstantsV2 CircuitAttributeHandlerV2

/-- The attestation id of a document type. -/
def attestationId : DocumentType → Word
  | passport => AttestationId.ePassport
  | idCard => AttestationId.euIdCard

/-- The signal indices of a document type. -/
def indices : DocumentType → DiscloseIndices
  | passport => passportIndices
  | idCard => idCardIndices

/-- The field positions of a document type. -/
def positions : DocumentType → FieldPositions
  | passport => passportPositions
  | idCard => idCardPositions

/-- How many bytes are unpacked from the revealed-data signals. -/
def revealedLength : DocumentType → ℕ
  | passport => 93
  | idCard => 94

/-- Where the result byte of an OFAC mode stands, for the modes that have one. The
modes are indexed as in `SelfStructs`. -/
def ofacByte : DocumentType → Fin 3 → Option ℕ
  | passport, 0 => some 90
  | passport, 1 => some 91
  | passport, 2 => some 92
  | idCard, 0 => none
  | idCard, 1 => some 92
  | idCard, 2 => some 93

theorem attestationId_injective : Function.Injective attestationId := by
  intro d d' h
  cases d <;> cases d' <;> first | rfl | exact absurd h (by decide)

theorem attestationId_idCard_ne : idCard.attestationId ≠ AttestationId.ePassport :=
  AttestationId.euIdCard_ne_ePassport

/-! ## The attestation id resolved -/

theorem getDiscloseIndices_attestationId (d : DocumentType) :
    getDiscloseIndices d.attestationId = .ok d.indices := by
  cases d
  · rfl
  · simp [getDiscloseIndices, attestationId, AttestationId.euIdCard_ne_ePassport, indices]

theorem getFieldPositions_attestationId (d : DocumentType) :
    getFieldPositions d.attestationId = .ok d.positions := by
  cases d
  · exact getFieldPositions_ePassport
  · exact getFieldPositions_euIdCard

/-- Only the attestation ids of the two document types have signal indices. -/
theorem of_getDiscloseIndices_eq_ok {a : Word} {indices : DiscloseIndices}
    (h : getDiscloseIndices a = .ok indices) :
    ∃ d : DocumentType, a = d.attestationId ∧ indices = d.indices := by
  unfold getDiscloseIndices at h
  split at h
  · cases h
    exact ⟨passport, ‹_›, rfl⟩
  · split at h
    · cases h
      exact ⟨idCard, ‹_›, rfl⟩
    · cases h

/-! ## Reading a document -/

/-- The number `getOlderThan` reads at positions `i` and `i + 1` is at least `threshold`. Every
code from that of `0` on counts as a digit, up to 207. -/
def ReadsAtLeast (revealedData : Bytes) (i threshold : ℕ) : Prop :=
  ∃ tens units, revealedData[i]? = some tens ∧ revealedData[i + 1]? = some units ∧
    48 ≤ tens.toNat ∧ 48 ≤ units.toNat ∧
    threshold ≤ (tens.toNat - 48) * 10 + (units.toNat - 48)

/-- Two ASCII digits, at positions `i` and `i + 1`, denote a number at least `threshold`. -/
def DigitsAtLeast (revealedData : Bytes) (i threshold : ℕ) : Prop :=
  ∃ tens units, revealedData[i]? = some tens ∧ revealedData[i + 1]? = some units ∧
    (48 ≤ tens.toNat ∧ tens.toNat ≤ 57) ∧ (48 ≤ units.toNat ∧ units.toNat ≤ 57) ∧
    threshold ≤ (tens.toNat - 48) * 10 + (units.toNat - 48)

/-- The older-than comparison passes exactly when what is read is enough. -/
theorem compareOlderThan_eq_ok_true (d : DocumentType) (revealedData : Bytes)
    (olderThan : Word) :
    compareOlderThan d.attestationId revealedData olderThan = .ok true ↔
      ReadsAtLeast revealedData d.positions.olderThanStart olderThan.toNat := by
  -- both characters are read, and neither underflows
  unfold compareOlderThan getOlderThan ReadsAtLeast
  rw [getFieldPositions_attestationId]
  simp only [bind_eq_ok, pure_eq_ok, charcode_eq_ok, numAsciiToUint_eq_ok, Except.ok.injEq,
    decide_eq_true_eq]
  constructor
  · rintro ⟨age, ⟨_, rfl, tens, htens, _, ⟨h1, rfl⟩, units, hunits, _, ⟨h2, rfl⟩, rfl⟩, hle⟩
    exact ⟨tens, units, htens, hunits, h1, h2, hle⟩
  · rintro ⟨tens, units, htens, hunits, h1, h2, hle⟩
    exact ⟨_, ⟨_, rfl, tens, htens, _, ⟨h1, rfl⟩, units, hunits, _, ⟨h2, rfl⟩, rfl⟩, hle⟩

/-- The result byte at position `i` says "not on the list". -/
def ResultByte (revealedData : Bytes) (i : ℕ) : Prop := revealedData[i]? = some 1

theorem getDocumentNoOfac_passport (revealedData : Bytes) :
    getDocumentNoOfac passport.attestationId revealedData = ofacResult revealedData 90 := by
  unfold getDocumentNoOfac
  rw [getFieldPositions_attestationId]
  rfl

theorem getNameAndDobOfac_attestationId (d : DocumentType) (revealedData : Bytes) :
    getNameAndDobOfac d.attestationId revealedData =
      ofacResult revealedData (match d with | passport => 91 | idCard => 92) := by
  unfold getNameAndDobOfac
  rw [getFieldPositions_attestationId, ok_bind]
  cases d
  · rfl
  · exact if_neg AttestationId.euIdCard_ne_ePassport

theorem getNameAndYobOfac_attestationId (d : DocumentType) (revealedData : Bytes) :
    getNameAndYobOfac d.attestationId revealedData =
      ofacResult revealedData (match d with | passport => 92 | idCard => 93) := by
  unfold getNameAndYobOfac
  rw [getFieldPositions_attestationId, ok_bind]
  cases d
  · rfl
  · exact if_neg AttestationId.euIdCard_ne_ePassport

/-- The modes of a passport, with their result bytes. -/
private theorem forall_ofacByte_passport {P : Fin 3 → ℕ → Prop} :
    (∀ mode i, passport.ofacByte mode = some i → P mode i) ↔ P 0 90 ∧ P 1 91 ∧ P 2 92 := by
  constructor
  · intro h
    exact ⟨h 0 90 rfl, h 1 91 rfl, h 2 92 rfl⟩
  · rintro ⟨h0, h1, h2⟩ mode i hbyte
    have hmodes : ∀ mode : Fin 3, mode = 0 ∨ mode = 1 ∨ mode = 2 := by decide
    rcases hmodes mode with rfl | rfl | rfl <;> obtain rfl := Option.some.inj hbyte
    · exact h0
    · exact h1
    · exact h2

/-- The modes of an ID card, with their result bytes; the first has none. -/
private theorem forall_ofacByte_idCard {P : Fin 3 → ℕ → Prop} :
    (∀ mode i, idCard.ofacByte mode = some i → P mode i) ↔ P 1 92 ∧ P 2 93 := by
  constructor
  · intro h
    exact ⟨h 1 92 rfl, h 2 93 rfl⟩
  · rintro ⟨h1, h2⟩ mode i hbyte
    have hmodes : ∀ mode : Fin 3, mode = 0 ∨ mode = 1 ∨ mode = 2 := by decide
    rcases hmodes mode with rfl | rfl | rfl
    · -- the card has no byte for its number
      cases hbyte
    · obtain rfl := Option.some.inj hbyte
      exact h1
    · obtain rfl := Option.some.inj hbyte
      exact h2

/-- Three results are all true exactly when each of them is. -/
private theorem and_eq_ok_true {no dob yob : Except Error Bool} :
    (do
      let a ← no
      let b ← dob
      let c ← yob
      return a && b && c) = .ok true ↔ no = .ok true ∧ dob = .ok true ∧ yob = .ok true := by
  simp only [bind_eq_ok, pure_eq_ok, Bool.and_eq_true]
  constructor
  · rintro ⟨_, hno, _, hdob, _, hyob, ⟨rfl, rfl⟩, rfl⟩
    exact ⟨hno, hdob, hyob⟩
  · rintro ⟨hno, hdob, hyob⟩
    exact ⟨true, hno, true, hdob, true, hyob, ⟨rfl, rfl⟩, rfl⟩

/-- The OFAC comparison passes exactly when every enabled mode that has a result byte
has the result 1 there. -/
theorem compareOfac_eq_ok_true (d : DocumentType) (revealedData : Bytes) (flags : Fin 3 → Bool) :
    compareOfac d.attestationId revealedData (flags 0) (flags 1) (flags 2) = .ok true ↔
      ∀ mode i, d.ofacByte mode = some i → flags mode = true → ResultByte revealedData i := by
  unfold compareOfac
  rw [getNameAndDobOfac_attestationId, getNameAndYobOfac_attestationId]
  rw [and_eq_ok_true, enabledResult_eq_ok_true, enabledResult_eq_ok_true, enabledResult_eq_ok_true,
    ofacResult_eq_ok_true, ofacResult_eq_ok_true]
  -- what is left differs in the document number
  cases d with
  | passport =>
    rw [getDocumentNoOfac_passport, ofacResult_eq_ok_true, forall_ofacByte_passport]
    simp only [Bool.and_eq_true, attestationId, beq_self_eq_true, and_true]
    exact Iff.rfl
  | idCard =>
    rw [forall_ofacByte_idCard]
    -- the document number is not looked at
    have hother : (flags 0 && (idCard.attestationId == AttestationId.ePassport)) = false := by
      simp [attestationId, AttestationId.euIdCard_ne_ePassport]
    rw [hother]
    exact and_iff_right fun h => absurd h Bool.false_ne_true

/-! ## Requirements -/

/-- What the hub requires under a config of a document that reveals `revealedData` and a proof
made against `forbiddenCountries`, when OFAC mode `m` is required by flag `flagOf m`. -/
structure Meets (d : DocumentType) (flagOf : Fin 3 → Fin 3) (c : VerificationConfigV2)
    (revealedData : Bytes) (forbiddenCountries : Fin 4 → Word) : Prop where
  ofac : ∀ mode i, d.ofacByte mode = some i → c.ofacEnabled (flagOf mode) = true →
    ResultByte revealedData i
  forbiddenCountries : c.forbiddenCountriesEnabled = true →
    forbiddenCountries = c.forbiddenCountriesListPacked
  olderThan : c.olderThanEnabled = true →
    ReadsAtLeast revealedData d.positions.olderThanStart c.olderThan.toNat

end DocumentType

end RuleSelf
