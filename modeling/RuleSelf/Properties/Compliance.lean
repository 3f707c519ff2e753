import RuleSelf.Contract.Registrable

/-!
# Compliance

Which requirements of a config bind the documents that are registered under it. Forbidden
countries always do. The OFAC results do for passports; for ID cards each result is checked
under the flag of the preceding mode. An age never does where it can be reached at all: bytes
above the digits are read as numbers, too. And the roots of the OFAC trees are compared with
those of the registry for no document.
-/

namespace RuleSelf

open SelfStructs

variable {d : DocumentType} {c : VerificationConfigV2} {proof : VcAndDiscloseProof}

/-! ## Enabled requirements -/

/-- The document meets every enabled requirement: its two digits denote an age that is enough,
the proof was made against the forbidden countries of the config, and every OFAC mode with a
result byte has the result its own flag asks for. -/
structure MeetsEnabled (d : DocumentType) (c : VerificationConfigV2)
    (proof : VcAndDiscloseProof) : Prop where
  olderThan : c.olderThanEnabled = true →
    DocumentType.DigitsAtLeast (d.revealedData proof.pubSignals) d.positions.olderThanStart
      c.olderThan.toNat
  forbiddenCountries : c.forbiddenCountriesEnabled = true →
    d.forbiddenCountries proof.pubSignals = c.forbiddenCountriesListPacked
  ofac : ∀ mode i, d.ofacByte mode = some i → c.ofacEnabled mode = true →
    DocumentType.ResultByte (d.revealedData proof.pubSignals) i

/-- Every result byte of an ID card is checked when its mode is enabled: each flag is on
together with the one in front of it. -/
def FlagsCover (c : VerificationConfigV2) : Prop :=
  (c.ofacEnabled nameAndDobOfac = true → c.ofacEnabled passportNoOfac = true) ∧
    (c.ofacEnabled nameAndYobOfac = true → c.ofacEnabled nameAndDobOfac = true)

/-- Where no age is asked for and the flags cover each other, what the hub checks is enough. -/
private theorem meetsEnabled_of_meets (hage : c.olderThanEnabled = false)
    (hcover : d = .passport ∨ FlagsCover c)
    (h : d.Meets (CustomVerifier.checkedFlag d) c (d.revealedData proof.pubSignals)
      (d.forbiddenCountries proof.pubSignals)) : MeetsEnabled d c proof where
  olderThan henabled := absurd (hage.symm.trans henabled) Bool.false_ne_true
  forbiddenCountries := h.forbiddenCountries
  ofac mode i hbyte hflag := by
    refine h.ofac mode i hbyte ?_
    cases d with
    | passport => exact hflag
    | idCard =>
      -- each mode of an ID card is checked under the flag in front of its own
      obtain ⟨h10, h21⟩ := hcover.resolve_left (by decide)
      match mode, hbyte with
      | 1, _ => exact h10 hflag
      | 2, _ => exact h21 hflag

/-! ## What granted data does not meet -/

/-- The two bytes at the older-than position are no digits. -/
private theorem not_digitsAtLeast_grantedData (d : DocumentType) (ofac : Fin 3 → UInt8)
    (threshold : ℕ) :
    ¬ DocumentType.DigitsAtLeast (grantedData d ofac) d.positions.olderThanStart threshold := by
  rintro ⟨tens, -, htens, -, ⟨-, hdigit⟩, -⟩
  obtain rfl : (255 : UInt8) = tens := by
    cases d
    · exact Option.some.inj htens
    · exact Option.some.inj htens
  exact absurd hdigit (by decide)

/-- A granted disclosure meets no age. -/
private theorem olderThan_of_meetsEnabled {ofac : Fin 3 → UInt8}
    (h : MeetsEnabled d c ((Disclosure.granted d ofac c).proof d)) :
    c.olderThanEnabled = false := by
  by_contra hon
  have hdigits := h.olderThan (Bool.not_eq_false _ ▸ hon)
  rw [revealedData_granted] at hdigits
  exact not_digitsAtLeast_grantedData d ofac _ hdigits

/-- A granted disclosure has the result 1 for every mode whose flag is on, when it meets every
enabled requirement. -/
private theorem ofac_of_meetsEnabled {ofac : Fin 3 → UInt8}
    (h : MeetsEnabled d c ((Disclosure.granted d ofac c).proof d)) {mode : Fin 3} {i : ℕ}
    (hbyte : d.ofacByte mode = some i) (hflag : c.ofacEnabled mode = true) : ofac mode = 1 := by
  have hresultByte := h.ofac mode i hbyte hflag
  rw [revealedData_granted] at hresultByte
  exact Option.some.inj ((grantedData_ofac hbyte).symm.trans hresultByte)

/-- An ID card with the results it is checked for meets every enabled requirement only when
the flags cover each other. -/
private theorem flagsCover_of_meetsEnabled (h : MeetsEnabled .idCard c
    ((Disclosure.granted .idCard (checkedResults .idCard c) c).proof .idCard)) : FlagsCover c := by
  have hresult (mode : Fin 3) {i : ℕ} (hbyte : DocumentType.idCard.ofacByte mode = some i)
      (hflag : c.ofacEnabled mode = true) :
      c.ofacEnabled (CustomVerifier.checkedFlag .idCard mode) = true := by
    have hone := ofac_of_meetsEnabled h hbyte hflag
    -- a result that is not checked is 0
    by_contra hoff
    rw [checkedResults, if_neg hoff] at hone
    exact absurd hone (by decide)
  exact ⟨hresult 1 rfl, hresult 2 rfl⟩

/-- Under an attainable config, a document with the results it is checked for registers; where
the config asks for an age, or the document is an ID card and the flags do not cover each
other, it does not meet every enabled requirement. -/
private theorem meetsEnabled_violated (hc : Attainable c)
    (h : ¬ (c.olderThanEnabled = false ∧ (d = .passport ∨ FlagsCover c))) :
    GrantedViolates (plainOracles c) d (checkedResults d c) c 0 0 0
      fun _ _ proof => MeetsEnabled d c proof := by
  refine grantedViolates_plainOracles hc checkedResults_eq_one fun hmeets => ?_
  refine h ⟨olderThan_of_meetsEnabled hmeets, ?_⟩
  cases d with
  | passport => exact .inl rfl
  | idCard => exact .inr (flagsCover_of_meetsEnabled hmeets)

/-- **When every enabled requirement is enforced**: in all runs, every registration under `c`
from a document of type `d` meets all that `c` requires if and only if no age is enough for
`c`, or `c` asks for none and `d` is a passport or the OFAC flags of `c` cover each other. -/
theorem requirements_enforced_iff (d : DocumentType) (c : VerificationConfigV2) :
    EveryRegistration AnyProof d c (fun _ _ proof => MeetsEnabled d c proof) ↔
      ¬ Attainable c ∨ c.olderThanEnabled = false ∧ (d = .passport ∨ FlagsCover c) := by
  constructor
  · intro hlaw
    by_contra hnot
    obtain ⟨hc, hmissed⟩ := not_or.mp hnot
    have hviolated := meetsEnabled_violated (not_not.mp hc) hmissed
    exact hviolated.not_everyRegistration_anyProof hlaw
  · intro hcondition Roles dep hub registries txs tx w' proof hfree _ hcommits
    have hmeets := hcommits.meets hfree
    -- nothing registers at all, or what is checked is enough
    rcases hcondition with hnot | ⟨hage, hcover⟩
    · exact absurd hmeets.attainable hnot
    · exact meetsEnabled_of_meets hage hcover hmeets

/-! ## Two registrations that miss a requirement -/

/-- A config that enables the name and date of birth result alone. -/
def nameAndDobOnly : VerificationConfigV2 :=
  ⟨false, 0, false, fun _ => 0, ![false, true, false]⟩

/-- The results of an ID card whose name and date of birth are on the list. -/
def dobListed : Fin 3 → UInt8 := ![0, 0, 1]

/-- A config that asks for an age of 18. -/
def olderThan18 : VerificationConfigV2 := ⟨true, 18, false, fun _ => 0, fun _ => false⟩

/-- An ID card registers whose name and date of birth are on the list. -/
private theorem nameAndDobOnly_violated :
    GrantedViolates (plainOracles nameAndDobOnly) .idCard dobListed nameAndDobOnly 0 0 0
      fun _ _ proof => MeetsEnabled .idCard nameAndDobOnly proof := by
  refine grantedViolates_plainOracles (fun henabled => absurd henabled (by decide)) ?_ ?_
  · -- only the name and year of birth is checked, under the flag in front of its own
    intro mode i hbyte hflag
    match mode, hbyte with
    | 1, _ => exact absurd hflag (by decide)
    | 2, _ => rfl
  · intro hmeets
    -- the result of the mode that is asked for is 0, and yet the card registers
    have hzero : dobListed 1 = 1 := ofac_of_meetsEnabled hmeets rfl rfl
    exact absurd hzero (by decide)

/-- A passport registers whose bytes for the age are 255 and 255. -/
private theorem olderThan18_violated :
    GrantedViolates (plainOracles olderThan18) .passport (fun _ => 0) olderThan18 0 0 0
      fun _ _ proof => MeetsEnabled .passport olderThan18 proof := by
  refine grantedViolates_plainOracles (fun _ => by decide) (fun _ _ _ hflag => ?_) fun hmeets => ?_
  · exact absurd hflag Bool.false_ne_true
  · exact absurd (olderThan_of_meetsEnabled hmeets) (by decide)

/-- A requirement of either kind is missed: by an ID card whose name and date of birth are on the
list, and by a passport with no age. -/
theorem requirements_not_enforced :
    (GrantedViolates (plainOracles nameAndDobOnly) .idCard dobListed nameAndDobOnly 0 0 0
        (fun _ _ proof => MeetsEnabled .idCard nameAndDobOnly proof) ∧
      ¬ EveryRegistration AnyProof .idCard nameAndDobOnly
        fun _ _ proof => MeetsEnabled .idCard nameAndDobOnly proof) ∧
    (GrantedViolates (plainOracles olderThan18) .passport (fun _ => 0) olderThan18 0 0 0
        (fun _ _ proof => MeetsEnabled .passport olderThan18 proof) ∧
      ¬ EveryRegistration AnyProof .passport olderThan18
        fun _ _ proof => MeetsEnabled .passport olderThan18 proof) :=
  ⟨⟨nameAndDobOnly_violated, nameAndDobOnly_violated.not_everyRegistration_anyProof⟩,
    olderThan18_violated, olderThan18_violated.not_everyRegistration_anyProof⟩

/-! ## The OFAC roots -/

/-- The roots of the OFAC trees a proof was made against are those its registry holds. -/
def OfacRootsStored (d : DocumentType) (hub : IdentityVerificationHub.Storage)
    (registries : Registries) (proof : VcAndDiscloseProof) : Prop :=
  match d with
  | .passport => IdentityRegistryImplV1.checkOfacRoots
      (registries.passport (hub.registries d.attestationId)) (proof.pubSignals 16)
      (proof.pubSignals 17) (proof.pubSignals 18) = true
  | .idCard => IdentityRegistryIdCardImplV1.checkOfacRoots
      (registries.idCard (hub.registries d.attestationId)) (proof.pubSignals 17)
      (proof.pubSignals 18) = true

/-- Registries with roots 1 do not hold the roots 0 of a granted disclosure. -/
private theorem ofacRoots_violated (hc : Attainable c) (hflag : ∃ mode, c.ofacEnabled mode = true) :
    GrantedViolates (plainOracles c) d (checkedResults d c) c 1 1 1 fun hub registries proof =>
      (∃ mode, c.ofacEnabled mode = true) → OfacRootsStored d hub registries proof := by
  refine grantedViolates_plainOracles hc checkedResults_eq_one fun hroots => ?_
  have hstored := hroots hflag
  cases d
  · exact Bool.false_ne_true hstored
  · exact Bool.false_ne_true hstored

/-- **When the OFAC roots are those of the registry**: in all runs, every registration under `c`
from a document of type `d` was made against the stored OFAC roots, if `c` enables an OFAC
result, if and only if `c` enables none or no age is enough for `c`. -/
theorem ofac_roots_checked_iff (d : DocumentType) (c : VerificationConfigV2) :
    EveryRegistration AnyProof d c (fun hub registries proof =>
      (∃ mode, c.ofacEnabled mode = true) → OfacRootsStored d hub registries proof) ↔
      (∀ mode, c.ofacEnabled mode = false) ∨ ¬ Attainable c := by
  constructor
  · intro hlaw
    by_contra hnot
    rw [not_or, not_not, not_forall] at hnot
    obtain ⟨⟨mode, hmode⟩, hc⟩ := hnot
    -- a flag is on and something registers, with roots that the registry has never had
    have hviolated := ofacRoots_violated (d := d) hc ⟨mode, Bool.not_eq_false _ ▸ hmode⟩
    exact hviolated.not_everyRegistration_anyProof hlaw
  · intro hcondition Roles dep hub registries txs tx w' proof hfree _ hcommits hflag
    -- no flag is on, or nothing registers at all
    rcases hcondition with hoff | hnot
    · obtain ⟨mode, hmode⟩ := hflag
      exact absurd hmode (Bool.eq_false_iff.mp (hoff mode))
    · exact absurd (hcommits.meets hfree).attainable hnot

/-- A config that enables every OFAC result. -/
def allOfac : VerificationConfigV2 := ⟨false, 0, false, fun _ => 0, fun _ => true⟩

/-- Under it, a passport registers whose proof was made against trees of its holder's own: the
roots are 0, where those of the registry are 1. -/
theorem ofac_roots_not_checked :
    (GrantedViolates (plainOracles allOfac) .passport (fun _ => 1) allOfac 1 1 1
      fun hub registries proof => OfacRootsStored .passport hub registries proof) ∧
    ¬ EveryRegistration AnyProof .passport allOfac fun hub registries proof =>
      (∃ mode, allOfac.ofacEnabled mode = true) →
        OfacRootsStored .passport hub registries proof := by
  have hattainable : Attainable allOfac := fun henabled => absurd henabled (by decide)
  have hviolated := ofacRoots_violated (d := .passport) hattainable ⟨0, rfl⟩
  exact ⟨⟨hviolated.commits, fun hstored => hviolated.violates fun _ => hstored⟩,
    hviolated.not_everyRegistration_anyProof⟩

end RuleSelf
