import RuleSelf.Properties.Provenance

/-!
# What a Config Lets Register

The registrations made under a given config, and how far the config restricts them. A
document can reveal any two bytes and any OFAC results, so that every config whose
age can be reached by two bytes lets some document register.
-/

namespace RuleSelf

open Evm SelfStructs IdentityVerificationHub

/-! ## Registrations under a config -/

/-- A `verifySelfProof` call that commits, with a proof over a document of type `d`, while
RuleSelf's config id is that of `c`. -/
structure CommitsUnder {Roles : Type} (dep : Deployment Roles) (w : World Roles)
    (tx : Transaction) (w' : World Roles) (d : DocumentType) (c : VerificationConfigV2)
    (proof : VcAndDiscloseProof) : Prop where
  call : ∃ proofPayload userContextData,
    tx.call = .verifySelfProof proofPayload userContextData ∧
    Word.ofBytes (slice proofPayload 0 32) = d.attestationId ∧
    VcAndDiscloseProof.codec.read (proofPayload.drop 32) = some proof
  config : w.ruleSelf.configId = generateConfigId dep.oracles c
  commits : World.exec dep w tx = .ok w'

variable {Roles : Type} {dep : Deployment Roles} {w w' : World Roles} {tx : Transaction}
  {d : DocumentType} {c : VerificationConfigV2} {proof : VcAndDiscloseProof}

/-- Such a call registers, and its proof is accepted under `c`. -/
theorem CommitsUnder.registers (h : CommitsUnder dep w tx w' d c proof)
    (hfree : CollisionFree dep.oracles c) :
    ∃ proofPayload userContextData,
      Registers dep w tx w' proofPayload userContextData d c proof := by
  obtain ⟨⟨P, C, hcall, hheader, hpayload⟩, hconfig, hcommits⟩ := h
  obtain ⟨c', hregisters⟩ := registers_of_exec hcall hheader hpayload hcommits
  -- the config the hub looked up has the id of `c`
  obtain rfl : c' = c := hfree c' (hregisters.verified.config.trans hconfig)
  exact ⟨P, C, hregisters⟩

/-- The document of such a call meets the config, as the custom verifier reads it. -/
theorem CommitsUnder.meets (h : CommitsUnder dep w tx w' d c proof)
    (hfree : CollisionFree dep.oracles c) :
    d.Meets (CustomVerifier.checkedFlag d) c (d.revealedData proof.pubSignals)
      (d.forbiddenCountries proof.pubSignals) := by
  obtain ⟨P, C, hregisters⟩ := h.registers hfree
  exact hregisters.verified.accepts.meets

/-! ## Ages -/

namespace DocumentType

/-- The greatest number the hub reads off two bytes. -/
def maxAge : ℕ := 2277

theorem ReadsAtLeast.le_maxAge {revealedData : Bytes} {i threshold : ℕ}
    (h : ReadsAtLeast revealedData i threshold) : threshold ≤ maxAge := by
  -- two bytes of 255 denote 207 tens and 207 units
  obtain ⟨tens, units, -, -, -, -, hle⟩ := h
  have htens := tens.toNat_lt
  have hunits := units.toNat_lt
  unfold maxAge
  omega

end DocumentType

/-- Some age is enough for the config. -/
def Attainable (c : VerificationConfigV2) : Prop :=
  c.olderThanEnabled = true → c.olderThan.toNat ≤ DocumentType.maxAge

/-- A config that is met by some document is attainable. -/
theorem DocumentType.Meets.attainable {flagOf : Fin 3 → Fin 3} {revealedData : Bytes}
    {forbiddenCountries : Fin 4 → Word}
    (h : d.Meets flagOf c revealedData forbiddenCountries) : Attainable c :=
  fun henabled => (h.olderThan henabled).le_maxAge

/-! ## Documents with given OFAC results -/

/-- Revealed data with the greatest age and the given OFAC result bytes. -/
def grantedData : DocumentType → (Fin 3 → UInt8) → Bytes
  | .passport, ofac => List.replicate 88 0 ++ [255, 255, ofac 0, ofac 1, ofac 2]
  | .idCard, ofac => List.replicate 90 0 ++ [255, 255, ofac 1, ofac 2]

theorem grantedData_length (d : DocumentType) (ofac : Fin 3 → UInt8) :
    (grantedData d ofac).length = d.revealedLength := by
  cases d <;> rfl

theorem grantedData_datesReadable (d : DocumentType) (ofac : Fin 3 → UInt8) :
    CustomVerifier.DatesReadable d (grantedData d ofac) := by
  cases d
  · exact ⟨⟨_, rfl⟩, _, rfl⟩
  · exact ⟨⟨_, rfl⟩, _, rfl⟩

/-- The result byte of a mode is the given one. -/
theorem grantedData_ofac {ofac : Fin 3 → UInt8} {mode : Fin 3} {i : ℕ}
    (h : d.ofacByte mode = some i) : (grantedData d ofac)[i]? = some (ofac mode) := by
  cases d with
  | passport =>
    match mode, h with
    | 0, rfl | 1, rfl | 2, rfl => rfl
  | idCard =>
    match mode, h with
    | 1, rfl | 2, rfl => rfl

/-- The OFAC results a document type is checked for, and no others. -/
def checkedResults (d : DocumentType) (c : VerificationConfigV2) (mode : Fin 3) : UInt8 :=
  if c.ofacEnabled (CustomVerifier.checkedFlag d mode) = true then 1 else 0

theorem checkedResults_eq_one (mode : Fin 3) (i : ℕ) (_ : d.ofacByte mode = some i)
    (h : c.ofacEnabled (CustomVerifier.checkedFlag d mode) = true) :
    checkedResults d c mode = 1 :=
  if_pos h

/-- Granted data meets an attainable config when the results it is checked for are 1. -/
theorem meets_grantedData (hc : Attainable c) {ofac : Fin 3 → UInt8} (flagOf : Fin 3 → Fin 3)
    (hofac : ∀ mode i, d.ofacByte mode = some i → c.ofacEnabled (flagOf mode) = true →
      ofac mode = 1) :
    d.Meets flagOf c (grantedData d ofac) c.forbiddenCountriesListPacked where
  ofac mode i hbyte hflag := by
    unfold DocumentType.ResultByte
    rw [grantedData_ofac hbyte, hofac mode i hbyte hflag]
  forbiddenCountries _ := rfl
  olderThan henabled := by
    -- the two bytes at the older-than position are 255
    refine ⟨255, 255, ?_, ?_, by decide, by decide, hc henabled⟩
    · cases d <;> rfl
    · cases d <;> rfl

/-- A disclosure of granted data, for scope 0 and every context. -/
def Disclosure.granted (d : DocumentType) (ofac : Fin 3 → UInt8) (c : VerificationConfigV2) :
    Disclosure where
  revealedData := grantedData d ofac
  forbiddenCountries := c.forbiddenCountriesListPacked
  nullifier := 9
  scope := 0
  userIdentifier := 0
  passportNoSmtRoot := 0
  namedobSmtRoot := 0
  nameyobSmtRoot := 0

theorem revealedData_granted (d : DocumentType) (ofac : Fin 3 → UInt8)
    (c : VerificationConfigV2) :
    d.revealedData ((Disclosure.granted d ofac c).proof d).pubSignals = grantedData d ofac := by
  have hlen : (Disclosure.granted d ofac c).revealedData.length = d.revealedLength :=
    grantedData_length d ofac
  exact Disclosure.revealedData_signals hlen

/-- The transaction that registers identifier 5 from granted data. -/
def grantedRegistration (d : DocumentType) (ofac : Fin 3 → UInt8) (c : VerificationConfigV2) :
    Transaction :=
  ⟨newYear, 4, .verifySelfProof (payloadOf d ((Disclosure.granted d ofac c).proof d))
    (contextOf newYear.chainid 5)⟩

/-- Granted data is registered under an attainable config, when the results it is checked
for are 1. -/
theorem commitsUnder_granted {o : Oracles} (hc : Attainable c) {ofac : Fin 3 → UInt8}
    (hofac : ∀ mode i, d.ofacByte mode = some i →
      c.ofacEnabled (CustomVerifier.checkedFlag d mode) = true → ofac mode = 1)
    (hhash : ∀ context, hashUserContext o context = 0)
    (hverifier : o.verifyProof (verifierOf d.attestationId)
      ((Disclosure.granted d ofac c).proof d) = true)
    (registries : Registries) (hregistries : ∃ a b e, registries = openRegistries a b e) :
    CommitsUnder (standing o c 0) (opened o c 0 registries) (grantedRegistration d ofac c)
      ((opened o c 0 registries).register 5 9) d c ((Disclosure.granted d ofac c).proof d) := by
  obtain ⟨a, b, e, rfl⟩ := hregistries
  have hready : Ready (standing o c 0) c (opened o c 0 (openRegistries a b e)) := ready_opened
  -- the nullifier 9 is fresh and the identifier 5 is not 0, so the granted disclosure registers
  exact {
    call := ⟨_, _, rfl, payloadOf_header _ _, payloadOf_proof _ _⟩
    config := hready.config
    commits := exec_verifySelfProof hready (Disclosure.granted d ofac c) 4
      (grantedData_length d ofac) (meets_grantedData hc _ hofac)
      (grantedData_datesReadable d ofac) rfl (hhash _).symm hverifier
      (canRegister_opened (by decide)) }

/-! ## Laws of registrations -/

/-- In every run of every deployment, every registration under config `c` from a proof over a
document of type `d` satisfies `Q`, given that the verifiers accept only proofs that
satisfy `R`. -/
def EveryRegistration (R : DocumentType → VcAndDiscloseProof → Prop) (d : DocumentType)
    (c : VerificationConfigV2)
    (Q : IdentityVerificationHub.Storage → Registries → VcAndDiscloseProof → Prop) : Prop :=
  ∀ (Roles : Type) (dep : Deployment Roles) (hub : IdentityVerificationHub.Storage)
    (registries : Registries) (txs : List Transaction) (tx : Transaction) (w' : World Roles)
    (proof : VcAndDiscloseProof), CollisionFree dep.oracles c →
    (∀ (d' : DocumentType) proof', dep.oracles.verifyProof
      (((World.deploy dep hub registries).run dep txs).hub.discloseVerifiers d'.attestationId)
        proof' = true → R d' proof') →
    CommitsUnder dep ((World.deploy dep hub registries).run dep txs) tx w' d c proof →
    Q ((World.deploy dep hub registries).run dep txs).hub
      ((World.deploy dep hub registries).run dep txs).registries proof

/-- The verifiers are arbitrary predicates. -/
def AnyProof : DocumentType → VcAndDiscloseProof → Prop := fun _ _ => True

/-- A granted disclosure is registered in the run that opens registration next to a ready hub and
registries with OFAC roots `a`, `b` and `e`, and does not satisfy `Q`. -/
structure GrantedViolates (o : Oracles) (d : DocumentType) (ofac : Fin 3 → UInt8)
    (c : VerificationConfigV2) (a b e : Word)
    (Q : IdentityVerificationHub.Storage → Registries → VcAndDiscloseProof → Prop) : Prop where
  commits : CommitsUnder (standing o c 0) (opened o c 0 (openRegistries a b e))
    (grantedRegistration d ofac c) ((opened o c 0 (openRegistries a b e)).register 5 9) d c
    ((Disclosure.granted d ofac c).proof d)
  violates : ¬ Q (readyHub o c) (openRegistries a b e) ((Disclosure.granted d ofac c).proof d)

section Violations

variable {Q : IdentityVerificationHub.Storage → Registries → VcAndDiscloseProof → Prop}
  {ofac : Fin 3 → UInt8} {a b e : Word}

/-- Verifiers that accept every proof let a granted disclosure through. -/
theorem grantedViolates_plainOracles (hc : Attainable c)
    (hofac : ∀ mode i, d.ofacByte mode = some i →
      c.ofacEnabled (CustomVerifier.checkedFlag d mode) = true → ofac mode = 1)
    (hQ : ¬ Q (readyHub (plainOracles c) c) (openRegistries a b e)
      ((Disclosure.granted d ofac c).proof d)) :
    GrantedViolates (plainOracles c) d ofac c a b e Q :=
  ⟨commitsUnder_granted hc hofac (hashUserContext_gatedOracles c _) rfl _ ⟨a, b, e, rfl⟩, hQ⟩

/-- A law that a granted registration violates does not hold. -/
theorem GrantedViolates.not_everyRegistration {R : DocumentType → VcAndDiscloseProof → Prop}
    {o : Oracles} (h : GrantedViolates o d ofac c a b e Q) (hfree : CollisionFree o c)
    (hR : ∀ (d' : DocumentType) proof',
      o.verifyProof (verifierOf d'.attestationId) proof' = true → R d' proof') :
    ¬ EveryRegistration R d c Q :=
  fun hlaw => h.violates (hlaw _ (standing o c 0) (readyHub o c) (openRegistries a b e) [opening]
    _ _ _ hfree hR h.commits)

/-- No law holds of arbitrary verifiers that a granted registration violates. -/
theorem GrantedViolates.not_everyRegistration_anyProof
    (h : GrantedViolates (plainOracles c) d ofac c a b e Q) : ¬ EveryRegistration AnyProof d c Q :=
  h.not_everyRegistration (collisionFree_gatedOracles c _) fun _ _ _ => trivial

end Violations

end RuleSelf
