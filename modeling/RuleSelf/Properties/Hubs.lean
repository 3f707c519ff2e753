import RuleSelf.Properties.Compliance
import RuleSelf.Self.HubV1

/-!
# The Two Hubs

What the hub of version 1 accepts, beside what the hub of version 2 accepts. Version 2 binds a
proof to a scope, a user and a stored config, which version 1 leaves to its caller, and it no
longer compares the OFAC roots of the proof with those of the registry. In everything else
the two agree on passports.
-/

namespace RuleSelf

open Evm Revert SelfStructs IdentityVerificationHub IdentityVerificationHubV1 CircuitConstants

namespace IdentityVerificationHubV1

variable {o : Oracles} {registries : Address → IdentityRegistryImplV1.Storage} {block : Block}
  {s : IdentityVerificationHubV1.Storage} {proof : VcAndDiscloseHubProof}

/-- The hub accepts a proof for what is required of it. -/
structure Passes (o : Oracles) (registries : Address → IdentityRegistryImplV1.Storage)
    (block : Block) (s : IdentityVerificationHubV1.Storage) (proof : VcAndDiscloseHubProof) :
    Prop where
  root_known : IdentityRegistryImplV1.checkIdentityCommitmentRoot (registries s.registry)
    (DocumentType.passport.merkleRoot proof.vcAndDiscloseProof.pubSignals) = true
  date_in_range :
    DateInRange block (DocumentType.passport.currentDate proof.vcAndDiscloseProof.pubSignals)
  olderThan : proof.olderThanEnabled = true →
    DocumentType.passport.RevealedInField proof.vcAndDiscloseProof.pubSignals ∧
      DocumentType.ReadsAtLeast
        (DocumentType.passport.revealedData proof.vcAndDiscloseProof.pubSignals)
        DocumentType.passport.positions.olderThanStart proof.olderThan.toNat
  ofac : (∃ mode, proof.ofacEnabled mode = true) →
    DocumentType.passport.RevealedInField proof.vcAndDiscloseProof.pubSignals ∧
      (∀ mode i, DocumentType.passport.ofacByte mode = some i → proof.ofacEnabled mode = true →
        DocumentType.ResultByte
          (DocumentType.passport.revealedData proof.vcAndDiscloseProof.pubSignals) i) ∧
      IdentityRegistryImplV1.checkOfacRoots (registries s.registry)
        (proof.vcAndDiscloseProof.pubSignals 16) (proof.vcAndDiscloseProof.pubSignals 17)
        (proof.vcAndDiscloseProof.pubSignals 18) = true
  forbiddenCountries : proof.forbiddenCountriesEnabled = true →
    proof.forbiddenCountriesListPacked =
      DocumentType.passport.forbiddenCountries proof.vcAndDiscloseProof.pubSignals
  groth16 : o.verifyProof s.vcAndDiscloseCircuitVerifier proof.vcAndDiscloseProof = true

/-- Some OFAC result is asked for. -/
private theorem anyOfac {flags : Fin 3 → Bool} :
    (flags passportNoOfac || flags nameAndDobOfac || flags nameAndYobOfac) = true ↔
      ∃ mode, flags mode = true := by
  rw [Bool.or_eq_true, Bool.or_eq_true]
  constructor
  · rintro ((h | h) | h)
    · exact ⟨_, h⟩
    · exact ⟨_, h⟩
    · exact ⟨_, h⟩
  · rintro ⟨mode, h⟩
    match mode, h with
    | 0, h => exact .inl (.inl h)
    | 1, h => exact .inl (.inr h)
    | 2, h => exact .inr h

theorem verifyVcAndDiscloseProof_eq_ok {root : Word} :
    verifyVcAndDiscloseProof o registries block s proof = .ok root ↔
      Passes o registries block s proof ∧
        DocumentType.passport.merkleRoot proof.vcAndDiscloseProof.pubSignals = root := by
  -- the signals are at constant indices, so that no read fails
  have hroot : proof.vcAndDiscloseProof.signal vcAndDiscloseMerkleRootIndex =
      .ok (DocumentType.passport.merkleRoot proof.vcAndDiscloseProof.pubSignals) := rfl
  have hdate : proof.vcAndDiscloseProof.signals vcAndDiscloseCurrentDateIndex 6 =
      .ok (DocumentType.passport.currentDate proof.vcAndDiscloseProof.pubSignals) := rfl
  have hrevealed : proof.vcAndDiscloseProof.signals vcAndDiscloseRevealedDataPackedIndex 3 =
      .ok fun i : Fin 3 => proof.vcAndDiscloseProof.pubSignals ⟨0 + i, by omega⟩ := rfl
  have hcountries :
      proof.vcAndDiscloseProof.signals vcAndDiscloseForbiddenCountriesListPackedIndex 4 =
      .ok (DocumentType.passport.forbiddenCountries proof.vcAndDiscloseProof.pubSignals) := rfl
  have hno : proof.vcAndDiscloseProof.signal vcAndDisclosePassportNoSmtRootIndex =
      .ok (proof.vcAndDiscloseProof.pubSignals 16) := rfl
  have hdob : proof.vcAndDiscloseProof.signal vcAndDiscloseNameDobSmtRootIndex =
      .ok (proof.vcAndDiscloseProof.pubSignals 17) := rfl
  have hyob : proof.vcAndDiscloseProof.signal vcAndDiscloseNameYobSmtRootIndex =
      .ok (proof.vcAndDiscloseProof.pubSignals 18) := rfl
  have hbytes {bs : Bytes} : Formatter.fieldElementsToBytes
      (fun i : Fin 3 => proof.vcAndDiscloseProof.pubSignals ⟨0 + i, by omega⟩) = .ok bs ↔
      DocumentType.passport.RevealedInField proof.vcAndDiscloseProof.pubSignals ∧
        DocumentType.passport.revealedData proof.vcAndDiscloseProof.pubSignals = bs :=
    Formatter.fieldElementsToBytes_eq_ok
  unfold verifyVcAndDiscloseProof
  simp only [↓check_bind_eq_ok, bind_eq_ok, library_eq_ok, revertIf_eq_ok, onlyIf_eq_ok,
    require_eq_ok, pure_eq_ok, hroot, hdate, hrevealed, hcountries, hno, hdob, hyob,
    Except.ok.injEq, exists_eq_left', hbytes, anyOfac, Bool.not_eq_false, not_exists, not_not]
  -- what is left on both sides are the same checks, in the source's order and in the structure's
  constructor
  · rintro ⟨hknown, timestamp, htimestamp, hday, hrange, holder, hofac, hforbidden, hgroth16, rfl⟩
    refine ⟨⟨hknown, ⟨timestamp, htimestamp, not_lt.mp hday, ?_, ?_⟩, ?_, ?_, ?_, hgroth16⟩, rfl⟩
    · exact not_lt.mp fun hlt => hrange (.inl hlt)
    · exact not_lt.mp fun hlt => hrange (.inr hlt)
    · intro henabled
      obtain ⟨_, ⟨hfield, rfl⟩, _, hage, rfl⟩ := holder henabled
      exact ⟨hfield, CircuitAttributeHandler.compareOlderThan_eq_ok_true.mp hage⟩
    · intro henabled
      obtain ⟨_, ⟨hfield, rfl⟩, _, hresults, rfl, hroots⟩ := hofac henabled
      exact ⟨hfield, CircuitAttributeHandler.compareOfac_eq_ok_true.mp hresults, hroots⟩
    · exact fun henabled => funext (hforbidden henabled)
  · rintro ⟨⟨hknown, ⟨timestamp, htimestamp, hday, hlow, hhigh⟩, holder, hofac, hforbidden,
      hgroth16⟩, rfl⟩
    refine ⟨hknown, timestamp, htimestamp, not_lt.mpr hday, ?_, ?_, ?_, ?_, hgroth16, rfl⟩
    · exact fun hrange => hrange.elim (not_lt.mpr hlow) (not_lt.mpr hhigh)
    · intro henabled
      obtain ⟨hfield, hage⟩ := holder henabled
      exact ⟨_, ⟨hfield, rfl⟩, _, CircuitAttributeHandler.compareOlderThan_eq_ok_true.mpr hage,
        rfl⟩
    · intro henabled
      obtain ⟨hfield, hresults, hroots⟩ := hofac henabled
      exact ⟨_, ⟨hfield, rfl⟩, _, CircuitAttributeHandler.compareOfac_eq_ok_true.mpr hresults,
        rfl, hroots⟩
    · exact fun henabled => congrFun (hforbidden henabled)

private theorem signals_revealedDataPacked (proof : VcAndDiscloseProof) :
    proof.signals vcAndDiscloseRevealedDataPackedIndex 3 =
      .ok fun i : Fin 3 => proof.pubSignals (i.castAdd 18) :=
  congrArg Except.ok (funext fun i => congrArg proof.pubSignals (Fin.ext (Nat.zero_add i)))

/-- The data of a verified proof is its signals. -/
theorem verifyVcAndDisclose_eq_ok {r : VcAndDiscloseVerificationResult} :
    verifyVcAndDisclose o registries block s proof = .ok r ↔
      Passes o registries block s proof ∧ r = {
        attestationId := proof.vcAndDiscloseProof.pubSignals 8
        scope := DocumentType.scope proof.vcAndDiscloseProof.pubSignals
        userIdentifier := DocumentType.userIdentifier proof.vcAndDiscloseProof.pubSignals
        nullifier := DocumentType.passport.nullifier proof.vcAndDiscloseProof.pubSignals
        identityCommitmentRoot :=
          DocumentType.passport.merkleRoot proof.vcAndDiscloseProof.pubSignals
        revealedDataPacked := fun i => proof.vcAndDiscloseProof.pubSignals (i.castAdd 18)
        forbiddenCountriesListPacked :=
          DocumentType.passport.forbiddenCountries proof.vcAndDiscloseProof.pubSignals } := by
  unfold verifyVcAndDisclose
  rw [bind_eq_ok]
  simp only [signals_revealedDataPacked]
  constructor
  · rintro ⟨root, hroot, hresult⟩
    obtain ⟨hpasses, rfl⟩ := verifyVcAndDiscloseProof_eq_ok.mp hroot
    exact ⟨hpasses, (Except.ok.inj hresult).symm⟩
  · rintro ⟨hpasses, rfl⟩
    exact ⟨_, verifyVcAndDiscloseProof_eq_ok.mpr ⟨hpasses, rfl⟩, rfl⟩

end IdentityVerificationHubV1

/-! ## Agreement -/

/-- What the hub of version 2 checks of the proof of a passport, and the hub of version 1 leaves to
its caller. -/
structure BoundToCall (o : Oracles) (s : IdentityVerificationHub.Storage) (scope : Word)
    (c : VerificationConfigV2) (proof : VcAndDiscloseProof) (context : Bytes) : Prop where
  configured : s.v2VerificationConfigs (generateConfigId o c) = c
  scope_eq : DocumentType.scope proof.pubSignals = scope
  userIdentifier_eq : DocumentType.userIdentifier proof.pubSignals = hashUserContext o context
  registry_set : s.registries AttestationId.ePassport ≠ 0
  in_field : DocumentType.passport.RevealedInField proof.pubSignals
  dates_readable :
    CustomVerifier.DatesReadable .passport (DocumentType.passport.revealedData proof.pubSignals)

/-- A proof, with what a config requires. -/
def hubProofOf (c : VerificationConfigV2) (proof : VcAndDiscloseProof) :
    VcAndDiscloseHubProof where
  olderThanEnabled := c.olderThanEnabled
  olderThan := c.olderThan
  forbiddenCountriesEnabled := c.forbiddenCountriesEnabled
  forbiddenCountriesListPacked := c.forbiddenCountriesListPacked
  ofacEnabled := c.ofacEnabled
  vcAndDiscloseProof := proof

variable {o : Oracles} {regs : Registries} {block : Block}
  {s₁ : IdentityVerificationHubV1.Storage} {s₂ : IdentityVerificationHub.Storage}
  {c : VerificationConfigV2} {proof : VcAndDiscloseProof} {scope : Word} {context : Bytes}

/-- **The two hubs agree**: over one registry and one verifier, the hub of version 1 verifies the
proof of a passport for what a config requires, and the call binds the proof, if and only if
the hub of version 2 accepts it under the config and, when an OFAC result is required, its
OFAC roots are those of the registry. -/
theorem hubs_agree (hregistry : s₁.registry = s₂.registries AttestationId.ePassport)
    (hverifier : s₁.vcAndDiscloseCircuitVerifier = s₂.discloseVerifiers AttestationId.ePassport)
    (c : VerificationConfigV2) (proof : VcAndDiscloseProof) (scope : Word) (context : Bytes) :
    ((∃ r, verifyVcAndDisclose o regs.passport block s₁ (hubProofOf c proof) = .ok r) ∧
      BoundToCall o s₂ scope c proof context) ↔
    (Accepts o regs block s₂ .passport scope c proof context ∧
      ((∃ mode, c.ofacEnabled mode = true) → OfacRootsStored .passport s₂ regs proof)) := by
  simp only [verifyVcAndDisclose_eq_ok, exists_eq_right]
  constructor
  · -- version 1 has checked root, date, proof and requirements; the call binds the rest
    rintro ⟨hpasses, hbound⟩
    have hofac := hpasses.ofac
    refine ⟨?_, fun henabled => ?_⟩
    · exact {
        configured := hbound.configured
        scope_eq := hbound.scope_eq
        userIdentifier_eq := hbound.userIdentifier_eq
        registry_set := hbound.registry_set
        root_known := by
          have hknown := hpasses.root_known
          rwa [hregistry] at hknown
        date_in_range := hpasses.date_in_range
        groth16 := by
          have hgroth16 := hpasses.groth16
          rwa [hverifier] at hgroth16
        in_field := hbound.in_field
        meets := {
          ofac := fun mode i hbyte hflag => (hofac ⟨mode, hflag⟩).2.1 mode i hbyte hflag
          forbiddenCountries := fun henabled => (hpasses.forbiddenCountries henabled).symm
          olderThan := fun henabled => (hpasses.olderThan henabled).2 }
        dates_readable := hbound.dates_readable }
    · -- version 1 looks at the roots with the results, so one enabled result is enough
      have hroots := (hofac henabled).2.2
      rwa [hregistry] at hroots
  · -- version 2 has checked everything but the roots, in the same registry and verifier
    rintro ⟨haccepts, hroots⟩
    refine ⟨⟨?_, haccepts.date_in_range, fun henabled => ⟨haccepts.in_field, ?_⟩,
      fun henabled => ⟨haccepts.in_field, ?_, ?_⟩, fun henabled => ?_, ?_⟩, ?_⟩
    · rw [hregistry]
      exact haccepts.root_known
    · exact haccepts.meets.olderThan henabled
    · exact haccepts.meets.ofac
    · rw [hregistry]
      exact hroots henabled
    · exact (haccepts.meets.forbiddenCountries henabled).symm
    · rw [hverifier]
      exact haccepts.groth16
    · exact ⟨haccepts.configured, haccepts.scope_eq, haccepts.userIdentifier_eq,
        haccepts.registry_set, haccepts.in_field, haccepts.dates_readable⟩

/-- A hub of version 2 that is ready for a config with every OFAC result. -/
def ofacHub : IdentityVerificationHub.Storage := readyHub (plainOracles allOfac) allOfac

/-- A hub of version 1 for its registry and its verifier. -/
def readyHubV1 : IdentityVerificationHubV1.Storage where
  registry := 1
  vcAndDiscloseCircuitVerifier := verifierOf AttestationId.ePassport

/-- A passport whose holder is on no list. -/
def clearedProof : VcAndDiscloseProof :=
  (Disclosure.granted .passport (checkedResults .passport allOfac) allOfac).proof .passport

/-- A hub of version 2 accepts it in registries with any OFAC roots. -/
private theorem accepts_clearedProof (a b e : Word) :
    Accepts (plainOracles allOfac) (openRegistries a b e) newYear ofacHub .passport 0 allOfac
      clearedProof (contextOf newYear.chainid 5) := by
  have hcommits := commitsUnder_granted (o := plainOracles allOfac)
    (fun h => absurd h (by decide) : Attainable allOfac) (d := .passport) checkedResults_eq_one
    (hashUserContext_gatedOracles allOfac _) rfl (openRegistries a b e) ⟨a, b, e, rfl⟩
  obtain ⟨P, C, hregisters⟩ := hcommits.registers (collisionFree_gatedOracles allOfac _)
  obtain ⟨-, rfl⟩ := Call.verifySelfProof.inj hregisters.call
  exact hregisters.verified.accepts

/-- The hub of version 1 verifies the proof when its OFAC roots are those of the registry, and not
when they are others. -/
theorem hubs_agree_cleared :
    (∃ r, verifyVcAndDisclose (plainOracles allOfac) (openRegistries 0 0 0).passport newYear
      readyHubV1 (hubProofOf allOfac clearedProof) = .ok r) ∧
    ¬ ∃ r, verifyVcAndDisclose (plainOracles allOfac) (openRegistries 1 1 1).passport newYear
      readyHubV1 (hubProofOf allOfac clearedProof) = .ok r := by
  have hfirst := accepts_clearedProof 0 0 0
  have hsecond := accepts_clearedProof 1 1 1
  constructor
  · exact ((hubs_agree rfl rfl allOfac clearedProof 0 _).mpr ⟨hfirst, fun _ => rfl⟩).1
  · intro hverified
    -- the call binds the proof as before, so the roots would be those of the registry
    have hbound : BoundToCall (plainOracles allOfac) ofacHub 0 allOfac clearedProof
        (contextOf newYear.chainid 5) :=
      ⟨hsecond.configured, hsecond.scope_eq, hsecond.userIdentifier_eq, hsecond.registry_set,
        hsecond.in_field, hsecond.dates_readable⟩
    have hroots : OfacRootsStored .passport ofacHub (openRegistries 1 1 1)
        clearedProof :=
      ((hubs_agree rfl rfl allOfac clearedProof 0 _).mp ⟨hverified, hbound⟩).2 ⟨0, rfl⟩
    exact Bool.false_ne_true hroots

end RuleSelf
