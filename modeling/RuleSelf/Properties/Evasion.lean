import RuleSelf.Properties.Screening

/-!
# Lists that Name No Country

The hub compares the packed list of a proof with that of the config. The circuits pack the
list without asking that it be one of letters, so that a list that names no country packs to
the same elements. Forbidden countries keep nobody out who makes his proof from such a list.
-/

namespace RuleSelf

open Evm SelfStructs IdentityVerificationHub DiscloseCircuit

variable {T : Templates} {d : DocumentType} {inp : Inputs d}
  {pubSignals pubSignals' : Fin 21 → Word} {countries : Fin 4 → Word}

/-- Signals of one holder for one call, of which the second are made against other countries. -/
structure Evades (d : DocumentType) (countries : Fin 4 → Word)
    (pubSignals pubSignals' : Fin 21 → Word) : Prop extends
    SameHolder d pubSignals pubSignals' where
  forbiddenCountries : d.forbiddenCountries pubSignals' = countries
  revealedData : d.revealedData pubSignals' = d.revealedData pubSignals

/-- The revealed data is unpacked from the revealed signals only. -/
theorem revealedData_publicSignals_congr {inp' : Inputs d} {revealedDataPacked : ℕ → Signal}
    {countries' : Fin 4 → Word} :
    d.revealedData (publicSignals T d inp' revealedDataPacked countries') =
      d.revealedData (publicSignals T d inp revealedDataPacked countries) := by
  cases d with
  | passport =>
    -- the first three signals are the disclosed words, whatever the list
    have hsignals (inp : Inputs .passport) (countries : Fin 4 → Word) :
        (fun i : Fin 3 => publicSignals T .passport inp revealedDataPacked countries
          ⟨0 + i, by omega⟩) = fun i : Fin 3 => toWord (revealedDataPacked i) := by
      have hpositions : ∀ i : Fin 3, i = 0 ∨ i = 1 ∨ i = 2 := by decide
      funext i
      rcases hpositions i with rfl | rfl | rfl <;> rfl
    exact congrArg (Formatter.unpackElements ![31, 31, 31])
      ((hsignals inp' countries').trans (hsignals inp countries).symm)
  | idCard =>
    -- the first four signals, on an ID card
    have hsignals (inp : Inputs .idCard) (countries : Fin 4 → Word) :
        (fun i : Fin 4 => publicSignals T .idCard inp revealedDataPacked countries
          ⟨0 + i, by omega⟩) = fun i : Fin 4 => toWord (revealedDataPacked i) := by
      have hpositions : ∀ i : Fin 4, i = 0 ∨ i = 1 ∨ i = 2 ∨ i = 3 := by decide
      funext i
      rcases hpositions i with rfl | rfl | rfl | rfl <;> rfl
    exact congrArg (Formatter.unpackElements ![31, 31, 31, 1])
      ((hsignals inp' countries').trans (hsignals inp countries).symm)

/-- **Everybody is of no listed country**: from inputs that satisfy the circuit, there are inputs of
the same holder that satisfy it, reveal the same and pack to any given elements. -/
theorem DiscloseCircuit.VcAndDisclose.exists_evades (hpacks : T.PacksSignals)
    (h : VcAndDisclose T inp pubSignals)
    (hfield : ∀ k, (countries k).toNat < Formatter.snarkScalarField) :
    ∃ (inp' : Inputs d) (pubSignals' : Fin 21 → Word), VcAndDisclose T inp' pubSignals' ∧
      inp'.secret = inp.secret ∧ inp'.dg1 = inp.dg1 ∧
      Evades d countries pubSignals pubSignals' := by
  obtain ⟨doc, hdoc⟩ := h.verifyCommitment.exists_bytes
  obtain ⟨revealed, _, hdisclose, rfl⟩ := h.disclose
  -- the list that names no country, in the place of the prover's
  let list : Fin (40 * 3) → Signal := evasiveList fun k => (((countries k).toNat : ℕ) : Signal)
  let inp' : Inputs d := { inp with forbiddenCountriesList := list }
  have hcountries : ProveCountry T d inp'.dg1 list countries := by
    refine proveCountry_iff.mpr ⟨fun i => ?_, (packCountrySignals_evasiveList hpacks hfield).symm⟩
    change countryAt list i ≠ issuer inp.dg1
    rw [hdoc]
    exact countryAt_evasiveList _ doc i
  have hdisclose' : Disclose T inp' revealed countries :=
    ⟨hdisclose.selectorDg1, hdisclose.selectorOlderThan, hdisclose.selectorOfac,
      hdisclose.revealed, hcountries⟩
  refine ⟨inp', publicSignals T d inp' revealed countries,
    ⟨⟨h.verifyCommitment.assertBytes, h.verifyCommitment.merkleRoot⟩, h.isValid, _, _, hdisclose',
      rfl⟩, rfl, rfl, sameHolder_publicSignals rfl rfl rfl rfl rfl, ?_, ?_⟩
  · exact forbiddenCountries_publicSignals
  · exact revealedData_publicSignals_congr

/-! ## Forbidden countries -/

variable {o : Oracles} {regs : Registries} {block : Block} {s : IdentityVerificationHub.Storage}
  {scope : Word} {c : VerificationConfigV2} {proof proof' : VcAndDiscloseProof} {context : Bytes}

/-- The config with another list of countries, and the check of it on or off. -/
def withCountries (c : VerificationConfigV2) (enabled : Bool) (countries : Fin 4 → Word) :
    VerificationConfigV2 :=
  { c with
    forbiddenCountriesEnabled := enabled
    forbiddenCountriesListPacked := countries }

/-- Where a proof is accepted under a config, one against other countries is accepted under the
config with these. -/
theorem accepts_of_evades (h : Accepts o regs block s d scope c proof context)
    (hevades : Evades d countries proof.pubSignals proof'.pubSignals) (enabled : Bool)
    (hstored : s.v2VerificationConfigs (generateConfigId o (withCountries c enabled countries)) =
      withCountries c enabled countries)
    (hverifier : o.verifyProof (s.discloseVerifiers d.attestationId) proof' = true) :
    Accepts o regs block s d scope (withCountries c enabled countries) proof' context where
  -- of the public signals only the four of the countries have changed, as the config has
  configured := hstored
  scope_eq := hevades.scope.trans h.scope_eq
  userIdentifier_eq := hevades.userIdentifier.trans h.userIdentifier_eq
  registry_set := h.registry_set
  root_known := hevades.merkleRoot ▸ h.root_known
  date_in_range := hevades.currentDate ▸ h.date_in_range
  groth16 := hverifier
  in_field := hevades.in_field
  meets := {
    ofac := fun mode i hbyte hflag => by
      rw [hevades.revealedData]
      exact h.meets.ofac mode i hbyte hflag
    forbiddenCountries := fun _ => hevades.forbiddenCountries
    olderThan := fun henabled => by
      rw [hevades.revealedData]
      exact h.meets.olderThan henabled }
  dates_readable := by
    rw [hevades.revealedData]
    exact h.dates_readable

variable {Roles : Type} {dep : Deployment Roles} {w : World Roles} {u n : Word}

/-- Whoever can register under a config can register under it with other countries. -/
theorem CanBeRegistered.withCountries (hpacks : T.PacksSignals) (hexact : ExactVerifiers T dep w)
    (h : CanBeRegistered dep w block c d u n) (enabled : Bool)
    (hfield : ∀ k, (countries k).toNat < Formatter.snarkScalarField)
    (hstored : w.hub.v2VerificationConfigs
        (generateConfigId dep.oracles (withCountries c enabled countries)) =
      RuleSelf.withCountries c enabled countries) :
    CanBeRegistered dep w block (RuleSelf.withCountries c enabled countries) d u n := by
  obtain ⟨sender, P, C, proof, t', hregisters, rfl, rfl⟩ := h
  have haccepts := World.accepts_withConfigId.mp hregisters.verified.accepts
  -- the inputs behind the proof, and those of the same holder against the other countries
  obtain ⟨inp, hsatisfied⟩ := hexact.sound d proof haccepts.groth16
  obtain ⟨inp', pubSignals', hsatisfied', -, -, hevades⟩ :=
    hsatisfied.exists_evades hpacks hfield
  obtain ⟨proof', rfl, hverifier⟩ := hexact.complete d inp' pubSignals' hsatisfied'
  exact hregisters.canBeRegistered hevades.nullifier
    (accepts_of_evades haccepts hevades enabled hstored hverifier)

/-- **Forbidden countries exclude nobody**: where the verifiers are those of the disclose circuits,
the user identifiers and nullifiers that can be registered are the same whatever countries the
config forbids, or none, as long as its words are elements of the field. -/
theorem countries_exclude_nobody (hpacks : T.PacksSignals) (hexact : ExactVerifiers T dep w)
    (block : Block) (c : VerificationConfigV2)
    (hc : w.hub.v2VerificationConfigs (generateConfigId dep.oracles c) = c)
    (hlist : ∀ k, (c.forbiddenCountriesListPacked k).toNat < Formatter.snarkScalarField)
    (enabled : Bool) (countries : Fin 4 → Word)
    (hcountries : w.hub.v2VerificationConfigs
        (generateConfigId dep.oracles (withCountries c enabled countries)) =
      withCountries c enabled countries)
    (hfield : ∀ k, (countries k).toNat < Formatter.snarkScalarField) (d : DocumentType)
    (u n : Word) :
    CanBeRegistered dep w block c d u n ↔
      CanBeRegistered dep w block (withCountries c enabled countries) d u n := by
  constructor
  · intro h
    exact h.withCountries hpacks hexact enabled hfield hcountries
  · intro h
    -- the countries of `c` are countries like any others
    exact h.withCountries hpacks hexact c.forbiddenCountriesEnabled hlist hc

/-! ## A passport of a forbidden country -/

/-- The config for adults that forbids the country of the adult holder's passport, 40 times. -/
def forbidsIssuer : VerificationConfigV2 :=
  withCountries adultsOnly true (packCountries fun _ => 60)

/-- That is the state that has issued it. -/
theorem forbidden_adultPassport :
    Forbidden packCountries forbidsIssuer (CountryCircuit.issuingState adultPassport) :=
  ⟨fun _ => 60, rfl, 0, by decide⟩

private theorem forbidsIssuer_ne : forbidsIssuer ≠ adultsOnly := fun h =>
  Bool.noConfusion (congrArg VerificationConfigV2.forbiddenCountriesEnabled h)

/-- Its holder can be registered. -/
theorem countries_exclude_nobody_adult :
    Forbidden packCountries forbidsIssuer (CountryCircuit.issuingState adultPassport) ∧
    CanBeRegistered screeningDeployment (screeningWorld forbidsIssuer) newYear forbidsIssuer
      .passport 5 (DocumentType.passport.nullifier adultSignals) := by
  obtain ⟨hadults, hforbids⟩ := stored_screening forbidsIssuer_ne
  -- the config for adults lists no country: its four words are 0
  have hnone (k : Fin 4) : (adultsOnly.forbiddenCountriesListPacked k).toNat <
      Formatter.snarkScalarField := by
    change (0 : Word).toNat < _
    decide
  exact ⟨forbidden_adultPassport, (countries_exclude_nobody plainTemplates_packsSignals
    (exactVerifiers_screening forbidsIssuer) newYear adultsOnly hadults hnone true _ hforbids
      (fun k => (packCountries_toNat _ k).2) .passport 5 _).mp
        (canBeRegistered_screening forbidsIssuer_ne)⟩

end RuleSelf
