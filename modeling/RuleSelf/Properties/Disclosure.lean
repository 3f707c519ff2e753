import RuleSelf.Properties.Freshness
import RuleSelf.Properties.Nationality
import RuleSelf.Self.Disclosed

/-!
# Registered Holders

What holders can prove with the disclose circuits, and what is true of everybody who is
registered, as long as the verifiers accept only proofs of those circuits: each was
registered from one document, which had not expired on the day of the block, and whose holder
had passed the age that was required. Forbidden countries keep nobody out who chooses the
signals of the list himself; who gives the circuit letters was not issued his document by one.
-/

namespace RuleSelf

open Evm SelfStructs IdentityVerificationHub DiscloseCircuit CountryCircuit DateCircuits Calendar

variable {T : Templates} {d : DocumentType} {inp : Inputs d} {doc : DataGroup1 d}

/-! ## What a proof shows -/

theorem olderThanStart_eq (d : DocumentType) : d.positions.olderThanStart = mrzLength d := by
  cases d <;> rfl

/-- An age that is read off the revealed data is one the holder has passed. -/
theorem DiscloseCircuit.Shows.readsAtLeast {today : DateNumbers} {revealed : Bytes} {threshold : ℕ}
    (h : Shows doc today revealed)
    (hage : DocumentType.ReadsAtLeast revealed d.positions.olderThanStart threshold) :
    threshold ≤ 99 ∧ (birth doc).Older threshold today := by
  obtain ⟨tens, units, htens, hunits, h48, -, hle⟩ := hage
  rw [olderThanStart_eq] at htens hunits
  rcases h.olderThan with ⟨hhidden, -⟩ | ⟨age, hage, htens', hunits', hold⟩
  · -- a hidden character is no digit
    obtain rfl : tens = 0 := Option.some.inj (htens.symm.trans hhidden)
    exact absurd h48 (by decide)
  · -- the two characters are the decimal digits of an age that has been reached
    obtain rfl : tens = _ := Option.some.inj (htens.symm.trans htens')
    obtain rfl : units = _ := Option.some.inj (hunits.symm.trans hunits')
    rw [UInt8.toNat_ofNat', UInt8.toNat_ofNat', Nat.mod_eq_of_lt (by omega),
      Nat.mod_eq_of_lt (by omega)] at hle
    exact ⟨by omega, hold.mono (by omega)⟩

/-- The circuits pack a list of letters as the hub's configs do. -/
theorem packCountrySignals_eq (hpacks : T.Packs) (list : CountriesList) :
    packCountrySignals T (listSignals list) = packCountries list := by
  have hletters : List.ofFn (listSignals list) = (List.ofFn list).map ofByte := by
    rw [List.map_ofFn]
    rfl
  funext k
  rw [packCountrySignals, hletters]
  exact toWord_packBytes hpacks (List.ofFn list) k

section PublicSignals

variable {revealedDataPacked : ℕ → Signal} {countries : Fin 4 → Word}

theorem scope_publicSignals :
    DocumentType.scope (publicSignals T d inp revealedDataPacked countries) = toWord inp.scope := by
  cases d <;> rfl

theorem userIdentifier_publicSignals :
    DocumentType.userIdentifier (publicSignals T d inp revealedDataPacked countries) =
      toWord inp.userIdentifier := by
  cases d <;> rfl

theorem nullifier_publicSignals :
    d.nullifier (publicSignals T d inp revealedDataPacked countries) =
      toWord (T.poseidon [inp.secret, inp.scope]) := by
  cases d <;> rfl

theorem forbiddenCountries_publicSignals :
    d.forbiddenCountries (publicSignals T d inp revealedDataPacked countries) = countries := by
  funext i
  cases d <;> match i with
    | 0 | 1 | 2 | 3 => rfl

theorem currentDate_publicSignals (i : Fin 6) :
    d.currentDate (publicSignals T d inp revealedDataPacked countries) i =
      toWord (inp.currentDate i) := by
  cases d <;> match i with
    | 0 | 1 | 2 | 3 | 4 | 5 => rfl

theorem revealedInField_publicSignals :
    d.RevealedInField (publicSignals T d inp revealedDataPacked countries) := by
  -- what the verifier is given are field elements
  have hfield (x : Signal) : (toWord x).toNat < Formatter.snarkScalarField := by
    rw [toWord_toNat]
    exact x.val_lt
  cases d with
  | passport =>
    intro i
    match i with
    | 0 | 1 | 2 => exact hfield _
  | idCard =>
    intro i
    match i with
    | 0 | 1 | 2 | 3 => exact hfield _

end PublicSignals

/-- The date of a proof that was made for a day, as numbers. -/
theorem DiscloseCircuit.VcAndDisclose.currentDate {pubSignals : Fin 21 → Word}
    (h : VcAndDisclose T inp pubSignals) {n : ℕ} (hday : WritesDay (d.currentDate pubSignals) n) :
    (∀ i, |((d.currentDate pubSignals i).toNat : ℤ)| ≤ 255) ∧
      inp.currentDate = fun i => (((d.currentDate pubSignals i).toNat : ℤ) : Signal) := by
  constructor
  · intro i
    have := hday.1 i
    rw [abs_le]
    omega
  · obtain ⟨_, _, -, rfl⟩ := h.disclose
    funext i
    rw [currentDate_publicSignals, Int.cast_natCast, ← eq_toWord_toNat]

/-- A proof packs its list, which does not name the state that issued the document. -/
theorem DiscloseCircuit.VcAndDisclose.countries {pubSignals : Fin 21 → Word}
    (h : VcAndDisclose T inp pubSignals) :
    (∀ i, countryAt inp.forbiddenCountriesList i ≠ issuer inp.dg1) ∧
      d.forbiddenCountries pubSignals = packCountrySignals T inp.forbiddenCountriesList := by
  obtain ⟨_, _, hdisclose, rfl⟩ := h.disclose
  rw [forbiddenCountries_publicSignals]
  exact proveCountry_iff.mp hdisclose.countries

/-- A list of letters does not name it either. -/
theorem DiscloseCircuit.VcAndDisclose.issuingState {pubSignals : Fin 21 → Word}
    (h : VcAndDisclose T inp pubSignals) (hdoc : inp.dg1 = fun i => ofByte (doc i))
    {list : CountriesList} (hlist : inp.forbiddenCountriesList = listSignals list) (i : Fin 40) :
    codeAt list i ≠ issuingState doc := by
  have hcode := h.countries.1 i
  rwa [hdoc, hlist, Ne, countryAt_listSignals_iff] at hcode

/-! ## What can be proved with a document -/

/-- Inputs of the holder of a document, and signals, that satisfy the circuit on a day, reveal
exactly the characters `shown` and show an age of at least `threshold`. -/
structure Proves (T : Templates) (doc : DataGroup1 d) (today : Fin 6 → ℕ)
    (shown : Fin (mrzLength d) → Bool) (threshold : ℕ) (inp : Inputs d)
    (pubSignals : Fin 21 → Word) : Prop where
  satisfied : VcAndDisclose T inp pubSignals
  dg1 : inp.dg1 = fun i => ofByte (doc i)
  currentDate : inp.currentDate = fun i => ((today i : ℕ) : Signal)
  revealed : ∀ i : Fin (mrzLength d),
    (d.revealedData pubSignals)[(i : ℕ)]? = some (if shown i then mrz doc i else 0)
  olderThan :
    DocumentType.ReadsAtLeast (d.revealedData pubSignals) d.positions.olderThanStart threshold

/-- The document is not expired on a day, and its holder has passed an age of two digits. -/
def Passed (doc : DataGroup1 d) (today : Fin 6 → ℕ) (age : ℕ) : Prop :=
  (DateNumbers.ofNumbers fun i => (today i : ℤ)).Before (expiry doc) ∧ age ≤ 99 ∧
    (birth doc).Older age (.ofNumbers fun i => (today i : ℤ))

section Provable

variable {today : Fin 6 → ℕ} {shown : Fin (mrzLength d) → Bool} {threshold : ℕ}

/-- What is proved is so. -/
theorem Proves.passed (hpacks : T.Packs) (htoday : ∀ i, today i ≤ 9) {pubSignals : Fin 21 → Word}
    (h : Proves T doc today shown threshold inp pubSignals) : Passed doc today threshold := by
  -- the digits of the date are far too small to wrap around
  have hsmall (i : Fin 6) : |(today i : ℤ)| ≤ 255 := by
    have := htoday i
    rw [abs_le]
    omega
  have hdate : inp.currentDate = fun i => ((today i : ℤ) : Signal) := by
    rw [h.currentDate]
    funext i
    exact (Int.cast_natCast _).symm
  obtain ⟨doc', hdoc', hshows, hvalid⟩ := h.satisfied.shows hpacks hsmall hdate
  -- the data group is that of one document only
  obtain rfl : doc = doc' := by
    funext i
    exact ofByte_injective (congrFun (h.dg1.symm.trans hdoc') i)
  exact ⟨hvalid, hshows.readsAtLeast h.olderThan⟩

/-- What is so can be proved, against every list that does not name the issuing state. -/
theorem Passed.exists_proves (hpacks : T.Packs) (hbirth : Digits (birthDate doc))
    (hexpiry : Digits (validityDate doc)) (htoday : ∀ i, today i ≤ 9)
    (h : Passed doc today threshold) (shown : Fin (mrzLength d) → Bool)
    {list : Fin (40 * 3) → Signal}
    (hlist : ∀ i, countryAt list i ≠ issuer fun i => ofByte (doc i)) :
    ∃ (inp : Inputs d) (pubSignals : Fin 21 → Word),
      Proves T doc today shown threshold inp pubSignals ∧ inp.forbiddenCountriesList = list := by
  obtain ⟨hvalid, hthreshold, hold⟩ := h
  have hlen := honestBytes_length doc shown threshold
  refine ⟨honest T doc shown today threshold list 0 0 0 0, _,
    ⟨honest_satisfies hbirth hexpiry htoday hthreshold hvalid hold hlist 0 0 0 0, rfl, rfl, ?_, ?_⟩,
    rfl⟩
  · rw [revealedData_publicSignals hpacks hlen]
    exact honestBytes_mrz doc shown threshold
  · -- the honest prover shows the threshold itself as the age, which is reached
    rw [revealedData_publicSignals hpacks hlen, olderThanStart_eq]
    obtain ⟨htens, hunits⟩ := honestBytes_age doc shown threshold
    refine ⟨_, _, htens, hunits, ?_⟩
    rw [UInt8.toNat_ofNat', UInt8.toNat_ofNat', Nat.mod_eq_of_lt (by omega),
      Nat.mod_eq_of_lt (by omega)]
    omega

end Provable

/-- **What can be proved with a document**: there is a proof that reveals exactly the characters
`shown` and an age of at least `threshold`, against given elements of a packed list, if and only
if the document is not expired, its holder has passed the age, and the elements are of the field.
From the letters of a list there is one if and only if, besides, none of its codes is the
issuing state. -/
theorem provable_iff (hpacks : T.PacksSignals) (doc : DataGroup1 d)
    (hbirth : Digits (birthDate doc)) (hexpiry : Digits (validityDate doc)) {today : Fin 6 → ℕ}
    (htoday : ∀ i, today i ≤ 9) (shown : Fin (mrzLength d) → Bool) (threshold : ℕ) :
    (∀ countries : Fin 4 → Word,
      (∃ inp pubSignals, Proves T doc today shown threshold inp pubSignals ∧
        d.forbiddenCountries pubSignals = countries) ↔
      Passed doc today threshold ∧ ∀ k, (countries k).toNat < Formatter.snarkScalarField) ∧
    ∀ list : CountriesList,
      (∃ inp pubSignals, Proves T doc today shown threshold inp pubSignals ∧
        inp.forbiddenCountriesList = listSignals list) ↔
      Passed doc today threshold ∧ ∀ i, codeAt list i ≠ issuingState doc := by
  constructor
  · intro countries
    constructor
    · rintro ⟨inp, pubSignals, hproves, rfl⟩
      refine ⟨hproves.passed hpacks.packs htoday, fun k => ?_⟩
      rw [hproves.satisfied.countries.2]
      exact packCountrySignals_lt _ k
    · rintro ⟨hpassed, hfield⟩
      -- the list that names no country packs to the elements
      obtain ⟨inp, pubSignals, hproves, hlist⟩ := hpassed.exists_proves hpacks.packs hbirth hexpiry
        htoday shown (countryAt_evasiveList (fun k => (((countries k).toNat : ℕ) : Signal)) doc)
      refine ⟨inp, pubSignals, hproves, ?_⟩
      rw [hproves.satisfied.countries.2, hlist, packCountrySignals_evasiveList hpacks hfield]
  · intro list
    constructor
    · rintro ⟨inp, pubSignals, hproves, hlist⟩
      exact ⟨hproves.passed hpacks.packs htoday, hproves.satisfied.issuingState hproves.dg1 hlist⟩
    · -- a list of letters is compared letter by letter
      rintro ⟨hpassed, hnot⟩
      exact hpassed.exists_proves hpacks.packs hbirth hexpiry htoday shown fun i hi =>
        hnot i (countryAt_listSignals_iff.mp hi)

/-! ## A holder -/

/-- The loop of `BinaryMerkleRoot` from a level on: the node at the depth. -/
def merkleRootFrom (hash : List Signal → Signal) (depth : Signal) :
    ℕ → Signal → List Signal → List Signal → Signal
  | i, node, index :: path, sibling :: siblings =>
    -- a path of ones and zeros swaps the children or not
    let left := (sibling - node) * index + node
    let right := (node - sibling) * index + sibling
    (if depth = i then node else 0) +
      merkleRootFrom hash depth (i + 1) (hash [left, right]) path siblings
  | i, node, _, _ => if depth = i then node else 0

/-- The loop of `VarShiftLeft`: for every bit of the shift, a rotation by its value. -/
def rotateBits (xs : List Signal) (shift : ℕ) : List Signal :=
  (List.range (Nat.clog 2 xs.length)).foldl
    (fun xs j => if shift.testBit j then xs.rotate (2 ^ j) else xs) xs

/-- The templates as the packages have them, with a sum for the hash. -/
def plainTemplates : Templates where
  poseidon := List.sum
  packBytes xs k := packSignals ((xs.drop (31 * k)).take 31)
  binaryMerkleRoot leaf depth path siblings := merkleRootFrom List.sum depth 0 leaf path siblings
  varShiftLeft xs shift := rotateBits xs shift.val

theorem plainTemplates_packsSignals : plainTemplates.PacksSignals := fun _ _ => rfl

theorem plainTemplates_packs : plainTemplates.Packs := plainTemplates_packsSignals.packs

/-- The passport of a holder born on 1 January 1980, which expires on 1 January 2005. -/
def adultPassport : DataGroup1 .passport := fun i =>
  match i.val with
  | 62 => 56
  | 63 | 64 | 66 | 70 | 72 | 74 => 48
  | 65 | 67 | 73 | 75 => 49
  | 71 => 53
  | _ => 60

/-- The digits of 1 January 2000. -/
def newYearDigits : Fin 6 → ℕ := ![0, 0, 0, 1, 0, 1]

/-- On 1 January 2000 the holder can prove to be 18 and reveal nothing else, against a packed list
that names the issuing state only, and from the letters of a list that does not. -/
theorem provable_iff_adult :
    (∃ inp pubSignals,
      Proves plainTemplates adultPassport newYearDigits (fun _ => false) 18 inp pubSignals ∧
      DocumentType.passport.forbiddenCountries pubSignals = packCountries fun _ => 60) ∧
    ∃ inp pubSignals,
      Proves plainTemplates adultPassport newYearDigits (fun _ => false) 18 inp pubSignals ∧
      inp.forbiddenCountriesList = listSignals fun _ => 0 := by
  have hpassed : Passed adultPassport newYearDigits 18 := ⟨by decide, by decide, by decide⟩
  obtain ⟨hpacked, hletters⟩ := provable_iff plainTemplates_packsSignals adultPassport (by decide)
    (by decide) (by decide : ∀ i, newYearDigits i ≤ 9) (fun _ => false) 18
  exact ⟨(hpacked _).mpr ⟨hpassed, fun k => (packCountries_toNat _ k).2⟩,
    (hletters fun _ => 0).mpr ⟨hpassed, by decide⟩⟩

/-! ## Dates in full -/

/-- The verifiers the hub has in a state accept only proofs of the disclose circuits. -/
def SoundVerifiers {Roles : Type} (T : Templates) (dep : Deployment Roles) (w : World Roles) :
    Prop :=
  ∀ (d : DocumentType) (proof : VcAndDiscloseProof),
    dep.oracles.verifyProof (w.hub.discloseVerifiers d.attestationId) proof = true →
      ∃ inp : Inputs d, VcAndDisclose T inp proof.pubSignals

variable {Roles : Type} {dep : Deployment Roles} {t t' : World Roles} {tx : Transaction}
  {c : VerificationConfigV2} {proof : VcAndDiscloseProof} {P C : Bytes}

/-- A config that requires an age of 18 and nothing else. -/
def adultsOnly : VerificationConfigV2 := ⟨true, 18, false, fun _ => 0, fun _ => false⟩

/-- The holder's inputs for scope 0, which reveal the age of 18. -/
def adultInputs : Inputs .passport :=
  honest plainTemplates adultPassport (fun _ => false) newYearDigits 18
    (listSignals fun _ => 0) 9 0 0 0

/-- The bytes they reveal. -/
def adultData : Bytes := honestBytes adultPassport (fun _ => false) 18

/-- The public signals of a proof made from them. -/
def adultSignals : Fin 21 → Word :=
  publicSignals plainTemplates .passport adultInputs
    (plainTemplates.packBytes (adultData.map ofByte))
    (packCountrySignals plainTemplates (listSignals fun _ => 0))

/-- The proof. -/
def adultProof : VcAndDiscloseProof := ⟨![0, 0], fun _ => ![0, 0], ![0, 0], adultSignals⟩

/-- The signals of a proof of the same holder against some countries. -/
def signalsAgainst (list : CountriesList) : Fin 21 → Word :=
  publicSignals plainTemplates .passport
    (honest plainTemplates adultPassport (fun _ => false) newYearDigits 18 (listSignals list)
      9 0 0 0)
    (plainTemplates.packBytes (adultData.map ofByte))
    (packCountrySignals plainTemplates (listSignals list))

theorem vcAndDisclose_against {list : CountriesList}
    (hlist : ∀ i, codeAt list i ≠ issuingState adultPassport) :
    VcAndDisclose plainTemplates
      (honest plainTemplates adultPassport (fun _ => false) newYearDigits 18 (listSignals list)
        9 0 0 0) (signalsAgainst list) :=
  honest_satisfies (by decide) (by decide) (by decide) (by decide) (by decide) (by decide)
    (fun i hi => hlist i (countryAt_listSignals_iff.mp hi)) 9 0 0 0

theorem vcAndDisclose_adult : VcAndDisclose plainTemplates adultInputs adultSignals :=
  vcAndDisclose_against (by decide)

theorem revealedData_against (list : CountriesList) :
    DocumentType.passport.revealedData (signalsAgainst list) = adultData :=
  revealedData_publicSignals plainTemplates_packs (honestBytes_length ..) _

theorem currentDate_against (list : CountriesList) :
    DocumentType.passport.currentDate (signalsAgainst list) = ![0, 0, 0, 1, 0, 1] := by
  have hdigits : ∀ i, newYearDigits i ≤ 9 ∧
      BitVec.ofNat 256 (newYearDigits i) = ![0, 0, 0, 1, 0, 1] i := by decide
  funext i
  obtain ⟨hle, heq⟩ := hdigits i
  rw [signalsAgainst, currentDate_publicSignals]
  exact (toWord_natCast (lt_of_le_of_lt hle (by decide))).trans heq

/-- Such a proof is accepted where its config and a verifier that accepts it are set, and every
context hashes to 0. -/
theorem accepts_against {o : Oracles} {s : IdentityVerificationHub.Storage} {a b e : Word}
    {context : Bytes} {c : VerificationConfigV2} {list : CountriesList}
    {proof : VcAndDiscloseProof} (hproof : proof.pubSignals = signalsAgainst list)
    (hhash : hashUserContext o context = 0)
    (hconfigured : s.v2VerificationConfigs (generateConfigId o c) = c)
    (hregistry : s.registries AttestationId.ePassport ≠ 0)
    (hverifier : o.verifyProof (s.discloseVerifiers AttestationId.ePassport) proof = true)
    (hmeets : DocumentType.passport.Meets (CustomVerifier.checkedFlag .passport) c adultData
      (packCountries list)) :
    Accepts o (openRegistries a b e) newYear s .passport 0 c proof context := by
  have hzero : toWord 0 = 0 := by simp [toWord]
  have hscope : DocumentType.scope (signalsAgainst list) = 0 := scope_publicSignals.trans hzero
  have huser : DocumentType.userIdentifier (signalsAgainst list) = 0 :=
    userIdentifier_publicSignals.trans hzero
  -- the public signals are those of the circuit, which the hub reads field by field
  exact {
    configured := hconfigured
    scope_eq := hproof ▸ hscope
    userIdentifier_eq := by rw [hproof, huser, hhash]
    registry_set := hregistry
    root_known := (rfl : decide ((1 : Word) ≠ 0) = true)
    date_in_range := by
      rw [hproof, currentDate_against]
      exact newYear_dateInRange
    groth16 := hverifier
    in_field := hproof ▸ revealedInField_publicSignals
    meets := by
      rw [hproof, revealedData_against, signalsAgainst, forbiddenCountries_publicSignals,
        packCountrySignals_eq plainTemplates_packs]
      exact hmeets
    dates_readable := by
      rw [hproof, revealedData_against]
      exact ⟨⟨_, rfl⟩, _, rfl⟩ }

/-- The revealed age is 18. -/
theorem readsAtLeast_adultData :
    DocumentType.ReadsAtLeast adultData DocumentType.passport.positions.olderThanStart 18 :=
  ⟨49, 56, by decide, by decide, by decide, by decide, by decide⟩

theorem accepts_adult {o : Oracles} {s : IdentityVerificationHub.Storage} {a b e : Word}
    {context : Bytes} (hhash : hashUserContext o context = 0)
    (hconfigured : s.v2VerificationConfigs (generateConfigId o adultsOnly) = adultsOnly)
    (hregistry : s.registries AttestationId.ePassport ≠ 0)
    (hverifier : o.verifyProof (s.discloseVerifiers AttestationId.ePassport) adultProof = true) :
    Accepts o (openRegistries a b e) newYear s .passport 0 adultsOnly adultProof context := by
  have hproof : adultProof.pubSignals = signalsAgainst fun _ => 0 := rfl
  refine accepts_against hproof hhash hconfigured hregistry hverifier ⟨?_, ?_, ?_⟩
  · exact fun _ _ _ h => absurd h Bool.false_ne_true
  · exact fun h => absurd h Bool.false_ne_true
  · exact fun _ => readsAtLeast_adultData

end RuleSelf
