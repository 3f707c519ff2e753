import RuleSelf.Properties.Disclosure

/-!
# OFAC Screening

The circuits look a document up in trees whose roots the prover gives, and the hub compares
those roots with none. Everybody can make a proof that he is on no list, and a config that
requires OFAC results lets the same users register as the config that does not.
-/

namespace RuleSelf

open Evm SelfStructs IdentityVerificationHub Circuit DiscloseCircuit CircuitAttributeHandlerV2
  CustomVerifier

variable {T : Templates} {d : DocumentType} {inp : Inputs d}
  {pubSignals pubSignals' : Fin 21 → Word}

/-! ## A tree of one's own -/

/-- Not all leaves have the same hash. -/
def DiscloseCircuit.Templates.HashesApart (T : Templates) : Prop :=
  ∃ x y, T.poseidon [x, 1, 1] ≠ T.poseidon [y, 1, 1]

/-- Whatever is looked up, there is a tree that does not hold it. -/
theorem exists_smtVerify_one (hapart : T.HashesApart) (virtualKey : Signal) :
    ∃ smt, SMTVerify T virtualKey smt 0 1 := by
  obtain ⟨x, y, hxy⟩ := hapart
  -- one of the two leaves has another hash than the key
  obtain ⟨leafKey, hleaf⟩ : ∃ leafKey,
      T.poseidon [((virtualKey.val % 2 ^ 64 : ℕ) : Signal), 1, 1] ≠
        T.poseidon [leafKey, 1, 1] := by
    by_cases hx : T.poseidon [((virtualKey.val % 2 ^ 64 : ℕ) : Signal), 1, 1] =
        T.poseidon [x, 1, 1]
    · exact ⟨y, fun hy => hxy (hx.symm.trans hy)⟩
    · exact ⟨x, hx⟩
  -- the tree that holds this leaf and nothing else
  let isClosestZero : Signal := if leafKey = 0 then 1 else 0
  let root := T.binaryMerkleRoot (T.poseidon [leafKey, 1, 1] * (1 - isClosestZero)) 1
    (T.varShiftLeft ((List.range 64).map fun i => ofBool (virtualKey.val.testBit (63 - i)))
      (64 - 1)) (List.ofFn fun _ : Fin 64 => 0)
  exact ⟨⟨leafKey, root, fun _ => 0⟩, 1, isClosestZero, 1, 0, 1, exists_num2Bits_shift,
    isEqual_iff.mpr rfl, isEqual_iff.mpr (if_pos rfl).symm, isEqual_iff.mpr (if_neg hleaf).symm,
    isEqual_iff.mpr (if_pos rfl).symm, (one_mul _).symm⟩

/-- Signals of proofs one holder makes for one call. -/
structure SameHolder (d : DocumentType) (pubSignals pubSignals' : Fin 21 → Word) : Prop where
  scope : DocumentType.scope pubSignals' = DocumentType.scope pubSignals
  userIdentifier : DocumentType.userIdentifier pubSignals' =
    DocumentType.userIdentifier pubSignals
  nullifier : d.nullifier pubSignals' = d.nullifier pubSignals
  merkleRoot : d.merkleRoot pubSignals' = d.merkleRoot pubSignals
  currentDate : d.currentDate pubSignals' = d.currentDate pubSignals
  in_field : d.RevealedInField pubSignals'

theorem merkleRoot_publicSignals {revealedDataPacked : ℕ → Signal} {countries : Fin 4 → Word} :
    d.merkleRoot (publicSignals T d inp revealedDataPacked countries) = toWord inp.merkleRoot := by
  cases d <;> rfl

/-- Inputs that differ in the lists a document is looked up in are of one holder. -/
theorem sameHolder_publicSignals {inp' : Inputs d} {revealed revealed' : ℕ → Signal}
    {countries countries' : Fin 4 → Word} (hsecret : inp'.secret = inp.secret)
    (hscope : inp'.scope = inp.scope) (huser : inp'.userIdentifier = inp.userIdentifier)
    (hroot : inp'.merkleRoot = inp.merkleRoot) (hdate : inp'.currentDate = inp.currentDate) :
    SameHolder d (publicSignals T d inp revealed countries)
      (publicSignals T d inp' revealed' countries') where
  scope := by rw [scope_publicSignals, scope_publicSignals, hscope]
  userIdentifier := by rw [userIdentifier_publicSignals, userIdentifier_publicSignals, huser]
  nullifier := by rw [nullifier_publicSignals, nullifier_publicSignals, hsecret, hscope]
  merkleRoot := by rw [merkleRoot_publicSignals, merkleRoot_publicSignals, hroot]
  currentDate := by
    funext i
    rw [currentDate_publicSignals, currentDate_publicSignals, hdate]
  in_field := revealedInField_publicSignals

/-- Such signals, of which the second say that he is on no list. -/
structure Clears (d : DocumentType) (pubSignals pubSignals' : Fin 21 → Word) : Prop extends
    SameHolder d pubSignals pubSignals' where
  forbiddenCountries : d.forbiddenCountries pubSignals' = d.forbiddenCountries pubSignals
  revealedData : d.revealedData pubSignals' =
    (d.revealedData pubSignals).take (mrzLength d + 2) ++ List.replicate (ofacCount d) 1

/-- With the results 1 and their selector on, the OFAC bytes are 1 and the others the same. -/
theorem revealedData_clear {isOlderThan : Signal} {results : Fin (ofacCount d) → Signal}
    {bytes : Bytes} (h : DiscloseCircuit.revealedData inp isOlderThan results = bytes.map ofByte)
    (smt : Fin (ofacCount d) → SmtInputs) :
    DiscloseCircuit.revealedData { inp with ofac := smt, selectorOfac := 1 } isOlderThan
        (fun _ => 1) =
      (bytes.take (mrzLength d + 2) ++ List.replicate (ofacCount d) 1).map ofByte := by
  have hone : ofByte 1 = 1 := by simp [ofByte]
  unfold DiscloseCircuit.revealedData at h ⊢
  -- the characters and the age are what stands in front of the OFAC bytes
  have hfront := congrArg (List.take (mrzLength d + 2)) h
  rw [List.take_left' (by simp)] at hfront
  rw [List.map_append, List.map_take, ← hfront, List.map_replicate, hone]
  simp only [one_mul, List.ofFn_const]

/-- **Everybody is on no list**: from inputs that satisfy the circuit, there are inputs of the same
holder that satisfy it and show every OFAC result to be good. -/
theorem DiscloseCircuit.VcAndDisclose.exists_clears (hpacks : T.Packs) (hapart : T.HashesApart)
    (h : VcAndDisclose T inp pubSignals) {c : Fin 6 → ℤ} (hc : ∀ i, |c i| ≤ 255)
    (hdate : inp.currentDate = fun i => (c i : Signal)) :
    ∃ (inp' : Inputs d) (pubSignals' : Fin 21 → Word), VcAndDisclose T inp' pubSignals' ∧
      inp'.secret = inp.secret ∧ inp'.dg1 = inp.dg1 ∧ Clears d pubSignals pubSignals' := by
  obtain ⟨doc, hdoc⟩ := h.verifyCommitment.exists_bytes
  obtain ⟨_, countries, hdisclose, rfl⟩ := h.disclose
  obtain ⟨isOlderThan, results, holder, hofac, rfl⟩ := hdisclose.revealed
  obtain ⟨bytes, hbytes, hlen, -⟩ := exists_revealed hdoc hc hdate hdisclose.selectorDg1
    hdisclose.selectorOlderThan hdisclose.selectorOfac holder fun i => (hofac i).isBit
  -- a tree of the prover's own for each list
  choose smt hsmt using fun i => exists_smtVerify_one hapart (ofacKeys T d inp.dg1 i)
  have hbytes' := revealedData_clear hbytes smt
  have hlen' : (bytes.take (mrzLength d + 2) ++ List.replicate (ofacCount d) 1).length =
      d.revealedLength := by
    rw [revealedLength_eq] at hlen ⊢
    simp only [List.length_append, List.length_take, List.length_replicate]
    omega
  -- the prover asks for the results and proves to stand on no list; nothing else is changed
  refine ⟨{ inp with ofac := smt, selectorOfac := 1 }, publicSignals T d _ _ countries,
    ⟨⟨h.verifyCommitment.assertBytes, h.verifyCommitment.merkleRoot⟩, h.isValid, _, _,
      ⟨hdisclose.selectorDg1, hdisclose.selectorOlderThan, isBit_iff.mpr (.inr rfl),
        ⟨isOlderThan, fun _ => 1, holder, hsmt, rfl⟩, hdisclose.countries⟩, rfl⟩,
    rfl, rfl, sameHolder_publicSignals rfl rfl rfl rfl rfl, ?_, ?_⟩
  · rw [forbiddenCountries_publicSignals, forbiddenCountries_publicSignals]
  · rw [hbytes, hbytes', revealedData_publicSignals hpacks hlen,
      revealedData_publicSignals hpacks hlen']

/-! ## What the hub reads of them -/

/-- A field is read off the bytes up to its end. -/
theorem extractStringAttribute_of_take {charcodes charcodes' : Bytes} {n start stop : ℕ}
    (hlen : charcodes'.length = charcodes.length) (htake : charcodes'.take n = charcodes.take n)
    (hstart : start ≤ stop) (hstop : stop < n) :
    extractStringAttribute charcodes' start stop = extractStringAttribute charcodes start stop := by
  have hfield (bytes : Bytes) : (bytes.drop start).take (stop - start + 1) =
      ((bytes.take n).drop start).take (stop - start + 1) := by
    rw [List.drop_take, List.take_take, Nat.min_eq_left (by omega)]
  unfold extractStringAttribute
  rw [hlen, hfield charcodes', htake, ← hfield]

/-- The OFAC bytes stand behind the age. -/
theorem ofacByte_bounds {mode : Fin 3} {i : ℕ} (h : d.ofacByte mode = some i) :
    mrzLength d + 2 ≤ i ∧ i < mrzLength d + 2 + ofacCount d := by
  cases d <;> match mode, h with
    | 0, h | 1, h | 2, h => cases h <;> decide

namespace Clears

variable (h : Clears d pubSignals pubSignals')

include h

/-- In front of the OFAC bytes the data is the same. -/
theorem take_revealedData : (d.revealedData pubSignals').take (mrzLength d + 2) =
    (d.revealedData pubSignals).take (mrzLength d + 2) := by
  have hlen := d.revealedData_length pubSignals
  rw [revealedLength_eq] at hlen
  rw [h.revealedData, List.take_left' (by rw [List.length_take]; omega)]

theorem getElem?_revealedData {i : ℕ} (hi : i < mrzLength d + 2) :
    (d.revealedData pubSignals')[i]? = (d.revealedData pubSignals)[i]? := by
  rw [← List.getElem?_take_of_lt hi, h.take_revealedData, List.getElem?_take_of_lt hi]

/-- Every OFAC result is good. -/
theorem resultByte {mode : Fin 3} {i : ℕ} (hbyte : d.ofacByte mode = some i) :
    DocumentType.ResultByte (d.revealedData pubSignals') i := by
  obtain ⟨hle, hlt⟩ := ofacByte_bounds hbyte
  have hlen := d.revealedData_length pubSignals
  rw [revealedLength_eq] at hlen
  have hfront : ((d.revealedData pubSignals).take (mrzLength d + 2)).length = mrzLength d + 2 := by
    rw [List.length_take]
    omega
  rw [DocumentType.ResultByte, h.revealedData, List.getElem?_append_right (by omega), hfront,
    List.getElem?_replicate, if_pos (by omega)]

theorem readsAtLeast {threshold : ℕ} (hage : DocumentType.ReadsAtLeast (d.revealedData pubSignals)
    d.positions.olderThanStart threshold) :
    DocumentType.ReadsAtLeast (d.revealedData pubSignals') d.positions.olderThanStart
      threshold := by
  rw [olderThanStart_eq] at hage ⊢
  unfold DocumentType.ReadsAtLeast at hage ⊢
  rwa [h.getElem?_revealedData (by omega), h.getElem?_revealedData (by omega)]

theorem datesReadable (hdates : DatesReadable d (d.revealedData pubSignals)) :
    DatesReadable d (d.revealedData pubSignals') := by
  have hlen := (d.revealedData_length pubSignals').trans (d.revealedData_length pubSignals).symm
  -- both dates stand in front of the results
  have hbounds : d.positions.dateOfBirthStart ≤ d.positions.dateOfBirthEnd ∧
      d.positions.dateOfBirthEnd < mrzLength d + 2 ∧
      d.positions.expiryDateStart ≤ d.positions.expiryDateEnd ∧
      d.positions.expiryDateEnd < mrzLength d + 2 := by
    cases d <;> decide
  obtain ⟨h1, h2, h3, h4⟩ := hbounds
  unfold DatesReadable getDateOfBirth getExpiryDate at hdates ⊢
  rw [DocumentType.getFieldPositions_attestationId, Revert.ok_bind, Revert.ok_bind] at hdates ⊢
  rwa [extractStringAttribute_of_take hlen h.take_revealedData h1 h2,
    extractStringAttribute_of_take hlen h.take_revealedData h3 h4]

end Clears

/-! ## Screening -/

variable {o : Oracles} {regs : Registries} {block : Block} {s : IdentityVerificationHub.Storage}
  {scope : Word} {c : VerificationConfigV2} {proof proof' : VcAndDiscloseProof} {context : Bytes}

/-- The config with other OFAC flags. -/
def withOfac (c : VerificationConfigV2) (flags : Fin 3 → Bool) : VerificationConfigV2 :=
  { c with ofacEnabled := flags }

/-- Where a proof is accepted under a config, one that clears its holder is accepted under the
config with any OFAC flags. -/
theorem accepts_of_clears (h : Accepts o regs block s d scope c proof context)
    (hclears : Clears d proof.pubSignals proof'.pubSignals) (flags : Fin 3 → Bool)
    (hstored : s.v2VerificationConfigs (generateConfigId o (withOfac c flags)) =
      withOfac c flags)
    (hverifier : o.verifyProof (s.discloseVerifiers d.attestationId) proof' = true) :
    Accepts o regs block s d scope (withOfac c flags) proof' context where
  configured := hstored
  scope_eq := hclears.scope.trans h.scope_eq
  userIdentifier_eq := hclears.userIdentifier.trans h.userIdentifier_eq
  registry_set := h.registry_set
  root_known := hclears.merkleRoot ▸ h.root_known
  date_in_range := hclears.currentDate ▸ h.date_in_range
  groth16 := hverifier
  in_field := hclears.in_field
  -- the results are all 1 now, whichever flags are on
  meets := {
    ofac := fun _ _ hbyte _ => hclears.resultByte hbyte
    forbiddenCountries := fun henabled =>
      hclears.forbiddenCountries.trans (h.meets.forbiddenCountries henabled)
    olderThan := fun henabled => hclears.readsAtLeast (h.meets.olderThan henabled) }
  dates_readable := hclears.datesReadable h.dates_readable

/-- The verifiers the hub has in a state accept a proof of the disclose circuits for whatever
satisfies them, and nothing else. -/
structure ExactVerifiers {Roles : Type} (T : Templates) (dep : Deployment Roles)
    (w : World Roles) : Prop where
  sound : SoundVerifiers T dep w
  complete : ∀ (d : DocumentType) (inp : Inputs d) (pubSignals : Fin 21 → Word),
    VcAndDisclose T inp pubSignals → ∃ proof : VcAndDiscloseProof,
      proof.pubSignals = pubSignals ∧
        dep.oracles.verifyProof (w.hub.discloseVerifiers d.attestationId) proof = true

/-- RuleSelf with another config id. -/
def World.withConfigId {Roles : Type} (w : World Roles) (configId : Word) : World Roles :=
  { w with ruleSelf := { w.ruleSelf with configId := configId } }

theorem World.configId_withConfigId {Roles : Type} (w : World Roles) (configId : Word) :
    (w.withConfigId configId).ruleSelf.configId = configId := rfl

theorem World.accepts_withConfigId {Roles : Type} {w : World Roles} {configId : Word} :
    Accepts o (w.withConfigId configId).registries block (w.withConfigId configId).hub d
      (w.withConfigId configId).ruleSelf.scope c proof context ↔
      Accepts o w.registries block w.hub d w.ruleSelf.scope c proof context := Iff.rfl

/-- While RuleSelf asks for config `c`, somebody can register user identifier `u` with nullifier
`n` in a block, from a document of type `d`. -/
def CanBeRegistered {Roles : Type} (dep : Deployment Roles) (w : World Roles) (block : Block)
    (c : VerificationConfigV2) (d : DocumentType) (u n : Word) : Prop :=
  ∃ sender P C proof t',
    Registers dep (w.withConfigId (generateConfigId dep.oracles c))
      ⟨block, sender, .verifySelfProof P C⟩ t' P C d c proof ∧
    userIdentifierOf C = u ∧ d.nullifier proof.pubSignals = n

variable {Roles : Type} {dep : Deployment Roles} {w : World Roles} {u n : Word}

/-- Who registers under a config can be registered under another one, where a proof with his user
identifier and nullifier is accepted under that. -/
theorem Registers.canBeRegistered {sender : Address} {P C : Bytes} {w' : World Roles}
    (h : Registers dep (w.withConfigId (generateConfigId dep.oracles c))
      ⟨block, sender, .verifySelfProof P C⟩ w' P C d c proof) {c' : VerificationConfigV2}
    (hnullifier : d.nullifier proof'.pubSignals = d.nullifier proof.pubSignals)
    (haccepts : Accepts dep.oracles w.registries block w.hub d w.ruleSelf.scope c' proof'
      C) :
    CanBeRegistered dep w block c' d (userIdentifierOf C) (d.nullifier proof.pubSignals) := by
  have hverified := h.verified
  have hcan := h.canRegister
  rw [← hnullifier] at hcan ⊢
  refine ⟨sender, payloadOf d proof', C, proof', _, ⟨rfl, ?_, ?_, rfl⟩, rfl, rfl⟩
  · -- the proof in the payload is replaced, everything around it stays
    exact {
      payload_length := by
        rw [payloadOf, List.length_append, VcAndDiscloseProof.encode_length, Word.toBytes_length]
        omega
      context_length := hverified.context_length
      attestationId := payloadOf_header d proof'
      payload := payloadOf_proof d proof'
      config := (World.configId_withConfigId _ _).symm
      accepts := World.accepts_withConfigId.mpr haccepts
      chain := hverified.chain }
  · exact ⟨hcan.isOpen, hcan.nullifier_unused, hcan.nonzero, hcan.unregistered⟩

/-- Whoever can register under a config can register under it with any OFAC flags. -/
theorem CanBeRegistered.withOfac (hpacks : T.Packs) (hapart : T.HashesApart)
    (hexact : ExactVerifiers T dep w) (h : CanBeRegistered dep w block c d u n)
    (flags : Fin 3 → Bool)
    (hstored : w.hub.v2VerificationConfigs (generateConfigId dep.oracles (withOfac c flags)) =
      RuleSelf.withOfac c flags) :
    CanBeRegistered dep w block (RuleSelf.withOfac c flags) d u n := by
  obtain ⟨sender, P, C, proof, t', hregisters, rfl, rfl⟩ := h
  have haccepts := World.accepts_withConfigId.mp hregisters.verified.accepts
  -- the inputs behind the proof, and those of the same holder that clear him
  obtain ⟨inp, hsatisfied⟩ := hexact.sound d proof haccepts.groth16
  obtain ⟨hsmall, hdate⟩ :=
    hsatisfied.currentDate (dateInRange_iff.mp haccepts.date_in_range).2
  obtain ⟨inp', pubSignals', hsatisfied', -, -, hclears⟩ :=
    hsatisfied.exists_clears hpacks hapart hsmall hdate
  obtain ⟨proof', rfl, hverifier⟩ := hexact.complete d inp' pubSignals' hsatisfied'
  exact hregisters.canBeRegistered hclears.nullifier
    (accepts_of_clears haccepts hclears flags hstored hverifier)

/-- **OFAC screening excludes nobody**: where the verifiers are those of the disclose circuits, the
user identifiers and nullifiers that can be registered are the same whatever OFAC results the
config requires, in every state of the contracts and of the registries' OFAC roots. -/
theorem ofac_excludes_nobody (hpacks : T.Packs) (hapart : T.HashesApart)
    (hexact : ExactVerifiers T dep w) (block : Block) (c : VerificationConfigV2)
    (flags : Fin 3 → Bool)
    (hc : w.hub.v2VerificationConfigs (generateConfigId dep.oracles c) = c)
    (hflags : w.hub.v2VerificationConfigs (generateConfigId dep.oracles (withOfac c flags)) =
      withOfac c flags) (d : DocumentType) (u n : Word) :
    CanBeRegistered dep w block c d u n ↔ CanBeRegistered dep w block (withOfac c flags) d u n := by
  constructor
  · intro h
    exact h.withOfac hpacks hapart hexact flags hflags
  · intro h
    -- the flags of `c` are flags like any others
    exact h.withOfac hpacks hapart hexact c.ofacEnabled hc

/-! ## A screened holder -/

/-- The config for adults, with every OFAC result required. -/
def screenedAdults : VerificationConfigV2 := withOfac adultsOnly fun _ => true

open Classical in
/-- The verifiers of the circuits. -/
noncomputable def circuitVerifier (T : Templates) (verifier : Address)
    (proof : VcAndDiscloseProof) : Bool :=
  decide (∃ (d : DocumentType) (inp : Inputs d), verifier = verifierOf d.attestationId ∧
    VcAndDisclose T inp proof.pubSignals)

open Classical in
theorem circuitVerifier_eq_true {verifier : Address} :
    circuitVerifier T verifier proof = true ↔ ∃ (d : DocumentType) (inp : Inputs d),
      verifier = verifierOf d.attestationId ∧ VcAndDisclose T inp proof.pubSignals := by
  unfold circuitVerifier
  exact decide_eq_true_iff

/-- Oracles with them. -/
noncomputable def screeningOracles : Oracles :=
  gatedOracles adultsOnly (circuitVerifier plainTemplates)

/-- A deployment over these oracles. -/
noncomputable def screeningDeployment : Deployment AccessControl.RoleFlags :=
  standing screeningOracles adultsOnly 0

/-- RuleSelf, opened, next to a hub that another config was sent to after that for adults, and
registries that hold OFAC roots. -/
noncomputable def screeningWorld (c : VerificationConfigV2) : World AccessControl.RoleFlags :=
  { opened screeningOracles adultsOnly 0 (openRegistries 7 8 9) with
    hub := setVerificationConfigV2 screeningOracles c (readyHub screeningOracles adultsOnly) }

theorem exactVerifiers_screening (c : VerificationConfigV2) :
    ExactVerifiers plainTemplates screeningDeployment (screeningWorld c) where
  sound d proof haccepted := by
    obtain ⟨d', inp, hverifier, hsatisfied⟩ := circuitVerifier_eq_true.mp haccepted
    obtain rfl : d = d' := verifierOf_injective hverifier
    exact ⟨inp, hsatisfied⟩
  complete d inp pubSignals hsatisfied :=
    ⟨⟨![0, 0], fun _ => ![0, 0], ![0, 0], pubSignals⟩, rfl,
      circuitVerifier_eq_true.mpr ⟨d, inp, rfl, hsatisfied⟩⟩

theorem plainTemplates_hashesApart : plainTemplates.HashesApart :=
  ⟨0, 1, by decide⟩

/-- The two configs have ids of their own. -/
theorem stored_screening (hne : c ≠ adultsOnly) :
    (screeningWorld c).hub.v2VerificationConfigs
        (generateConfigId screeningOracles adultsOnly) = adultsOnly ∧
      (screeningWorld c).hub.v2VerificationConfigs (generateConfigId screeningOracles c) = c := by
  have hids : generateConfigId screeningOracles adultsOnly ≠ generateConfigId screeningOracles c :=
    fun h => hne (collisionFree_gatedOracles adultsOnly _ c h.symm)
  have hhub : (screeningWorld c).hub = setVerificationConfigV2 screeningOracles c
      (readyHub screeningOracles adultsOnly) := rfl
  rw [hhub, setVerificationConfigV2_config, setVerificationConfigV2_config, if_neg hids,
    if_pos rfl, readyHub_configured]
  exact ⟨rfl, rfl⟩

/-- The adult holder can be registered under the config for adults. -/
theorem canBeRegistered_screening (hne : c ≠ adultsOnly) :
    CanBeRegistered screeningDeployment (screeningWorld c) newYear adultsOnly .passport 5
      (DocumentType.passport.nullifier adultSignals) := by
  -- the passport is that of an adult, whom the config for adults lets in
  have haccepts : Accepts screeningDeployment.oracles (screeningWorld c).registries newYear
      (screeningWorld c).hub .passport (screeningWorld c).ruleSelf.scope adultsOnly adultProof
      (contextOf newYear.chainid 5) :=
    accepts_adult rfl (stored_screening hne).1 (by decide : (1 : Address) ≠ 0)
      (circuitVerifier_eq_true.mpr ⟨.passport, adultInputs, rfl, vcAndDisclose_adult⟩)
  have hverified := Verified.of_accepts (World.configId_withConfigId _ _).symm
    (World.accepts_withConfigId.mpr haccepts)
  exact ⟨4, _, _, adultProof, _, ⟨rfl, hverified, by
    rw [userIdentifierOf_contextOf]
    exact ⟨rfl, rfl, by decide, rfl⟩, rfl⟩, userIdentifierOf_contextOf _ _, rfl⟩

private theorem screenedAdults_ne : screenedAdults ≠ adultsOnly := fun h =>
  Bool.noConfusion (congrFun (congrArg VerificationConfigV2.ofacEnabled h) 0)

/-- He can be registered under the config that requires every OFAC result, too. -/
theorem ofac_excludes_nobody_adult :
    CanBeRegistered screeningDeployment (screeningWorld screenedAdults) newYear screenedAdults
      .passport 5 (DocumentType.passport.nullifier adultSignals) := by
  obtain ⟨hadults, hscreened⟩ := stored_screening screenedAdults_ne
  exact (ofac_excludes_nobody plainTemplates_packs plainTemplates_hashesApart
    (exactVerifiers_screening screenedAdults) newYear adultsOnly (fun _ => true) hadults hscreened
      .passport 5 _).mp (canBeRegistered_screening screenedAdults_ne)

end RuleSelf
