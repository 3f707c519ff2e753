import RuleSelf.Contract.VerifiedCall

/-!
# Completeness

Every document that meets a config can be registered: for any revealed data, any
forbidden-country list and any nullifier there are public signals that carry them, a
payload and a context that carry the signals and a user identifier, and a state in
which `verifySelfProof` with them registers the pair.

The state is one in which nothing else stands in the way: the config is set in the
hub, a registry and a verifier are set for both document types, the registries know
every root, and the block is on the day the proof names.
-/

namespace RuleSelf

open Evm Abi SelfStructs IdentityVerificationHub

/-! ## Signals that carry given data -/

/-- The little-endian packing of a byte string into a word. -/
def packWord (bs : Bytes) : Word := BitVec.ofNat 256 (leNat bs)

theorem packWord_toNat {bs : Bytes} (h : bs.length ≤ 31) :
    (packWord bs).toNat = leNat bs ∧ leNat bs < Formatter.snarkScalarField := by
  have hlt := leNat_lt bs
  have hle : 256 ^ bs.length ≤ 256 ^ 31 := Nat.pow_le_pow_right (by decide) h
  have hfield : 256 ^ 31 < Formatter.snarkScalarField := by decide
  -- 31 bytes fit into a field element, and into a word
  have hmod : leNat bs % 2 ^ 256 = leNat bs := Nat.mod_eq_of_lt (by omega)
  rw [packWord, BitVec.toNat_ofNat, hmod]
  exact ⟨rfl, by omega⟩

theorem leBytes_packWord {bs : Bytes} {k : ℕ} (hk : bs.length = k) (h : k ≤ 31) :
    leBytes k (packWord bs).toNat = bs := by
  subst hk
  rw [(packWord_toNat h).1, leBytes_leNat]

/-- Unpacking a packed slice gives the slice back. -/
theorem leBytes_slice (data : Bytes) (i j k : ℕ) (hj : j ≤ data.length) (hk : j - i = k)
    (h : k ≤ 31) : leBytes k (packWord (slice data i j)).toNat = slice data i j :=
  leBytes_packWord ((slice_length hj).trans hk) h

/-- What a proof over a document is about. -/
structure Disclosure where
  revealedData : Bytes
  forbiddenCountries : Fin 4 → Word
  nullifier : Word
  scope : Word
  userIdentifier : Word
  passportNoSmtRoot : Word
  namedobSmtRoot : Word
  nameyobSmtRoot : Word

namespace Disclosure

/-- The public signals of a disclosure, dated 1 January 2000. -/
def signals : DocumentType → Disclosure → Fin 21 → Word
  | .passport, p =>
    ![packWord (slice p.revealedData 0 31), packWord (slice p.revealedData 31 62),
      packWord (slice p.revealedData 62 93),
      p.forbiddenCountries 0, p.forbiddenCountries 1, p.forbiddenCountries 2,
      p.forbiddenCountries 3, p.nullifier, AttestationId.ePassport, 0, 0, 0, 0, 1, 0, 1,
      p.passportNoSmtRoot, p.namedobSmtRoot, p.nameyobSmtRoot, p.scope, p.userIdentifier]
  | .idCard, p =>
    ![packWord (slice p.revealedData 0 31), packWord (slice p.revealedData 31 62),
      packWord (slice p.revealedData 62 93), packWord (slice p.revealedData 93 94),
      p.forbiddenCountries 0, p.forbiddenCountries 1, p.forbiddenCountries 2,
      p.forbiddenCountries 3, p.nullifier, AttestationId.euIdCard, 0, 0, 0, 0, 1, 0, 1,
      p.namedobSmtRoot, p.nameyobSmtRoot, p.scope, p.userIdentifier]

/-- The proof with these signals; its points do not matter to the hub. -/
def proof (d : DocumentType) (p : Disclosure) : VcAndDiscloseProof :=
  ⟨![0, 0], fun _ => ![0, 0], ![0, 0], p.signals d⟩

variable {d : DocumentType} {p : Disclosure}

theorem scope_signals : DocumentType.scope (p.signals d) = p.scope := by
  cases d <;> rfl

theorem userIdentifier_signals : DocumentType.userIdentifier (p.signals d) = p.userIdentifier := by
  cases d <;> rfl

theorem nullifier_signals : d.nullifier (p.signals d) = p.nullifier := by
  cases d <;> rfl

theorem currentDate_signals : d.currentDate (p.signals d) = ![0, 0, 0, 1, 0, 1] := by
  funext i
  cases d <;> match i with
    | 0 | 1 | 2 | 3 | 4 | 5 => rfl

theorem forbiddenCountries_signals :
    d.forbiddenCountries (p.signals d) = p.forbiddenCountries := by
  funext i
  cases d <;> match i with
    | 0 | 1 | 2 | 3 => rfl

theorem revealedData_signals (hlen : p.revealedData.length = d.revealedLength) :
    d.revealedData (p.signals d) = p.revealedData := by
  -- the signals unpack to consecutive slices, which are put together again
  have hwhole (k : ℕ) (hk : p.revealedData.length = k) :
      slice p.revealedData 0 k = p.revealedData := by
    subst hk
    simp [slice]
  cases d with
  | passport =>
    have h93 : p.revealedData.length = 93 := hlen
    change leBytes 31 (packWord (slice p.revealedData 0 31)).toNat ++
      (leBytes 31 (packWord (slice p.revealedData 31 62)).toNat ++
        (leBytes 31 (packWord (slice p.revealedData 62 93)).toNat ++ [])) = _
    rw [leBytes_slice _ 0 31 31 (by omega) rfl (by decide),
      leBytes_slice _ 31 62 31 (by omega) rfl (by decide),
      leBytes_slice _ 62 93 31 (by omega) rfl (by decide), List.append_nil,
      slice_append_slice _ 31 62 93 (by decide) (by decide),
      slice_append_slice _ 0 31 93 (by decide) (by decide)]
    exact hwhole 93 h93
  | idCard =>
    have h94 : p.revealedData.length = 94 := hlen
    change leBytes 31 (packWord (slice p.revealedData 0 31)).toNat ++
      (leBytes 31 (packWord (slice p.revealedData 31 62)).toNat ++
        (leBytes 31 (packWord (slice p.revealedData 62 93)).toNat ++
          (leBytes 1 (packWord (slice p.revealedData 93 94)).toNat ++ []))) = _
    rw [leBytes_slice _ 0 31 31 (by omega) rfl (by decide),
      leBytes_slice _ 31 62 31 (by omega) rfl (by decide),
      leBytes_slice _ 62 93 31 (by omega) rfl (by decide),
      leBytes_slice _ 93 94 1 (by omega) rfl (by decide), List.append_nil,
      slice_append_slice _ 62 93 94 (by decide) (by decide),
      slice_append_slice _ 31 62 94 (by decide) (by decide),
      slice_append_slice _ 0 31 94 (by decide) (by decide)]
    exact hwhole 94 h94

theorem revealedInField_signals : d.RevealedInField (p.signals d) := by
  -- 31 bytes denote less than 2 ^ 248, which the field exceeds
  have hlt (i j : ℕ) (hij : j - i ≤ 31) :
      (packWord (slice p.revealedData i j)).toNat < Formatter.snarkScalarField := by
    have hlen : (slice p.revealedData i j).length ≤ 31 := by
      unfold slice
      rw [List.length_take]
      omega
    obtain ⟨heq, hlt⟩ := packWord_toNat hlen
    rwa [heq]
  cases d with
  | passport =>
    intro i
    match i with
    | 0 => exact hlt 0 31 (by decide)
    | 1 => exact hlt 31 62 (by decide)
    | 2 => exact hlt 62 93 (by decide)
  | idCard =>
    intro i
    match i with
    | 0 => exact hlt 0 31 (by decide)
    | 1 => exact hlt 31 62 (by decide)
    | 2 => exact hlt 62 93 (by decide)
    | 3 => exact hlt 93 94 (by decide)

end Disclosure

/-! ## Payloads and contexts -/

/-- The payload of a proof: the attestation id, then the proof. -/
def payloadOf (d : DocumentType) (proof : VcAndDiscloseProof) : Bytes :=
  Word.toBytes d.attestationId ++ VcAndDiscloseProof.codec.encode proof

/-- The context of a user identifier: the destination chain, the identifier, no data. -/
def contextOf (chainid userIdentifier : Word) : Bytes :=
  Word.toBytes chainid ++ Word.toBytes userIdentifier

/-- The header of a payload. -/
theorem payloadOf_header (d : DocumentType) (proof : VcAndDiscloseProof) :
    Word.ofBytes (slice (payloadOf d proof) 0 32) = d.attestationId := by
  rw [payloadOf, slice_prefix (Word.toBytes_length _), Word.ofBytes_toBytes]

/-- The proof of a payload. -/
theorem payloadOf_proof (d : DocumentType) (proof : VcAndDiscloseProof) :
    VcAndDiscloseProof.codec.read ((payloadOf d proof).drop 32) = some proof := by
  rw [payloadOf, List.drop_left' (Word.toBytes_length _)]
  apply Codec.read_encode
  rw [VcAndDiscloseProof.encode_length]
  decide

theorem userIdentifierOf_contextOf (chainid u : Word) :
    userIdentifierOf (contextOf chainid u) = u := by
  have h : slice (contextOf chainid u) 32 64 = Word.toBytes u := by
    have hpart : slice (Word.toBytes chainid ++ (Word.toBytes u ++ [])) 32 64 = Word.toBytes u :=
      slice_part (Word.toBytes_length _) (by rw [Word.toBytes_length])
    rwa [List.append_nil] at hpart
  rw [userIdentifierOf, h, Word.ofBytes_toBytes]

variable {Roles : Type} {dep : Deployment Roles} {block : Block} {w : World Roles}
  {d : DocumentType} {c : VerificationConfigV2} {proof : VcAndDiscloseProof} {u : Word}

/-- An accepted proof is verified, sent as a payload with a context of the chain. -/
theorem Verified.of_accepts (hconfig : generateConfigId dep.oracles c = w.ruleSelf.configId)
    (haccepts : Accepts dep.oracles w.registries block w.hub d w.ruleSelf.scope c proof
      (contextOf block.chainid u)) :
    Verified dep block w (payloadOf d proof) (contextOf block.chainid u) d c proof := by
  have hlen : (Word.toBytes d.attestationId).length = 32 := Word.toBytes_length _
  -- the fields of `Verified` in order: two lengths, two headers, the config, the hub, the chain
  constructor
  · rw [payloadOf, List.length_append, VcAndDiscloseProof.encode_length, hlen]
    omega
  · simp [contextOf]
  · exact payloadOf_header d proof
  · exact payloadOf_proof d proof
  · exact hconfig
  · exact haccepts
  · rw [contextOf, slice_prefix (Word.toBytes_length _), Word.ofBytes_toBytes]

/-! ## A state in which documents can be registered -/

/-- Noon of 1 January 2000 on chain 1. -/
def newYear : Block := ⟨1, 946728000⟩

theorem newYear_dateInRange : DateInRange newYear ![0, 0, 0, 1, 0, 1] :=
  ⟨946684800, by decide, by decide, by decide, by decide⟩

/-- The config that requires nothing, which a hub reads where none is stored. -/
def noRequirements : VerificationConfigV2 := ⟨false, 0, false, fun _ => 0, fun _ => false⟩

/-- A verifier for each of the two attestation ids, at the address of its number. -/
def verifierOf (attestationId : Word) : Address :=
  if attestationId = AttestationId.ePassport then 1
  else if attestationId = AttestationId.euIdCard then 2 else 0

/-- A hub whose registry and verifier are set for both attestation ids, with no config yet. -/
def blankHub : IdentityVerificationHub.Storage where
  registries id := if id = AttestationId.ePassport ∨ id = AttestationId.euIdCard then 1 else 0
  discloseVerifiers := verifierOf
  v2VerificationConfigs _ := noRequirements

/-- That hub after the config `c` is sent to it. -/
def readyHub (o : Oracles) (c : VerificationConfigV2) : IdentityVerificationHub.Storage :=
  setVerificationConfigV2 o c blankHub

theorem setVerificationConfigV2_config (o : Oracles) (c : VerificationConfigV2)
    (s : IdentityVerificationHub.Storage) (configId : Word) :
    (setVerificationConfigV2 o c s).v2VerificationConfigs configId =
      if configId = generateConfigId o c then c else s.v2VerificationConfigs configId :=
  Function.update_apply ..

/-- The config is found under its id, and the zero config under every other. -/
theorem readyHub_config (o : Oracles) (c : VerificationConfigV2) (configId : Word) :
    (readyHub o c).v2VerificationConfigs configId =
      if configId = generateConfigId o c then c else noRequirements :=
  setVerificationConfigV2_config ..

theorem readyHub_configured (o : Oracles) (c : VerificationConfigV2) :
    (readyHub o c).v2VerificationConfigs (generateConfigId o c) = c :=
  (readyHub_config ..).trans (if_pos rfl)

theorem readyHub_registry_ne_zero (o : Oracles) (c : VerificationConfigV2) (d : DocumentType) :
    (readyHub o c).registries d.attestationId ≠ 0 := by
  cases d <;> exact (by decide : (1 : Address) ≠ 0)

/-- Registries that know every root, with given OFAC roots. -/
def openRegistries (passportNo nameAndDob nameAndYob : Word) : Registries where
  passport _ := ⟨fun _ => 1, passportNo, nameAndDob, nameAndYob⟩
  idCard _ := ⟨fun _ => 1, nameAndDob, nameAndYob⟩

/-- The hub is ready for config `c`, RuleSelf asks for `c`, and the registries know
every root. -/
structure Ready (dep : Deployment Roles) (c : VerificationConfigV2) (w : World Roles) : Prop where
  hub : w.hub = readyHub dep.oracles c
  registries : ∃ a b e, w.registries = openRegistries a b e
  config : w.ruleSelf.configId = generateConfigId dep.oracles c

/-- A deployment over given oracles, with the role flags of the package, whose RuleSelf asks for
config `c`. -/
def standing (o : Oracles) (c : VerificationConfigV2) (scope : Word) :
    Deployment AccessControl.RoleFlags where
  oracles := o
  access := .flags
  hub := 1
  ruleSelf := 2
  deployer := 3
  configId := generateConfigId o c
  scope := scope

/-- The deployer opens registration. -/
def opening : Transaction := ⟨newYear, 3, .openRegistration⟩

/-- RuleSelf just deployed next to a ready hub, and opened. -/
def opened (o : Oracles) (c : VerificationConfigV2) (scope : Word) (registries : Registries) :
    World AccessControl.RoleFlags :=
  (World.deploy (standing o c scope) (readyHub o c) registries).run (standing o c scope) [opening]

section Opened

variable {o : Oracles} {scope : Word} {a b e : Word}

theorem ready_opened : Ready (standing o c scope) c (opened o c scope (openRegistries a b e)) :=
  ⟨rfl, ⟨a, b, e, rfl⟩, rfl⟩

/-- Nobody is registered yet, so that every identifier but 0 can be. -/
theorem canRegister_opened {u n : Word} (hu : u ≠ 0) {registries : Registries} :
    CanRegister (opened o c scope registries).ruleSelf u n :=
  ⟨rfl, rfl, hu, rfl⟩

end Opened

/-- **Completeness**: in a ready state, a disclosure that meets the config and is made for
RuleSelf's scope and for the context it is sent with is registered. -/
theorem exec_verifySelfProof (hready : Ready dep c w) (p : Disclosure) (sender : Address)
    (hlen : p.revealedData.length = d.revealedLength)
    (hmeets : d.Meets (CustomVerifier.checkedFlag d) c p.revealedData p.forbiddenCountries)
    (hdates : CustomVerifier.DatesReadable d p.revealedData)
    (hscope : p.scope = w.ruleSelf.scope)
    (huser : p.userIdentifier = hashUserContext dep.oracles (contextOf newYear.chainid u))
    (hverifier : dep.oracles.verifyProof (verifierOf d.attestationId) (p.proof d) = true)
    (hcan : CanRegister w.ruleSelf u p.nullifier) :
    w.exec dep ⟨newYear, sender,
      .verifySelfProof (payloadOf d (p.proof d)) (contextOf newYear.chainid u)⟩ =
      .ok (w.register u p.nullifier) := by
  -- every check of the hub passes: the state is ready, and the disclosure is made for it
  obtain ⟨hhub, ⟨a, b, e, hregistries⟩, hconfig⟩ := hready
  have haccepts : Accepts dep.oracles w.registries newYear w.hub d w.ruleSelf.scope c (p.proof d)
      (contextOf newYear.chainid u) := {
    configured := by rw [hhub]; exact readyHub_configured dep.oracles c
    scope_eq := Disclosure.scope_signals.trans hscope
    userIdentifier_eq := Disclosure.userIdentifier_signals.trans huser
    registry_set := by rw [hhub]; exact readyHub_registry_ne_zero dep.oracles c d
    root_known := by
      rw [hregistries]
      cases d <;> exact (rfl : decide ((1 : Word) ≠ 0) = true)
    date_in_range := Disclosure.currentDate_signals ▸ newYear_dateInRange
    groth16 := by rw [hhub]; exact hverifier
    in_field := Disclosure.revealedInField_signals
    meets := by
      change d.Meets _ c (d.revealedData (p.signals d)) (d.forbiddenCountries (p.signals d))
      rw [Disclosure.revealedData_signals hlen, Disclosure.forbiddenCountries_signals]
      exact hmeets
    dates_readable := by
      change CustomVerifier.DatesReadable d (d.revealedData (p.signals d))
      rw [Disclosure.revealedData_signals hlen]
      exact hdates }
  -- so the call is verified, and registers what it submits
  have hverified := Verified.of_accepts hconfig.symm haccepts
  have hnullifier : d.nullifier (p.proof d).pubSignals = p.nullifier :=
    Disclosure.nullifier_signals
  rw [← hnullifier] at hcan ⊢
  have hregister := verifySelfProof_iff.mpr
    ⟨d, c, p.proof d, hverified, by rwa [userIdentifierOf_contextOf], rfl⟩
  rw [userIdentifierOf_contextOf] at hregister
  exact World.onRuleSelf_eq_ok.mpr ⟨_, hregister, rfl⟩

/-! ## Blank documents -/

/-- Revealed data that reveals nothing. -/
def blankData (d : DocumentType) : Bytes := List.replicate d.revealedLength 0

theorem blankData_length (d : DocumentType) : (blankData d).length = d.revealedLength :=
  List.length_replicate

/-- Blank dates are formatted like any other. -/
theorem blankData_datesReadable (d : DocumentType) :
    CustomVerifier.DatesReadable d (blankData d) := by
  cases d
  · exact ⟨⟨_, rfl⟩, _, rfl⟩
  · exact ⟨⟨_, rfl⟩, _, rfl⟩

theorem meets_noRequirements (d : DocumentType) (flagOf : Fin 3 → Fin 3) (revealedData : Bytes)
    (forbiddenCountries : Fin 4 → Word) :
    d.Meets flagOf noRequirements revealedData forbiddenCountries :=
  ⟨fun _ _ _ h => absurd h Bool.false_ne_true, fun h => absurd h Bool.false_ne_true,
    fun h => absurd h Bool.false_ne_true⟩

/-- A disclosure that reveals nothing. -/
def Disclosure.blank (d : DocumentType) (nullifier scope userIdentifier : Word) : Disclosure where
  revealedData := blankData d
  forbiddenCountries _ := 0
  nullifier := nullifier
  scope := scope
  userIdentifier := userIdentifier
  passportNoSmtRoot := 0
  namedobSmtRoot := 0
  nameyobSmtRoot := 0

/-- The call that registers user identifier `u` from a blank document. -/
def blankCall (d : DocumentType) (nullifier scope userIdentifierSignal u : Word) : Call :=
  .verifySelfProof (payloadOf d ((Disclosure.blank d nullifier scope userIdentifierSignal).proof d))
    (contextOf newYear.chainid u)

/-- A blank document is registered where nothing is required. -/
theorem exec_blankCall {w : World Roles} (hready : Ready dep noRequirements w) (d : DocumentType)
    (sender : Address) {n scope h u : Word} (hscope : scope = w.ruleSelf.scope)
    (huser : h = hashUserContext dep.oracles (contextOf newYear.chainid u))
    (hverifier : dep.oracles.verifyProof (verifierOf d.attestationId)
      ((Disclosure.blank d n scope h).proof d) = true)
    (hcan : CanRegister w.ruleSelf u n) :
    w.exec dep ⟨newYear, sender, blankCall d n scope h u⟩ = .ok (w.register u n) :=
  exec_verifySelfProof hready (Disclosure.blank d n scope h) sender (blankData_length d)
    (meets_noRequirements d _ _ _) (blankData_datesReadable d) hscope huser hverifier hcan

/-- No other config has the config id of `c`. -/
def CollisionFree (o : Oracles) (c : VerificationConfigV2) : Prop :=
  ∀ c', generateConfigId o c' = generateConfigId o c → c' = c

/-- Oracles whose hash tells `c` from every other config, with given verifiers. -/
def gatedOracles (c : VerificationConfigV2) (accepts : Address → VcAndDiscloseProof → Bool) :
    Oracles where
  sha256 bs := if bs = VerificationConfigV2.codec.encode c then 1 else 0
  ripemd160 _ := 0
  verifyProof := accepts

theorem collisionFree_gatedOracles (c : VerificationConfigV2)
    (accepts : Address → VcAndDiscloseProof → Bool) : CollisionFree (gatedOracles c accepts) c := by
  intro c' h
  unfold generateConfigId gatedOracles at h
  -- only the encoding of `c` hashes to 1
  by_cases hc : VerificationConfigV2.codec.encode c' = VerificationConfigV2.codec.encode c
  · exact VerificationConfigV2.encode_injective hc
  · simp [hc] at h

/-- Every context hashes to 0. -/
theorem hashUserContext_gatedOracles (c : VerificationConfigV2)
    (accepts : Address → VcAndDiscloseProof → Bool) (context : Bytes) :
    hashUserContext (gatedOracles c accepts) context = 0 := rfl

/-- Such oracles whose verifiers accept every proof. -/
def plainOracles (c : VerificationConfigV2) : Oracles := gatedOracles c fun _ _ => true

/-- A deployment that requires nothing, for scope 0. -/
def plainDeployment : Deployment AccessControl.RoleFlags :=
  standing (plainOracles noRequirements) noRequirements 0

/-- A hub that is ready for it. -/
def plainHub : IdentityVerificationHub.Storage :=
  readyHub (plainOracles noRequirements) noRequirements

/-- Every id has the config that requires nothing, stored or not. -/
theorem plainHub_config (configId : Word) :
    plainHub.v2VerificationConfigs configId = noRequirements := by
  rw [plainHub, readyHub_config, ite_self]

/-- Its RuleSelf, opened. -/
def plainWorld : World AccessControl.RoleFlags :=
  opened (plainOracles noRequirements) noRequirements 0 (openRegistries 0 0 0)

/-- Account 4 registers user identifier `u` with nullifier `n` from a blank passport. -/
def blankRegistration (n u : Word) : Transaction := ⟨newYear, 4, blankCall .passport n 0 0 u⟩

theorem exec_blankRegistration {n u : Word} (hu : u ≠ 0) :
    plainWorld.exec plainDeployment (blankRegistration n u) = .ok (plainWorld.register u n) :=
  exec_blankCall ready_opened .passport 4 rfl rfl rfl (canRegister_opened hu)

end RuleSelf
