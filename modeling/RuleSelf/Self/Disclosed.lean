import RuleSelf.Contract.Completeness
import RuleSelf.Self.DiscloseCircuit

/-!
# What a Proof Discloses

The data a proof of the disclose circuits reveals, in the bytes the contracts unpack: the
characters of one document where they are selected, and an age the holder has passed on the
day the proof is made for, before the document expires.
-/

namespace RuleSelf

open Evm Circuit DateCircuits CountryCircuit

namespace DiscloseCircuit

variable {T : Templates} {d : DocumentType} {inp : Inputs d} {pubSignals : Fin 21 → Word}

/-! ## Packing -/

/-- What packs signals packs bytes. -/
theorem Templates.PacksSignals.packs (h : T.PacksSignals) : T.Packs := by
  have hpack (bytes : Bytes) : packSignals (bytes.map ofByte) = ((leNat bytes : ℕ) : Signal) := by
    unfold packSignals
    induction bytes with
    | nil => simp [leNat]
    | cons b bytes ih =>
      rw [List.map_cons, List.foldr_cons, ih, leNat, ofByte]
      push_cast
      rfl
  intro bytes k
  rw [h, ← hpack, slice, List.map_take, List.map_drop, Nat.add_sub_cancel_left]

/-! ## Bytes and words -/

theorem val_natCast {n : ℕ} (h : n < Formatter.snarkScalarField) : ((n : ℕ) : Signal).val = n :=
  ZMod.val_cast_of_lt h

theorem toWord_natCast {n : ℕ} (h : n < Formatter.snarkScalarField) :
    toWord ((n : ℕ) : Signal) = BitVec.ofNat 256 n := by
  rw [toWord, val_natCast h]

theorem toWord_toNat (x : Signal) : (toWord x).toNat = x.val := by
  have hlt := x.val_lt
  have hfield : Formatter.snarkScalarField < 2 ^ 256 := by decide
  rw [toWord, BitVec.toNat_ofNat, Nat.mod_eq_of_lt (by omega)]

/-- A signal is the number its word denotes. -/
theorem eq_toWord_toNat (x : Signal) : x = (((toWord x).toNat : ℕ) : Signal) := by
  rw [toWord_toNat, ZMod.natCast_zmod_val]

theorem val_ofByte (b : UInt8) : (ofByte b).val = b.toNat :=
  val_natCast (b.toNat_lt.trans (by decide))

theorem ofByte_ofNat {n : ℕ} (h : n < 256) : ofByte (UInt8.ofNat n) = ((n : ℕ) : Signal) := by
  rw [ofByte, UInt8.toNat_ofNat', Nat.mod_eq_of_lt h]

theorem ofByte_zero : ofByte 0 = 0 := by
  simp [ofByte]

/-- Bytes packed by the circuits are the words the contracts unpack. -/
theorem toWord_packBytes (hpacks : T.Packs) (bytes : Bytes) (k : ℕ) :
    toWord (T.packBytes (bytes.map ofByte) k) =
      packWord (slice bytes (31 * k) (31 * k + 31)) := by
  have hlen : (slice bytes (31 * k) (31 * k + 31)).length ≤ 31 := by
    rw [slice, List.length_take]
    omega
  rw [hpacks, toWord_natCast (packWord_toNat hlen).2, packWord]

/-- The revealed data the contracts unpack is the bytes the circuit packed. -/
theorem revealedData_publicSignals (hpacks : T.Packs) {bytes : Bytes}
    (hlen : bytes.length = d.revealedLength) (countries : Fin 4 → Word) :
    d.revealedData (publicSignals T d inp (T.packBytes (bytes.map ofByte)) countries) = bytes := by
  let p : Disclosure := ⟨bytes, countries, 0, 0, 0, 0, 0, 0⟩
  -- the same signals are unpacked as of a disclosure of the bytes
  have hp : d.revealedData (p.signals d) = bytes := Disclosure.revealedData_signals hlen
  refine Eq.trans ?_ hp
  cases d with
  | passport =>
    refine congrArg (Formatter.unpackElements ![31, 31, 31]) (funext fun i => ?_)
    match i with
    | 0 | 1 | 2 => exact toWord_packBytes hpacks bytes _
  | idCard =>
    refine congrArg (Formatter.unpackElements ![31, 31, 31, 1]) (funext fun i => ?_)
    match i with
    | 0 | 1 | 2 => exact toWord_packBytes hpacks bytes _
    | 3 =>
      have hlast : slice bytes 93 124 = slice bytes 93 94 := by
        have h94 : bytes.length = 94 := hlen
        unfold slice
        rw [List.take_of_length_le (by rw [List.length_drop]; omega),
          List.take_of_length_le (by rw [List.length_drop]; omega)]
      exact (toWord_packBytes hpacks bytes 3).trans (congrArg packWord hlast)

/-! ## Countries -/

/-- The signals of a list of letters. -/
def listSignals (list : CountriesList) (i : Fin (40 * 3)) : Signal := ofByte (list i)

theorem ofByte_injective : Function.Injective ofByte := by
  intro a b h
  have hval := congrArg ZMod.val h
  rw [val_ofByte, val_ofByte] at hval
  exact UInt8.toNat_inj.mp hval

/-- The product of three comparisons is 0 when one of them fails. -/
private theorem product_eq_zero_iff {first second third a b c : Signal} :
    (∃ firstResult secondResult thirdResult : Signal, IsEqual first a firstResult ∧
      IsEqual second b secondResult ∧ IsEqual third c thirdResult ∧
      0 = firstResult * secondResult * thirdResult) ↔ ¬ (a = first ∧ b = second ∧ c = third) := by
  simp only [isEqual_iff, exists_and_left, exists_eq_left]
  by_cases h1 : first = a
  · by_cases h2 : second = b
    · by_cases h3 : third = c
      · simp [h1, h2, h3]
      · simp [h3, Ne.symm h3]
    · simp [h2, Ne.symm h2]
  · simp [h1, Ne.symm h1]

/-- The country templates compare the issuing state with every code. -/
theorem proveCountry_iff {dg1 : Fin (dg1Length d) → Signal} {list : Fin (40 * 3) → Signal}
    {packed : Fin 4 → Word} : ProveCountry T d dg1 list packed ↔
      (∀ i, countryAt list i ≠ issuer dg1) ∧ packed = packCountrySignals T list := by
  have hloop : LoopConstraints (issuer dg1 0) (issuer dg1 1) (issuer dg1 2) list ↔
      ∀ i, countryAt list i ≠ issuer dg1 := by
    refine forall_congr' fun i => ?_
    -- the three characters agree exactly when the codes do
    rw [product_eq_zero_iff, not_iff_not]
    constructor
    · rintro ⟨h0, h1, h2⟩
      funext j
      match j with
      | 0 => exact h0
      | 1 => exact h1
      | 2 => exact h2
    · intro h
      exact ⟨congrFun h 0, congrFun h 1, congrFun h 2⟩
  cases d with
  | passport => exact and_congr_left' hloop
  | idCard => exact and_congr_left' hloop

/-- A code of letters is the issuing state of a document when its signals are. -/
theorem countryAt_listSignals_iff {doc : DataGroup1 d} {list : CountriesList} {i : Fin 40} :
    countryAt (listSignals list) i = issuer (fun i => ofByte (doc i)) ↔
      codeAt list i = issuingState doc := by
  have hissuer : issuer (fun i => ofByte (doc i)) = fun j => ofByte (issuingState doc j) := by
    cases d <;> rfl
  rw [hissuer]
  constructor
  · exact fun h => funext fun j => ofByte_injective (congrFun h j)
  · exact fun h => funext fun j => congrArg ofByte (congrFun h j)

/-- **The templates on letters**: over a document and a list of letters, the templates of the
circuits are those of `CountryCircuit`. -/
theorem proofOver_iff_proveCountry (doc : DataGroup1 d) (proof : VcAndDiscloseProof) :
    ProofOver (fun list => packCountrySignals T (listSignals list)) d doc proof ↔
      ∃ list, ProveCountry T d (fun i => ofByte (doc i)) (listSignals list)
        (d.forbiddenCountries proof.pubSignals) := by
  rw [proofOver_iff]
  refine exists_congr fun list => ?_
  rw [proveCountry_iff]
  exact and_congr_left' (forall_congr' fun i => not_congr countryAt_listSignals_iff.symm)

/-! ## A list that names no country -/

private theorem element_lt (n : Fin (40 * 3)) : n.val / 31 < 4 := by
  omega

/-- A list that packs to given elements. Every signal is 256, which is no character, but the first
of each element, which makes up the difference. -/
def evasiveList (elements : Fin 4 → Signal) (n : Fin (40 * 3)) : Signal :=
  if n.val % 31 = 0 then
    elements ⟨n / 31, element_lt n⟩ -
      (256 : ℕ) * packSignals (List.replicate (min 30 (119 - n)) (256 : ℕ))
  else (256 : ℕ)

theorem packBytes_evasiveList (hpacks : T.PacksSignals) (elements : Fin 4 → Signal) (k : Fin 4) :
    T.packBytes (List.ofFn (evasiveList elements)) k = elements k := by
  have hk := k.isLt
  have hlen : (List.ofFn (evasiveList elements)).length = 40 * 3 := List.length_ofFn
  -- behind its first signal an element of the list holds 256 throughout
  have htail : ((List.ofFn (evasiveList elements)).drop (31 * k + 1)).take 30 =
      List.replicate (min 30 (119 - 31 * k)) ((256 : ℕ) : Signal) := by
    refine List.eq_replicate_iff.mpr ⟨by rw [List.length_take, List.length_drop, hlen]; omega, ?_⟩
    intro x hx
    obtain ⟨j, hj, rfl⟩ := List.mem_iff_getElem.mp hx
    rw [List.length_take, List.length_drop, hlen] at hj
    rw [List.getElem_take, List.getElem_drop, List.getElem_ofFn, evasiveList, if_neg]
    dsimp only
    omega
  have hdiv : (⟨31 * k / 31, by omega⟩ : Fin 4) = k := Fin.ext (by dsimp only; omega)
  -- the first signal of the element makes up for the others
  rw [hpacks, List.drop_eq_getElem_cons (by omega), List.take_succ_cons, htail, List.getElem_ofFn,
    evasiveList]
  dsimp only
  rw [if_pos (by omega), hdiv]
  unfold packSignals
  rw [List.foldr_cons, Nat.cast_ofNat]
  ring

/-- No code of the list is the issuing state of any document. -/
theorem countryAt_evasiveList (elements : Fin 4 → Signal) (doc : DataGroup1 d) (i : Fin 40) :
    countryAt (evasiveList elements) i ≠ issuer fun i => ofByte (doc i) := by
  intro h
  have hnoByte (b : UInt8) : ((256 : ℕ) : Signal) ≠ ofByte b := by
    intro heq
    have hval := congrArg ZMod.val heq
    have h256 : ((256 : ℕ) : Signal).val = 256 := val_natCast (by decide)
    have := b.toNat_lt
    rw [val_ofByte] at hval
    omega
  -- 256 is no byte, so such a code would have to avoid it
  have hfirst (j : Fin 3) : (i.val * 3 + j) % 31 = 0 := by
    by_contra hj
    have hj' := congrFun h j
    rw [countryAt, evasiveList, if_neg hj] at hj'
    exact hnoByte _ hj'
  -- but two neighbours are not both the first of an element
  have h0 := hfirst ⟨0, by decide⟩
  have h1 := hfirst ⟨1, by decide⟩
  dsimp only at h0 h1
  omega

/-- Any four words of the field are packed by such a list. -/
theorem packCountrySignals_evasiveList (hpacks : T.PacksSignals) {countries : Fin 4 → Word}
    (hfield : ∀ k, (countries k).toNat < Formatter.snarkScalarField) :
    packCountrySignals T (evasiveList fun k => (((countries k).toNat : ℕ) : Signal)) =
      countries := by
  funext k
  rw [packCountrySignals, packBytes_evasiveList hpacks, toWord_natCast (hfield k),
    BitVec.ofNat_toNat, BitVec.setWidth_eq]

/-- A packed list is one of words of the field. -/
theorem packCountrySignals_lt (list : Fin (40 * 3) → Signal) (k : Fin 4) :
    (packCountrySignals T list k).toNat < Formatter.snarkScalarField := by
  rw [packCountrySignals, toWord_toNat]
  exact ZMod.val_lt _

/-! ## The document -/

/-- The signals of the data group are bytes. -/
theorem VerifyCommitment.exists_bytes (h : VerifyCommitment T inp) :
    ∃ doc : DataGroup1 d, inp.dg1 = fun i => ofByte (doc i) := by
  have hbyte (i : Fin (dg1Length d)) : ∃ b : UInt8, inp.dg1 i = ofByte b := by
    obtain ⟨t, ht, heq⟩ := exists_num2Bits_iff.mp (h.assertBytes i)
    exact ⟨UInt8.ofNat t, heq.trans (ofByte_ofNat ht).symm⟩
  choose doc hdoc using hbyte
  exact ⟨doc, funext hdoc⟩

/-- The numbers characters stand for as digits. -/
def charNumbers (characters : Fin 6 → UInt8) (i : Fin 6) : ℤ := ((characters i).toNat : ℤ) - 48

theorem abs_charNumbers_le (characters : Fin 6 → UInt8) (i : Fin 6) :
    |charNumbers characters i| ≤ 255 := by
  have h := (characters i).toNat_lt
  rw [charNumbers, abs_le]
  omega

theorem ofByte_eq_charNumbers (characters : Fin 6 → UInt8) :
    (fun i => ofByte (characters i)) = fun i => (charNumbers characters i : Signal) + 48 := by
  funext i
  rw [charNumbers, ofByte]
  push_cast
  ring

/-- The date of birth a document writes. -/
def birth (doc : DataGroup1 d) : DateNumbers := .ofNumbers (charNumbers (birthDate doc))

/-- The date of expiry a document writes. -/
def expiry (doc : DataGroup1 d) : DateNumbers := .ofNumbers (charNumbers (validityDate doc))

/-- What the revealed data shows of a document on a day. -/
structure Shows (doc : DataGroup1 d) (today : DateNumbers) (revealed : Bytes) : Prop where
  /-- The characters of the machine-readable zone are the document's, or hidden. -/
  mrz : ∀ i : Fin (mrzLength d), revealed[(i : ℕ)]? = some 0 ∨
    revealed[(i : ℕ)]? = some (mrz doc i)
  /-- The older-than characters are hidden, or write an age the holder has passed. -/
  olderThan : (revealed[mrzLength d]? = some 0 ∧ revealed[mrzLength d + 1]? = some 0) ∨
    ∃ age ≤ 99, revealed[mrzLength d]? = some (UInt8.ofNat (48 + age / 10)) ∧
      revealed[mrzLength d + 1]? = some (UInt8.ofNat (48 + age % 10)) ∧
      (birth doc).Older age today

/-! ## The revealed bytes -/

/-- A byte times a bit is the byte or 0. -/
private theorem exists_ofByte_mul {s : Signal} (hs : IsBit s) (b : UInt8) :
    ∃ b', ofByte b * s = ofByte b' ∧ (b' = 0 ∨ b' = b) := by
  rcases isBit_iff.mp hs with rfl | rfl
  · exact ⟨0, by rw [mul_zero, ofByte_zero], .inl rfl⟩
  · exact ⟨b, mul_one _, .inr rfl⟩

/-- The result of the lookup in a sparse Merkle tree is a bit. -/
theorem SMTVerify.isBit {virtualKey mode out : Signal} {smt : SmtInputs}
    (h : SMTVerify T virtualKey smt mode out) : IsBit out := by
  obtain ⟨_, _, _, _, _, -, -, hroot, -, hmode, rfl⟩ := h
  have hbit {a b c : Signal} (h : IsEqual a b c) : IsBit c := by
    rw [isEqual_iff.mp h, isBit_iff]
    split
    · exact .inr rfl
    · exact .inl rfl
  exact (hbit hroot).mul (hbit hmode)

/-- The older-than characters are hidden, or write an age the holder has passed. -/
private theorem exists_ages {doc : DataGroup1 d} (hdoc : inp.dg1 = fun i => ofByte (doc i))
    {c : Fin 6 → ℤ} (hc : ∀ i, |c i| ≤ 255) (hdate : inp.currentDate = fun i => (c i : Signal))
    (hselector : IsBit inp.selectorOlderThan) {isOlderThan : Signal}
    (holder : IsOlderThan inp.majority inp.currentDate (birthDate inp.dg1) isOlderThan) :
    ∃ ages : Fin 2 → UInt8,
      (∀ i, isOlderThan * inp.majority i * inp.selectorOlderThan = ofByte (ages i)) ∧
      ((ages 0 = 0 ∧ ages 1 = 0) ∨ ∃ age ≤ 99, ages 0 = UInt8.ofNat (48 + age / 10) ∧
        ages 1 = UInt8.ofNat (48 + age % 10) ∧ (birth doc).Older age (.ofNumbers c)) := by
  have hbirth : birthDate inp.dg1 = fun i => (charNumbers (birthDate doc) i : Signal) + 48 := by
    rw [← ofByte_eq_charNumbers, hdoc]
    rfl
  rw [hbirth, hdate, isOlderThan_iff hc (abs_charNumbers_le _)] at holder
  obtain ⟨age, hage, hmajority, -, hout⟩ := holder
  change isOlderThan = if (birth doc).Older age (.ofNumbers c) then 1 else 0 at hout
  -- the characters are hidden by the selector, or by an age not reached
  have hhidden (h : isOlderThan * inp.selectorOlderThan = 0) (i : Fin 2) :
      isOlderThan * inp.majority i * inp.selectorOlderThan = ofByte 0 := by
    rw [mul_right_comm, h, zero_mul, ofByte_zero]
  rcases isBit_iff.mp hselector with hzero | hone
  · exact ⟨fun _ => 0, hhidden (by rw [hzero, mul_zero]), .inl ⟨rfl, rfl⟩⟩
  · by_cases hold : (birth doc).Older age (.ofNumbers c)
    · refine ⟨![UInt8.ofNat (48 + age / 10), UInt8.ofNat (48 + age % 10)], ?_,
        .inr ⟨age, hage, rfl, rfl, hold⟩⟩
      intro i
      rw [hout, if_pos hold, one_mul, hone, mul_one, hmajority]
      match i with
      | 0 => exact (ofByte_ofNat (by omega)).symm
      | 1 => exact (ofByte_ofNat (by omega)).symm
    · exact ⟨fun _ => 0, hhidden (by rw [hout, if_neg hold, zero_mul]), .inl ⟨rfl, rfl⟩⟩

/-- The revealed signals are bytes, and show the document on the day of the proof. -/
theorem exists_revealed {doc : DataGroup1 d} (hdoc : inp.dg1 = fun i => ofByte (doc i))
    {c : Fin 6 → ℤ} (hc : ∀ i, |c i| ≤ 255) (hdate : inp.currentDate = fun i => (c i : Signal))
    (hselectorDg1 : ∀ i, IsBit (inp.selectorDg1 i))
    (hselectorOlderThan : IsBit inp.selectorOlderThan) (hselectorOfac : IsBit inp.selectorOfac)
    {isOlderThan : Signal} {ofacCheckResults : Fin (ofacCount d) → Signal}
    (holder : IsOlderThan inp.majority inp.currentDate (birthDate inp.dg1) isOlderThan)
    (hofac : ∀ i, IsBit (ofacCheckResults i)) :
    ∃ bytes : Bytes, revealedData inp isOlderThan ofacCheckResults = bytes.map ofByte ∧
      bytes.length = d.revealedLength ∧ Shows doc (.ofNumbers c) bytes := by
  have hmrz (i : Fin (mrzLength d)) : ∃ b, DiscloseCircuit.mrz inp.dg1 i * inp.selectorDg1 i =
      ofByte b ∧ (b = 0 ∨ b = DiscloseCircuit.mrz doc i) := by
    rw [hdoc]
    exact exists_ofByte_mul (hselectorDg1 i) _
  choose zone hzone hzone' using hmrz
  obtain ⟨ages, hages, hages'⟩ := exists_ages hdoc hc hdate hselectorOlderThan holder
  -- a result and its selector are bits, and so is what they show
  have hresult (i : Fin (ofacCount d)) :
      ∃ b, ofacCheckResults i * inp.selectorOfac = ofByte b := by
    obtain ⟨b, hb⟩ := ((hofac i).mul hselectorOfac).exists_ofBool
    refine ⟨if b then 1 else 0, hb.trans ?_⟩
    cases b <;> simp [ofBool, ofByte]
  choose results hresults using hresult
  -- the three parts, one after the other
  refine ⟨List.ofFn zone ++ (List.ofFn ages ++ List.ofFn results), ?_, ?_, ?_, ?_⟩
  · rw [revealedData]
    simp only [hzone, hages, hresults, List.map_append, List.map_ofFn, List.append_assoc]
    rfl
  · rw [revealedLength_eq]
    simp only [List.length_append, List.length_ofFn]
    omega
  · intro i
    rw [List.getElem?_append_left (by simp), List.getElem?_ofFn, dif_pos i.isLt]
    exact (hzone' i).imp (congrArg some) (congrArg some)
  · have hat (k : Fin 2) : (List.ofFn zone ++ (List.ofFn ages ++ List.ofFn results))[mrzLength d +
        (k : ℕ)]? = some (ages k) := by
      rw [List.getElem?_append_right (by simp), List.length_ofFn, Nat.add_sub_cancel_left,
        List.getElem?_append_left (by rw [List.length_ofFn]; exact k.isLt), List.getElem?_ofFn,
        dif_pos k.isLt]
    have h0 := hat 0
    have h1 := hat 1
    rw [Fin.val_zero, Nat.add_zero] at h0
    rw [Fin.val_one] at h1
    rw [h0, h1]
    rcases hages' with ⟨h, h'⟩ | ⟨age, hage, h, h', hold⟩
    · exact .inl ⟨congrArg some h, congrArg some h'⟩
    · exact .inr ⟨age, hage, congrArg some h, congrArg some h', hold⟩

/-- **What a proof shows**: its revealed data is that of one document, which has not expired on
the day the proof is made for. -/
theorem VcAndDisclose.shows (hpacks : T.Packs) (h : VcAndDisclose T inp pubSignals)
    {c : Fin 6 → ℤ} (hc : ∀ i, |c i| ≤ 255) (hdate : inp.currentDate = fun i => (c i : Signal)) :
    ∃ doc : DataGroup1 d, (inp.dg1 = fun i => ofByte (doc i)) ∧
      Shows doc (.ofNumbers c) (d.revealedData pubSignals) ∧
      (DateNumbers.ofNumbers c).Before (expiry doc) := by
  obtain ⟨doc, hdoc⟩ := h.verifyCommitment.exists_bytes
  refine ⟨doc, hdoc, ?_, ?_⟩
  · obtain ⟨_, countries, hdisclose, rfl⟩ := h.disclose
    obtain ⟨isOlderThan, results, holder, hofac, rfl⟩ := hdisclose.revealed
    obtain ⟨bytes, hbytes, hlen, hshows⟩ := exists_revealed hdoc hc hdate hdisclose.selectorDg1
      hdisclose.selectorOlderThan hdisclose.selectorOfac holder fun i => (hofac i).isBit
    rwa [hbytes, revealedData_publicSignals hpacks hlen]
  · -- the other template checks the date of expiry, from the same characters
    have hvalid := h.isValid
    have hexpiry : validityDate inp.dg1 =
        fun i => (charNumbers (validityDate doc) i : Signal) + 48 := by
      rw [← ofByte_eq_charNumbers, hdoc]
      rfl
    rw [hexpiry, hdate, isValid_iff hc (abs_charNumbers_le _)] at hvalid
    exact hvalid.2

/-! ## Proofs a holder can make -/

/-- Six characters that are digits. -/
def Digits (characters : Fin 6 → UInt8) : Prop :=
  ∀ i, 48 ≤ (characters i).toNat ∧ (characters i).toNat ≤ 57

instance (characters : Fin 6 → UInt8) : Decidable (Digits characters) :=
  inferInstanceAs (Decidable (∀ _, _))

/-- The bytes of a proof that reveals the characters `shown` and an age, but no OFAC result. -/
def honestBytes (doc : DataGroup1 d) (shown : Fin (mrzLength d) → Bool) (age : ℕ) : Bytes :=
  (List.ofFn fun i => if shown i then mrz doc i else 0) ++
    ([UInt8.ofNat (48 + age / 10), UInt8.ofNat (48 + age % 10)] ++
      List.replicate (ofacCount d) 0)

theorem honestBytes_length (doc : DataGroup1 d) (shown : Fin (mrzLength d) → Bool) (age : ℕ) :
    (honestBytes doc shown age).length = d.revealedLength := by
  simp [honestBytes, revealedLength_eq]
  omega

/-- The character of a document at a position is revealed or hidden. -/
theorem honestBytes_mrz (doc : DataGroup1 d) (shown : Fin (mrzLength d) → Bool) (age : ℕ)
    (i : Fin (mrzLength d)) :
    (honestBytes doc shown age)[(i : ℕ)]? = some (if shown i then mrz doc i else 0) := by
  rw [honestBytes, List.getElem?_append_left (by simp), List.getElem?_ofFn, dif_pos i.isLt]

/-- The two characters behind the machine-readable zone write the age. -/
theorem honestBytes_age (doc : DataGroup1 d) (shown : Fin (mrzLength d) → Bool) (age : ℕ) :
    (honestBytes doc shown age)[mrzLength d]? = some (UInt8.ofNat (48 + age / 10)) ∧
      (honestBytes doc shown age)[mrzLength d + 1]? = some (UInt8.ofNat (48 + age % 10)) := by
  have hat (k : ℕ) : (honestBytes doc shown age)[mrzLength d + k]? =
      ([UInt8.ofNat (48 + age / 10), UInt8.ofNat (48 + age % 10)] ++
        List.replicate (ofacCount d) 0)[k]? := by
    rw [honestBytes, List.getElem?_append_right (by simp), List.length_ofFn,
      Nat.add_sub_cancel_left]
  exact ⟨hat 0, hat 1⟩

/-- The inputs of a holder for them, on a day, against a list of countries. -/
def honest (T : Templates) (doc : DataGroup1 d) (shown : Fin (mrzLength d) → Bool) (c : Fin 6 → ℕ)
    (age : ℕ) (list : Fin (40 * 3) → Signal) (secret attestationId scope userIdentifier : Signal) :
    Inputs d :=
  let inp : Inputs d :=
    { secret := secret
      attestationId := attestationId
      dg1 := fun i => ofByte (doc i)
      eContentShaBytesPackedHash := 0
      dscTreeLeaf := 0
      merkleRoot := 0
      leafDepth := 0
      path := fun _ => 0
      siblings := fun _ => 0
      selectorDg1 := fun i => ofBool (shown i)
      majority := ageCharacters age
      currentDate := fun i => ((c i : ℕ) : Signal)
      selectorOlderThan := 1
      forbiddenCountriesList := list
      ofac := fun _ => ⟨0, 0, fun _ => 0⟩
      selectorOfac := 0
      scope := scope
      userIdentifier := userIdentifier }
  { inp with
    merkleRoot :=
      T.binaryMerkleRoot (commitment T inp) 0 (List.ofFn inp.path) (List.ofFn inp.siblings) }

/-- The shift of a path of one step has six bits. -/
theorem exists_num2Bits_shift : ∃ bits : Fin 6 → Signal, Num2Bits 6 (64 - 1) bits :=
  exists_num2Bits_iff.mpr ⟨63, by decide, by norm_num⟩

/-- Whatever a document is looked up with, there is a result. -/
theorem exists_smtVerify (virtualKey mode : Signal) (smt : SmtInputs) :
    ∃ out, SMTVerify T virtualKey smt mode out :=
  ⟨_, 1, _, _, _, _, exists_num2Bits_shift, isEqual_iff.mpr rfl, isEqual_iff.mpr rfl,
    isEqual_iff.mpr rfl, isEqual_iff.mpr rfl, rfl⟩

section Honest

variable {doc : DataGroup1 d} {shown : Fin (mrzLength d) → Bool} {c : Fin 6 → ℕ} {age : ℕ}
  {list : Fin (40 * 3) → Signal}

private theorem digits_of_characters {characters : Fin 6 → UInt8} (h : Digits characters)
    (i : Fin 6) : 0 ≤ charNumbers characters i ∧ charNumbers characters i ≤ 9 := by
  have := h i
  unfold charNumbers
  omega

/-- Digits are compared. -/
private theorem comparable_of_digits {m n : Fin 6 → ℤ} (hm : ∀ i, 0 ≤ m i ∧ m i ≤ 9)
    (hn : ∀ i, 0 ≤ n i ∧ n i ≤ 9) {j k : ℤ} (hj : 0 ≤ j ∧ j ≤ 100) (hk : 0 ≤ k ∧ k ≤ 100) :
    ((DateNumbers.ofNumbers m).addYears j).Comparable ((DateNumbers.ofNumbers n).addYears k) := by
  have h0 := And.intro (hm 0) (hn 0)
  have h1 := And.intro (hm 1) (hn 1)
  have h2 := And.intro (hm 2) (hn 2)
  have h3 := And.intro (hm 3) (hn 3)
  have h4 := And.intro (hm 4) (hn 4)
  have h5 := And.intro (hm 5) (hn 5)
  unfold DateNumbers.Comparable DateNumbers.Fits DateNumbers.addYears DateNumbers.ofNumbers
  dsimp only
  omega

/-- The inputs reveal these bytes. -/
private theorem revealedData_honest (hage : age ≤ 99) (results : Fin (ofacCount d) → Signal)
    {secret attestationId scope userIdentifier : Signal} :
    revealedData (honest T doc shown c age list secret attestationId scope userIdentifier) 1
      results = (honestBytes doc shown age).map ofByte := by
  -- a hidden character is null
  have hmrz (i : Fin (mrzLength d)) : ofByte (mrz doc i) * ofBool (shown i) =
      ofByte (if shown i then mrz doc i else 0) := by
    cases shown i <;> simp [ofBool, ofByte_zero]
  have hages : List.ofFn (fun i => 1 * ageCharacters age i * 1) =
      [UInt8.ofNat (48 + age / 10), UInt8.ofNat (48 + age % 10)].map ofByte := by
    simp only [List.map_cons, List.map_nil, one_mul, mul_one,
      ofByte_ofNat (show 48 + age / 10 < 256 by omega),
      ofByte_ofNat (show 48 + age % 10 < 256 by omega)]
    rfl
  have hresults : List.ofFn (fun i => results i * 0) =
      (List.replicate (ofacCount d) 0).map ofByte := by
    simp [ofByte_zero]
  unfold honestBytes
  rw [List.map_append, List.map_append, List.map_ofFn, ← hages, ← hresults, ← List.append_assoc]
  exact congrArg (· ++ _ ++ _) (congrArg List.ofFn (funext hmrz))

/-- **What a holder can prove**: the inputs satisfy the circuit when the document has not expired,
its holder has passed the age, and no code of the list is its issuing state. -/
theorem honest_satisfies (hbirth : Digits (birthDate doc)) (hexpiry : Digits (validityDate doc))
    (hc : ∀ i, c i ≤ 9) (hage : age ≤ 99)
    (hvalid : (DateNumbers.ofNumbers fun i => (c i : ℤ)).Before (expiry doc))
    (hold : (birth doc).Older age (.ofNumbers fun i => (c i : ℤ)))
    (hlist : ∀ i, countryAt list i ≠ issuer fun i => ofByte (doc i))
    (secret attestationId scope userIdentifier : Signal) :
    let inp := honest T doc shown c age list secret attestationId scope userIdentifier
    VcAndDisclose T inp (publicSignals T d inp
      (T.packBytes ((honestBytes doc shown age).map ofByte)) (packCountrySignals T list)) := by
  intro inp
  have hdigits (i : Fin 6) : 0 ≤ (c i : ℤ) ∧ (c i : ℤ) ≤ 9 := by
    have := hc i
    omega
  have hsmall (i : Fin 6) : |(c i : ℤ)| ≤ 255 := by
    have := hc i
    rw [abs_le]
    omega
  have hdate : inp.currentDate = fun i => (((c i : ℤ)) : Signal) := by
    funext i
    exact (Int.cast_natCast _).symm
  -- every template in turn: bytes, expiry, selectors, age and results, countries
  refine ⟨⟨?_, rfl⟩, ?_, _, _, ⟨?_, ?_, ?_, ?_, ?_⟩, rfl⟩
  · intro i
    exact exists_num2Bits_iff.mpr ⟨(doc i).toNat, (doc i).toNat_lt, rfl⟩
  · have hcharacters : validityDate inp.dg1 =
        fun i => (charNumbers (validityDate doc) i : Signal) + 48 :=
      ofByte_eq_charNumbers _
    rw [hdate, hcharacters, isValid_iff hsmall (abs_charNumbers_le _)]
    have hcomparable := comparable_of_digits hdigits (digits_of_characters hexpiry)
      (by decide : (0 : ℤ) ≤ 0 ∧ (0 : ℤ) ≤ 100) (by decide : (0 : ℤ) ≤ 0 ∧ (0 : ℤ) ≤ 100)
    unfold DateNumbers.addYears at hcomparable
    rw [add_zero, add_zero] at hcomparable
    exact ⟨hcomparable, hvalid⟩
  · exact fun i => isBit_ofBool _
  · exact isBit_iff.mpr (.inr rfl)
  · exact isBit_iff.mpr (.inl rfl)
  · choose results hresults using fun i : Fin (ofacCount d) =>
      exists_smtVerify (T := T) (ofacKeys T d inp.dg1 i) 0 (inp.ofac i)
    refine ⟨1, results, ?_, hresults, ?_⟩
    · have hcharacters : birthDate inp.dg1 =
          fun i => (charNumbers (birthDate doc) i : Signal) + 48 :=
        ofByte_eq_charNumbers _
      rw [hdate, hcharacters, isOlderThan_iff hsmall (abs_charNumbers_le _)]
      refine ⟨age, hage, rfl, ⟨?_, ?_⟩, (if_pos hold).symm⟩
      · have hcomparable := comparable_of_digits hdigits (digits_of_characters hbirth)
          (by decide : (0 : ℤ) ≤ 0 ∧ (0 : ℤ) ≤ 100) (by decide : (0 : ℤ) ≤ 0 ∧ (0 : ℤ) ≤ 100)
        unfold DateNumbers.addYears at hcomparable
        rw [add_zero, add_zero] at hcomparable
        exact hcomparable.1
      · refine comparable_of_digits (digits_of_characters hbirth) hdigits (by omega) ?_
        unfold DateNumbers.century
        split <;> decide
    · exact congrArg T.packBytes (revealedData_honest hage results).symm
  · exact proveCountry_iff.mpr ⟨hlist, rfl⟩

end Honest

end DiscloseCircuit

end RuleSelf
