import RuleSelf.Properties.Screening
import RuleSelf.Self.CountryLists
import RuleSelf.Self.ReadableCountries

/-!
# Lists of Countries

A list of countries is written by the scripts into a config and into the inputs of the
circuits, packed by the circuits into the signals of a proof, compared by the hub and read by
the contracts and by the scripts. All of them mean the same list.
-/

namespace RuleSelf

open Evm SelfStructs IdentityVerificationHub CountryCircuit DiscloseCircuit CountryLists Formatter

variable {T : Templates} {d : DocumentType} {inp : Inputs d} {pubSignals : Fin 21 → Word}
  {countries : List JsString} {list : CountriesList}

/-! ## A list in the circuits -/

/-- A byte of the signals is a letter of the list. -/
theorem signalByte_packCountries (list : CountriesList) {n : ℕ} (hn : n < 40 * 3) :
    signalByte (packCountries list) n = list ⟨n, hn⟩ := by
  have hq : n / 31 < 4 := by omega
  have hword : signalByte (packCountries list) n =
      byteAt (packCountries list ⟨n / 31, hq⟩) (n % 31) :=
    signalByte_eq (Nat.mod_lt _ (by decide)) (by dsimp only; omega)
  have hplace : 31 * (n / 31) + n % 31 = n := Nat.div_add_mod n 31
  rw [hword, byteAt, (packCountries_toNat list _).1, byte_leNat, slice, Nat.add_sub_cancel_left,
    List.getD_eq_getElem?_getD, List.getElem?_take_of_lt (Nat.mod_lt _ (by decide)),
    List.getElem?_drop, hplace, List.getElem?_ofFn, dif_pos hn, Option.getD_some]

/-- The contracts read the codes of the list. -/
theorem extractForbiddenCountriesFromPacked_packCountries (list : CountriesList) :
    extractForbiddenCountriesFromPacked (packCountries list) =
      .ok fun j => List.ofFn (codeAt list j) := by
  -- packed words are below the field, so the extraction does not revert
  have hfield : ¬ ∃ i, snarkScalarField ≤ (packCountries list i).toNat := by
    rintro ⟨i, hle⟩
    exact absurd (packCountries_toNat list i).2 (not_lt.mpr hle)
  unfold extractForbiddenCountriesFromPacked
  simp only [Revert.check_bind_eq_ok, Revert.revertIf_eq_ok, Revert.pure_eq_ok]
  refine ⟨hfield, funext fun j => ?_⟩
  have hj := j.isLt
  rw [forbiddenCountry_eq, signalByte_packCountries list (by omega),
    signalByte_packCountries list (by omega), signalByte_packCountries list (by omega)]
  simp [codeAt, List.ofFn_succ, mul_comm]

/-- The words of the signals, as the scripts write them. -/
theorem packedWords_list (list : CountriesList) :
    packedWords (List.ofFn list) 4 =
      List.ofFn fun k => hexWord (packCountries list k).toNat := by
  have hword (k : Fin 4) : hexWord (packCountries list k).toNat =
      hexWord (leNat (slice (List.ofFn list) (31 * k) (31 * k + 31))) :=
    congrArg hexWord (packCountries_toNat list k).1
  simp only [hword]
  rfl

/-! ## The list the scripts format -/

/-- Letters that list the countries as the scripts format them. -/
def ListsLetters (list : CountriesList) (countries : List JsString) : Prop :=
  formatCountriesList countries = .ok ((List.ofFn list).map UInt8.toNat)

/-- The inputs of the circuits list the countries. -/
def Lists (signals : Fin (40 * 3) → Signal) (countries : List JsString) : Prop :=
  formatCountriesList countries = .ok ((List.ofFn signals).map ZMod.val)

theorem listsLetters_iff (hcodes : ∀ country ∈ countries, IsCode country) :
    ListsLetters list countries ↔ countries.length ≤ maxForbiddenCountriesListLength ∧
      List.ofFn list = paddedLetters countries := by
  have hinjective : Function.Injective UInt8.toNat := fun _ _ h => UInt8.toNat_inj.mp h
  rw [ListsLetters, formatCountriesList_eq_ok hcodes,
    (List.map_injective_iff.mpr hinjective).eq_iff, eq_comm (a := List.ofFn list)]

/-- The signals of letters list what the letters list. -/
theorem lists_listSignals : Lists (listSignals list) countries ↔ ListsLetters list countries := by
  have hval : (List.ofFn (listSignals list)).map ZMod.val = (List.ofFn list).map UInt8.toNat := by
    rw [List.map_ofFn, List.map_ofFn]
    exact congrArg List.ofFn (funext fun i => val_ofByte (list i))
  rw [Lists, hval, ListsLetters]

/-- Signals that list countries are letters. -/
theorem Lists.exists_letters (hcodes : ∀ country ∈ countries, IsCode country)
    {signals : Fin (40 * 3) → Signal} (h : Lists signals countries) :
    ∃ list, signals = listSignals list ∧ ListsLetters list countries := by
  obtain ⟨-, hsignals⟩ := (formatCountriesList_eq_ok hcodes).mp h
  -- each signal is a letter of those the scripts write
  have hsmall (i : Fin (40 * 3)) : ∃ b : UInt8, signals i = ofByte b := by
    have hmem : (signals i).val ∈ (paddedLetters countries).map UInt8.toNat := by
      rw [hsignals]
      exact List.mem_map_of_mem (List.mem_ofFn.mpr ⟨i, rfl⟩)
    obtain ⟨b, -, hb⟩ := List.mem_map.mp hmem
    exact ⟨b, by rw [ofByte, hb, ZMod.natCast_zmod_val]⟩
  choose list hlist using hsmall
  obtain rfl : signals = listSignals list := funext hlist
  exact ⟨list, rfl, lists_listSignals.mp h⟩

/-- The letters of a code of the list. -/
theorem ofFn_codeAt (list : CountriesList) (j : Fin 40) :
    List.ofFn (codeAt list j) = ((List.ofFn list).drop (3 * j)).take 3 := by
  have hj := j.isLt
  refine List.ext_getElem ?_ fun i hi _ => ?_
  · rw [List.length_ofFn, List.length_take, List.length_drop, List.length_ofFn]
    omega
  · rw [List.getElem_ofFn, List.getElem_take, List.getElem_drop, List.getElem_ofFn]
    exact congrArg list (Fin.ext (congrArg (· + i) (mul_comm j.val 3)))

/-- A code among padded letters. -/
theorem drop_letters (hcodes : ∀ country ∈ countries, IsCode country) {j m : ℕ}
    (hj : 3 * j + 3 ≤ (letters countries ++ List.replicate m 0).length) :
    ((letters countries ++ List.replicate m 0).drop (3 * j)).take 3 =
      (countries.getD j [0, 0, 0]).map letter := by
  induction countries generalizing j with
  | nil =>
    -- behind the countries there are null characters only
    have hzeros : 3 * j + 3 ≤ m := by simpa [letters] using hj
    have hletters : letters [] = [] := rfl
    rw [hletters, List.nil_append, List.drop_replicate, List.take_replicate,
      Nat.min_eq_left (by omega), List.getD_nil]
    rfl
  | cons country countries ih =>
    have hcode := hcodes _ List.mem_cons_self
    have hlen : (country.map letter).length = 3 := by rw [List.length_map, hcode.1]
    rw [letters_cons, List.append_assoc]
    cases j with
    | zero =>
      rw [mul_zero, List.drop_zero, List.take_left' hlen, List.getD_cons_zero]
    | succ j =>
      rw [letters_cons, List.append_assoc, List.length_append, hlen] at hj
      -- skip the first country, and go on in the rest
      have hdrop : 3 * (j + 1) = (country.map letter).length + 3 * j := by
        rw [hlen]
        omega
      rw [hdrop, List.drop_length_add_append, List.getD_cons_succ,
        ih (fun c hc => hcodes c (List.mem_cons_of_mem _ hc)) (by omega)]

/-- The codes of the list are the countries, and null characters behind them. -/
theorem ListsLetters.codeAt (hcodes : ∀ country ∈ countries, IsCode country)
    (h : ListsLetters list countries) (j : Fin 40) :
    List.ofFn (codeAt list j) = (countries.getD j [0, 0, 0]).map letter := by
  obtain ⟨-, hlist⟩ := (listsLetters_iff hcodes).mp h
  have hlen : (List.ofFn list).length = 40 * 3 := List.length_ofFn
  rw [hlist, paddedLetters] at hlen
  have hj := j.isLt
  rw [ofFn_codeAt, hlist, paddedLetters, drop_letters hcodes (by omega)]

/-! ## The list of a config -/

/-- The config holds a packed list. -/
def HoldsList (c : VerificationConfigV2) (packed : List Hex) : Prop :=
  List.ofFn c.forbiddenCountriesListPacked = packed.map fun word => BitVec.ofNat 256 (hexValue word)

/-- The elements of a config, as the scripts write them. -/
def wordsOf (elements : Fin 4 → Word) : List Hex := List.ofFn fun k => hexWord (elements k).toNat

theorem wordsOf_injective : Function.Injective wordsOf := by
  intro x y h
  funext k
  have hk : hexWord (x k).toNat = hexWord (y k).toNat := congrFun (List.ofFn_injective h) k
  have hvalue := congrArg hexValue hk
  rw [hexValue_hexWord, hexValue_hexWord] at hvalue
  exact BitVec.eq_of_toNat_eq hvalue

theorem wordsOf_packCountries (list : CountriesList) :
    wordsOf (packCountries list) = packedWords (List.ofFn list) 4 :=
  (packedWords_list list).symm

theorem holdsList_iff {c : VerificationConfigV2} {bs : Bytes} {n : ℕ} :
    HoldsList c (packedWords bs n) ↔ wordsOf c.forbiddenCountriesListPacked = packedWords bs n := by
  -- a word and its 64 hexadecimal digits determine each other
  have hslice (i : ℕ) : (slice bs (31 * i) (31 * i + 31)).length ≤ 31 := by
    rw [slice, List.length_take]
    omega
  have hback (w : Word) : BitVec.ofNat 256 (hexValue (hexWord w.toNat)) = w := by
    rw [hexValue_hexWord, BitVec.ofNat_toNat, BitVec.setWidth_eq]
  have hforth : (packedWords bs n).map (fun word =>
      hexWord (BitVec.ofNat 256 (hexValue word)).toNat) = packedWords bs n := by
    unfold packedWords
    rw [List.map_map]
    refine List.map_congr_left fun i _ => ?_
    rw [Function.comp_apply, hexValue_hexWord, ← packWord, (packWord_toNat (hslice i)).1]
  constructor
  · intro h
    have hwords := congrArg (List.map fun w : Word => hexWord w.toNat) h
    rw [List.map_ofFn, List.map_map] at hwords
    exact hwords.trans hforth
  · intro h
    have hwords := congrArg (List.map fun word => BitVec.ofNat 256 (hexValue word)) h
    rw [wordsOf, List.map_ofFn] at hwords
    simp only [Function.comp_def, hback] at hwords
    exact hwords

/-- The words of the signals are those the packer makes of the list. -/
theorem ListsLetters.wordsOf_eq (hcodes : ∀ country ∈ countries, IsCode country)
    (h : ListsLetters list countries) :
    wordsOf (packCountries list) = packedWords (letters countries) 4 := by
  rw [wordsOf_packCountries, ((listsLetters_iff hcodes).mp h).2, packedWords_paddedLetters]

/-- **A list of countries means the same everywhere**: where the inputs of a proof list some
countries, both packers make the same config of them, the hub finds the signals to be those
of a config exactly when the config was made of the same countries, and the scripts and the
contracts read these countries off the signals. -/
theorem country_lists_agree (hpacks : T.Packs) (h : VcAndDisclose T inp pubSignals)
    (hcodes : ∀ country ∈ countries, IsCode country)
    (hlist : Lists inp.forbiddenCountriesList countries) :
    getPackedForbiddenCountries countries = packForbiddenCountriesList countries ∧
    (∀ (c : VerificationConfigV2) (countries' : List JsString) (packed : List Hex),
      (∀ country ∈ countries', IsCode country) →
      packForbiddenCountriesList countries' = .ok packed → HoldsList c packed →
      (d.forbiddenCountries pubSignals = c.forbiddenCountriesListPacked ↔
        countries = countries')) ∧
    unpackForbiddenCountriesList (wordsOf (d.forbiddenCountries pubSignals)) = countries ∧
    extractForbiddenCountriesFromPacked (d.forbiddenCountries pubSignals) =
      .ok fun j => (countries.getD j [0, 0, 0]).map letter := by
  -- the inputs are letters, which the circuits pack as the configs do
  obtain ⟨list, hletters, hlist⟩ := hlist.exists_letters hcodes
  have hlen := letters_length hcodes
  have hle : countries.length ≤ 40 := ((listsLetters_iff hcodes).mp hlist).1
  have hwords := hlist.wordsOf_eq hcodes
  have hread : unpackForbiddenCountriesList (wordsOf (packCountries list)) = countries := by
    rw [hwords, unpackForbiddenCountriesList_packedWords hcodes (by omega)]
  rw [h.countries.2, hletters, packCountrySignals_eq hpacks]
  refine ⟨?_, ?_, hread, ?_⟩
  · obtain ⟨n, -, -, hn, heq⟩ := packForbiddenCountriesList_eq hcodes
    obtain rfl : n = 4 := hn (Nat.le_succ_of_le hle)
    rw [heq, getPackedForbiddenCountries_eq hcodes hle, packedWords_paddedLetters]
  · intro c countries' packed hcodes' hpacked hholds
    -- the words that the config holds were packed from its own list of countries
    obtain ⟨n, -, hfit, hn, heq⟩ := packForbiddenCountriesList_eq hcodes'
    obtain rfl : packedWords (letters countries') n = packed :=
      Except.ok.inj (heq.symm.trans hpacked)
    rw [← wordsOf_injective.eq_iff, holdsList_iff.mp hholds]
    constructor
    · intro hsame
      rw [← hread, hsame, unpackForbiddenCountriesList_packedWords hcodes' hfit]
    · rintro rfl
      obtain rfl : n = 4 := hn (Nat.le_succ_of_le hle)
      exact hwords
  · rw [extractForbiddenCountriesFromPacked_packCountries]
    exact congrArg Except.ok (funext fun j => hlist.codeAt hcodes j)

/-! ## Registration -/

variable {Roles : Type} {dep : Deployment Roles} {t t' : World Roles} {tx : Transaction}
  {c : VerificationConfigV2} {proof : VcAndDiscloseProof} {P C : Bytes} {packed : List Hex}

/-- A list of some countries, for the circuits. -/
def listOf (countries : List JsString) : CountriesList :=
  fun i => (paddedLetters countries).getD i 0

theorem listsLetters_listOf (hcodes : ∀ country ∈ countries, IsCode country)
    (hle : countries.length ≤ maxForbiddenCountriesListLength) :
    ListsLetters (listOf countries) countries := by
  refine (listsLetters_iff hcodes).mpr ⟨hle, List.ext_getElem ?_ fun i hi hi' => ?_⟩
  · rw [List.length_ofFn, paddedLetters, List.length_append, letters_length hcodes,
      List.length_replicate]
    unfold maxForbiddenCountriesListLength at hle ⊢
    omega
  · rw [List.getElem_ofFn, listOf, List.getD_eq_getElem _ _ hi']

/-- PRK and IRN. -/
def twoCountries : List JsString := [[80, 82, 75], [73, 82, 78]]

theorem isCode_twoCountries : ∀ country ∈ twoCountries, IsCode country := by
  simp [twoCountries, IsCode]

theorem lists_twoCountries : ListsLetters (listOf twoCountries) twoCountries :=
  listsLetters_listOf isCode_twoCountries (by decide)

/-- Neither has issued the passport of the adult holder. -/
theorem codeAt_twoCountries (j : Fin 40) :
    codeAt (listOf twoCountries) j ≠ issuingState adultPassport := by
  intro h
  have hcode := lists_twoCountries.codeAt isCode_twoCountries j
  rw [h] at hcode
  revert j
  decide

/-- The contracts read PRK and IRN off the signals of his proof, and null characters. -/
theorem country_lists_agree_twoCountries :
    extractForbiddenCountriesFromPacked (DocumentType.passport.forbiddenCountries
      (signalsAgainst (listOf twoCountries))) =
      .ok fun j => (twoCountries.getD j [0, 0, 0]).map letter :=
  (country_lists_agree plainTemplates_packs (vcAndDisclose_against codeAt_twoCountries)
    isCode_twoCountries (lists_listSignals.mpr lists_twoCountries)).2.2.2

end RuleSelf
