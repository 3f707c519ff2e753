import Mathlib.Data.List.OfFn
import RuleSelf.Contract.Registrable
import RuleSelf.Self.CountryCircuit

/-!
# Exclusion by Nationality

The circuits compare the issuing state of a document with the forbidden countries, and the
hub compares the packed list with the config's. A holder whose nationality is forbidden is
therefore kept out when the issuing state of the document is forbidden too, and registers
with a document another state has issued.
-/

namespace RuleSelf

open Evm SelfStructs CountryCircuit

variable {packBytes : CountriesList → Fin 4 → Word} {d : DocumentType} {c : VerificationConfigV2}

/-- A code is one of those packed in the config's list. -/
def Forbidden (packBytes : CountriesList → Fin 4 → Word) (c : VerificationConfigV2)
    (code : Fin 3 → UInt8) : Prop :=
  ∃ list, packBytes list = c.forbiddenCountriesListPacked ∧ ∃ i, codeAt list i = code

/-- In every run in which the verifiers accept only proofs over some document of their type, no
registration under `c` is from a proof over a document whose holder has a forbidden
nationality. -/
def NationalityExcluded (packBytes : CountriesList → Fin 4 → Word) (d : DocumentType)
    (c : VerificationConfigV2) (dg1 : DataGroup1 d) : Prop :=
  EveryRegistration (fun d' proof => ∃ dg1' : DataGroup1 d', ProofOver packBytes d' dg1' proof) d c
    fun _ _ proof => ProofOver packBytes d dg1 proof → ¬ Forbidden packBytes c (nationality dg1)

/-- The issuing state of a document that registers is not forbidden. -/
private theorem CommitsUnder.issuingState_not_forbidden {Roles : Type} {dep : Deployment Roles}
    {w w' : World Roles} {tx : Transaction} {proof : VcAndDiscloseProof}
    (hcommits : CommitsUnder dep w tx w' d c proof) (hfree : CollisionFree dep.oracles c)
    (hinj : Function.Injective packBytes) (henabled : c.forbiddenCountriesEnabled = true)
    {dg1 : DataGroup1 d} (hover : ProofOver packBytes d dg1 proof) :
    ¬ Forbidden packBytes c (issuingState dg1) := by
  rintro ⟨list, hlist, i, hi⟩
  obtain ⟨list', hnot, hsignals⟩ := (proofOver_iff packBytes dg1 proof).mp hover
  have hconfig := (hcommits.meets hfree).forbiddenCountries henabled
  -- the list of the proof is the list of the config
  obtain rfl : list' = list := hinj (hsignals.symm.trans (hconfig.trans hlist.symm))
  exact hnot i hi

/-- A verifier that accepts exactly the proofs over documents of type `d` whose signals carry
the config's list. -/
def listVerifier (d : DocumentType) (c : VerificationConfigV2) (verifier : Address)
    (proof : VcAndDiscloseProof) : Bool :=
  decide (verifier = verifierOf d.attestationId ∧
    ∀ i, d.forbiddenCountries proof.pubSignals i = c.forbiddenCountriesListPacked i)

theorem verifierOf_injective {d d' : DocumentType}
    (h : verifierOf d.attestationId = verifierOf d'.attestationId) : d = d' := by
  cases d <;> cases d' <;> first | rfl | exact absurd h (by decide)

/-- A proof over a document whose issuing state is not forbidden is made against the config's
list. -/
private theorem proofOver_of_forbidden {dg1 : DataGroup1 d}
    (hnationality : Forbidden packBytes c (nationality dg1))
    (hissuing : ¬ Forbidden packBytes c (issuingState dg1)) {proof : VcAndDiscloseProof}
    (hproof : d.forbiddenCountries proof.pubSignals = c.forbiddenCountriesListPacked) :
    ProofOver packBytes d dg1 proof := by
  obtain ⟨list, hlist, -⟩ := hnationality
  -- the issuing state is not in the list
  have hcodes (i : Fin 40) : codeAt list i ≠ issuingState dg1 :=
    fun hi => hissuing ⟨list, hlist, i, hi⟩
  exact (proofOver_iff packBytes dg1 proof).mpr ⟨list, hcodes, hproof.trans hlist.symm⟩

/-- A document whose holder is forbidden and whose issuing state is not registers under an
attainable config. -/
private theorem nationality_violated {dg1 : DataGroup1 d} (hc : Attainable c)
    (hnationality : Forbidden packBytes c (nationality dg1))
    (hissuing : ¬ Forbidden packBytes c (issuingState dg1)) :
    GrantedViolates (gatedOracles c (listVerifier d c)) d (checkedResults d c) c 0 0 0
      fun _ _ proof =>
        ProofOver packBytes d dg1 proof → ¬ Forbidden packBytes c (nationality dg1) := by
  have hgranted : d.forbiddenCountries
      ((Disclosure.granted d (checkedResults d c) c).proof d).pubSignals =
      c.forbiddenCountriesListPacked := Disclosure.forbiddenCountries_signals
  -- the verifier of the run accepts just the proofs that show the list of the config
  have haccepted : (gatedOracles c (listVerifier d c)).verifyProof (verifierOf d.attestationId)
      ((Disclosure.granted d (checkedResults d c) c).proof d) = true :=
    decide_eq_true ⟨rfl, congrFun hgranted⟩
  constructor
  · exact commitsUnder_granted hc checkedResults_eq_one (hashUserContext_gatedOracles c _) haccepted
      _ ⟨0, 0, 0, rfl⟩
  · intro hlaw
    exact hlaw (proofOver_of_forbidden hnationality hissuing hgranted) hnationality

/-- So no law excludes that nationality. -/
private theorem not_nationalityExcluded {dg1 : DataGroup1 d} (hc : Attainable c)
    (hnationality : Forbidden packBytes c (nationality dg1))
    (hissuing : ¬ Forbidden packBytes c (issuingState dg1)) :
    ¬ NationalityExcluded packBytes d c dg1 := by
  refine (nationality_violated hc hnationality hissuing).not_everyRegistration
    (collisionFree_gatedOracles c _) fun d' proof' haccepted => ?_
  -- the verifiers accept proofs over this document only
  obtain ⟨hverifier, hproof⟩ := of_decide_eq_true haccepted
  obtain rfl := verifierOf_injective hverifier
  exact ⟨dg1, proofOver_of_forbidden hnationality hissuing (funext hproof)⟩

/-- **When a nationality is excluded**: under a config that enables forbidden countries, no
run registers from a proof over a document if the nationality of its holder is forbidden,
if and only if the nationality is not forbidden, or the issuing state is forbidden too, or no
age is enough for the config. -/
theorem nationality_excluded_iff (hinj : Function.Injective packBytes) (d : DocumentType)
    (c : VerificationConfigV2) (henabled : c.forbiddenCountriesEnabled = true)
    (dg1 : DataGroup1 d) :
    NationalityExcluded packBytes d c dg1 ↔
      ¬ Forbidden packBytes c (nationality dg1) ∨ Forbidden packBytes c (issuingState dg1) ∨
        ¬ Attainable c := by
  constructor
  · intro hlaw
    by_contra hnot
    rw [not_or, not_or, not_not, not_not] at hnot
    obtain ⟨hnationality, hissuing, hc⟩ := hnot
    exact not_nationalityExcluded hc hnationality hissuing hlaw
  · intro hcondition Roles dep hub registries txs tx w' proof hfree _ hcommits hover
    -- not a listed national, or not provable, or nothing registers at all
    rcases hcondition with hnot | hissuing | hnot
    · exact hnot
    · exact absurd hissuing (hcommits.issuingState_not_forbidden hfree hinj henabled hover)
    · exact absurd (hcommits.meets hfree).attainable hnot

/-! ## A packing, and two documents -/

/-- A packing of a list, 31 bytes a word. -/
def packCountries (list : CountriesList) (k : Fin 4) : Word :=
  packWord (slice (List.ofFn list) (31 * k) (31 * k + 31))

theorem packCountries_injective : Function.Injective packCountries := by
  intro list list' h
  have hlen (l : CountriesList) (k : Fin 4) :
      (slice (List.ofFn l) (31 * k) (31 * k + 31)).length = min 31 (120 - 31 * k.val) := by
    rw [slice, List.length_take, List.length_drop, List.length_ofFn]
    omega
  have hle (k : Fin 4) : min 31 (120 - 31 * k.val) ≤ 31 := Nat.min_le_left _ _
  -- equal words have equal bytes, as far as they hold any
  have hslice (k : Fin 4) : slice (List.ofFn list) (31 * k) (31 * k + 31) =
      slice (List.ofFn list') (31 * k) (31 * k + 31) := by
    have hpack := congrFun h k
    unfold packCountries at hpack
    rw [← leBytes_packWord (hlen list k) (hle k), hpack, leBytes_packWord (hlen list' k) (hle k)]
  -- a list is its four slices put together
  have hwhole (l : CountriesList) : slice (List.ofFn l) 0 31 ++ (slice (List.ofFn l) 31 62 ++
      (slice (List.ofFn l) 62 93 ++ slice (List.ofFn l) 93 124)) = List.ofFn l := by
    rw [slice_append_slice _ 62 93 124 (by decide) (by decide),
      slice_append_slice _ 31 62 124 (by decide) (by decide),
      slice_append_slice _ 0 31 124 (by decide) (by decide)]
    exact List.take_of_length_le (by rw [List.drop_zero, List.length_ofFn]; decide)
  apply List.ofFn_injective
  rw [← hwhole list, ← hwhole list']
  exact congrArg₂ _ (hslice 0) (congrArg₂ _ (hslice 1) (congrArg₂ _ (hslice 2) (hslice 3)))

theorem slice_list_length_le (list : CountriesList) (k : ℕ) :
    (slice (List.ofFn list) (31 * k) (31 * k + 31)).length ≤ 31 := by
  rw [slice, List.length_take]
  omega

/-- Its words are elements of the field. -/
theorem packCountries_toNat (list : CountriesList) (k : Fin 4) :
    (packCountries list k).toNat = leNat (slice (List.ofFn list) (31 * k) (31 * k + 31)) ∧
      (packCountries list k).toNat < Formatter.snarkScalarField := by
  obtain ⟨heq, hlt⟩ := packWord_toNat (slice_list_length_le list k)
  exact ⟨heq, heq.trans_lt hlt⟩

/-- The letters I, R and N, 40 times. -/
def iranList : CountriesList := fun i =>
  if i.val % 3 = 0 then 73 else if i.val % 3 = 1 then 82 else 78

/-- A config that forbids IRN and requires nothing else. -/
def forbidIran : VerificationConfigV2 := ⟨false, 0, true, packCountries iranList, fun _ => false⟩

/-- A passport issued by the state with the given letters, to a national of IRN. -/
def passportOfIranian (first second third : UInt8) : DataGroup1 .passport := fun i =>
  match i.val with
  | 7 => first
  | 8 => second
  | 9 => third
  | 59 => 73
  | 60 => 82
  | 61 => 78
  | _ => 60

private theorem forbidden_iran {code : Fin 3 → UInt8} (h : ∀ j, codeAt iranList 0 j = code j) :
    Forbidden packCountries forbidIran code :=
  ⟨iranList, rfl, 0, funext h⟩

/-- A passport issued by IRN does not register. -/
theorem nationality_excluded_iran :
    NationalityExcluded packCountries .passport forbidIran (passportOfIranian 73 82 78) := by
  refine (nationality_excluded_iff packCountries_injective .passport forbidIran rfl _).mpr ?_
  exact .inr (.inl (forbidden_iran (by decide)))

private theorem not_forbidden_france :
    ¬ Forbidden packCountries forbidIran (issuingState (passportOfIranian 70 82 65)) := by
  rintro ⟨list, hlist, i, hi⟩
  obtain rfl : list = iranList := packCountries_injective hlist
  have hfirst : codeAt iranList i 0 = 70 := congrFun hi 0
  have hletter : ∀ i, codeAt iranList i 0 = 73 := by decide
  rw [hletter i] at hfirst
  exact absurd hfirst (by decide)

/-- A passport issued by FRA to a national of IRN registers. -/
theorem nationality_not_excluded :
    GrantedViolates (gatedOracles forbidIran (listVerifier .passport forbidIran)) .passport
      (checkedResults .passport forbidIran) forbidIran 0 0 0 (fun _ _ proof =>
        ProofOver packCountries .passport (passportOfIranian 70 82 65) proof →
          ¬ Forbidden packCountries forbidIran (nationality (passportOfIranian 70 82 65))) ∧
    ¬ NationalityExcluded packCountries .passport forbidIran (passportOfIranian 70 82 65) := by
  have hattainable : Attainable forbidIran := fun henabled => absurd henabled (by decide)
  have hnationality : Forbidden packCountries forbidIran
      (nationality (passportOfIranian 70 82 65)) := forbidden_iran (by decide)
  exact ⟨nationality_violated hattainable hnationality not_forbidden_france,
    not_nationalityExcluded hattainable hnationality not_forbidden_france⟩

end RuleSelf
