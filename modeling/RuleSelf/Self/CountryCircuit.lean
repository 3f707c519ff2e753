import RuleSelf.Self.Pipeline

/-!
# Country Circuits

The templates `ProveCountryIsNotInList` and `ProveCountryIsNotInList_ID` of the disclose
circuits, as the relations their constraints impose on the inputs and the output, for
lists of 40 codes. The lists are of letters here, as the scripts write them; over the signals
of the circuits, which need not be letters, the templates stand in `DiscloseCircuit`.
`PackBytes` is a parameter.
-/

namespace RuleSelf

open Evm SelfStructs

namespace CountryCircuit

/-- A list of 40 country codes of three letters, end to end. -/
abbrev CountriesList := Fin (40 * 3) → UInt8

/-- `IsEqual` -/
def isEqual (a b : UInt8) : ℕ := if a = b then 1 else 0

/-- The constraints of the loop over the list, for the three letters it compares. -/
def loopConstraints (first second third : UInt8) (forbiddenCountriesList : CountriesList) : Prop :=
  ∀ i : Fin 40,
    0 = isEqual first (forbiddenCountriesList ⟨i * 3, by omega⟩) *
        isEqual second (forbiddenCountriesList ⟨i * 3 + 1, by omega⟩) *
      isEqual third (forbiddenCountriesList ⟨i * 3 + 2, by omega⟩)

variable (packBytes : CountriesList → Fin 4 → Word)

/-- `ProveCountryIsNotInList`: inputs `dg1` and `forbidden_countries_list`, output
`forbidden_countries_list_packed`. -/
def ProveCountryIsNotInList (dg1 : Fin 93 → UInt8) (forbiddenCountriesList : CountriesList)
    (forbiddenCountriesListPacked : Fin 4 → Word) : Prop :=
  loopConstraints (dg1 7) (dg1 8) (dg1 9) forbiddenCountriesList ∧
    forbiddenCountriesListPacked = packBytes forbiddenCountriesList

/-- `ProveCountryIsNotInList_ID`: the data group is two bytes longer. -/
def ProveCountryIsNotInListID (dg1 : Fin 95 → UInt8) (forbiddenCountriesList : CountriesList)
    (forbiddenCountriesListPacked : Fin 4 → Word) : Prop :=
  loopConstraints (dg1 7) (dg1 8) (dg1 9) forbiddenCountriesList ∧
    forbiddenCountriesListPacked = packBytes forbiddenCountriesList

/-! ## Documents -/

/-- The length of a document's data group 1: five bytes, then the machine-readable zone. -/
def dg1Length : DocumentType → ℕ
  | .passport => 93
  | .idCard => 95

/-- The data group 1 of a document. -/
abbrev DataGroup1 (d : DocumentType) := Fin (dg1Length d) → UInt8

variable {d : DocumentType}

/-- A field of three letters of the machine-readable zone. -/
def mrzField (dg1 : DataGroup1 d) (start : ℕ) (h : 5 + start + 3 ≤ dg1Length d) :
    Fin 3 → UInt8 :=
  fun i => dg1 ⟨5 + start + i, by omega⟩

/-- The issuing state of a document. -/
def issuingState (dg1 : DataGroup1 d) : Fin 3 → UInt8 :=
  mrzField dg1 d.positions.issuingStateStart (by cases d <;> decide)

/-- The nationality of the holder of a document. -/
def nationality (dg1 : DataGroup1 d) : Fin 3 → UInt8 :=
  mrzField dg1 d.positions.nationalityStart (by cases d <;> decide)

/-- A code of a list. -/
def codeAt (list : CountriesList) (i : Fin 40) : Fin 3 → UInt8 :=
  fun j => list ⟨i * 3 + j, by omega⟩

/-- The proof was made over a document: its forbidden-country signals are the output of the
document type's template for the document and some list. -/
def ProofOver : (d : DocumentType) → DataGroup1 d → VcAndDiscloseProof → Prop
  | .passport, dg1, proof => ∃ list, ProveCountryIsNotInList packBytes dg1 list
      (DocumentType.passport.forbiddenCountries proof.pubSignals)
  | .idCard, dg1, proof => ∃ list, ProveCountryIsNotInListID packBytes dg1 list
      (DocumentType.idCard.forbiddenCountries proof.pubSignals)

/-! ## What the constraints say -/

private theorem eq_zero_iff (first second third a b c : UInt8) :
    0 = isEqual first a * isEqual second b * isEqual third c ↔
      ¬ (a = first ∧ b = second ∧ c = third) := by
  unfold isEqual
  -- the product is 0 as soon as one letter differs
  by_cases h1 : first = a
  · by_cases h2 : second = b
    · by_cases h3 : third = c
      · simp [h1, h2, h3]
      · simp [h3, Ne.symm h3]
    · simp [h2, Ne.symm h2]
  · simp [h1, Ne.symm h1]

/-- The loop compares the issuing state of either document type with every code. -/
theorem loopConstraints_iff (dg1 : DataGroup1 d) (list : CountriesList) :
    loopConstraints (issuingState dg1 0) (issuingState dg1 1) (issuingState dg1 2) list ↔
      ∀ i, codeAt list i ≠ issuingState dg1 := by
  refine forall_congr' fun i => ?_
  -- the three letters agree exactly when the codes do
  rw [eq_zero_iff, not_iff_not]
  constructor
  · rintro ⟨h0, h1, h2⟩
    funext j
    match j with
    | 0 => exact h0
    | 1 => exact h1
    | 2 => exact h2
  · intro h
    exact ⟨congrFun h 0, congrFun h 1, congrFun h 2⟩

/-- **What a proof over a document shows**: its signals pack a list that the document's issuing
state is not in. -/
theorem proofOver_iff (dg1 : DataGroup1 d) (proof : VcAndDiscloseProof) :
    ProofOver packBytes d dg1 proof ↔
      ∃ list, (∀ i, codeAt list i ≠ issuingState dg1) ∧
        d.forbiddenCountries proof.pubSignals = packBytes list := by
  cases d with
  | passport => exact exists_congr fun list => and_congr_left' (loopConstraints_iff dg1 list)
  | idCard => exact exists_congr fun list => and_congr_left' (loopConstraints_iff dg1 list)

end CountryCircuit

end RuleSelf
