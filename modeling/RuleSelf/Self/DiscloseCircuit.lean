import RuleSelf.Self.CountryCircuit
import RuleSelf.Self.DateCircuits

/-!
# Disclose Circuits

The circuits `VC_AND_DISCLOSE` and `VC_AND_DISCLOSE_ID` whose proofs the hub accepts, as the
relation their constraints impose on the inputs and the public signals. The two differ in
lengths and positions of the data group, and in the OFAC lists. Hashing, packing and the
Merkle root are parameters. The list of forbidden countries is one of signals: the circuits
check of the data group that its signals are bytes, and of the list they do not.
-/

namespace RuleSelf

open Evm Circuit DateCircuits CountryCircuit

namespace DiscloseCircuit

attribute [local instance] neZero_two neZero_three neZero_four neZero_six

/-! ## Layout -/

/-- The length of the machine-readable zone. -/
def mrzLength : DocumentType → ℕ
  | .passport => 88
  | .idCard => 90

/-- Where the date of birth stands in the data group. -/
def birthDateStart : DocumentType → ℕ
  | .passport => 62
  | .idCard => 35

/-- Where the date of expiry stands in the data group. -/
def validityStart : DocumentType → ℕ
  | .passport => 70
  | .idCard => 43

/-- The number of OFAC lists a document is looked up in. -/
def ofacCount : DocumentType → ℕ
  | .passport => 3
  | .idCard => 2

variable {d : DocumentType} {α : Type}

theorem dg1Length_eq (d : DocumentType) : dg1Length d = 5 + mrzLength d := by
  cases d <;> rfl

theorem revealedLength_eq (d : DocumentType) :
    d.revealedLength = mrzLength d + 2 + ofacCount d := by
  cases d <;> rfl

/-- A character of the machine-readable zone. -/
def mrz (dg1 : Fin (dg1Length d) → α) (i : Fin (mrzLength d)) : α :=
  dg1 ⟨5 + i, by have := dg1Length_eq d; omega⟩

/-- The date of birth. -/
def birthDate (dg1 : Fin (dg1Length d) → α) (i : Fin 6) : α :=
  dg1 ⟨birthDateStart d + i, by cases d <;> simp [birthDateStart, dg1Length] <;> omega⟩

/-- The date of expiry. -/
def validityDate (dg1 : Fin (dg1Length d) → α) (i : Fin 6) : α :=
  dg1 ⟨validityStart d + i, by cases d <;> simp [validityStart, dg1Length] <;> omega⟩

/-- The characters both country templates compare: those of the issuing state. -/
def issuer (dg1 : Fin (dg1Length d) → α) (i : Fin 3) : α :=
  dg1 ⟨7 + i, by cases d <;> simp [dg1Length] <;> omega⟩

theorem character_lt (i : Fin 40) (j : Fin 3) : i.val * 3 + j.val < 40 * 3 := by
  omega

/-- A code of a list of countries. -/
def countryAt (list : Fin (40 * 3) → α) (i : Fin 40) (j : Fin 3) : α :=
  list ⟨i * 3 + j, character_lt i j⟩

/-- The characters of the data group from a position on. -/
def part (dg1 : Fin (dg1Length d) → α) (start length : ℕ) : List α :=
  ((List.ofFn dg1).drop start).take length

/-! ## Signals -/

/-- The templates of packages the circuits use. -/
structure Templates where
  /-- `Poseidon` -/
  poseidon : List Signal → Signal
  /-- An element of the output of `PackBytes`. -/
  packBytes : List Signal → ℕ → Signal
  /-- `BinaryMerkleRoot`, of a leaf, a depth, a path and siblings. -/
  binaryMerkleRoot : Signal → Signal → List Signal → List Signal → Signal
  /-- `VarShiftLeft`, by a shift within the bounds it checks. -/
  varShiftLeft : List Signal → Signal → List Signal

/-- A byte as a signal. -/
def ofByte (b : UInt8) : Signal := (b.toNat : Signal)

/-- The word of the contracts that stands for a signal. -/
def toWord (x : Signal) : Word := BitVec.ofNat 256 x.val

/-- Signals as the digits of an element, the first the lowest. -/
def packSignals (xs : List Signal) : Signal := xs.foldr (fun x rest => x + 256 * rest) 0

/-- `PackBytes` packs signals into elements of 31. It does not ask that they be bytes. -/
def Templates.PacksSignals (T : Templates) : Prop :=
  ∀ (xs : List Signal) (k : ℕ), T.packBytes xs k = packSignals ((xs.drop (31 * k)).take 31)

/-- `PackBytes` packs bytes into elements of 31, the first the lowest. -/
def Templates.Packs (T : Templates) : Prop :=
  ∀ (bytes : Bytes) (k : ℕ), T.packBytes (bytes.map ofByte) k =
    ((leNat (slice bytes (31 * k) (31 * k + 31)) : ℕ) : Signal)

/-- What a document is looked up with in a sparse Merkle tree. -/
structure SmtInputs where
  leafKey : Signal
  root : Signal
  siblings : Fin 64 → Signal

/-- The inputs of the circuits. -/
structure Inputs (d : DocumentType) where
  secret : Signal
  attestationId : Signal
  dg1 : Fin (dg1Length d) → Signal
  eContentShaBytesPackedHash : Signal
  dscTreeLeaf : Signal
  merkleRoot : Signal
  leafDepth : Signal
  path : Fin 33 → Signal
  siblings : Fin 33 → Signal
  selectorDg1 : Fin (mrzLength d) → Signal
  majority : Fin 2 → Signal
  currentDate : Fin 6 → Signal
  selectorOlderThan : Signal
  forbiddenCountriesList : Fin (40 * 3) → Signal
  ofac : Fin (ofacCount d) → SmtInputs
  selectorOfac : Signal
  scope : Signal
  userIdentifier : Signal

/-! ## Templates -/

variable (T : Templates)

/-- The output of `PackBytes`. -/
def packed (xs : List Signal) : List Signal :=
  (List.range ((xs.length + 30) / 31)).map (T.packBytes xs)

/-- `CustomHasher` -/
def customHasher (xs : List Signal) : Signal :=
  if xs.length < 16 then T.poseidon xs
  else
    -- rounds of 16 signals, the last one filled up with zeros
    T.poseidon ((List.range ((xs.length + 15) / 16)).map fun i =>
      T.poseidon ((List.range 16).map fun j => xs.getD (16 * i + j) 0))

/-- The commitment of `VERIFY_COMMITMENT`. -/
def commitment (inp : Inputs d) : Signal :=
  T.poseidon [inp.secret, inp.attestationId, customHasher T (packed T (List.ofFn inp.dg1)),
    inp.eContentShaBytesPackedHash, inp.dscTreeLeaf]

/-- `VERIFY_COMMITMENT`, with the `AssertBytes` of `PackBytesAndPoseidon`. -/
structure VerifyCommitment (inp : Inputs d) : Prop where
  assertBytes : ∀ i, ∃ bits, Num2Bits 8 (inp.dg1 i) bits
  merkleRoot : inp.merkleRoot = T.binaryMerkleRoot (commitment T inp) inp.leafDepth
    (List.ofFn inp.path) (List.ofFn inp.siblings)

/-- `SMTVerify(64)`; the depth is a hint, and `VarShiftLeft` checks that the shift has six bits. -/
def SMTVerify (virtualKey : Signal) (inp : SmtInputs) (mode out : Signal) : Prop :=
  ∃ depth isClosestZero computedRootIsValid areLeafAndVirtualLeafEquals
      isInclusionOrNonInclusionValid : Signal,
    let smallKey : Signal := ((virtualKey.val % 2 ^ 64 : ℕ) : Signal)
    let pathInBits : List Signal :=
      (List.range 64).map fun i => ofBool (virtualKey.val.testBit (63 - i))
    let leaf := T.poseidon [inp.leafKey, 1, 1]
    (∃ bits, Num2Bits 6 (64 - depth) bits) ∧
    IsEqual inp.leafKey 0 isClosestZero ∧
    IsEqual (T.binaryMerkleRoot (leaf * (1 - isClosestZero)) depth
      (T.varShiftLeft pathInBits (64 - depth)) (List.ofFn inp.siblings)) inp.root
      computedRootIsValid ∧
    IsEqual (T.poseidon [smallKey, 1, 1]) leaf areLeafAndVirtualLeafEquals ∧
    -- mode 1 asks for inclusion, mode 0 for its absence
    IsEqual mode areLeafAndVirtualLeafEquals isInclusionOrNonInclusionValid ∧
    out = computedRootIsValid * isInclusionOrNonInclusionValid

/-- The hash of a name, in three parts. -/
def nameHash (dg1 : Fin (dg1Length d) → Signal) (start length : ℕ) : Signal :=
  T.poseidon ((List.range 3).map fun j => T.poseidon (part dg1 (start + length * j) length))

/-- The key of a name and the first characters of the date of birth. -/
def nameAndBirthKey (dg1 : Fin (dg1Length d) → Signal) (birthLength nameStart nameLength : ℕ) :
    Signal :=
  T.poseidon [T.poseidon (part dg1 (birthDateStart d) birthLength),
    nameHash T dg1 nameStart nameLength]

/-- The keys `OFAC_PASSPORT_NUMBER`, `OFAC_NAME_DOB` and `OFAC_NAME_YOB` look a document up
under, and those of `OFAC_NAME_DOB_ID` and `OFAC_NAME_YOB_ID`. -/
def ofacKeys : (d : DocumentType) → (Fin (dg1Length d) → Signal) → Fin (ofacCount d) → Signal
  | .passport, dg1 =>
    ![T.poseidon (part dg1 49 9 ++ part dg1 59 3), nameAndBirthKey T dg1 6 10 13,
      nameAndBirthKey T dg1 2 10 13]
  | .idCard, dg1 => ![nameAndBirthKey T dg1 6 65 10, nameAndBirthKey T dg1 2 65 10]

/-- The revealed data: the machine-readable zone, the older-than characters and the OFAC
results, each times its selector. -/
def revealedData (inp : Inputs d) (isOlderThan : Signal)
    (ofacCheckResults : Fin (ofacCount d) → Signal) : List Signal :=
  (List.ofFn fun i => mrz inp.dg1 i * inp.selectorDg1 i) ++
    (List.ofFn fun i => isOlderThan * inp.majority i * inp.selectorOlderThan) ++
      List.ofFn fun i => ofacCheckResults i * inp.selectorOfac

/-- `PackBytes` of a list of countries, as the contracts see it. -/
def packCountrySignals (list : Fin (40 * 3) → Signal) (k : Fin 4) : Word :=
  toWord (T.packBytes (List.ofFn list) k)

private theorem first_lt (i : Fin 40) : i.val * 3 < 40 * 3 := by omega

private theorem second_lt (i : Fin 40) : i.val * 3 + 1 < 40 * 3 := by omega

private theorem third_lt (i : Fin 40) : i.val * 3 + 2 < 40 * 3 := by omega

/-- The constraints of the loop over the list, for the three characters it compares. -/
def LoopConstraints (first second third : Signal) (forbiddenCountriesList : Fin (40 * 3) → Signal) :
    Prop :=
  ∀ i : Fin 40, ∃ firstResult secondResult thirdResult : Signal,
    IsEqual first (forbiddenCountriesList ⟨i * 3, first_lt i⟩) firstResult ∧
    IsEqual second (forbiddenCountriesList ⟨i * 3 + 1, second_lt i⟩) secondResult ∧
    IsEqual third (forbiddenCountriesList ⟨i * 3 + 2, third_lt i⟩) thirdResult ∧
    -- the product of the three is 0 unless the codes agree
    0 = firstResult * secondResult * thirdResult

/-- `ProveCountryIsNotInList`, over signals. -/
def ProveCountryIsNotInList (dg1 : Fin 93 → Signal) (forbiddenCountriesList : Fin (40 * 3) → Signal)
    (forbiddenCountriesListPacked : Fin 4 → Word) : Prop :=
  LoopConstraints (dg1 ⟨7, by decide⟩) (dg1 ⟨8, by decide⟩) (dg1 ⟨9, by decide⟩)
      forbiddenCountriesList ∧
    forbiddenCountriesListPacked = packCountrySignals T forbiddenCountriesList

/-- `ProveCountryIsNotInList_ID`, over signals. -/
def ProveCountryIsNotInListID (dg1 : Fin 95 → Signal)
    (forbiddenCountriesList : Fin (40 * 3) → Signal) (forbiddenCountriesListPacked : Fin 4 → Word) :
    Prop :=
  LoopConstraints (dg1 ⟨7, by decide⟩) (dg1 ⟨8, by decide⟩) (dg1 ⟨9, by decide⟩)
      forbiddenCountriesList ∧
    forbiddenCountriesListPacked = packCountrySignals T forbiddenCountriesList

/-- The forbidden countries of a document type. -/
def ProveCountry (T : Templates) : (d : DocumentType) → (Fin (dg1Length d) → Signal) →
    (Fin (40 * 3) → Signal) → (Fin 4 → Word) → Prop
  | .passport => ProveCountryIsNotInList T
  | .idCard => ProveCountryIsNotInListID T

/-- `DISCLOSE` and `DISCLOSE_ID` -/
structure Disclose (inp : Inputs d) (revealedDataPacked : ℕ → Signal)
    (forbiddenCountriesListPacked : Fin 4 → Word) : Prop where
  selectorDg1 : ∀ i, IsBit (inp.selectorDg1 i)
  selectorOlderThan : IsBit inp.selectorOlderThan
  selectorOfac : IsBit inp.selectorOfac
  revealed : ∃ isOlderThan ofacCheckResults,
    IsOlderThan inp.majority inp.currentDate (birthDate inp.dg1) isOlderThan ∧
    (∀ i, SMTVerify T (ofacKeys T d inp.dg1 i) (inp.ofac i) 0 (ofacCheckResults i)) ∧
    revealedDataPacked = T.packBytes (revealedData inp isOlderThan ofacCheckResults)
  countries : ProveCountry T d inp.dg1 inp.forbiddenCountriesList forbiddenCountriesListPacked

/-- The public signals: the outputs, then the public inputs. -/
def publicSignals : (d : DocumentType) → Inputs d → (ℕ → Signal) → (Fin 4 → Word) →
    Fin 21 → Word
  | .passport, inp, revealedDataPacked, forbiddenCountriesListPacked =>
    ![toWord (revealedDataPacked 0), toWord (revealedDataPacked 1), toWord (revealedDataPacked 2),
      forbiddenCountriesListPacked 0, forbiddenCountriesListPacked 1,
      forbiddenCountriesListPacked 2, forbiddenCountriesListPacked 3,
      toWord (T.poseidon [inp.secret, inp.scope]), toWord inp.attestationId, toWord inp.merkleRoot,
      toWord (inp.currentDate 0), toWord (inp.currentDate 1), toWord (inp.currentDate 2),
      toWord (inp.currentDate 3), toWord (inp.currentDate 4), toWord (inp.currentDate 5),
      toWord (inp.ofac (0 : Fin 3)).root, toWord (inp.ofac (1 : Fin 3)).root,
      toWord (inp.ofac (2 : Fin 3)).root, toWord inp.scope, toWord inp.userIdentifier]
  | .idCard, inp, revealedDataPacked, forbiddenCountriesListPacked =>
    ![toWord (revealedDataPacked 0), toWord (revealedDataPacked 1), toWord (revealedDataPacked 2),
      toWord (revealedDataPacked 3),
      forbiddenCountriesListPacked 0, forbiddenCountriesListPacked 1,
      forbiddenCountriesListPacked 2, forbiddenCountriesListPacked 3,
      toWord (T.poseidon [inp.secret, inp.scope]), toWord inp.attestationId, toWord inp.merkleRoot,
      toWord (inp.currentDate 0), toWord (inp.currentDate 1), toWord (inp.currentDate 2),
      toWord (inp.currentDate 3), toWord (inp.currentDate 4), toWord (inp.currentDate 5),
      toWord (inp.ofac (0 : Fin 2)).root, toWord (inp.ofac (1 : Fin 2)).root,
      toWord inp.scope, toWord inp.userIdentifier]

/-- `VC_AND_DISCLOSE` and `VC_AND_DISCLOSE_ID` -/
structure VcAndDisclose (inp : Inputs d) (pubSignals : Fin 21 → Word) : Prop where
  verifyCommitment : VerifyCommitment T inp
  isValid : IsValid inp.currentDate (validityDate inp.dg1)
  disclose : ∃ revealedDataPacked forbiddenCountriesListPacked,
    Disclose T inp revealedDataPacked forbiddenCountriesListPacked ∧
    pubSignals = publicSignals T d inp revealedDataPacked forbiddenCountriesListPacked

end DiscloseCircuit

end RuleSelf
