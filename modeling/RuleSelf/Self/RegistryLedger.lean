import Mathlib.Data.Set.Insert
import RuleSelf.Library.Journal
import RuleSelf.Self.IdentityRegistry

/-!
# The Ledger of an Identity Registry

What an identity registry is for: a set of identity commitments with every root the set
has had, the nullifiers that have been used, the DSC keys certificates may be signed
with, and the roots the circuits are checked against. `Ledger.apply` says what an event
announces about these, and `Ledger.Allows` where it may be announced. A registry
represents the ledger its log announces, event by event.
-/

namespace RuleSelf

open Evm Revert

namespace IdentityRegistry

/-! ## The ledger -/

/-- The abstract state of a registry. -/
structure Ledger where
  commitments : Set Word
  /-- The root last announced for the commitments. -/
  commitmentRoot : Option Word
  rootTimestamps : Word → Word
  nullifiers : Set (Word × Word)
  dscKeyCommitments : Set Word
  dscKeyCommitmentRoot : Option Word
  registeredDscKeyCommitments : Set Word
  passportNoOfacRoot : Word
  nameAndDobOfacRoot : Word
  nameAndYobOfacRoot : Word
  cscaRoot : Word

/-- `x` is in the set from now on, or is not. -/
def setState {α : Type} (S : Set α) (x : α) (state : Bool) : Set α :=
  {y | (y = x ∧ state = true) ∨ (y ≠ x ∧ y ∈ S)}

@[simp] theorem mem_setState {α : Type} {S : Set α} {x y : α} {state : Bool} :
    y ∈ setState S x state ↔ (y = x ∧ state = true) ∨ (y ≠ x ∧ y ∈ S) := Iff.rfl

/-- One leaf is put in the place of another; zero stands for none. -/
def replaceLeaf (S : Set Word) (oldLeaf newLeaf : Word) : Set Word :=
  {x | (x ∈ S ∧ x ≠ oldLeaf) ∨ (x = newLeaf ∧ newLeaf ≠ 0)}

@[simp] theorem mem_replaceLeaf {S : Set Word} {oldLeaf newLeaf x : Word} :
    x ∈ replaceLeaf S oldLeaf newLeaf ↔
      (x ∈ S ∧ x ≠ oldLeaf) ∨ (x = newLeaf ∧ newLeaf ≠ 0) := Iff.rfl

namespace Ledger

/-- Nothing has been registered. -/
def empty : Ledger where
  commitments := ∅
  commitmentRoot := none
  rootTimestamps _ := 0
  nullifiers := ∅
  dscKeyCommitments := ∅
  dscKeyCommitmentRoot := none
  registeredDscKeyCommitments := ∅
  passportNoOfacRoot := 0
  nameAndDobOfacRoot := 0
  nameAndYobOfacRoot := 0
  cscaRoot := 0

/-- A new set of commitments, with its root and the time it was announced. -/
def setCommitments (L : Ledger) (commitments : Set Word) (root timestamp : Word) : Ledger :=
  { L with
    commitments
    commitmentRoot := some root
    rootTimestamps := Function.update L.rootTimestamps root timestamp }

/-- A new set of DSC key commitments, with its root. -/
def setDscKeyCommitments (L : Ledger) (commitments : Set Word) (root : Word) : Ledger :=
  { L with dscKeyCommitments := commitments, dscKeyCommitmentRoot := some root }

/-- A nullifier is used from now on, or is not. -/
def setNullifier (L : Ledger) (attestationId nullifier : Word) (state : Bool) : Ledger :=
  { L with nullifiers := setState L.nullifiers (attestationId, nullifier) state }

/-- A DSC key counts as registered from now on, or does not. -/
def setRegisteredDscKey (L : Ledger) (commitment : Word) (state : Bool) : Ledger :=
  { L with registeredDscKeyCommitments := setState L.registeredDscKeyCommitments commitment state }

/-- What an event announces. -/
def apply (L : Ledger) : Event → Ledger
  | .registryInitialized _ | .hubUpdated _ => L
  | .cscaRootUpdated root => { L with cscaRoot := root }
  | .passportNoOfacRootUpdated root => { L with passportNoOfacRoot := root }
  | .nameAndDobOfacRootUpdated root => { L with nameAndDobOfacRoot := root }
  | .nameAndYobOfacRootUpdated root => { L with nameAndYobOfacRoot := root }
  | .commitmentRegistered a n c timestamp root _
  | .devCommitmentRegistered a n c timestamp root _ =>
    (L.setCommitments (insert c L.commitments) root timestamp).setNullifier a n true
  | .dscKeyCommitmentRegistered c _ root _ | .devDscKeyCommitmentRegistered c root _ =>
    (L.setDscKeyCommitments (insert c L.dscKeyCommitments) root).setRegisteredDscKey c true
  | .devCommitmentUpdated oldLeaf newLeaf root timestamp =>
    L.setCommitments (replaceLeaf L.commitments oldLeaf newLeaf) root timestamp
  | .devCommitmentRemoved oldLeaf root timestamp =>
    L.setCommitments (replaceLeaf L.commitments oldLeaf 0) root timestamp
  | .devDscKeyCommitmentUpdated oldLeaf newLeaf root =>
    L.setDscKeyCommitments (replaceLeaf L.dscKeyCommitments oldLeaf newLeaf) root
  | .devDscKeyCommitmentRemoved oldLeaf root =>
    L.setDscKeyCommitments (replaceLeaf L.dscKeyCommitments oldLeaf 0) root
  | .devNullifierStateChanged a n state => L.setNullifier a n state
  | .devDscKeyCommitmentStateChanged c state => L.setRegisteredDscKey c state

/-- Where an event may be announced: the hub uses a nullifier and registers a DSC key once,
and a leaf stands in a tree once. -/
def Allows (L : Ledger) : Event → Prop
  | .commitmentRegistered a n c _ _ _ => (a, n) ∉ L.nullifiers ∧ c ≠ 0 ∧ c ∉ L.commitments
  | .devCommitmentRegistered _ _ c _ _ _ => c ≠ 0 ∧ c ∉ L.commitments
  | .dscKeyCommitmentRegistered c _ _ _ =>
    c ∉ L.registeredDscKeyCommitments ∧ c ≠ 0 ∧ c ∉ L.dscKeyCommitments
  | .devDscKeyCommitmentRegistered c _ _ => c ≠ 0 ∧ c ∉ L.dscKeyCommitments
  | .devCommitmentUpdated oldLeaf newLeaf _ _ =>
    oldLeaf ∈ L.commitments ∧ (newLeaf ≠ 0 → newLeaf ∉ L.commitments)
  | .devCommitmentRemoved oldLeaf _ _ => oldLeaf ∈ L.commitments
  | .devDscKeyCommitmentUpdated oldLeaf newLeaf _ =>
    oldLeaf ∈ L.dscKeyCommitments ∧ (newLeaf ≠ 0 → newLeaf ∉ L.dscKeyCommitments)
  | .devDscKeyCommitmentRemoved oldLeaf _ => oldLeaf ∈ L.dscKeyCommitments
  | _ => True

end Ledger

/-- The ledger a log announces. -/
def announced (log : List Event) : Ledger :=
  Journal.replay Ledger.apply Ledger.empty log

/-! ## The registry represents it -/

variable {Owners Tree : Type} {imt : LeanIMT Tree} {ow : Ownable2Step Owners}
  {impl : Implementation} {ctx : Context} {call : Call} {s s' : Storage Owners Tree}
  {L : Ledger} {e : Event}

/-- A registry's storage is the ledger's. -/
structure Represents (imt : LeanIMT Tree) (s : Storage Owners Tree) (L : Ledger) : Prop where
  commitments (c : Word) : imt.has s.identityCommitmentIMT c = true ↔ c ∈ L.commitments
  commitmentRoot :
    imt.root s.identityCommitmentIMT = L.commitmentRoot.getD (imt.root imt.empty)
  rootTimestamps : s.rootTimestamps = L.rootTimestamps
  nullifiers (a n : Word) : s.nullifiers a n = true ↔ (a, n) ∈ L.nullifiers
  dscKeyCommitments (c : Word) :
    imt.has s.dscKeyCommitmentIMT c = true ↔ c ∈ L.dscKeyCommitments
  dscKeyCommitmentRoot :
    imt.root s.dscKeyCommitmentIMT = L.dscKeyCommitmentRoot.getD (imt.root imt.empty)
  registeredDscKeyCommitments (c : Word) :
    s.isRegisteredDscKeyCommitment c = true ↔ c ∈ L.registeredDscKeyCommitments
  passportNoOfacRoot : s.passportNoOfacRoot = L.passportNoOfacRoot
  nameAndDobOfacRoot : s.nameAndDobOfacRoot = L.nameAndDobOfacRoot
  nameAndYobOfacRoot : s.nameAndYobOfacRoot = L.nameAndYobOfacRoot
  cscaRoot : s.cscaRoot = L.cscaRoot

/-- A registry just deployed represents the empty ledger. -/
theorem represents_blank (hl : imt.Lawful) :
    Represents imt (blank imt ow) Ledger.empty where
  commitments c := by simp [blank, Ledger.empty, hl.has_empty]
  commitmentRoot := rfl
  rootTimestamps := rfl
  nullifiers a n := by simp [blank, Ledger.empty]
  dscKeyCommitments c := by simp [blank, Ledger.empty, hl.has_empty]
  dscKeyCommitmentRoot := rfl
  registeredDscKeyCommitments c := by simp [blank, Ledger.empty]
  passportNoOfacRoot := rfl
  nameAndDobOfacRoot := rfl
  nameAndYobOfacRoot := rfl
  cscaRoot := rfl

/-! ### One part of the storage at a time -/

/-- A flag set for a key is the key's state from now on. -/
theorem update_flag_iff {α : Type} [DecidableEq α] {flag : α → Bool} {S : Set α}
    (h : ∀ y, flag y = true ↔ y ∈ S) (x : α) (state : Bool) (y : α) :
    Function.update flag x state y = true ↔ y ∈ setState S x state := by
  by_cases hy : y = x
  · subst hy
    simp
  · simp [hy, h]

/-- The flag of a nullifier changes. -/
theorem Represents.setNullifier (h : Represents imt s L) (a n : Word) (state : Bool) :
    Represents imt
      { s with
        nullifiers := Function.update s.nullifiers a
          (Function.update (s.nullifiers a) n state) }
      (L.setNullifier a n state) :=
  { h with
    nullifiers := by
      intro a' n'
      -- only the nullifiers of this attestation id change
      by_cases ha : a' = a
      · subst ha
        have hflags := update_flag_iff (S := {n | (a', n) ∈ L.nullifiers})
          (h.nullifiers a') n state n'
        simpa [Ledger.setNullifier] using hflags
      · simp [Ledger.setNullifier, ha, h.nullifiers] }

/-- The flag of a DSC key changes. -/
theorem Represents.setRegisteredDscKey (h : Represents imt s L) (c : Word) (state : Bool) :
    Represents imt
      { s with
        isRegisteredDscKeyCommitment :=
          Function.update s.isRegisteredDscKeyCommitment c state }
      (L.setRegisteredDscKey c state) :=
  { h with
    registeredDscKeyCommitments :=
      update_flag_iff h.registeredDscKeyCommitments c state }

/-- The identity commitment tree changes, and its new root is dated. -/
theorem Represents.setCommitments (h : Represents imt s L) {tree : Tree} {C : Set Word}
    {root : Word} (htree : ∀ c, imt.has tree c = true ↔ c ∈ C) (hroot : imt.root tree = root)
    (timestamp : Word) :
    Represents imt
      { s with
        identityCommitmentIMT := tree
        rootTimestamps := Function.update s.rootTimestamps root timestamp }
      (L.setCommitments C root timestamp) :=
  { h with
    commitments := htree
    commitmentRoot := hroot
    rootTimestamps := congrArg (Function.update · root timestamp) h.rootTimestamps }

/-- The DSC key commitment tree changes. -/
theorem Represents.setDscKeyCommitments (h : Represents imt s L) {tree : Tree} {C : Set Word}
    {root : Word} (htree : ∀ c, imt.has tree c = true ↔ c ∈ C) (hroot : imt.root tree = root) :
    Represents imt { s with dscKeyCommitmentIMT := tree } (L.setDscKeyCommitments C root) :=
  { h with dscKeyCommitments := htree, dscKeyCommitmentRoot := hroot }

/-- Logging an event changes nothing of the ledger. -/
theorem Represents.emit (h : Represents imt s L) : Represents imt (s.emit e) L :=
  { h with }

/-- A tree that a leaf was inserted into. -/
theorem has_insert_iff (hl : imt.Lawful) {t t' : Tree} {leaf root : Word} {C : Set Word}
    (h : imt.insert t leaf = .ok (t', root)) (hC : ∀ c, imt.has t c = true ↔ c ∈ C) (c : Word) :
    imt.has t' c = true ↔ c ∈ insert leaf C := by
  rw [hl.has_insert h, hC, Set.mem_insert_iff]

/-- A tree that a leaf was replaced in. -/
theorem has_update_iff (hl : imt.Lawful) {t t' : Tree} {oldLeaf newLeaf root : Word}
    {siblingNodes : List Word} {C : Set Word}
    (h : imt.update t oldLeaf newLeaf siblingNodes = .ok (t', root))
    (hC : ∀ c, imt.has t c = true ↔ c ∈ C) (c : Word) :
    imt.has t' c = true ↔ c ∈ replaceLeaf C oldLeaf newLeaf := by
  rw [hl.has_update h, hC]
  rfl

/-- A leaf that is not in the tree is not in the set it represents. -/
theorem not_mem_of_has {t : Tree} {C : Set Word} {c : Word} (h : imt.has t c = false)
    (hC : ∀ c, imt.has t c = true ↔ c ∈ C) : c ∉ C := by
  rw [← hC, h]
  exact Bool.false_ne_true

/-! ## What a call logs -/

/-- Who may make a call: the first comer initializes, the hub registers, and the owner does
the rest. -/
def Authorized (ow : Ownable2Step Owners) (ctx : Context) (s : Storage Owners Tree) :
    Call → Prop
  | .initializeRegistry _ => s.implRoot.initialized = false
  | .registerCommitment _ _ _ | .registerDscKeyCommitment _ => s.hub ≠ 0 ∧ ctx.sender = s.hub
  | .ownership _ => True
  | _ => ow.owner s.implRoot.owners = ctx.sender

/-- The event a call logs. -/
inductive Announces (ctx : Context) : Call → Event → Prop where
  | initializeRegistry (hub : Address) :
    Announces ctx (.initializeRegistry hub) (.registryInitialized hub)
  | registerCommitment (a n c root index : Word) :
    Announces ctx (.registerCommitment a n c) (.commitmentRegistered a n c ctx.now root index)
  | registerDscKeyCommitment (c root index : Word) :
    Announces ctx (.registerDscKeyCommitment c) (.dscKeyCommitmentRegistered c ctx.now root index)
  | updateHub (hub : Address) : Announces ctx (.updateHub hub) (.hubUpdated hub)
  | updatePassportNoOfacRoot (root : Word) :
    Announces ctx (.updatePassportNoOfacRoot root) (.passportNoOfacRootUpdated root)
  | updateNameAndDobOfacRoot (root : Word) :
    Announces ctx (.updateNameAndDobOfacRoot root) (.nameAndDobOfacRootUpdated root)
  | updateNameAndYobOfacRoot (root : Word) :
    Announces ctx (.updateNameAndYobOfacRoot root) (.nameAndYobOfacRootUpdated root)
  | updateCscaRoot (root : Word) : Announces ctx (.updateCscaRoot root) (.cscaRootUpdated root)
  | devAddIdentityCommitment (a n c root index : Word) :
    Announces ctx (.devAddIdentityCommitment a n c)
      (.devCommitmentRegistered a n c ctx.now root index)
  | devUpdateCommitment (oldLeaf newLeaf root : Word) (siblingNodes : List Word) :
    Announces ctx (.devUpdateCommitment oldLeaf newLeaf siblingNodes)
      (.devCommitmentUpdated oldLeaf newLeaf root ctx.now)
  | devRemoveCommitment (oldLeaf root : Word) (siblingNodes : List Word) :
    Announces ctx (.devRemoveCommitment oldLeaf siblingNodes)
      (.devCommitmentRemoved oldLeaf root ctx.now)
  | devAddDscKeyCommitment (c root index : Word) :
    Announces ctx (.devAddDscKeyCommitment c) (.devDscKeyCommitmentRegistered c root index)
  | devUpdateDscKeyCommitment (oldLeaf newLeaf root : Word) (siblingNodes : List Word) :
    Announces ctx (.devUpdateDscKeyCommitment oldLeaf newLeaf siblingNodes)
      (.devDscKeyCommitmentUpdated oldLeaf newLeaf root)
  | devRemoveDscKeyCommitment (oldLeaf root : Word) (siblingNodes : List Word) :
    Announces ctx (.devRemoveDscKeyCommitment oldLeaf siblingNodes)
      (.devDscKeyCommitmentRemoved oldLeaf root)
  | devChangeNullifierState (a n : Word) (state : Bool) :
    Announces ctx (.devChangeNullifierState a n state) (.devNullifierStateChanged a n state)
  | devChangeDscKeyCommitmentState (c : Word) (state : Bool) :
    Announces ctx (.devChangeDscKeyCommitmentState c state)
      (.devDscKeyCommitmentStateChanged c state)

/-- The hub a registry has after an event: the initializer of the ID cards' registry leaves
it as it was, whatever it announces. -/
def hubAfter (impl : Implementation) (hub : Address) : Event → Address
  | .registryInitialized hubAddress =>
    match impl with
    | .passport => hubAddress
    | .idCard => hub
  | .hubUpdated newHubAddress => newHubAddress
  | _ => hub

/-- A committed call logs `e`: it announces it, the ledger allows it, and the storage is the
ledger's after it. -/
structure Logged (imt : LeanIMT Tree) (impl : Implementation) (ctx : Context) (call : Call)
    (s s' : Storage Owners Tree) (e : Event) : Prop where
  announces : Announces ctx call e
  events : s'.events = s.events ++ [e]
  hub : s'.hub = hubAfter impl s.hub e
  allows (L : Ledger) (h : Represents imt s L) : L.Allows e
  represents (L : Ledger) (h : Represents imt s L) : Represents imt s' (L.apply e)

theorem onlyHub_eq_ok {u : Unit} :
    onlyHub ctx s = .ok u ↔ s.hub ≠ 0 ∧ ctx.sender = s.hub := by
  simp [onlyHub]

theorem onlyOwner_eq_ok {u : Unit} :
    onlyOwner ow ctx s = .ok u ↔ ow.owner s.implRoot.owners = ctx.sender :=
  ImplRoot.onlyOwner_eq_ok

/-- The call was authorized, and logs one event. -/
def LoggedCall (imt : LeanIMT Tree) (ow : Ownable2Step Owners) (impl : Implementation)
    (ctx : Context) (call : Call) (s s' : Storage Owners Tree) : Prop :=
  Authorized ow ctx s call ∧ ∃ e, Logged imt impl ctx call s s' e

theorem initializeRegistry_logged {hubAddress : Address}
    (h : initializeRegistry ow ctx impl hubAddress s = .ok s') :
    LoggedCall imt ow impl ctx (.initializeRegistry hubAddress) s s' := by
  unfold initializeRegistry at h
  obtain ⟨implRoot, hinit, h⟩ := bind_eq_ok.mp h
  refine ⟨(ImplRoot.init_initialized hinit).1, ⟨.registryInitialized hubAddress, ?_⟩⟩
  cases impl <;> cases h <;>
    exact ⟨.initializeRegistry hubAddress, rfl, rfl, fun _ _ => trivial, fun _ hL => { hL with }⟩

theorem registerCommitment_logged (hl : imt.Lawful) {a n c : Word}
    (h : registerCommitment imt ctx a n c s = .ok s') :
    LoggedCall imt ow impl ctx (.registerCommitment a n c) s s' := by
  unfold registerCommitment at h
  obtain ⟨hhub, h⟩ := check_bind_eq_ok.mp h
  obtain ⟨hnew, h⟩ := check_bind_eq_ok.mp h
  obtain ⟨⟨tree, root⟩, hinsert, h⟩ := bind_eq_ok.mp h
  cases h
  refine ⟨onlyHub_eq_ok.mp hhub, ⟨_, .registerCommitment a n c root _, rfl, rfl, ?_, ?_⟩⟩
  · -- the nullifier was unused, and the tree takes no leaf twice
    intro L hL
    obtain ⟨hzero, hfresh⟩ := hl.insert_fresh hinsert
    rw [revertIf_eq_ok, hL.nullifiers] at hnew
    exact ⟨hnew, hzero, not_mem_of_has hfresh hL.commitments⟩
  · intro L hL
    exact ((hL.setCommitments (has_insert_iff hl hinsert hL.commitments)
      (hl.insert_root hinsert) ctx.now).setNullifier a n true).emit

theorem registerDscKeyCommitment_logged (hl : imt.Lawful) {c : Word}
    (h : registerDscKeyCommitment imt ctx c s = .ok s') :
    LoggedCall imt ow impl ctx (.registerDscKeyCommitment c) s s' := by
  unfold registerDscKeyCommitment at h
  obtain ⟨hhub, h⟩ := check_bind_eq_ok.mp h
  obtain ⟨hnew, h⟩ := check_bind_eq_ok.mp h
  obtain ⟨⟨tree, root⟩, hinsert, h⟩ := bind_eq_ok.mp h
  cases h
  refine ⟨onlyHub_eq_ok.mp hhub,
    ⟨_, .registerDscKeyCommitment c root _, rfl, rfl, ?_, ?_⟩⟩
  · -- the key was not registered, and the tree takes no leaf twice
    intro L hL
    obtain ⟨hzero, hfresh⟩ := hl.insert_fresh hinsert
    rw [revertIf_eq_ok, hL.registeredDscKeyCommitments] at hnew
    exact ⟨hnew, hzero, not_mem_of_has hfresh hL.dscKeyCommitments⟩
  · intro L hL
    exact ((hL.setDscKeyCommitments (has_insert_iff hl hinsert hL.dscKeyCommitments)
      (hl.insert_root hinsert)).setRegisteredDscKey c true).emit

theorem updateHub_logged {hub : Address}
    (h : updateHub ow ctx hub s = .ok s') :
    LoggedCall imt ow impl ctx (.updateHub hub) s s' := by
  unfold updateHub at h
  obtain ⟨howner, h⟩ := check_bind_eq_ok.mp h
  cases h
  exact ⟨onlyOwner_eq_ok.mp howner,
    ⟨_, .updateHub hub, rfl, rfl, fun _ _ => trivial, fun _ hL => { hL with }⟩⟩

theorem updatePassportNoOfacRoot_logged {root : Word}
    (h : updatePassportNoOfacRoot ow ctx impl root s = .ok s') :
    LoggedCall imt ow impl ctx (.updatePassportNoOfacRoot root) s s' := by
  unfold updatePassportNoOfacRoot at h
  -- the registry of ID cards has no such function
  obtain ⟨-, h⟩ := check_bind_eq_ok.mp h
  obtain ⟨howner, h⟩ := check_bind_eq_ok.mp h
  cases h
  exact ⟨onlyOwner_eq_ok.mp howner, ⟨_, .updatePassportNoOfacRoot root, rfl, rfl,
    fun _ _ => trivial, fun _ hL => { hL with passportNoOfacRoot := rfl }⟩⟩

theorem updateNameAndDobOfacRoot_logged {root : Word}
    (h : updateNameAndDobOfacRoot ow ctx root s = .ok s') :
    LoggedCall imt ow impl ctx (.updateNameAndDobOfacRoot root) s s' := by
  unfold updateNameAndDobOfacRoot at h
  obtain ⟨howner, h⟩ := check_bind_eq_ok.mp h
  cases h
  exact ⟨onlyOwner_eq_ok.mp howner, ⟨_, .updateNameAndDobOfacRoot root, rfl, rfl,
    fun _ _ => trivial, fun _ hL => { hL with nameAndDobOfacRoot := rfl }⟩⟩

theorem updateNameAndYobOfacRoot_logged {root : Word}
    (h : updateNameAndYobOfacRoot ow ctx root s = .ok s') :
    LoggedCall imt ow impl ctx (.updateNameAndYobOfacRoot root) s s' := by
  unfold updateNameAndYobOfacRoot at h
  obtain ⟨howner, h⟩ := check_bind_eq_ok.mp h
  cases h
  exact ⟨onlyOwner_eq_ok.mp howner, ⟨_, .updateNameAndYobOfacRoot root, rfl, rfl,
    fun _ _ => trivial, fun _ hL => { hL with nameAndYobOfacRoot := rfl }⟩⟩

theorem updateCscaRoot_logged {root : Word}
    (h : updateCscaRoot ow ctx root s = .ok s') :
    LoggedCall imt ow impl ctx (.updateCscaRoot root) s s' := by
  unfold updateCscaRoot at h
  obtain ⟨howner, h⟩ := check_bind_eq_ok.mp h
  cases h
  exact ⟨onlyOwner_eq_ok.mp howner, ⟨_, .updateCscaRoot root, rfl, rfl,
    fun _ _ => trivial, fun _ hL => { hL with cscaRoot := rfl }⟩⟩

theorem devAddIdentityCommitment_logged (hl : imt.Lawful) {a n c : Word}
    (h : devAddIdentityCommitment imt ow ctx a n c s = .ok s') :
    LoggedCall imt ow impl ctx (.devAddIdentityCommitment a n c) s s' := by
  unfold devAddIdentityCommitment at h
  obtain ⟨howner, h⟩ := check_bind_eq_ok.mp h
  obtain ⟨⟨tree, root⟩, hinsert, h⟩ := bind_eq_ok.mp h
  obtain ⟨index, -, h⟩ := bind_eq_ok.mp h
  cases h
  refine ⟨onlyOwner_eq_ok.mp howner,
    ⟨_, .devAddIdentityCommitment a n c root index, rfl, rfl, ?_, ?_⟩⟩
  · -- a development call does not look at the nullifier
    intro L hL
    obtain ⟨hzero, hfresh⟩ := hl.insert_fresh hinsert
    exact ⟨hzero, not_mem_of_has hfresh hL.commitments⟩
  · intro L hL
    exact ((hL.setCommitments (has_insert_iff hl hinsert hL.commitments)
      (hl.insert_root hinsert) ctx.now).setNullifier a n true).emit

theorem devUpdateCommitment_logged (hl : imt.Lawful) {oldLeaf newLeaf : Word}
    {siblingNodes : List Word}
    (h : devUpdateCommitment imt ow ctx oldLeaf newLeaf siblingNodes s = .ok s') :
    LoggedCall imt ow impl ctx (.devUpdateCommitment oldLeaf newLeaf siblingNodes) s s' := by
  unfold devUpdateCommitment at h
  obtain ⟨howner, h⟩ := check_bind_eq_ok.mp h
  obtain ⟨⟨tree, root⟩, hupdate, h⟩ := bind_eq_ok.mp h
  cases h
  refine ⟨onlyOwner_eq_ok.mp howner,
    ⟨_, .devUpdateCommitment oldLeaf newLeaf root siblingNodes, rfl, rfl, ?_, ?_⟩⟩
  · -- the old leaf stands in the tree, and the new one does not, unless it is 0
    intro L hL
    obtain ⟨hold, hnew⟩ := hl.update_present hupdate
    exact ⟨(hL.commitments _).mp hold, fun h => not_mem_of_has (hnew h) hL.commitments⟩
  · intro L hL
    exact (hL.setCommitments (has_update_iff hl hupdate hL.commitments)
      (hl.update_root hupdate) ctx.now).emit

theorem devRemoveCommitment_logged (hl : imt.Lawful) {oldLeaf : Word} {siblingNodes : List Word}
    (h : devRemoveCommitment imt ow ctx oldLeaf siblingNodes s = .ok s') :
    LoggedCall imt ow impl ctx (.devRemoveCommitment oldLeaf siblingNodes) s s' := by
  unfold devRemoveCommitment at h
  obtain ⟨howner, h⟩ := check_bind_eq_ok.mp h
  obtain ⟨⟨tree, root⟩, hupdate, h⟩ := bind_eq_ok.mp h
  cases h
  refine ⟨onlyOwner_eq_ok.mp howner,
    ⟨_, .devRemoveCommitment oldLeaf root siblingNodes, rfl, rfl, ?_, ?_⟩⟩
  · intro L hL
    exact (hL.commitments _).mp (hl.update_present hupdate).1
  · -- a removal is an update to 0
    intro L hL
    exact (hL.setCommitments (has_update_iff hl hupdate hL.commitments)
      (hl.update_root hupdate) ctx.now).emit

theorem devAddDscKeyCommitment_logged (hl : imt.Lawful) {c : Word}
    (h : devAddDscKeyCommitment imt ow ctx c s = .ok s') :
    LoggedCall imt ow impl ctx (.devAddDscKeyCommitment c) s s' := by
  unfold devAddDscKeyCommitment at h
  obtain ⟨howner, h⟩ := check_bind_eq_ok.mp h
  obtain ⟨⟨tree, root⟩, hinsert, h⟩ := bind_eq_ok.mp h
  obtain ⟨index, -, h⟩ := bind_eq_ok.mp h
  cases h
  refine ⟨onlyOwner_eq_ok.mp howner,
    ⟨_, .devAddDscKeyCommitment c root index, rfl, rfl, ?_, ?_⟩⟩
  · intro L hL
    obtain ⟨hzero, hfresh⟩ := hl.insert_fresh hinsert
    exact ⟨hzero, not_mem_of_has hfresh hL.dscKeyCommitments⟩
  · intro L hL
    exact ((hL.setDscKeyCommitments (has_insert_iff hl hinsert hL.dscKeyCommitments)
      (hl.insert_root hinsert)).setRegisteredDscKey c true).emit

theorem devUpdateDscKeyCommitment_logged (hl : imt.Lawful) {oldLeaf newLeaf : Word}
    {siblingNodes : List Word}
    (h : devUpdateDscKeyCommitment imt ow ctx oldLeaf newLeaf siblingNodes s = .ok s') :
    LoggedCall imt ow impl ctx (.devUpdateDscKeyCommitment oldLeaf newLeaf siblingNodes) s s' := by
  unfold devUpdateDscKeyCommitment at h
  obtain ⟨howner, h⟩ := check_bind_eq_ok.mp h
  obtain ⟨⟨tree, root⟩, hupdate, h⟩ := bind_eq_ok.mp h
  cases h
  refine ⟨onlyOwner_eq_ok.mp howner,
    ⟨_, .devUpdateDscKeyCommitment oldLeaf newLeaf root siblingNodes, rfl, rfl, ?_, ?_⟩⟩
  · intro L hL
    obtain ⟨hold, hnew⟩ := hl.update_present hupdate
    exact ⟨(hL.dscKeyCommitments _).mp hold,
      fun h => not_mem_of_has (hnew h) hL.dscKeyCommitments⟩
  · intro L hL
    exact (hL.setDscKeyCommitments (has_update_iff hl hupdate hL.dscKeyCommitments)
      (hl.update_root hupdate)).emit

theorem devRemoveDscKeyCommitment_logged (hl : imt.Lawful) {oldLeaf : Word}
    {siblingNodes : List Word}
    (h : devRemoveDscKeyCommitment imt ow ctx oldLeaf siblingNodes s = .ok s') :
    LoggedCall imt ow impl ctx (.devRemoveDscKeyCommitment oldLeaf siblingNodes) s s' := by
  unfold devRemoveDscKeyCommitment at h
  obtain ⟨howner, h⟩ := check_bind_eq_ok.mp h
  obtain ⟨⟨tree, root⟩, hupdate, h⟩ := bind_eq_ok.mp h
  cases h
  refine ⟨onlyOwner_eq_ok.mp howner,
    ⟨_, .devRemoveDscKeyCommitment oldLeaf root siblingNodes, rfl, rfl, ?_, ?_⟩⟩
  · intro L hL
    exact (hL.dscKeyCommitments _).mp (hl.update_present hupdate).1
  · intro L hL
    exact (hL.setDscKeyCommitments (has_update_iff hl hupdate hL.dscKeyCommitments)
      (hl.update_root hupdate)).emit

theorem devChangeNullifierState_logged {a n : Word} {state : Bool}
    (h : devChangeNullifierState ow ctx a n state s = .ok s') :
    LoggedCall imt ow impl ctx (.devChangeNullifierState a n state) s s' := by
  unfold devChangeNullifierState at h
  obtain ⟨howner, h⟩ := check_bind_eq_ok.mp h
  cases h
  exact ⟨onlyOwner_eq_ok.mp howner, ⟨_, .devChangeNullifierState a n state, rfl, rfl,
    fun _ _ => trivial, fun _ hL => (hL.setNullifier a n state).emit⟩⟩

theorem devChangeDscKeyCommitmentState_logged {c : Word} {state : Bool}
    (h : devChangeDscKeyCommitmentState ow ctx c state s = .ok s') :
    LoggedCall imt ow impl ctx (.devChangeDscKeyCommitmentState c state) s s' := by
  unfold devChangeDscKeyCommitmentState at h
  obtain ⟨howner, h⟩ := check_bind_eq_ok.mp h
  cases h
  exact ⟨onlyOwner_eq_ok.mp howner, ⟨_, .devChangeDscKeyCommitmentState c state, rfl, rfl,
    fun _ _ => trivial, fun _ hL => (hL.setRegisteredDscKey c state).emit⟩⟩

/-- **One call of a registry**: whatever commits was authorized, and logs one event; a call of
the ownership's functions logs none and changes the owners only. -/
theorem exec_logged (hl : imt.Lawful) (h : exec imt ow impl ctx call s = .ok s') :
    Authorized ow ctx s call ∧
      ((∃ e, Logged imt impl ctx call s s' e) ∨
        ∃ ownershipCall implRoot, call = .ownership ownershipCall ∧ s' = { s with implRoot }) := by
  cases call with
  | initializeRegistry => exact (initializeRegistry_logged h).imp_right .inl
  | registerCommitment => exact (registerCommitment_logged hl h).imp_right .inl
  | registerDscKeyCommitment => exact (registerDscKeyCommitment_logged hl h).imp_right .inl
  | updateHub => exact (updateHub_logged h).imp_right .inl
  | updatePassportNoOfacRoot => exact (updatePassportNoOfacRoot_logged h).imp_right .inl
  | updateNameAndDobOfacRoot => exact (updateNameAndDobOfacRoot_logged h).imp_right .inl
  | updateNameAndYobOfacRoot => exact (updateNameAndYobOfacRoot_logged h).imp_right .inl
  | updateCscaRoot => exact (updateCscaRoot_logged h).imp_right .inl
  | devAddIdentityCommitment => exact (devAddIdentityCommitment_logged hl h).imp_right .inl
  | devUpdateCommitment => exact (devUpdateCommitment_logged hl h).imp_right .inl
  | devRemoveCommitment => exact (devRemoveCommitment_logged hl h).imp_right .inl
  | devAddDscKeyCommitment => exact (devAddDscKeyCommitment_logged hl h).imp_right .inl
  | devUpdateDscKeyCommitment => exact (devUpdateDscKeyCommitment_logged hl h).imp_right .inl
  | devRemoveDscKeyCommitment => exact (devRemoveDscKeyCommitment_logged hl h).imp_right .inl
  | devChangeNullifierState => exact (devChangeNullifierState_logged h).imp_right .inl
  | devChangeDscKeyCommitmentState => exact (devChangeDscKeyCommitmentState_logged h).imp_right .inl
  | ownership ownershipCall =>
    unfold exec at h
    obtain ⟨implRoot, -, h⟩ := bind_eq_ok.mp h
    cases h
    exact ⟨trivial, .inr ⟨ownershipCall, implRoot, rfl, rfl⟩⟩

/-! ## The registry and its log -/

/-- A registry keeps a legal log, and represents the ledger it announces. -/
structure Journaled (imt : LeanIMT Tree) (s : Storage Owners Tree) : Prop where
  legal : Journal.Legal Ledger.apply Ledger.Allows Ledger.empty s.events
  represents : Represents imt s (announced s.events)

theorem journaled_blank (hl : imt.Lawful) : Journaled imt (blank imt ow) where
  legal := .nil _
  represents := represents_blank hl

/-- Every committed call keeps the registry and its log together. -/
theorem Journaled.exec (hl : imt.Lawful) (hs : Journaled imt s)
    (h : exec imt ow impl ctx call s = .ok s') : Journaled imt s' := by
  obtain ⟨-, ⟨e, hlogged⟩ | ⟨_, implRoot, -, rfl⟩⟩ := exec_logged hl h
  · refine ⟨?_, ?_⟩
    · rw [hlogged.events]
      exact hs.legal.concat (hlogged.allows _ hs.represents)
    · rw [hlogged.events, announced, Journal.replay_concat]
      exact hlogged.represents _ hs.represents
  · exact ⟨hs.legal, { hs.represents with }⟩

end IdentityRegistry

end RuleSelf
