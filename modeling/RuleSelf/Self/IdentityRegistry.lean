import RuleSelf.Self.ImplRoot
import RuleSelf.Self.Registry

/-!
# The Identity Registries as State Machines

`IdentityRegistryImplV1` and `IdentityRegistryIdCardImplV1`: everything they store,
every function that writes it, and the events they log. The two contracts have the same
functions, word for word, but for the initializer and for the passport numbers' OFAC root,
which the registry of ID cards lacks; `Implementation` says which one it is. The Merkle
tree library is a parameter.
-/

namespace RuleSelf

open Evm Revert

/-! ## The Merkle trees -/

/-- The functions of the package `InternalLeanIMT` the registries call. Those that write
the tree return its new root. -/
structure LeanIMT (Tree : Type) where
  /-- The storage of a tree nothing was inserted into. -/
  empty : Tree
  size : Tree → Word
  /-- `_has(leaf)` -/
  has : Tree → Word → Bool
  /-- `_root()` -/
  root : Tree → Word
  /-- `_indexOf(leaf)` -/
  indexOf : Tree → Word → Except RegistrationError Word
  /-- `_insert(leaf)` -/
  insert : Tree → Word → Except RegistrationError (Tree × Word)
  /-- `_update(oldLeaf, newLeaf, siblingNodes)` -/
  update : Tree → Word → Word → List Word → Except RegistrationError (Tree × Word)

/-- `_remove(oldLeaf, siblingNodes)`, which puts zero in the leaf's place. -/
def LeanIMT.remove {Tree : Type} (imt : LeanIMT Tree) (t : Tree) (oldLeaf : Word)
    (siblingNodes : List Word) : Except RegistrationError (Tree × Word) :=
  imt.update t oldLeaf 0 siblingNodes

/-- What the package documents of a tree: a leaf stands in it once, zero stands for no
leaf, and what is returned is the root. -/
structure LeanIMT.Lawful {Tree : Type} (imt : LeanIMT Tree) : Prop where
  has_empty (x : Word) : imt.has imt.empty x = false
  insert_root {t t' : Tree} {leaf root : Word} (h : imt.insert t leaf = .ok (t', root)) :
    imt.root t' = root
  insert_fresh {t t' : Tree} {leaf root : Word} (h : imt.insert t leaf = .ok (t', root)) :
    leaf ≠ 0 ∧ imt.has t leaf = false
  has_insert {t t' : Tree} {leaf root : Word} (h : imt.insert t leaf = .ok (t', root))
    (x : Word) : imt.has t' x = true ↔ x = leaf ∨ imt.has t x = true
  update_root {t t' : Tree} {oldLeaf newLeaf root : Word} {siblingNodes : List Word}
    (h : imt.update t oldLeaf newLeaf siblingNodes = .ok (t', root)) : imt.root t' = root
  update_present {t t' : Tree} {oldLeaf newLeaf root : Word} {siblingNodes : List Word}
    (h : imt.update t oldLeaf newLeaf siblingNodes = .ok (t', root)) :
    imt.has t oldLeaf = true ∧ (newLeaf ≠ 0 → imt.has t newLeaf = false)
  has_update {t t' : Tree} {oldLeaf newLeaf root : Word} {siblingNodes : List Word}
    (h : imt.update t oldLeaf newLeaf siblingNodes = .ok (t', root)) (x : Word) :
    imt.has t' x = true ↔ (imt.has t x = true ∧ x ≠ oldLeaf) ∨ (x = newLeaf ∧ newLeaf ≠ 0)

namespace LeanIMT

/-- One layer of a tree over the one below: two nodes are hashed, a last single one is
carried up. -/
def layer (hash : Word → Word → Word) : List Word → List Word
  | left :: right :: nodes => hash left right :: layer hash nodes
  | nodes => nodes

/-- The root of the tree over some leaves, which has at most as many layers. -/
def rootOf (hash : Word → Word → Word) : ℕ → List Word → Word
  | 0, _ | _, [] => 0
  | _, [root] => root
  | k + 1, nodes => rootOf hash k (layer hash nodes)

/-- A tree kept as the list of its leaves. The package also refuses a leaf that is no field
element, and has the sibling nodes prove the old leaf's place. -/
def leaves (hash : Word → Word → Word) : LeanIMT (List Word) where
  empty := []
  size t := BitVec.ofNat 256 t.length
  has t leaf := leaf != 0 && t.contains leaf
  root t := rootOf hash t.length t
  indexOf t leaf := do
    require (leaf ≠ 0 ∧ leaf ∈ t) .leafDoesNotExist
    return BitVec.ofNat 256 (t.idxOf leaf)
  insert t leaf := do
    revertIf (leaf = 0) .leafCannotBeZero
    revertIf (leaf ∈ t) .leafAlreadyExists
    return (t ++ [leaf], rootOf hash (t ++ [leaf]).length (t ++ [leaf]))
  update t oldLeaf newLeaf _ := do
    require (oldLeaf ≠ 0 ∧ oldLeaf ∈ t) .leafDoesNotExist
    revertIf (newLeaf ≠ 0 ∧ newLeaf ∈ t) .leafAlreadyExists
    let t' := t.map fun x => if x = oldLeaf then newLeaf else x
    return (t', rootOf hash t'.length t')

theorem leaves_lawful (hash : Word → Word → Word) : (leaves hash).Lawful where
  has_empty x := by simp [leaves]
  insert_root h := by
    simp only [leaves, check_bind_eq_ok, pure_eq_ok, Prod.mk.injEq] at h
    obtain ⟨-, -, rfl, rfl⟩ := h
    rfl
  insert_fresh h := by
    simp only [leaves, check_bind_eq_ok, revertIf_eq_ok] at h
    obtain ⟨hzero, hfresh, -⟩ := h
    exact ⟨hzero, by simp [leaves, hfresh]⟩
  has_insert h x := by
    simp only [leaves, check_bind_eq_ok, revertIf_eq_ok, pure_eq_ok, Prod.mk.injEq] at h
    obtain ⟨hzero, -, rfl, -⟩ := h
    simp only [leaves, Bool.and_eq_true, bne_iff_ne, List.contains_iff_mem, List.mem_append,
      List.mem_singleton]
    grind
  update_root h := by
    simp only [leaves, check_bind_eq_ok, pure_eq_ok, Prod.mk.injEq] at h
    obtain ⟨-, -, rfl, rfl⟩ := h
    rfl
  update_present h := by
    simp only [leaves, check_bind_eq_ok, require_eq_ok, revertIf_eq_ok] at h
    obtain ⟨⟨hzero, hold⟩, hnew, -⟩ := h
    simp only [leaves, Bool.and_eq_true, bne_iff_ne, List.contains_iff_mem]
    -- a leaf may be written over by itself
    refine ⟨⟨hzero, hold⟩, fun hne => ?_⟩
    simpa using fun _ hmem => hnew ⟨hne, hmem⟩
  has_update h x := by
    simp only [leaves, check_bind_eq_ok, require_eq_ok, revertIf_eq_ok, pure_eq_ok,
      Prod.mk.injEq] at h
    obtain ⟨⟨hzero, hold⟩, hnew, rfl, -⟩ := h
    simp only [leaves, Bool.and_eq_true, bne_iff_ne, List.contains_iff_mem, List.mem_map]
    grind

end LeanIMT

/-! ## Storage -/

/-- The contract behind a registry's proxy. -/
inductive Implementation where
  | passport
  | idCard
  deriving DecidableEq

namespace IdentityRegistry

/-- The events of the registries. -/
inductive Event where
  | registryInitialized (hub : Address)
  | hubUpdated (hub : Address)
  | cscaRootUpdated (cscaRoot : Word)
  | passportNoOfacRootUpdated (passportNoOfacRoot : Word)
  | nameAndDobOfacRootUpdated (nameAndDobOfacRoot : Word)
  | nameAndYobOfacRootUpdated (nameAndYobOfacRoot : Word)
  | commitmentRegistered
      (attestationId nullifier commitment timestamp imtRoot imtIndex : Word)
  | dscKeyCommitmentRegistered (commitment timestamp imtRoot imtIndex : Word)
  | devCommitmentRegistered
      (attestationId nullifier commitment timestamp imtRoot imtIndex : Word)
  | devCommitmentUpdated (oldLeaf newLeaf imtRoot timestamp : Word)
  | devCommitmentRemoved (oldLeaf imtRoot timestamp : Word)
  | devDscKeyCommitmentRegistered (commitment imtRoot imtIndex : Word)
  | devDscKeyCommitmentUpdated (oldLeaf newLeaf imtRoot : Word)
  | devDscKeyCommitmentRemoved (oldLeaf imtRoot : Word)
  | devNullifierStateChanged (attestationId nullifier : Word) (state : Bool)
  | devDscKeyCommitmentStateChanged (commitment : Word) (state : Bool)
  deriving DecidableEq

/-- Storage of a registry, and the events it has logged, oldest first. The passport
numbers' OFAC root is there in the registry of passports only. -/
structure Storage (Owners Tree : Type) where
  implRoot : ImplRoot.Storage Owners
  hub : Address
  identityCommitmentIMT : Tree
  rootTimestamps : Word → Word
  nullifiers : Word → Word → Bool
  dscKeyCommitmentIMT : Tree
  isRegisteredDscKeyCommitment : Word → Bool
  passportNoOfacRoot : Word
  nameAndDobOfacRoot : Word
  nameAndYobOfacRoot : Word
  cscaRoot : Word
  events : List Event

variable {Owners Tree : Type}

/-- What the hub's verification reads of the registry of passports. -/
def Storage.toPassport (s : Storage Owners Tree) : IdentityRegistryImplV1.Storage where
  rootTimestamps := s.rootTimestamps
  passportNoOfacRoot := s.passportNoOfacRoot
  nameAndDobOfacRoot := s.nameAndDobOfacRoot
  nameAndYobOfacRoot := s.nameAndYobOfacRoot

/-- What the hub's verification reads of the registry of ID cards. -/
def Storage.toIdCard (s : Storage Owners Tree) : IdentityRegistryIdCardImplV1.Storage where
  rootTimestamps := s.rootTimestamps
  nameAndDobOfacRoot := s.nameAndDobOfacRoot
  nameAndYobOfacRoot := s.nameAndYobOfacRoot

/-- A registry just deployed, nobody having initialized it. -/
def blank (imt : LeanIMT Tree) (ow : Ownable2Step Owners) : Storage Owners Tree where
  implRoot := ImplRoot.uninitialized ow
  hub := 0
  identityCommitmentIMT := imt.empty
  rootTimestamps _ := 0
  nullifiers _ _ := false
  dscKeyCommitmentIMT := imt.empty
  isRegisteredDscKeyCommitment _ := false
  passportNoOfacRoot := 0
  nameAndDobOfacRoot := 0
  nameAndYobOfacRoot := 0
  cscaRoot := 0
  events := []

/-- `emit e` -/
def Storage.emit (s : Storage Owners Tree) (e : Event) : Storage Owners Tree :=
  { s with events := s.events ++ [e] }

/-! ## Functions -/

/-- The caller of a function, and the time of its block. -/
structure Context where
  sender : Address
  timestamp : ℕ

/-- `block.timestamp` -/
def Context.now (ctx : Context) : Word := BitVec.ofNat 256 ctx.timestamp

section Functions

variable (imt : LeanIMT Tree) (ow : Ownable2Step Owners) (ctx : Context)

/-- The modifier `onlyHub`. -/
def onlyHub (s : Storage Owners Tree) : Except RegistrationError Unit := do
  revertIf (s.hub = 0) .hubNotSet
  revertIf (ctx.sender ≠ s.hub) .onlyHubCanAccess

/-- The modifier `onlyOwner`. -/
def onlyOwner (s : Storage Owners Tree) : Except RegistrationError Unit :=
  ImplRoot.onlyOwner ow ctx.sender s.implRoot

/-- Initializes the registry. The argument of the ID cards' initializer has the name of the
hub's slot, and is assigned to itself. -/
def initializeRegistry (impl : Implementation) (hubAddress : Address) (s : Storage Owners Tree) :
    Except RegistrationError (Storage Owners Tree) := do
  let implRoot ← ImplRoot.init ow ctx.sender s.implRoot
  let s := { s with implRoot }
  -- `_hub = _hub` is about the parameter in the ID cards' initializer
  let s := match impl with
    | .passport => { s with hub := hubAddress }
    | .idCard => s
  return s.emit (.registryInitialized hubAddress)

/-- Whether the DSC key commitment tree has the given root. -/
def checkDscKeyCommitmentMerkleRoot (root : Word) (s : Storage Owners Tree) : Bool :=
  imt.root s.dscKeyCommitmentIMT == root

/-- Whether the CSCA root is the given one. -/
def checkCscaRoot (root : Word) (s : Storage Owners Tree) : Bool :=
  s.cscaRoot == root

/-- Registers a new identity commitment. -/
def registerCommitment (attestationId nullifier commitment : Word) (s : Storage Owners Tree) :
    Except RegistrationError (Storage Owners Tree) := do
  onlyHub ctx s
  revertIf (s.nullifiers attestationId nullifier = true) .registeredCommitment
  let index := imt.size s.identityCommitmentIMT
  -- the tree itself refuses 0 and a leaf it holds
  let (tree, imtRoot) ← imt.insert s.identityCommitmentIMT commitment
  return { s with
    nullifiers := Function.update s.nullifiers attestationId
      (Function.update (s.nullifiers attestationId) nullifier true)
    identityCommitmentIMT := tree
    rootTimestamps := Function.update s.rootTimestamps imtRoot ctx.now
    }.emit (.commitmentRegistered attestationId nullifier commitment ctx.now imtRoot index)

/-- Registers a new DSC key commitment. -/
def registerDscKeyCommitment (dscCommitment : Word) (s : Storage Owners Tree) :
    Except RegistrationError (Storage Owners Tree) := do
  onlyHub ctx s
  revertIf (s.isRegisteredDscKeyCommitment dscCommitment = true) .registeredCommitment
  let index := imt.size s.dscKeyCommitmentIMT
  let (tree, imtRoot) ← imt.insert s.dscKeyCommitmentIMT dscCommitment
  return { s with
    isRegisteredDscKeyCommitment := Function.update s.isRegisteredDscKeyCommitment
      dscCommitment true
    dscKeyCommitmentIMT := tree
    }.emit (.dscKeyCommitmentRegistered dscCommitment ctx.now imtRoot index)

/-- Updates the hub address. -/
def updateHub (newHubAddress : Address) (s : Storage Owners Tree) :
    Except RegistrationError (Storage Owners Tree) := do
  onlyOwner ow ctx s
  return { s with hub := newHubAddress }.emit (.hubUpdated newHubAddress)

/-- Updates the passport number OFAC root; only the registry of passports has the function. -/
def updatePassportNoOfacRoot (impl : Implementation) (newPassportNoOfacRoot : Word)
    (s : Storage Owners Tree) : Except RegistrationError (Storage Owners Tree) := do
  -- a call of a function that is not there reverts
  require (impl = .passport) .noFunction
  onlyOwner ow ctx s
  return { s with passportNoOfacRoot := newPassportNoOfacRoot }.emit
    (.passportNoOfacRootUpdated newPassportNoOfacRoot)

/-- Updates the name and date of birth OFAC root. -/
def updateNameAndDobOfacRoot (newNameAndDobOfacRoot : Word) (s : Storage Owners Tree) :
    Except RegistrationError (Storage Owners Tree) := do
  onlyOwner ow ctx s
  return { s with nameAndDobOfacRoot := newNameAndDobOfacRoot }.emit
    (.nameAndDobOfacRootUpdated newNameAndDobOfacRoot)

/-- Updates the name and year of birth OFAC root. -/
def updateNameAndYobOfacRoot (newNameAndYobOfacRoot : Word) (s : Storage Owners Tree) :
    Except RegistrationError (Storage Owners Tree) := do
  onlyOwner ow ctx s
  return { s with nameAndYobOfacRoot := newNameAndYobOfacRoot }.emit
    (.nameAndYobOfacRootUpdated newNameAndYobOfacRoot)

/-- Updates the CSCA root. -/
def updateCscaRoot (newCscaRoot : Word) (s : Storage Owners Tree) :
    Except RegistrationError (Storage Owners Tree) := do
  onlyOwner ow ctx s
  return { s with cscaRoot := newCscaRoot }.emit (.cscaRootUpdated newCscaRoot)

/-- (DEV) Force-adds an identity commitment. -/
def devAddIdentityCommitment (attestationId nullifier commitment : Word)
    (s : Storage Owners Tree) : Except RegistrationError (Storage Owners Tree) := do
  onlyOwner ow ctx s
  let (tree, imtRoot) ← imt.insert s.identityCommitmentIMT commitment
  -- the index is looked up here, where `registerCommitment` takes the size
  let index ← imt.indexOf tree commitment
  return { s with
    nullifiers := Function.update s.nullifiers attestationId
      (Function.update (s.nullifiers attestationId) nullifier true)
    identityCommitmentIMT := tree
    rootTimestamps := Function.update s.rootTimestamps imtRoot ctx.now
    }.emit (.devCommitmentRegistered attestationId nullifier commitment ctx.now imtRoot index)

/-- (DEV) Updates an existing identity commitment. -/
def devUpdateCommitment (oldLeaf newLeaf : Word) (siblingNodes : List Word)
    (s : Storage Owners Tree) : Except RegistrationError (Storage Owners Tree) := do
  onlyOwner ow ctx s
  let (tree, imtRoot) ← imt.update s.identityCommitmentIMT oldLeaf newLeaf siblingNodes
  return { s with
    identityCommitmentIMT := tree
    rootTimestamps := Function.update s.rootTimestamps imtRoot ctx.now
    }.emit (.devCommitmentUpdated oldLeaf newLeaf imtRoot ctx.now)

/-- (DEV) Removes an existing identity commitment. -/
def devRemoveCommitment (oldLeaf : Word) (siblingNodes : List Word) (s : Storage Owners Tree) :
    Except RegistrationError (Storage Owners Tree) := do
  onlyOwner ow ctx s
  let (tree, imtRoot) ← imt.remove s.identityCommitmentIMT oldLeaf siblingNodes
  return { s with
    identityCommitmentIMT := tree
    rootTimestamps := Function.update s.rootTimestamps imtRoot ctx.now
    }.emit (.devCommitmentRemoved oldLeaf imtRoot ctx.now)

/-- (DEV) Force-adds a DSC key commitment. -/
def devAddDscKeyCommitment (dscCommitment : Word) (s : Storage Owners Tree) :
    Except RegistrationError (Storage Owners Tree) := do
  onlyOwner ow ctx s
  let (tree, imtRoot) ← imt.insert s.dscKeyCommitmentIMT dscCommitment
  let index ← imt.indexOf tree dscCommitment
  return { s with
    isRegisteredDscKeyCommitment := Function.update s.isRegisteredDscKeyCommitment
      dscCommitment true
    dscKeyCommitmentIMT := tree
    }.emit (.devDscKeyCommitmentRegistered dscCommitment imtRoot index)

/-- (DEV) Updates an existing DSC key commitment. -/
def devUpdateDscKeyCommitment (oldLeaf newLeaf : Word) (siblingNodes : List Word)
    (s : Storage Owners Tree) : Except RegistrationError (Storage Owners Tree) := do
  onlyOwner ow ctx s
  let (tree, imtRoot) ← imt.update s.dscKeyCommitmentIMT oldLeaf newLeaf siblingNodes
  return { s with dscKeyCommitmentIMT := tree }.emit
    (.devDscKeyCommitmentUpdated oldLeaf newLeaf imtRoot)

/-- (DEV) Removes an existing DSC key commitment. -/
def devRemoveDscKeyCommitment (oldLeaf : Word) (siblingNodes : List Word)
    (s : Storage Owners Tree) : Except RegistrationError (Storage Owners Tree) := do
  onlyOwner ow ctx s
  let (tree, imtRoot) ← imt.remove s.dscKeyCommitmentIMT oldLeaf siblingNodes
  return { s with dscKeyCommitmentIMT := tree }.emit (.devDscKeyCommitmentRemoved oldLeaf imtRoot)

/-- (DEV) Changes the state of a nullifier. -/
def devChangeNullifierState (attestationId nullifier : Word) (state : Bool)
    (s : Storage Owners Tree) : Except RegistrationError (Storage Owners Tree) := do
  onlyOwner ow ctx s
  return { s with
    nullifiers := Function.update s.nullifiers attestationId
      (Function.update (s.nullifiers attestationId) nullifier state)
    }.emit (.devNullifierStateChanged attestationId nullifier state)

/-- (DEV) Changes the registration state of a DSC key commitment. -/
def devChangeDscKeyCommitmentState (dscCommitment : Word) (state : Bool)
    (s : Storage Owners Tree) : Except RegistrationError (Storage Owners Tree) := do
  onlyOwner ow ctx s
  return { s with
    isRegisteredDscKeyCommitment := Function.update s.isRegisteredDscKeyCommitment
      dscCommitment state
    }.emit (.devDscKeyCommitmentStateChanged dscCommitment state)

end Functions

/-! ## Calls -/

/-- The functions of a registry that write. -/
inductive Call where
  | initializeRegistry (hubAddress : Address)
  | registerCommitment (attestationId nullifier commitment : Word)
  | registerDscKeyCommitment (dscCommitment : Word)
  | updateHub (newHubAddress : Address)
  | updatePassportNoOfacRoot (newPassportNoOfacRoot : Word)
  | updateNameAndDobOfacRoot (newNameAndDobOfacRoot : Word)
  | updateNameAndYobOfacRoot (newNameAndYobOfacRoot : Word)
  | updateCscaRoot (newCscaRoot : Word)
  | devAddIdentityCommitment (attestationId nullifier commitment : Word)
  | devUpdateCommitment (oldLeaf newLeaf : Word) (siblingNodes : List Word)
  | devRemoveCommitment (oldLeaf : Word) (siblingNodes : List Word)
  | devAddDscKeyCommitment (dscCommitment : Word)
  | devUpdateDscKeyCommitment (oldLeaf newLeaf : Word) (siblingNodes : List Word)
  | devRemoveDscKeyCommitment (oldLeaf : Word) (siblingNodes : List Word)
  | devChangeNullifierState (attestationId nullifier : Word) (state : Bool)
  | devChangeDscKeyCommitmentState (dscCommitment : Word) (state : Bool)
  | ownership (call : OwnershipCall)

/-- Executes a call of a registry. -/
def exec (imt : LeanIMT Tree) (ow : Ownable2Step Owners) (impl : Implementation) (ctx : Context)
    (call : Call) (s : Storage Owners Tree) :
    Except RegistrationError (Storage Owners Tree) :=
  match call with
  | .initializeRegistry hubAddress => initializeRegistry ow ctx impl hubAddress s
  | .registerCommitment attestationId nullifier commitment =>
    registerCommitment imt ctx attestationId nullifier commitment s
  | .registerDscKeyCommitment dscCommitment => registerDscKeyCommitment imt ctx dscCommitment s
  | .updateHub newHubAddress => updateHub ow ctx newHubAddress s
  | .updatePassportNoOfacRoot newRoot => updatePassportNoOfacRoot ow ctx impl newRoot s
  | .updateNameAndDobOfacRoot newRoot => updateNameAndDobOfacRoot ow ctx newRoot s
  | .updateNameAndYobOfacRoot newRoot => updateNameAndYobOfacRoot ow ctx newRoot s
  | .updateCscaRoot newCscaRoot => updateCscaRoot ow ctx newCscaRoot s
  | .devAddIdentityCommitment attestationId nullifier commitment =>
    devAddIdentityCommitment imt ow ctx attestationId nullifier commitment s
  | .devUpdateCommitment oldLeaf newLeaf siblingNodes =>
    devUpdateCommitment imt ow ctx oldLeaf newLeaf siblingNodes s
  | .devRemoveCommitment oldLeaf siblingNodes =>
    devRemoveCommitment imt ow ctx oldLeaf siblingNodes s
  | .devAddDscKeyCommitment dscCommitment => devAddDscKeyCommitment imt ow ctx dscCommitment s
  | .devUpdateDscKeyCommitment oldLeaf newLeaf siblingNodes =>
    devUpdateDscKeyCommitment imt ow ctx oldLeaf newLeaf siblingNodes s
  | .devRemoveDscKeyCommitment oldLeaf siblingNodes =>
    devRemoveDscKeyCommitment imt ow ctx oldLeaf siblingNodes s
  | .devChangeNullifierState attestationId nullifier state =>
    devChangeNullifierState ow ctx attestationId nullifier state s
  | .devChangeDscKeyCommitmentState dscCommitment state =>
    devChangeDscKeyCommitmentState ow ctx dscCommitment state s
  | .ownership call => do
    let implRoot ← ImplRoot.ownership ow ctx.sender call s.implRoot
    return { s with implRoot }

end IdentityRegistry

end RuleSelf
