import RuleSelf.Library.Revert
import RuleSelf.Self.Structs

/-!
# Initialized and Owned Contracts

`ImplRoot`, the base of the hub and of the identity registries: a contract behind a
proxy, initialized once and owned by an account. What the package's
`Ownable2StepUpgradeable` keeps is a parameter. Upgrades replace the code and are left
out, and the functions are called through the proxy, so `onlyProxy` holds.
-/

namespace RuleSelf

open Evm Revert

/-- What a call of the hub or of an identity registry reverts with. -/
inductive RegistrationError where
  -- ImplRoot
  | invalidInitialization
  | ownableInvalidOwner (owner : Address)
  | ownableUnauthorizedAccount (account : Address)
  -- IdentityRegistryImplV1, IdentityRegistryIdCardImplV1
  | hubNotSet
  | onlyHubCanAccess
  | registeredCommitment
  -- the Merkle trees
  | wrongMerkleProof
  | leafCannotBeZero
  | leafAlreadyExists
  | leafDoesNotExist
  | leafGreaterThanSnarkScalarField
  -- IdentityVerificationHubImplV2
  | lengthMismatch
  | noVerifierSet
  | invalidRegisterProof
  | invalidDscProof
  | invalidDscCommitmentRoot
  | invalidCscaRoot
  | invalidAttestationId
  /-- The empty revert of a call to an address without a registry, or to a function its
  registry does not have. -/
  | noFunction
  /-- A revert of RuleSelf or of the hub's verification. -/
  | verification (e : Error)
  deriving DecidableEq

/-- `Ownable2StepUpgradeable`, inherited from a package, over its own storage of owners.
The functions that write it are given the caller. -/
structure Ownable2Step (Owners : Type) where
  /-- The storage before the initializer runs. -/
  unowned : Owners
  owner : Owners → Address
  /-- `__Ownable_init(initialOwner)` -/
  init : Address → Except RegistrationError Owners
  transferOwnership : Owners → Address → Address → Except RegistrationError Owners
  acceptOwnership : Owners → Address → Except RegistrationError Owners
  renounceOwnership : Owners → Address → Except RegistrationError Owners

namespace Ownable2Step

/-- The package's contract: the owner, and the account that may accept the ownership. -/
def pair : Ownable2Step (Address × Address) where
  unowned := (0, 0)
  owner owners := owners.1
  init initialOwner := do
    revertIf (initialOwner = 0) (.ownableInvalidOwner 0)
    return (initialOwner, 0)
  transferOwnership owners sender newOwner := do
    require (owners.1 = sender) (.ownableUnauthorizedAccount sender)
    return (owners.1, newOwner)
  acceptOwnership owners sender := do
    require (owners.2 = sender) (.ownableUnauthorizedAccount sender)
    return (sender, 0)
  renounceOwnership owners sender := do
    require (owners.1 = sender) (.ownableUnauthorizedAccount sender)
    return (0, 0)

end Ownable2Step

/-- The functions of the ownership, which every contract inherits. -/
inductive OwnershipCall where
  | transferOwnership (newOwner : Address)
  | acceptOwnership
  | renounceOwnership

/-- A call of one of them. -/
def Ownable2Step.exec {Owners : Type} (ow : Ownable2Step Owners) (owners : Owners)
    (sender : Address) : OwnershipCall → Except RegistrationError Owners
  | .transferOwnership newOwner => ow.transferOwnership owners sender newOwner
  | .acceptOwnership => ow.acceptOwnership owners sender
  | .renounceOwnership => ow.renounceOwnership owners sender

namespace ImplRoot

/-- Storage of the base contract. -/
structure Storage (Owners : Type) where
  initialized : Bool
  owners : Owners

variable {Owners : Type} (ow : Ownable2Step Owners)

/-- A proxy nobody has initialized. -/
def uninitialized : Storage Owners where
  initialized := false
  owners := ow.unowned

/-- The modifier `initializer` around `__ImplRoot_init`: it runs once, and the caller
becomes the owner. -/
def init (sender : Address) (s : Storage Owners) :
    Except RegistrationError (Storage Owners) := do
  revertIf (s.initialized = true) .invalidInitialization
  let owners ← ow.init sender
  return { initialized := true, owners }

/-- The modifier `onlyOwner`. -/
def onlyOwner (sender : Address) (s : Storage Owners) : Except RegistrationError Unit :=
  require (ow.owner s.owners = sender) (.ownableUnauthorizedAccount sender)

/-- A call of the ownership's functions. -/
def ownership (sender : Address) (call : OwnershipCall) (s : Storage Owners) :
    Except RegistrationError (Storage Owners) := do
  let owners ← ow.exec s.owners sender call
  return { s with owners }

variable {ow} {sender : Address} {s s' : Storage Owners}

@[simp] theorem onlyOwner_eq_ok {u : Unit} :
    onlyOwner ow sender s = .ok u ↔ ow.owner s.owners = sender :=
  require_eq_ok

/-- The initializer runs once. -/
theorem init_initialized (h : init ow sender s = .ok s') :
    s.initialized = false ∧ s'.initialized = true := by
  unfold init at h
  obtain ⟨hnew, h⟩ := check_bind_eq_ok.mp h
  obtain ⟨owners, -, h⟩ := bind_eq_ok.mp h
  cases h
  exact ⟨by simpa using hnew, rfl⟩

end ImplRoot

end RuleSelf
