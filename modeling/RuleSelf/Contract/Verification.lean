import RuleSelf.Self.Pipeline

/-!
# RuleSelf: Registration

`RuleSelfVerification` over `SelfVerificationRoot`: the storage of the contract, its
administration, `verifySelfProof`, the callback of the hub and the hook that
registers a user identifier. Every function takes the storage and returns the new
one or an error; a revert is the error.
-/

namespace RuleSelf

open Evm Abi Revert IdentityVerificationHub

/-! ## Access control -/

/-- `DEFAULT_ADMIN_ROLE`, the admin role of every role. -/
def defaultAdminRole : Word := 0

/-- The `AccessControl` the contract inherits from a package, over its own storage of
roles. Its functions are given the `hasRole` of the inheriting contract, which they call
virtually, and the caller. -/
structure AccessControl (Roles : Type) where
  /-- The storage before the constructor runs. -/
  unassigned : Roles
  hasRole : Roles → Word → Address → Bool
  /-- The internal `_grantRole`. -/
  assign : (Roles → Word → Address → Bool) → Roles → Word → Address → Roles
  grantRole : (Roles → Word → Address → Bool) → Roles → Address → Word → Address →
    Except Error Roles
  revokeRole : (Roles → Word → Address → Bool) → Roles → Address → Word → Address →
    Except Error Roles
  renounceRole : (Roles → Word → Address → Bool) → Roles → Address → Word → Address →
    Except Error Roles

namespace AccessControl

/-- The storage of the package's contract: one flag for a role and an account. -/
abbrev RoleFlags := Word → Address → Bool

def setFlag (roles : RoleFlags) (role : Word) (account : Address) (flag : Bool) : RoleFlags :=
  fun r a => if r = role ∧ a = account then flag else roles r a

/-- `_grantRole`, by the contract's own `hasRole`: no flag is set for who has the role. -/
def grantFlag (hasRole : RoleFlags → Word → Address → Bool) (roles : RoleFlags) (role : Word)
    (account : Address) : RoleFlags :=
  if hasRole roles role account then roles else setFlag roles role account true

/-- `_revokeRole` -/
def revokeFlag (hasRole : RoleFlags → Word → Address → Bool) (roles : RoleFlags) (role : Word)
    (account : Address) : RoleFlags :=
  if hasRole roles role account then setFlag roles role account false else roles

/-- The package's contract; every role is administered by the default admin role. -/
def flags : AccessControl RoleFlags where
  unassigned _ _ := false
  hasRole roles role account := roles role account
  assign hasRole roles role account := grantFlag hasRole roles role account
  grantRole hasRole roles sender role account := do
    require (hasRole roles defaultAdminRole sender = true)
      (.accessControlUnauthorizedAccount sender defaultAdminRole)
    return grantFlag hasRole roles role account
  revokeRole hasRole roles sender role account := do
    require (hasRole roles defaultAdminRole sender = true)
      (.accessControlUnauthorizedAccount sender defaultAdminRole)
    return revokeFlag hasRole roles role account
  renounceRole hasRole roles sender role callerConfirmation := do
    revertIf (callerConfirmation ≠ sender) .accessControlBadConfirmation
    return revokeFlag hasRole roles role callerConfirmation

end AccessControl

/-! ## Storage -/

/-- The events of the contract. -/
inductive Event where
  | scopeUpdated (newScope : Word)
  | registrationOpen
  | registrationClose
  | userIdentifierRegistered (registeredUserIdentifier nullifier : Word)
  deriving DecidableEq

/-- Storage of the contract, and the events it has logged, oldest first. -/
structure Storage (Roles : Type) where
  scope : Word
  isRegistrationOpen : Bool
  configId : Word
  nullifierToUserIdentifier : Word → Word
  registeredUserIdentifiers : Word → Bool
  roles : Roles
  events : List Event

variable {Roles : Type} (ac : AccessControl Roles)

/-- Whether an account has a role; the default admin has all of them. -/
def hasRole (roles : Roles) (role : Word) (account : Address) : Bool :=
  if ac.hasRole roles defaultAdminRole account then true else ac.hasRole roles role account

/-- The modifier `onlyRole(DEFAULT_ADMIN_ROLE)`. -/
def onlyAdmin (sender : Address) (s : Storage Roles) : Except Error Unit :=
  require (hasRole ac s.roles defaultAdminRole sender = true)
    (.accessControlUnauthorizedAccount sender defaultAdminRole)

/-- The constructor, run by the deployer. -/
def deploy (deployer : Address) (configId scopeValue : Word) : Storage Roles where
  scope := scopeValue
  isRegistrationOpen := false
  configId := configId
  nullifierToUserIdentifier _ := 0
  registeredUserIdentifiers _ := false
  roles := ac.assign (hasRole ac) ac.unassigned defaultAdminRole deployer
  events := []

/-! ## Administration -/

/-- Updates the scope used for verification. -/
def setScope (sender : Address) (newScope : Word) (s : Storage Roles) :
    Except Error (Storage Roles) := do
  onlyAdmin ac sender s
  return { s with scope := newScope, events := s.events ++ [.scopeUpdated newScope] }

/-- Opens the registration phase for users. -/
def openRegistration (sender : Address) (s : Storage Roles) : Except Error (Storage Roles) := do
  onlyAdmin ac sender s
  return { s with isRegistrationOpen := true, events := s.events ++ [.registrationOpen] }

/-- Closes the registration phase. -/
def closeRegistration (sender : Address) (s : Storage Roles) : Except Error (Storage Roles) := do
  onlyAdmin ac sender s
  return { s with isRegistrationOpen := false, events := s.events ++ [.registrationClose] }

/-- Sets the Self config id. -/
def setConfigId (sender : Address) (configId : Word) (s : Storage Roles) :
    Except Error (Storage Roles) := do
  onlyAdmin ac sender s
  return { s with configId := configId }

/-- `grantRole`, `revokeRole` and `renounceRole` change the roles and nothing else. -/
def setRoles (s : Storage Roles) (roles : Except Error Roles) : Except Error (Storage Roles) := do
  let roles ← roles
  return { s with roles := roles }

def grantRole (sender : Address) (role : Word) (account : Address) (s : Storage Roles) :
    Except Error (Storage Roles) :=
  setRoles s (ac.grantRole (hasRole ac) s.roles sender role account)

def revokeRole (sender : Address) (role : Word) (account : Address) (s : Storage Roles) :
    Except Error (Storage Roles) :=
  setRoles s (ac.revokeRole (hasRole ac) s.roles sender role account)

def renounceRole (sender : Address) (role : Word) (callerConfirmation : Address)
    (s : Storage Roles) : Except Error (Storage Roles) :=
  setRoles s (ac.renounceRole (hasRole ac) s.roles sender role callerConfirmation)

/-! ## Registration -/

/-- The storage after user identifier `u` has been registered with nullifier `n`. -/
def register (u n : Word) (s : Storage Roles) : Storage Roles :=
  { s with
    nullifierToUserIdentifier := Function.update s.nullifierToUserIdentifier n u
    registeredUserIdentifiers := Function.update s.registeredUserIdentifiers u true
    events := s.events ++ [.userIdentifierRegistered u n] }

section Register

variable (s : Storage Roles) (u n : Word)

/-- The identifier is stored for the nullifier. -/
theorem register_stored : (register u n s).nullifierToUserIdentifier n = u := by
  simp [register]

theorem register_stored_of_ne {n' : Word} (h : n' ≠ n) :
    (register u n s).nullifierToUserIdentifier n' = s.nullifierToUserIdentifier n' := by
  simp [register, Function.update_of_ne h]

/-- The identifier is registered. -/
theorem register_registered : (register u n s).registeredUserIdentifiers u = true := by
  simp [register]

theorem register_registered_of_ne {u' : Word} (h : u' ≠ u) :
    (register u n s).registeredUserIdentifiers u' = s.registeredUserIdentifiers u' := by
  simp [register, Function.update_of_ne h]

end Register

/-- Hook called after successful verification: handles user registration. -/
def customVerificationHook (output : ISelfVerificationRoot.GenericDiscloseOutputV2)
    (_userData : Bytes) (s : Storage Roles) : Except Error (Storage Roles) := do
  revertIf (s.isRegistrationOpen = false) .registrationNotOpen
  -- 0 stands for "unused", which is why the identifier 0 is refused
  revertIf (s.nullifierToUserIdentifier output.nullifier ≠ 0) .registeredNullifier
  revertIf (output.userIdentifier = 0) .invalidUserIdentifier
  revertIf (s.registeredUserIdentifiers output.userIdentifier = true)
    .userIdentifierAlreadyRegistered
  return register output.userIdentifier output.nullifier s

/-- Callback function called upon successful verification by the hub contract. -/
def onVerificationSuccess (hub sender : Address) (output userData : Bytes) (s : Storage Roles) :
    Except Error (Storage Roles) := do
  revertIf (sender ≠ hub) .unauthorizedCaller
  let genericDiscloseOutput ← orRevert
    (ISelfVerificationRoot.GenericDiscloseOutputV2.codec.read output) .abiDecode
  customVerificationHook genericDiscloseOutput userData s

/-- The config id a proof is verified under: the same for every user. -/
def getConfigId (s : Storage Roles) (_destinationChainId _userIdentifier : Word)
    (_userDefinedData : Bytes) : Word :=
  s.configId

/-- `CONTRACT_VERSION` -/
def contractVersion : UInt8 := 2

/-- The verification input for the hub:
| 1 byte contractVersion | 31 bytes buffer | 32 bytes scope | 32 bytes attestationId | proof |. -/
def baseVerificationInput (s : Storage Roles) (proofPayload : Bytes) : Bytes :=
  [contractVersion] ++ List.replicate 31 0 ++ Word.toBytes s.scope ++
    Word.toBytes (Word.ofBytes (slice proofPayload 0 32)) ++ proofPayload.drop 32

/-- Verifies a self-proof: the hub verifies it and calls back into the contract. -/
def verifySelfProof (verify : Bytes → Bytes → Except Error Callback) (hub : Address)
    (proofPayload userContextData : Bytes) (s : Storage Roles) :
    Except Error (Storage Roles) := do
  revertIf (proofPayload.length < 32) .invalidDataFormat
  revertIf (userContextData.length < 64) .invalidDataFormat
  let destinationChainId := Word.ofBytes (slice userContextData 0 32)
  let userIdentifier := Word.ofBytes (slice userContextData 32 64)
  let userDefinedData := userContextData.drop 64
  -- the context is cut up for `getConfigId` only, which does not look at it
  let configId := getConfigId s destinationChainId userIdentifier userDefinedData
  let callback ← verify (baseVerificationInput s proofPayload)
    (Word.toBytes configId ++ userContextData)
  -- the hub calls back into its caller, as the hub
  onVerificationSuccess hub hub callback.output callback.userData s

/-! ## When the functions succeed -/

/-- What only the default admin may do. -/
theorem onlyAdmin_bind_eq_ok {ac : AccessControl Roles} {sender : Address}
    {s s' s'' : Storage Roles} :
    (onlyAdmin ac sender s >>= fun _ => pure s') = .ok s'' ↔
      hasRole ac s.roles defaultAdminRole sender = true ∧ s' = s'' := by
  unfold onlyAdmin
  rw [check_bind_eq_ok, require_eq_ok, pure_eq_ok]

theorem setRoles_eq_ok {s s' : Storage Roles} {roles : Except Error Roles} :
    setRoles s roles = .ok s' ↔ ∃ r, roles = .ok r ∧ { s with roles := r } = s' := by
  unfold setRoles
  simp only [bind_eq_ok, pure_eq_ok]

/-- A pair can be registered: registration is open, the nullifier is unused, and the
identifier is not 0 and not registered. -/
structure CanRegister (s : Storage Roles) (u n : Word) : Prop where
  isOpen : s.isRegistrationOpen = true
  nullifier_unused : s.nullifierToUserIdentifier n = 0
  nonzero : u ≠ 0
  unregistered : s.registeredUserIdentifiers u = false

theorem customVerificationHook_eq_ok {output : ISelfVerificationRoot.GenericDiscloseOutputV2}
    {userData : Bytes} {s s' : Storage Roles} :
    customVerificationHook output userData s = .ok s' ↔
      CanRegister s output.userIdentifier output.nullifier ∧
        s' = register output.userIdentifier output.nullifier s := by
  unfold customVerificationHook
  simp only [check_bind_eq_ok, revertIf_eq_ok, pure_eq_ok, Bool.not_eq_false, Bool.not_eq_true,
    not_not, ← ne_eq]
  constructor
  · rintro ⟨h1, h2, h3, h4, rfl⟩
    exact ⟨⟨h1, h2, h3, h4⟩, rfl⟩
  · rintro ⟨⟨h1, h2, h3, h4⟩, rfl⟩
    exact ⟨h1, h2, h3, h4, rfl⟩

/-- The callback succeeds for the hub only, and registers what its output names. -/
theorem onVerificationSuccess_eq_ok {hub sender : Address} {output userData : Bytes}
    {s s' : Storage Roles} :
    onVerificationSuccess hub sender output userData s = .ok s' ↔
      sender = hub ∧ ∃ out : ISelfVerificationRoot.GenericDiscloseOutputV2,
        ISelfVerificationRoot.GenericDiscloseOutputV2.codec.read output = some out ∧
        CanRegister s out.userIdentifier out.nullifier ∧
        s' = register out.userIdentifier out.nullifier s := by
  unfold onVerificationSuccess
  simp only [↓check_bind_eq_ok, bind_eq_ok, revertIf_eq_ok, orRevert_eq_ok, not_not,
    customVerificationHook_eq_ok]

/-- `verifySelfProof` succeeds when the hub's verification does and the callback it
leads to succeeds. -/
theorem verifySelfProof_eq_ok {verify : Bytes → Bytes → Except Error Callback} {hub : Address}
    {proofPayload userContextData : Bytes} {s s' : Storage Roles} :
    verifySelfProof verify hub proofPayload userContextData s = .ok s' ↔
      32 ≤ proofPayload.length ∧ 64 ≤ userContextData.length ∧
        ∃ callback, verify (baseVerificationInput s proofPayload)
          (Word.toBytes s.configId ++ userContextData) = .ok callback ∧
          onVerificationSuccess hub hub callback.output callback.userData s = .ok s' := by
  unfold verifySelfProof getConfigId
  simp only [↓check_bind_eq_ok, bind_eq_ok, revertIf_eq_ok, not_lt]

end RuleSelf
