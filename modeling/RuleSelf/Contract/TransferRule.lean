import RuleSelf.Contract.Verification

/-!
# RuleSelf: Transfer Rule

The rule of `RuleSelf` and of `RuleValidateTransfer`: whether a transfer between two
addresses is restricted, with the restriction codes and their messages.
-/

namespace RuleSelf

open Evm

/-- `REJECTED_CODE_BASE.TRANSFER_OK` -/
def transferOk : UInt8 := 0

/-- `CODE_ADDRESS_FROM_IS_NOT_REGISTERED` -/
def codeAddressFromIsNotRegistered : UInt8 := 61

/-- `CODE_ADDRESS_TO_IS_NOT_REGISTERED` -/
def codeAddressToIsNotRegistered : UInt8 := 62

variable {Roles : Type}

/-- Checks if a given address is registered. -/
def isRegistered (s : Storage Roles) (registeredAddress : Address) : Bool :=
  s.registeredUserIdentifiers registeredAddress.toWord

/-- An address is registered after its identifier has been. -/
theorem isRegistered_register (s : Storage Roles) (a : Address) (n : Word) :
    isRegistered (register a.toWord n s) a = true :=
  register_registered s a.toWord n

/-- The restriction code of a transfer, or `transferOk`. -/
def detectTransferRestriction (s : Storage Roles) (sender recipient : Address) (_amount : Word) :
    UInt8 :=
  if s.registeredUserIdentifiers sender.toWord = false then codeAddressFromIsNotRegistered
  else if s.registeredUserIdentifiers recipient.toWord = false then codeAddressToIsNotRegistered
  else transferOk

/-- The restriction code of a transfer by a spender, who is not looked at. -/
def detectTransferRestrictionFrom (s : Storage Roles) (_spender sender recipient : Address)
    (amount : Word) : UInt8 :=
  detectTransferRestriction s sender recipient amount

/-- Whether the restriction code is one of this rule. -/
def canReturnTransferRestrictionCode (restrictionCode : UInt8) : Bool :=
  restrictionCode == codeAddressFromIsNotRegistered ||
    restrictionCode == codeAddressToIsNotRegistered

/-- The message of a restriction code. -/
def messageForTransferRestriction (restrictionCode : UInt8) : String :=
  if restrictionCode = codeAddressFromIsNotRegistered then "The sender is not registered"
  else if restrictionCode = codeAddressToIsNotRegistered then "The recipient is notregistered"
  else "Unknown restriction code"

/-- Validate a transfer. -/
def canTransfer (s : Storage Roles) (sender recipient : Address) (amount : Word) : Bool :=
  detectTransferRestriction s sender recipient amount == transferOk

/-- Validate a transfer by a spender. -/
def canTransferFrom (s : Storage Roles) (spender sender recipient : Address) (amount : Word) :
    Bool :=
  detectTransferRestrictionFrom s spender sender recipient amount == transferOk

/-! ## What the rule enforces -/

/-- A transfer is unrestricted exactly between registered addresses. -/
theorem detectTransferRestriction_eq_transferOk {s : Storage Roles} {sender recipient : Address}
    (amount : Word) :
    detectTransferRestriction s sender recipient amount = transferOk ↔
      isRegistered s sender = true ∧ isRegistered s recipient = true := by
  unfold detectTransferRestriction isRegistered
  -- the sender is looked at first
  by_cases hsender : s.registeredUserIdentifiers sender.toWord = false
  · rw [if_pos hsender, hsender]
    simp [codeAddressFromIsNotRegistered, transferOk]
  · by_cases hrecipient : s.registeredUserIdentifiers recipient.toWord = false
    · rw [if_neg hsender, if_pos hrecipient, hrecipient]
      simp [codeAddressToIsNotRegistered, transferOk]
    · rw [if_neg hsender, if_neg hrecipient]
      simp_all

/-- The code of a restricted transfer: the sender is looked at first. -/
theorem detectTransferRestriction_of_restricted {s : Storage Roles} {sender recipient : Address}
    (h : isRegistered s sender = false ∨ isRegistered s recipient = false) (amount : Word) :
    detectTransferRestriction s sender recipient amount =
      if isRegistered s sender = false then codeAddressFromIsNotRegistered
      else codeAddressToIsNotRegistered := by
  unfold detectTransferRestriction
  by_cases hsender : isRegistered s sender = false
  · rw [if_pos hsender]
    exact if_pos hsender
  · rw [if_neg hsender]
    rcases h with h | h
    · exact absurd h hsender
    · exact (if_neg hsender).trans (if_pos h)

/-- Every code the rule gives is one it says it can give. -/
theorem canReturn_detectTransferRestriction (s : Storage Roles) (sender recipient : Address)
    (amount : Word) (h : detectTransferRestriction s sender recipient amount ≠ transferOk) :
    canReturnTransferRestrictionCode (detectTransferRestriction s sender recipient amount) =
      true := by
  unfold detectTransferRestriction at h ⊢
  split
  · rfl
  · split
    · rfl
    · simp_all

end RuleSelf
