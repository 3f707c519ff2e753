import RuleSelf.Contract.TransferRule

/-!
# The Rule Engine

`RuleEngine` with its validation and operation modules: the loops over the rules that
restrict a transfer, look up a message and operate on a transfer, and the entry points a
token calls. The rules are other contracts; what they answer and do is a parameter.
-/

namespace RuleSelf

open Evm Revert

/-- What a contract answers as a rule. -/
structure Rule where
  detectTransferRestriction : Address → Address → Word → UInt8
  detectTransferRestrictionFrom : Address → Address → Address → Word → UInt8
  canReturnTransferRestrictionCode : UInt8 → Bool
  messageForTransferRestriction : UInt8 → String

/-- RuleSelf as a rule. -/
def asRule {Roles : Type} (s : Storage Roles) : Rule where
  detectTransferRestriction := detectTransferRestriction s
  detectTransferRestrictionFrom := detectTransferRestrictionFrom s
  canReturnTransferRestrictionCode := canReturnTransferRestrictionCode
  messageForTransferRestriction := messageForTransferRestriction

/-- The contracts an engine calls, over their common state: what each answers as a rule
in a state, and its `operateOnTransfer`, which may change the state or revert. -/
structure RuleContracts (σ : Type) where
  rule : σ → Address → Rule
  operateOnTransfer : Address → Address → Address → Word → σ → Except Error (Bool × σ)

/-- RuleSelf at address `a`, with storage `s`, next to other rules. -/
def withRuleSelf {Roles : Type} (a : Address) (s : Storage Roles) (others : Address → Rule) :
    Address → Rule :=
  fun b => if b = a then asRule s else others b

namespace RuleEngine

/-- Storage of the engine; `tokenContractRole` is the constant `TOKEN_CONTRACT_ROLE`. -/
structure Storage (Roles : Type) where
  rulesValidation : List Address
  rulesOperation : List Address
  tokenContractRole : Word
  roles : Roles

variable {Roles σ : Type}

/-! ## Restrictions -/

/-- The loop over the rules: the first code that is not 0. -/
def firstRestriction (code : Address → UInt8) : List Address → UInt8
  | [] => transferOk
  | rule :: rules => if code rule > 0 then code rule else firstRestriction code rules

variable (e : Storage Roles) (rule : Address → Rule)

/-- Go through all the validation rules to know if a restriction exists on the transfer. -/
def detectTransferRestrictionValidation (sender recipient : Address) (amount : Word) : UInt8 :=
  firstRestriction (fun a => (rule a).detectTransferRestriction sender recipient amount)
    e.rulesValidation

def detectTransferRestrictionValidationFrom (spender sender recipient : Address)
    (amount : Word) : UInt8 :=
  firstRestriction
    (fun a => (rule a).detectTransferRestrictionFrom spender sender recipient amount)
    e.rulesValidation

/-- Validate a transfer. -/
def canTransferValidation (sender recipient : Address) (amount : Word) : Bool :=
  detectTransferRestrictionValidation e rule sender recipient amount == transferOk

def canTransferValidationFrom (spender sender recipient : Address) (amount : Word) : Bool :=
  detectTransferRestrictionValidationFrom e rule spender sender recipient amount == transferOk

/-- Go through all the rules, validation first, to know if a restriction exists. -/
def detectTransferRestriction (sender recipient : Address) (value : Word) : UInt8 :=
  let code := detectTransferRestrictionValidation e rule sender recipient value
  if code ≠ transferOk then code
  else firstRestriction (fun a => (rule a).detectTransferRestriction sender recipient value)
    e.rulesOperation

def detectTransferRestrictionFrom (spender sender recipient : Address) (value : Word) : UInt8 :=
  let code := detectTransferRestrictionValidationFrom e rule spender sender recipient value
  if code ≠ transferOk then code
  else firstRestriction
    (fun a => (rule a).detectTransferRestrictionFrom spender sender recipient value)
    e.rulesOperation

/-- Validate a transfer. -/
def canTransfer (sender recipient : Address) (value : Word) : Bool :=
  detectTransferRestriction e rule sender recipient value == transferOk

/-- Validate a transfer by a spender, who is not looked at. -/
def canTransferFrom (_spender sender recipient : Address) (value : Word) : Bool :=
  detectTransferRestriction e rule sender recipient value == transferOk

/-! ## Messages -/

/-- The loop over the rules: the message of the first that claims the code. -/
def firstMessage (restrictionCode : UInt8) : List Address → Option String
  | [] => none
  | a :: rules =>
    if (rule a).canReturnTransferRestrictionCode restrictionCode then
      some ((rule a).messageForTransferRestriction restrictionCode)
    else firstMessage restrictionCode rules

/-- Return the message corresponding to the code. -/
def messageForTransferRestriction (restrictionCode : UInt8) : String :=
  match firstMessage rule restrictionCode e.rulesValidation with
  | some message => message
  | none => (firstMessage rule restrictionCode e.rulesOperation).getD "Unknown restriction code"

/-! ## Transfers -/

/-- Call every operation rule, until one answers false. -/
def operateOnTransfer (contracts : RuleContracts σ) (sender recipient : Address) (amount : Word) :
    List Address → σ → Except Error (Bool × σ)
  | [], state => .ok (true, state)
  | a :: rules, state => do
    let (result, state) ← contracts.operateOnTransfer a sender recipient amount state
    if result then operateOnTransfer contracts sender recipient amount rules state
    else .ok (false, state)

/-- The modifier `onlyRole(TOKEN_CONTRACT_ROLE)`, then the validation and the operation of a
transfer: what both overloads of `transferred` do. -/
def transfer (ac : AccessControl Roles) (contracts : RuleContracts σ) (msgSender : Address)
    (sender recipient : Address) (amount : Word) (state : σ) : Except Error σ := do
  require (hasRole ac e.roles e.tokenContractRole msgSender = true)
    (.accessControlUnauthorizedAccount msgSender e.tokenContractRole)
  require (canTransferValidation e (contracts.rule state) sender recipient amount = true)
    (.ruleEngineInvalidTransfer sender recipient amount)
  let (isValid, state) ← operateOnTransfer contracts sender recipient amount e.rulesOperation state
  require (isValid = true) (.ruleEngineInvalidTransfer sender recipient amount)
  return state

/-- `transferred(spender, from, to, amount)`; the spender is not looked at. -/
def transferredFrom (ac : AccessControl Roles) (contracts : RuleContracts σ) (msgSender : Address)
    (_spender sender recipient : Address) (amount : Word) (state : σ) : Except Error σ :=
  transfer e ac contracts msgSender sender recipient amount state

/-- `transferred(from, to, amount)` -/
def transferred (ac : AccessControl Roles) (contracts : RuleContracts σ) (msgSender : Address)
    (sender recipient : Address) (amount : Word) (state : σ) : Except Error σ :=
  transfer e ac contracts msgSender sender recipient amount state

/-! ## The loops -/

/-- The loop finds no restriction when no rule has one. -/
theorem firstRestriction_eq_transferOk {code : Address → UInt8} {rules : List Address} :
    firstRestriction code rules = transferOk ↔ ∀ a ∈ rules, code a = transferOk := by
  induction rules with
  | nil => simp [firstRestriction]
  | cons a rules ih =>
    rw [List.forall_mem_cons, ← ih, firstRestriction]
    -- either the first rule has a restriction, or the rest decides
    by_cases ha : code a > 0
    · have hne : code a ≠ transferOk := fun h => absurd (h ▸ ha) (by decide)
      rw [if_pos ha]
      simp [hne]
    · have heq : code a = transferOk := by
        apply UInt8.toNat_inj.mp
        have : ¬ 0 < (code a).toNat := ha
        exact Nat.eq_zero_of_not_pos this
      rw [if_neg ha]
      simp [heq]

/-- The rules in front that have no restriction are passed over. -/
theorem firstRestriction_append {code : Address → UInt8} {before after : List Address}
    (h : ∀ a ∈ before, code a = transferOk) :
    firstRestriction code (before ++ after) = firstRestriction code after := by
  induction before with
  | nil => rfl
  | cons a before ih =>
    rw [List.forall_mem_cons] at h
    -- the loop goes on behind a rule without a restriction
    have ha : ¬ code a > 0 := by
      rw [h.1]
      decide
    rw [List.cons_append, firstRestriction, if_neg ha]
    exact ih h.2

/-- The rules in front that do not claim the code are passed over. -/
theorem firstMessage_append {rule : Address → Rule} {restrictionCode : UInt8}
    {before after : List Address}
    (h : ∀ a ∈ before, (rule a).canReturnTransferRestrictionCode restrictionCode = false) :
    firstMessage rule restrictionCode (before ++ after) =
      firstMessage rule restrictionCode after := by
  induction before with
  | nil => rfl
  | cons a before ih =>
    rw [List.forall_mem_cons] at h
    have ha : ¬ (rule a).canReturnTransferRestrictionCode restrictionCode = true := by
      rw [h.1]
      exact Bool.false_ne_true
    rw [List.cons_append, firstMessage, if_neg ha]
    exact ih h.2

/-! ## Admission -/

section Admission

variable {EngineRoles : Type} {s : RuleSelf.Storage Roles} {ruleSelf sender recipient : Address}
  {amount : Word}

/-- Where no rule of a list has a restriction and RuleSelf is one of them, the addresses are
registered. -/
theorem registered_of_firstRestriction {code : Address → UInt8} {rules : List Address}
    (hcode : code ruleSelf = RuleSelf.detectTransferRestriction s sender recipient amount)
    (hmem : ruleSelf ∈ rules) (h : firstRestriction code rules = transferOk) :
    isRegistered s sender = true ∧ isRegistered s recipient = true := by
  have hrule := firstRestriction_eq_transferOk.mp h ruleSelf hmem
  rw [hcode] at hrule
  exact (detectTransferRestriction_eq_transferOk amount).mp hrule

/-- A transfer that does not revert was validated. -/
theorem validation_of_transfer {e : Storage EngineRoles} {ac : AccessControl EngineRoles}
    {contracts : RuleContracts σ} {msgSender : Address} {state state' : σ}
    (h : transfer e ac contracts msgSender sender recipient amount state = .ok state') :
    detectTransferRestrictionValidation e (contracts.rule state) sender recipient amount =
      transferOk := by
  unfold transfer at h
  simp only [↓check_bind_eq_ok, require_eq_ok] at h
  obtain ⟨-, hvalidation, -⟩ := h
  exact beq_iff_eq.mp hvalidation

end Admission

end RuleEngine

end RuleSelf
