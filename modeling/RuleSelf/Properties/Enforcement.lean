import RuleSelf.Contract.RuleEngine

/-!
# Enforcement by the Rule Engine

RuleSelf as one rule of an engine, at any position among any other rules: whatever the
engine lets through is between registered addresses, whatever it refuses on account of
RuleSelf it refuses with RuleSelf's code, and it explains that code in RuleSelf's words.
-/

namespace RuleSelf

open Evm Revert

variable {Roles EngineRoles σ : Type}

namespace RuleEngine

variable {e : Storage EngineRoles} {rule : Address → Rule} {ruleSelf : Address}
  {s : RuleSelf.Storage Roles} {sender recipient : Address} {value : Word}

/-! ## Admission -/

/-- The engine finds no restriction only when its validation rules find none. -/
private theorem validation_eq_transferOk {code rest : UInt8}
    (h : (if code ≠ transferOk then code else rest) = transferOk) : code = transferOk := by
  by_contra hne
  rw [if_pos hne] at h
  exact hne h

/-! ## Refusal -/

/-- The code of a refusal: RuleSelf's, when the rules in front have no restriction. -/
private theorem restriction_eq {code : Address → UInt8} {before after : List Address}
    (hbefore : ∀ a ∈ before, code a = transferOk) (hcode : code ruleSelf ≠ transferOk) :
    firstRestriction code (before ++ ruleSelf :: after) = code ruleSelf := by
  have hpos : code ruleSelf > 0 := by
    refine Nat.pos_of_ne_zero fun h => hcode ?_
    exact UInt8.toNat_inj.mp h
  rw [firstRestriction_append hbefore, firstRestriction, if_pos hpos]

/-- The engine's answer is then that code, whatever its operation rules say. -/
private theorem answer_eq {code : Address → UInt8} {rules before after : List Address}
    (rest : UInt8) (hrules : rules = before ++ ruleSelf :: after)
    (hbefore : ∀ a ∈ before, code a = transferOk) (hcode : code ruleSelf ≠ transferOk) :
    (if firstRestriction code rules ≠ transferOk then firstRestriction code rules else rest) =
      code ruleSelf := by
  have hfirst : firstRestriction code rules = code ruleSelf := by
    rw [hrules]
    exact restriction_eq hbefore hcode
  rw [hfirst, if_pos hcode]

/-- RuleSelf's code for a pair of addresses that are not both registered. -/
def refusal (s : RuleSelf.Storage Roles) (sender : Address) : UInt8 :=
  if isRegistered s sender = false then codeAddressFromIsNotRegistered
  else codeAddressToIsNotRegistered

theorem refusal_ne_transferOk (s : RuleSelf.Storage Roles) (sender : Address) :
    refusal s sender ≠ transferOk := by
  unfold refusal
  split <;> decide

/-- Both codes of RuleSelf are ones it claims. -/
private theorem canReturn_refusal (s : RuleSelf.Storage Roles) (sender : Address) :
    canReturnTransferRestrictionCode (refusal s sender) = true := by
  unfold refusal
  split <;> rfl

/-- One of the engine's entry points lets the transfer through. -/
inductive LetsThrough (e : Storage EngineRoles) (ac : AccessControl EngineRoles)
    (contracts : RuleContracts σ) (state : σ) (msgSender spender sender recipient : Address)
    (value : Word) : Prop where
  | transferredFrom (state' : σ) (h : transferredFrom e ac contracts msgSender spender sender
      recipient value state = .ok state')
  | transferred (state' : σ)
      (h : transferred e ac contracts msgSender sender recipient value state = .ok state')
  | canTransfer (h : canTransfer e (contracts.rule state) sender recipient value = true)
  | canTransferFrom
      (h : canTransferFrom e (contracts.rule state) spender sender recipient value = true)
  | canTransferValidation
      (h : canTransferValidation e (contracts.rule state) sender recipient value = true)
  | canTransferValidationFrom (h : canTransferValidationFrom e (contracts.rule state) spender
      sender recipient value = true)

/-! ## RuleSelf among the rules -/

section Among

variable (hself : rule ruleSelf = asRule s)

include hself

private theorem rule_code : (rule ruleSelf).detectTransferRestriction sender recipient value =
    RuleSelf.detectTransferRestriction s sender recipient value := by
  rw [hself]
  rfl

private theorem rule_codeFrom (spender : Address) :
    (rule ruleSelf).detectTransferRestrictionFrom spender sender recipient value =
      RuleSelf.detectTransferRestriction s sender recipient value := by
  rw [hself]
  rfl

/-- What the engine validates is between registered addresses. -/
private theorem registered_of_validation (hmem : ruleSelf ∈ e.rulesValidation)
    (h : detectTransferRestrictionValidation e rule sender recipient value = transferOk) :
    isRegistered s sender = true ∧ isRegistered s recipient = true :=
  registered_of_firstRestriction (rule_code hself) hmem h

private theorem registered_of_validationFrom {spender : Address}
    (hmem : ruleSelf ∈ e.rulesValidation)
    (h : detectTransferRestrictionValidationFrom e rule spender sender recipient value =
      transferOk) :
    isRegistered s sender = true ∧ isRegistered s recipient = true :=
  registered_of_firstRestriction (rule_codeFrom hself spender) hmem h

/-- The engine has RuleSelf's message, when no rule in front claims the code. -/
private theorem message_eq {before after : List Address}
    (hrules : e.rulesValidation = before ++ ruleSelf :: after)
    (hbefore : ∀ a ∈ before,
      (rule a).canReturnTransferRestrictionCode (refusal s sender) = false) :
    messageForTransferRestriction e rule (refusal s sender) =
      RuleSelf.messageForTransferRestriction (refusal s sender) := by
  have hclaims : (rule ruleSelf).canReturnTransferRestrictionCode (refusal s sender) = true := by
    rw [hself]
    exact canReturn_refusal s sender
  unfold messageForTransferRestriction
  rw [hrules, firstMessage_append hbefore, firstMessage, if_pos hclaims, hself]
  rfl

end Among

/-- Whatever the engine lets through is between registered addresses. -/
private theorem LetsThrough.registered {ac : AccessControl EngineRoles}
    {contracts : RuleContracts σ} {state : σ} {msgSender spender : Address}
    (hself : contracts.rule state ruleSelf = asRule s) (hmem : ruleSelf ∈ e.rulesValidation)
    (h : LetsThrough e ac contracts state msgSender spender sender recipient value) :
    isRegistered s sender = true ∧ isRegistered s recipient = true := by
  cases h with
  | transferredFrom state' h | transferred state' h =>
    exact registered_of_validation hself hmem (validation_of_transfer h)
  | canTransfer h | canTransferFrom h =>
    exact registered_of_validation hself hmem (validation_eq_transferOk (beq_iff_eq.mp h))
  | canTransferValidation h => exact registered_of_validation hself hmem (beq_iff_eq.mp h)
  | canTransferValidationFrom h => exact registered_of_validationFrom hself hmem (beq_iff_eq.mp h)

end RuleEngine

open RuleEngine in
/-- **RuleSelf inside a rule engine**, at any position of its validation rules:
a transfer the engine lets through, by any of its entry points, is between registered
addresses; one between addresses that are not both registered is restricted, with RuleSelf's
code when the rules before RuleSelf have no restriction; and the engine explains that code
with RuleSelf's message when no rule before RuleSelf claims it. -/
theorem ruleEngine_enforces (e : RuleEngine.Storage EngineRoles) (ac : AccessControl EngineRoles)
    (contracts : RuleContracts σ) (state : σ) (s : Storage Roles) (ruleSelf : Address)
    (hself : contracts.rule state ruleSelf = asRule s) (hmem : ruleSelf ∈ e.rulesValidation)
    (msgSender spender sender recipient : Address) (value : Word) :
    (LetsThrough e ac contracts state msgSender spender sender recipient value →
      isRegistered s sender = true ∧ isRegistered s recipient = true) ∧
    (isRegistered s sender = false ∨ isRegistered s recipient = false →
      RuleEngine.detectTransferRestriction e (contracts.rule state) sender recipient value ≠
        transferOk ∧
      RuleEngine.detectTransferRestrictionFrom e (contracts.rule state) spender sender recipient
        value ≠ transferOk ∧
      ∀ before after, e.rulesValidation = before ++ ruleSelf :: after →
        ((∀ a ∈ before, (contracts.rule state a).detectTransferRestriction sender recipient
            value = transferOk) →
          RuleEngine.detectTransferRestriction e (contracts.rule state) sender recipient value =
            refusal s sender) ∧
        ((∀ a ∈ before, (contracts.rule state a).detectTransferRestrictionFrom spender sender
            recipient value = transferOk) →
          RuleEngine.detectTransferRestrictionFrom e (contracts.rule state) spender sender
            recipient value = refusal s sender) ∧
        ((∀ a ∈ before, (contracts.rule state a).canReturnTransferRestrictionCode
            (refusal s sender) = false) →
          RuleEngine.messageForTransferRestriction e (contracts.rule state) (refusal s sender) =
            messageForTransferRestriction (refusal s sender))) := by
  refine ⟨fun h => h.registered hself hmem, fun hrestricted => ⟨?_, ?_, ?_⟩⟩
  · intro h
    -- a transfer without a restriction has passed every rule, RuleSelf among them
    obtain ⟨hsender, hrecipient⟩ :=
      registered_of_validation hself hmem (validation_eq_transferOk h)
    rcases hrestricted with h | h <;> simp_all
  · intro h
    obtain ⟨hsender, hrecipient⟩ :=
      registered_of_validationFrom hself hmem (validation_eq_transferOk h)
    rcases hrestricted with h | h <;> simp_all
  · intro before after hrules
    -- RuleSelf's own code for the transfer is the refusal
    have hrefusal : detectTransferRestriction s sender recipient value = refusal s sender :=
      detectTransferRestriction_of_restricted hrestricted value
    have hcode := (rule_code hself).trans hrefusal
    have hcodeFrom := (rule_codeFrom hself spender).trans hrefusal
    have hne := refusal_ne_transferOk s sender
    refine ⟨fun hbefore => ?_, fun hbefore => ?_, message_eq hself hrules⟩
    · exact (answer_eq _ hrules hbefore (hcode ▸ hne)).trans hcode
    · exact (answer_eq _ hrules hbefore (hcodeFrom ▸ hne)).trans hcodeFrom

/-- An engine with RuleSelf, at address 2, behind another rule. -/
def pairedEngine : RuleEngine.Storage AccessControl.RoleFlags where
  rulesValidation := [5, 2]
  rulesOperation := []
  tokenContractRole := 1
  roles _ _ := false

/-- The other rule restricts nothing; RuleSelf has just been deployed. -/
def pairedContracts : RuleContracts Unit where
  rule _ := withRuleSelf 2 (deploy .flags 3 0 0)
    fun _ => ⟨fun _ _ _ => 0, fun _ _ _ _ => 0, fun _ => false, fun _ => ""⟩
  operateOnTransfer _ _ _ _ state := .ok (true, state)

/-- The paired engine refuses a transfer in the words of RuleSelf. -/
theorem ruleEngine_enforces_paired :
    RuleEngine.detectTransferRestriction pairedEngine (pairedContracts.rule ()) 7 8 100 =
      codeAddressFromIsNotRegistered ∧
    RuleEngine.messageForTransferRestriction pairedEngine (pairedContracts.rule ())
      codeAddressFromIsNotRegistered = "The sender is not registered" := by
  obtain ⟨-, hrefuses⟩ := ruleEngine_enforces pairedEngine .flags pairedContracts ()
    (deploy .flags 3 0 0) 2 rfl (by decide) 9 9 7 8 100
  obtain ⟨-, -, hfirst⟩ := hrefuses (.inl rfl)
  obtain ⟨hcode, -, hmessage⟩ := hfirst [5] [] rfl
  -- the rule in front neither restricts nor claims anything
  constructor
  · apply hcode
    intro a ha
    rw [List.mem_singleton.mp ha]
    rfl
  · apply hmessage
    intro a ha
    rw [List.mem_singleton.mp ha]
    rfl

end RuleSelf
