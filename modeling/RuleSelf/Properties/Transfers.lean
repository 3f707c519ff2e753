import RuleSelf.Contract.System

/-!
# Transfer Permission

The views of the rule tell one story: a transfer is allowed between registered addresses,
whoever asks for it and whatever the amount, and a refusal has a code that names the first
party at fault. Registrations are never undone, so that an allowed transfer stays allowed.
-/

namespace RuleSelf

open Evm

variable {Roles : Type} {s s' : Storage Roles}

/-! ## One state -/

/-- A transfer is between registered addresses. -/
def BothRegistered (s : Storage Roles) (sender recipient : Address) : Prop :=
  isRegistered s sender = true ∧ isRegistered s recipient = true

/-- What the rule says of a restriction code it has given: the code is its own, has a message
of its own, and names the first offending party. -/
structure Explained (s : Storage Roles) (sender recipient : Address) (code : UInt8) : Prop where
  canReturn : code ≠ transferOk → canReturnTransferRestrictionCode code = true
  message : code ≠ transferOk → messageForTransferRestriction code ≠ "Unknown restriction code"
  sender_iff : code = codeAddressFromIsNotRegistered ↔ isRegistered s sender = false
  recipient_iff : code = codeAddressToIsNotRegistered ↔
    isRegistered s sender = true ∧ isRegistered s recipient = false

/-- The views of a transfer agree, and explain a refusal. -/
structure ViewsAgree (s : Storage Roles) (spender sender recipient : Address) (value : Word) :
    Prop where
  detectTransferRestriction : detectTransferRestriction s sender recipient value = transferOk ↔
    BothRegistered s sender recipient
  detectTransferRestrictionFrom :
    detectTransferRestrictionFrom s spender sender recipient value = transferOk ↔
      BothRegistered s sender recipient
  canTransfer : canTransfer s sender recipient value = true ↔ BothRegistered s sender recipient
  canTransferFrom : canTransferFrom s spender sender recipient value = true ↔
    BothRegistered s sender recipient
  explained : Explained s sender recipient (RuleSelf.detectTransferRestriction s sender recipient
    value)
  explainedFrom : Explained s sender recipient (RuleSelf.detectTransferRestrictionFrom s spender
    sender recipient value)

/-- A code the rule claims has a message of its own. -/
theorem message_of_canReturn {code : UInt8} (h : canReturnTransferRestrictionCode code = true) :
    messageForTransferRestriction code ≠ "Unknown restriction code" := by
  unfold canReturnTransferRestrictionCode at h
  rw [Bool.or_eq_true, beq_iff_eq, beq_iff_eq] at h
  rcases h with h | h
  · simp [messageForTransferRestriction, h]
  · simp [messageForTransferRestriction, h, codeAddressFromIsNotRegistered,
      codeAddressToIsNotRegistered]

/-- Every code the rule gives is explained. -/
theorem explained_detectTransferRestriction (s : Storage Roles) (sender recipient : Address)
    (value : Word) :
    Explained s sender recipient (detectTransferRestriction s sender recipient value) := by
  have hclaims := canReturn_detectTransferRestriction s sender recipient value
  refine ⟨hclaims, fun hne => message_of_canReturn (hclaims hne), ?_, ?_⟩
  · -- the code of the sender, and only then that of the recipient
    unfold detectTransferRestriction isRegistered
    split
    · simp_all
    · split <;> simp_all [codeAddressFromIsNotRegistered, codeAddressToIsNotRegistered, transferOk]
  · unfold detectTransferRestriction isRegistered
    split
    · simp_all [codeAddressFromIsNotRegistered, codeAddressToIsNotRegistered]
    · split <;> simp_all [codeAddressToIsNotRegistered, transferOk]

theorem viewsAgree (s : Storage Roles) (spender sender recipient : Address) (value : Word) :
    ViewsAgree s spender sender recipient value := by
  have hdetect : detectTransferRestriction s sender recipient value = transferOk ↔
      BothRegistered s sender recipient := detectTransferRestriction_eq_transferOk value
  have hcan : canTransfer s sender recipient value = true ↔ BothRegistered s sender recipient := by
    unfold canTransfer
    rw [beq_iff_eq]
    exact hdetect
  have hexplained := explained_detectTransferRestriction s sender recipient value
  -- the spender is not looked at, so that the views with a spender are those without
  exact ⟨hdetect, hdetect, hcan, hcan, hexplained, hexplained⟩

/-! ## Runs -/

/-- No effect takes a registration back. -/
theorem Effect.registered (h : Effect s s') {u : Word}
    (hu : s.registeredUserIdentifiers u = true) : s'.registeredUserIdentifiers u = true := by
  cases h with
  | maintain hmaintain =>
    rw [hmaintain.registry_eq.2]
    exact hu
  | register v n hcan =>
    -- a registration sets one flag and clears none
    by_cases huv : u = v
    · rw [huv]
      exact register_registered s v n
    · rw [register_registered_of_ne s v n huv]
      exact hu

/-- A registered address stays registered. -/
theorem World.run_isRegistered (dep : Deployment Roles) (w : World Roles)
    (txs : List Transaction) {a : Address} (h : isRegistered w.ruleSelf a = true) :
    isRegistered (w.run dep txs).ruleSelf a = true := by
  apply World.run_invariant (I := fun s => isRegistered s a = true)
  · intro s s' hs heffect
    exact heffect.registered hs
  · exact h

/-- **The views agree, and permission is never lost**: in every reached state all views of a
transfer say whether both addresses are registered, and a transfer allowed there is allowed in
every later state. -/
theorem transfer_views_agree_and_persist (dep : Deployment Roles)
    (hub : IdentityVerificationHub.Storage) (registries : Registries)
    (txs txs' : List Transaction) (spender sender recipient : Address) (value : Word) :
    ViewsAgree ((World.deploy dep hub registries).run dep txs).ruleSelf spender sender recipient
        value ∧
      (canTransfer ((World.deploy dep hub registries).run dep txs).ruleSelf sender recipient
          value = true →
        canTransfer ((World.deploy dep hub registries).run dep (txs ++ txs')).ruleSelf sender
          recipient value = true) := by
  refine ⟨viewsAgree _ spender sender recipient value, fun h => ?_⟩
  have hboth := (viewsAgree _ spender sender recipient value).canTransfer.mp h
  rw [(viewsAgree _ spender sender recipient value).canTransfer]
  -- the longer run goes through the state the transfer is allowed in
  rw [World.run_append]
  exact ⟨World.run_isRegistered dep _ txs' hboth.1, World.run_isRegistered dep _ txs' hboth.2⟩

end RuleSelf
