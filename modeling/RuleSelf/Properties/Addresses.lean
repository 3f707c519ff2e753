import RuleSelf.Contract.RuleEngine
import RuleSelf.Properties.Provenance
import RuleSelf.Properties.Registry

/-!
# Identifiers and Addresses

The registry is written under 256-bit identifiers and read under 160-bit addresses.
Registrations of identifiers that are no address consume a nullifier and let nobody
transfer; and the null address is an identifier that is never registered, so that no
state lets a token be minted or burnt.
-/

namespace RuleSelf

open Evm Revert SelfStructs IdentityVerificationHub

variable {Roles : Type} {dep : Deployment Roles} {w w' : World Roles} {tx : Transaction}

/-! ## What a nullifier buys -/

/-- The user identifier and the nullifier a call submits: those of its context and its
proof, or those of the output it is called back with. -/
inductive Submits : Call → Word → Word → Prop where
  | proof {proofPayload userContextData : Bytes} {d : DocumentType} {proof : VcAndDiscloseProof}
      (header : Word.ofBytes (slice proofPayload 0 32) = d.attestationId)
      (payload : VcAndDiscloseProof.codec.read (proofPayload.drop 32) = some proof) :
    Submits (.verifySelfProof proofPayload userContextData) (userIdentifierOf userContextData)
      (d.nullifier proof.pubSignals)
  | output {output userData : Bytes} {out : ISelfVerificationRoot.GenericDiscloseOutputV2}
      (decoded : ISelfVerificationRoot.GenericDiscloseOutputV2.codec.read output = some out) :
    Submits (.onVerificationSuccess output userData) out.userIdentifier out.nullifier

/-- A call that succeeds registers what it submits. -/
theorem Submits.registers {u n : Word} (hsubmits : Submits tx.call u n)
    (h : w.exec dep tx = .ok w') : CanRegister w.ruleSelf u n ∧ w' = w.register u n := by
  obtain ⟨block, sender, call⟩ := tx
  cases hsubmits with
  | proof header payload =>
    -- a proof that passes registers the pair it is made for
    obtain ⟨c, hregisters⟩ := registers_of_exec rfl header payload h
    exact ⟨hregisters.canRegister, hregisters.result⟩
  | output decoded =>
    -- the hub delivers an output, of which the pair is read
    obtain ⟨s', hs, rfl⟩ := World.onRuleSelf_eq_ok.mp h
    obtain ⟨-, out', decoded', hcan, rfl⟩ := onVerificationSuccess_eq_ok.mp hs
    obtain rfl := Option.some.inj (decoded.symm.trans decoded')
    exact ⟨hcan, rfl⟩

/-- Exactly one address becomes registered, and it is the one stored for the nullifier. -/
def BuysAddress (s s' : Storage Roles) (n : Word) : Prop :=
  ∃ a : Address, (∀ b, isRegistered s b = false ∧ isRegistered s' b = true ↔ b = a) ∧
    s'.nullifierToUserIdentifier n = a.toWord

/-- The addresses that become registered are those the identifier stands for. -/
theorem CanRegister.newly_registered_iff {s : Storage Roles} {u n : Word}
    (h : CanRegister s u n) (b : Address) :
    isRegistered s b = false ∧ isRegistered (register u n s) b = true ↔ b.toWord = u := by
  unfold isRegistered
  by_cases hb : b.toWord = u
  · rw [hb]
    exact iff_of_true ⟨h.unregistered, register_registered s u n⟩ rfl
  · -- an address with another number is registered afterwards only if it was before
    rw [register_registered_of_ne s u n hb]
    refine iff_of_false ?_ hb
    rintro ⟨hfalse, htrue⟩
    rw [hfalse] at htrue
    exact Bool.false_ne_true htrue

private theorem CanRegister.buysAddress_iff {s : Storage Roles} {u n : Word}
    (h : CanRegister s u n) : BuysAddress s (register u n s) n ↔ u.toNat < 2 ^ 160 := by
  -- the address that is bought is the identifier, read as one
  rw [← Address.exists_toWord_eq]
  have hstored := register_stored s u n
  constructor
  · rintro ⟨a, -, ha⟩
    exact ⟨a, ha.symm.trans hstored⟩
  · rintro ⟨a, ha⟩
    refine ⟨a, fun b => ?_, hstored.trans ha.symm⟩
    rw [h.newly_registered_iff, ← ha]
    exact Address.toWord_injective.eq_iff

/-- **A consumed nullifier buys an address exactly when the identifier is one**: in every
reached state, a `verifySelfProof` or a callback that succeeds makes exactly one address
registered, the one it stores for the nullifier, if and only if the user identifier it
submits is below `2 ^ 160`. -/
theorem consumed_nullifier_buys_address_iff (hub : IdentityVerificationHub.Storage)
    (registries : Registries) (txs : List Transaction) {u n : Word}
    (hsubmits : Submits tx.call u n)
    (h : ((World.deploy dep hub registries).run dep txs).exec dep tx = .ok w') :
    BuysAddress ((World.deploy dep hub registries).run dep txs).ruleSelf w'.ruleSelf n ↔
      u.toNat < 2 ^ 160 := by
  obtain ⟨hcan, rfl⟩ := hsubmits.registers h
  exact hcan.buysAddress_iff

/-- Identifier 5 is an address. -/
theorem consumed_nullifier_buys_address_blank :
    BuysAddress plainWorld.ruleSelf (plainWorld.register 5 9).ruleSelf 9 := by
  have hsubmits : Submits (blankRegistration 9 5).call (userIdentifierOf (contextOf 1 5)) 9 :=
    .proof (d := .passport) (payloadOf_header _ _) (payloadOf_proof _ _)
  rw [userIdentifierOf_contextOf] at hsubmits
  have hiff := consumed_nullifier_buys_address_iff plainHub
    (openRegistries 0 0 0) [opening] hsubmits (exec_blankRegistration (by decide))
  exact hiff.mpr (by decide)

/-- Identifier `2 ^ 160` is accepted, consumes nullifier 9, and registers no address. -/
theorem consumed_nullifier_buys_nothing :
    plainWorld.exec plainDeployment (blankRegistration 9 (BitVec.ofNat 256 (2 ^ 160))) =
      .ok (plainWorld.register (BitVec.ofNat 256 (2 ^ 160)) 9) ∧
    (plainWorld.register (BitVec.ofNat 256 (2 ^ 160)) 9).ruleSelf.nullifierToUserIdentifier 9 ≠ 0 ∧
    ¬ BuysAddress plainWorld.ruleSelf
      (plainWorld.register (BitVec.ofNat 256 (2 ^ 160)) 9).ruleSelf 9 := by
  have hne : BitVec.ofNat 256 (2 ^ 160) ≠ 0 := by decide
  refine ⟨exec_blankRegistration hne, hne, ?_⟩
  have hcan : CanRegister plainWorld.ruleSelf (BitVec.ofNat 256 (2 ^ 160)) 9 :=
    canRegister_opened hne
  exact fun hbuys => absurd (hcan.buysAddress_iff.mp hbuys) (by decide)

/-! ## The null address -/

/-- The null address is registered in no reached state. -/
theorem null_unregistered (dep : Deployment Roles) (hub : IdentityVerificationHub.Storage)
    (registries : Registries) (txs : List Transaction) :
    isRegistered ((World.deploy dep hub registries).run dep txs).ruleSelf 0 = false := by
  obtain ⟨hM, hlog⟩ := represents_deploy dep.access dep.deployer dep.configId dep.scope
  obtain ⟨⟨M, hM'⟩, -⟩ :=
    World.run_represents dep (w := World.deploy dep hub registries) ⟨_, hM⟩ hlog txs
  rw [Bool.eq_false_iff]
  intro hregistered
  -- a registered identifier has a pair in the matching, and 0 has none
  obtain ⟨n, hn⟩ := (hM'.registered 0).mp hregistered
  exact ((hM'.graph n 0).mp hn).2 rfl

/-- Some continuation leads to a state in which a transfer from `sender` to `recipient` is
unrestricted, whatever the amount. -/
def EventuallyUnrestricted (dep : Deployment Roles) (w : World Roles)
    (sender recipient : Address) : Prop :=
  ∃ txs, ∀ amount,
    detectTransferRestriction (w.run dep txs).ruleSelf sender recipient amount = transferOk

/-- A run continued is a run. -/
private theorem null_unregistered_later (dep : Deployment Roles)
    (hub : IdentityVerificationHub.Storage) (registries : Registries)
    (txs txs' : List Transaction) :
    isRegistered (((World.deploy dep hub registries).run dep txs).run dep txs').ruleSelf 0 =
      false := by
  have h := null_unregistered dep hub registries (txs ++ txs')
  rwa [World.run_append] at h

/-- Some continuation leads to a state in which a rule engine with RuleSelf among its
validation rules accepts a transfer of some amount from `sender` to `recipient`. -/
def EventuallyTransferred (dep : Deployment Roles) (w : World Roles)
    (sender recipient : Address) : Prop :=
  ∃ (EngineRoles σ : Type) (e : RuleEngine.Storage EngineRoles) (ac : AccessControl EngineRoles)
    (contracts : RuleContracts σ) (state state' : σ) (ruleSelf msgSender : Address)
    (amount : Word) (txs : List Transaction),
    contracts.rule state ruleSelf = asRule (w.run dep txs).ruleSelf ∧
      ruleSelf ∈ e.rulesValidation ∧
      RuleEngine.transferred e ac contracts msgSender sender recipient amount state = .ok state'

/-- Between the null address and any other, in either direction. -/
private theorem not_registered_both {s : Storage Roles} {sender recipient : Address}
    (hnot : isRegistered s 0 = false) (hnull : sender = 0 ∨ recipient = 0) :
    ¬ (isRegistered s sender = true ∧ isRegistered s recipient = true) := by
  rintro ⟨hsender, hrecipient⟩
  rcases hnull with rfl | rfl
  · exact Bool.false_ne_true (hnot.symm.trans hsender)
  · exact Bool.false_ne_true (hnot.symm.trans hrecipient)

private theorem not_eventuallyUnrestricted (dep : Deployment Roles)
    (hub : IdentityVerificationHub.Storage) (registries : Registries) (txs : List Transaction)
    {sender recipient : Address} (hnull : sender = 0 ∨ recipient = 0) :
    ¬ EventuallyUnrestricted dep ((World.deploy dep hub registries).run dep txs) sender
      recipient := by
  rintro ⟨txs', h⟩
  have hboth := (detectTransferRestriction_eq_transferOk 0).mp (h 0)
  exact not_registered_both (null_unregistered_later dep hub registries txs txs') hnull hboth

private theorem not_eventuallyTransferred (dep : Deployment Roles)
    (hub : IdentityVerificationHub.Storage) (registries : Registries) (txs : List Transaction)
    {sender recipient : Address} (hnull : sender = 0 ∨ recipient = 0) :
    ¬ EventuallyTransferred dep ((World.deploy dep hub registries).run dep txs) sender
      recipient := by
  rintro ⟨_, _, e, ac, contracts, state, state', ruleSelf, msgSender, amount, txs', hself, hmem,
    h⟩
  -- the engine asks RuleSelf, in a later state in which the null address is not registered either
  have hcode : (contracts.rule state ruleSelf).detectTransferRestriction sender recipient amount =
      detectTransferRestriction (((World.deploy dep hub registries).run dep txs).run dep
        txs').ruleSelf sender recipient amount := by
    rw [hself]
    rfl
  have hboth := RuleEngine.registered_of_firstRestriction hcode hmem
    (RuleEngine.validation_of_transfer h)
  exact not_registered_both (null_unregistered_later dep hub registries txs txs') hnull hboth

/-- **Issuance is never possible**: from no reached state, and for no address, does any
continuation lead to a state in which the address can be minted to or burnt from, and no rule
engine with RuleSelf among its validation rules ever accepts such a transfer. -/
theorem issuance_never_possible (dep : Deployment Roles) (hub : IdentityVerificationHub.Storage)
    (registries : Registries) (txs : List Transaction) (a : Address) :
    (¬ EventuallyUnrestricted dep ((World.deploy dep hub registries).run dep txs) 0 a ∧
      ¬ EventuallyTransferred dep ((World.deploy dep hub registries).run dep txs) 0 a) ∧
    (¬ EventuallyUnrestricted dep ((World.deploy dep hub registries).run dep txs) a 0 ∧
      ¬ EventuallyTransferred dep ((World.deploy dep hub registries).run dep txs) a 0) :=
  ⟨⟨not_eventuallyUnrestricted dep hub registries txs (.inl rfl),
      not_eventuallyTransferred dep hub registries txs (.inl rfl)⟩,
    not_eventuallyUnrestricted dep hub registries txs (.inr rfl),
      not_eventuallyTransferred dep hub registries txs (.inr rfl)⟩

/-- The run that opens registration and registers address 5. -/
private theorem run_blankRegistration :
    (World.deploy plainDeployment plainHub (openRegistries 0 0 0)).run
      plainDeployment [opening, blankRegistration 9 5] = plainWorld.register 5 9 := by
  have hsplit : [opening, blankRegistration 9 5] = [opening] ++ [blankRegistration 9 5] := rfl
  rw [hsplit]
  exact World.run_concat_of_ok (exec_blankRegistration (by decide))

/-- Address 5 is registered, and can never be minted to or burnt from. -/
theorem issuance_impossible_for_registered :
    isRegistered ((World.deploy plainDeployment plainHub
      (openRegistries 0 0 0)).run plainDeployment [opening, blankRegistration 9 5]).ruleSelf 5 =
        true ∧
    ¬ EventuallyUnrestricted plainDeployment ((World.deploy plainDeployment
      plainHub (openRegistries 0 0 0)).run plainDeployment
        [opening, blankRegistration 9 5]) 0 5 ∧
    ¬ EventuallyUnrestricted plainDeployment ((World.deploy plainDeployment
      plainHub (openRegistries 0 0 0)).run plainDeployment
        [opening, blankRegistration 9 5]) 5 0 := by
  refine ⟨?_, not_eventuallyUnrestricted _ _ _ _ (.inl rfl),
    not_eventuallyUnrestricted _ _ _ _ (.inr rfl)⟩
  rw [run_blankRegistration]
  exact isRegistered_register plainWorld.ruleSelf 5 9

end RuleSelf
