import RuleSelf.Properties.Provenance
import RuleSelf.Properties.RegistryLog

/-!
# Where the Registries' Events Come From

In a run of external transactions, every event of a registry was logged by one of them: a
registration whose proof the hub has verified against the registry's own roots, one sent by
another hub the registry had, its initialization, or a call of its owner. With it every
registration in RuleSelf goes back, through the root its proof is made for, to such a
transaction.
-/

namespace RuleSelf

open Evm IdentityRegistry IdentityVerificationHub

variable {Roles Owners Tree : Type} {inst : Installation Roles Owners Tree}
  {n : Network Roles Owners Tree} {tx : NetworkTransaction} {address : Address}
  {e : IdentityRegistry.Event}

/-- The functions of a registry its hub calls. -/
def IdentityRegistry.Call.isRegistration : IdentityRegistry.Call → Bool
  | .registerCommitment _ _ _ | .registerDscKeyCommitment _ => true
  | _ => false

/-! ## One event -/

/-- The hub verifies a register proof, made for the root the registry's DSC keys have. -/
structure ProvesCommitment (inst : Installation Roles Owners Tree)
    (n : Network Roles Owners Tree) (tx : NetworkTransaction) (address : Address)
    (attestationId : Word) (proof : RegisterCircuitProof) : Prop where
  verified : ∃ verifierId, tx.call = .registerCommitment attestationId verifierId proof ∧
    n.hub.registerCircuitVerifiers attestationId verifierId ≠ 0 ∧
    inst.registrationOracles.verifyRegisterProof
      (n.hub.registerCircuitVerifiers attestationId verifierId) proof = true
  registry : n.hub.registries attestationId = address
  hub : (n.registries address).hub = inst.hub
  root : inst.imt.root (n.registries address).dscKeyCommitmentIMT = proof.merkleRoot

/-- The hub verifies a DSC proof, made for the registry's CSCA root. -/
structure ProvesDscKey (inst : Installation Roles Owners Tree)
    (n : Network Roles Owners Tree) (tx : NetworkTransaction) (address : Address)
    (proof : DscCircuitProof) : Prop where
  verified : ∃ attestationId verifierId,
    tx.call = .registerDscKeyCommitment attestationId verifierId proof ∧
    n.hub.registries attestationId = address ∧
    n.hub.dscCircuitVerifiers attestationId verifierId ≠ 0 ∧
    inst.registrationOracles.verifyDscProof
      (n.hub.dscCircuitVerifiers attestationId verifierId) proof = true
  hub : (n.registries address).hub = inst.hub
  root : (n.registries address).cscaRoot = proof.cscaRoot

/-- How a transaction, executed in network `n`, has a registry log an event. -/
inductive EventOrigin (inst : Installation Roles Owners Tree) (n : Network Roles Owners Tree)
    (tx : NetworkTransaction) (address : Address) : IdentityRegistry.Event → Prop where
  | commitment (attestationId : Word) (proof : RegisterCircuitProof) (root index : Word)
      (h : ProvesCommitment inst n tx address attestationId proof) :
    EventOrigin inst n tx address (.commitmentRegistered attestationId proof.nullifier
      proof.commitment (BitVec.ofNat 256 tx.block.timestamp) root index)
  | dscKeyCommitment (proof : DscCircuitProof) (root index : Word)
      (h : ProvesDscKey inst n tx address proof) :
    EventOrigin inst n tx address (.dscKeyCommitmentRegistered proof.treeLeaf
      (BitVec.ofNat 256 tx.block.timestamp) root index)
  /-- Another account than the hub registers, which the registry has for its hub. -/
  | otherHub (call : IdentityRegistry.Call) (e : IdentityRegistry.Event)
      (hcall : tx.call = .registry address call) (hregistration : call.isRegistration = true)
      (hother : tx.sender ≠ inst.hub) (hset : (n.registries address).hub ≠ 0)
      (hhub : (n.registries address).hub = tx.sender)
      (he : Announces ⟨tx.sender, tx.block.timestamp⟩ call e) : EventOrigin inst n tx address e
  /-- Somebody initializes the registry. -/
  | initializer (hub : Address) (hcall : tx.call = .registry address (.initializeRegistry hub))
      (hnew : (n.registries address).implRoot.initialized = false) :
    EventOrigin inst n tx address (.registryInitialized hub)
  /-- The owner administers the registry. -/
  | owner (call : IdentityRegistry.Call) (e : IdentityRegistry.Event)
      (hcall : tx.call = .registry address call) (hadmin : call.isRegistration = false)
      (howner : inst.ownable.owner (n.registries address).implRoot.owners = tx.sender)
      (he : Announces ⟨tx.sender, tx.block.timestamp⟩ call e) : EventOrigin inst n tx address e

/-- A call of a registry that logs an event has an origin. -/
theorem Network.Origin.event (hext : tx.External inst.toDeployment) {sender : Address}
    {call : IdentityRegistry.Call} (h : Network.Origin inst n tx sender address call)
    (hauthorized : Authorized inst.ownable ⟨sender, tx.block.timestamp⟩
      (n.registries address) call)
    (he : Announces ⟨sender, tx.block.timestamp⟩ call e) : EventOrigin inst n tx address e := by
  cases h with
  | commitment attestationId verifierId proof hcall hverifier hroot hproof =>
    obtain ⟨-, hsender⟩ := hauthorized
    -- the registry has checked that its caller is its hub
    cases he with
    | registerCommitment _ _ _ root index =>
      exact .commitment attestationId proof root index
        ⟨⟨verifierId, hcall, hverifier, hproof⟩, rfl, hsender.symm, hroot⟩
  | dscKeyCommitment attestationId verifierId proof hcall hverifier hroot hproof =>
    obtain ⟨-, hsender⟩ := hauthorized
    cases he with
    | registerDscKeyCommitment _ root index =>
      exact .dscKeyCommitment proof root index
        ⟨⟨attestationId, verifierId, hcall, rfl, hverifier, hproof⟩, hsender.symm, hroot⟩
  | direct _ _ hcall =>
    cases call with
    | registerCommitment | registerDscKeyCommitment =>
      obtain ⟨hset, hsender⟩ := hauthorized
      -- the hub itself sends no transactions
      exact .otherHub _ e hcall rfl hext.1 hset hsender.symm he
    | initializeRegistry hub =>
      cases he
      exact .initializer hub hcall hauthorized
    | ownership => nomatch he
    | _ => exact .owner _ e hcall rfl hauthorized he

/-- Transaction `tx` of the run of `txs` is executed in network `n`, commits, and has the registry
at `address` log `e`. -/
structure LogsEvent (inst : Installation Roles Owners Tree) (txs : List NetworkTransaction)
    (n : Network Roles Owners Tree) (tx : NetworkTransaction) (address : Address)
    (e : IdentityRegistry.Event) : Prop where
  step : Run.StepOf (Network.exec inst) (Network.deploy inst) txs n tx
  logs : ∃ n', Network.exec inst n tx = .ok n' ∧
    (n'.registries address).events = (n.registries address).events ++ [e]

/-- **Where an event comes from**: after a run of external transactions, every event in the log
of a registry was logged by one of them, and has an origin there. -/
theorem event_origin (hl : inst.imt.Lawful) {txs : List NetworkTransaction}
    (hext : ∀ tx ∈ txs, tx.External inst.toDeployment)
    (he : e ∈ (((Network.deploy inst).run inst txs).registries address).events) :
    ∃ n tx, LogsEvent inst txs n tx address e ∧ EventOrigin inst n tx address e := by
  -- the step at which the event came into the log
  obtain ⟨n, tx, hstep, hnot, n', hexec, hafter⟩ := Run.exists_stepOf_of_change
    (P := fun n : Network Roles Owners Tree => e ∈ (n.registries address).events)
    List.not_mem_nil he
  refine ⟨n, tx, ?_⟩
  rcases Network.exec_log_cases hl hexec address with ⟨hsame, -⟩ |
    ⟨sender, call, impl, e', horigin, -, hauthorized, hlogged⟩
  · rw [hsame] at hafter
    exact absurd hafter hnot
  · -- it is the one event that step has logged
    rw [hlogged.events, List.mem_append, List.mem_singleton] at hafter
    obtain rfl := hafter.resolve_left hnot
    exact ⟨⟨hstep, n', hexec, hlogged.events⟩,
      horigin.event (hext tx hstep.mem) hauthorized hlogged.announces⟩

/-- Accounts 3 and 4, which make the live history, are neither of the two contracts. -/
private theorem external_liveHistory :
    ∀ tx ∈ liveHistory, tx.External plainInstallation.toDeployment := by
  have hext (sender : Address) (h : sender = 3 ∨ sender = 4) (call : NetworkCall) :
      NetworkTransaction.External plainDeployment ⟨newYear, sender, call⟩ := by
    have hsender : ∀ a : Address, a = 3 ∨ a = 4 → a ≠ 1 ∧ a ≠ 2 := by
      rintro a (rfl | rfl) <;> decide
    exact hsender sender h
  simp [liveHistory, setUp, dscRegistration, commitmentRegistration, networkOpening,
    plainInstallation, hext]

/-- Where the registration of the live network's passport comes from. -/
theorem event_origin_liveHistory :
    ∃ n tx, LogsEvent plainInstallation liveHistory n tx 21
        (.commitmentRegistered AttestationId.ePassport 6 5 946728000 5 0) ∧
      EventOrigin plainInstallation n tx 21
        (.commitmentRegistered AttestationId.ePassport 6 5 946728000 5 0) :=
  event_origin plainInstallation_lawful external_liveHistory (by decide)

/-! ## The chain of trust -/

namespace IdentityRegistry

/-- A date given to a root was announced. -/
theorem exists_dated {log : List Event} {root : Word}
    (h : (announced log).rootTimestamps root ≠ 0) :
    ∃ e ∈ log, ∃ timestamp, e.dated = some (root, timestamp) := by
  obtain ⟨before, e, since, rfl, hnot, hmade⟩ := Journal.exists_making
    (P := fun L : Ledger => L.rootTimestamps root ≠ 0) (not_not.mpr rfl) h
  rcases Ledger.apply_roots (announced before) e with ⟨r, timestamp, hdated, htimes, -⟩ |
    ⟨-, htimes, -⟩
  · -- an event with a root dates that root and no other
    by_cases hr : root = r
    · subst hr
      exact ⟨e, by simp, timestamp, hdated⟩
    · refine absurd hmade ?_
      change ¬ (Ledger.apply (announced before) e).rootTimestamps root ≠ 0
      rw [htimes, Function.update_of_ne hr]
      exact hnot
  · refine absurd hmade ?_
    change ¬ (Ledger.apply (announced before) e).rootTimestamps root ≠ 0
    rw [htimes]
    exact hnot

/-- The root of the DSC keys an event announces. -/
def Event.dscRoot : Event → Option Word
  | .dscKeyCommitmentRegistered _ _ root _
  | .devDscKeyCommitmentRegistered _ root _
  | .devDscKeyCommitmentUpdated _ _ root
  | .devDscKeyCommitmentRemoved _ root => some root
  | _ => none

/-- The root the DSC keys have was announced. -/
theorem exists_dscRoot {log : List Event} {root : Word}
    (h : (announced log).dscKeyCommitmentRoot = some root) :
    ∃ e ∈ log, e.dscRoot = some root := by
  obtain ⟨before, e, since, rfl, hnot, hmade⟩ := Journal.exists_making
    (P := fun L : Ledger => L.dscKeyCommitmentRoot = some root) (by simp [Ledger.empty]) h
  refine ⟨e, by simp, ?_⟩
  cases e with
  | dscKeyCommitmentRegistered | devDscKeyCommitmentRegistered | devDscKeyCommitmentUpdated
  | devDscKeyCommitmentRemoved => exact hmade
  | _ => exact absurd hmade hnot

/-- The call leaves the trees to the hub, and has no other hub in mind. -/
def Call.KeepsTo (hub : Address) : Call → Prop
  | .initializeRegistry hubAddress | .updateHub hubAddress => hubAddress = hub
  | .devAddIdentityCommitment _ _ _ | .devUpdateCommitment _ _ _ | .devRemoveCommitment _ _
  | .devAddDscKeyCommitment _ | .devUpdateDscKeyCommitment _ _ _
  | .devRemoveDscKeyCommitment _ _ => False
  | _ => True

end IdentityRegistry

/-- In the run of `txs`, the calls of the registry at `address` that commit leave its trees to
the hub. -/
def LeftToHub (inst : Installation Roles Owners Tree) (txs : List NetworkTransaction)
    (address : Address) : Prop :=
  ∀ n tx call n', Run.StepOf (Network.exec inst) (Network.deploy inst) txs n tx →
    tx.call = .registry address call → Network.exec inst n tx = .ok n' → call.KeepsTo inst.hub

theorem LeftToHub.of_append {pre post : List NetworkTransaction}
    (h : LeftToHub inst (pre ++ post) address) : LeftToHub inst pre address :=
  fun n tx call n' hstep => h n tx call n' (hstep.append post)

/-- A registry left to the hub has it for its hub, or none. -/
private theorem LeftToHub.hub (hl : inst.imt.Lawful) {txs : List NetworkTransaction}
    (htxs : LeftToHub inst txs address) :
    let s := ((Network.deploy inst).run inst txs).registries address
    s.hub = 0 ∨ s.hub = inst.hub := by
  unfold Network.run
  refine Run.run_preserves (I := fun n : Network Roles Owners Tree =>
    (n.registries address).hub = 0 ∨ (n.registries address).hub = inst.hub) (.inl rfl) ?_
  intro n tx n' hstep h hn
  rcases Network.exec_log_cases hl h address with ⟨-, hsame⟩ |
    ⟨_, call, impl, e, horigin, -, -, hlogged⟩
  · rwa [hsame]
  · rw [hlogged.hub]
    have hannounces := hlogged.announces
    -- of all calls, the initializer and `updateHub` write the hub
    cases hannounces with
    | initializeRegistry hubAddress =>
      cases horigin with
      | direct _ _ hcall =>
        have hhub : hubAddress = inst.hub := htxs n tx _ n' hstep hcall h
        cases impl with
        | passport => exact .inr hhub
        | idCard => exact hn
    | updateHub hubAddress =>
      cases horigin with
      | direct _ _ hcall => exact .inr (htxs n tx _ n' hstep hcall h)
    | _ => exact hn

section Kept

variable {txs : List NetworkTransaction} (hlogs : LogsEvent inst txs n tx address e)
  (htxs : LeftToHub inst txs address)
  (hhub : (n.registries address).hub = 0 ∨ (n.registries address).hub = inst.hub)
include hlogs htxs hhub

/-- A registry left to the hub dates roots for verified register proofs only. -/
private theorem EventOrigin.dated (h : EventOrigin inst n tx address e) {root timestamp : Word}
    (hdated : e.dated = some (root, timestamp)) :
    ∃ attestationId proof index, ProvesCommitment inst n tx address attestationId proof ∧
      e = .commitmentRegistered attestationId proof.nullifier proof.commitment
        (BitVec.ofNat 256 tx.block.timestamp) root index := by
  cases h with
  | commitment attestationId proof root' index hproves =>
    obtain ⟨rfl, -⟩ := Prod.mk.inj (Option.some.inj hdated)
    exact ⟨attestationId, proof, index, hproves, rfl⟩
  | dscKeyCommitment => nomatch hdated
  | initializer => nomatch hdated
  | otherHub _ _ _ _ hother hset hsender _ =>
    -- the hub of the registry is 0 or the hub, and a call is never sent by 0
    exact absurd (hsender.symm.trans (hhub.resolve_left hset)) hother
  | owner call _ hcall hadmin howner he =>
    -- of the owner's functions, those for development date roots, and are not used
    obtain ⟨hstep, n', hexec, -⟩ := hlogs
    have hkeeps := htxs n tx call n' hstep hcall hexec
    cases he with
    | registerCommitment => nomatch hadmin
    | devAddIdentityCommitment | devUpdateCommitment | devRemoveCommitment => exact hkeeps.elim
    | _ => nomatch hdated

/-- A registry left to the hub has the roots of its DSC keys from verified DSC proofs only. -/
private theorem EventOrigin.dscRoot (h : EventOrigin inst n tx address e) {root : Word}
    (hroot : e.dscRoot = some root) :
    ∃ proof index, ProvesDscKey inst n tx address proof ∧
      e = .dscKeyCommitmentRegistered proof.treeLeaf (BitVec.ofNat 256 tx.block.timestamp) root
        index := by
  cases h with
  | commitment => nomatch hroot
  | dscKeyCommitment proof root' index hproves =>
    obtain rfl := Option.some.inj hroot
    exact ⟨proof, index, hproves, rfl⟩
  | initializer => nomatch hroot
  | otherHub _ _ _ _ hother hset hsender _ =>
    exact absurd (hsender.symm.trans (hhub.resolve_left hset)) hother
  | owner call _ hcall hadmin howner he =>
    -- again the functions for development are the only others
    obtain ⟨hstep, n', hexec, -⟩ := hlogs
    have hkeeps := htxs n tx call n' hstep hcall hexec
    cases he with
    | registerDscKeyCommitment => nomatch hadmin
    | devAddDscKeyCommitment | devUpdateDscKeyCommitment | devRemoveDscKeyCommitment =>
      exact hkeeps.elim
    | _ => nomatch hroot

end Kept

/-- Transaction `tx` is executed in the run of `txs`, at network `n`, after those of `pre`. -/
def StepAfter (inst : Installation Roles Owners Tree) (pre txs : List NetworkTransaction)
    (n : Network Roles Owners Tree) (tx : NetworkTransaction) : Prop :=
  ∃ post, txs = pre ++ tx :: post ∧ n = (Network.deploy inst).run inst pre

/-- The root `root` of the commitments at `address` was announced for a register proof the hub
verified; and the root of the DSC keys that proof is made for is that of the empty tree, or
was announced for a DSC proof the hub verified earlier, made for the registry's CSCA root. -/
def Trusted (inst : Installation Roles Owners Tree) (txs : List NetworkTransaction)
    (address : Address) (root : Word) : Prop :=
  ∃ pre n tx attestationId proof t i, StepAfter inst pre txs n tx ∧
    ProvesCommitment inst n tx address attestationId proof ∧
    IdentityRegistry.Event.commitmentRegistered attestationId proof.nullifier proof.commitment t
      root i ∈ (((Network.deploy inst).run inst txs).registries address).events ∧
    (proof.merkleRoot = inst.imt.root inst.imt.empty ∨
      ∃ pre' n' tx' proof' t' i', StepAfter inst pre' pre n' tx' ∧
        ProvesDscKey inst n' tx' address proof' ∧
        IdentityRegistry.Event.dscKeyCommitmentRegistered proof'.treeLeaf t' proof.merkleRoot i' ∈
          (n.registries address).events)

/-- The roots of a registry left to the hub are trusted. -/
private theorem known_trusted (hl : inst.imt.Lawful) {txs : List NetworkTransaction}
    (hext : ∀ tx ∈ txs, tx.External inst.toDeployment) (htxs : LeftToHub inst txs address)
    {root : Word}
    (hknown : (((Network.deploy inst).run inst txs).registries address).rootTimestamps root ≠ 0) :
    Trusted inst txs address root := by
  rw [(Network.run_journaled hl txs address).represents.rootTimestamps] at hknown
  obtain ⟨e, he, timestamp, hdated⟩ := exists_dated hknown
  obtain ⟨n, tx, hlogs, horigin⟩ := event_origin hl hext he
  obtain ⟨pre, post, rfl, rfl⟩ := hlogs.step
  have hext' : ∀ t ∈ pre, t.External inst.toDeployment := fun t ht =>
    hext t (List.mem_append_left _ ht)
  have htxs' : LeftToHub inst pre address := htxs.of_append
  obtain ⟨attestationId, proof, index, hproves, rfl⟩ :=
    horigin.dated hlogs htxs (htxs'.hub hl) hdated
  refine ⟨pre, _, tx, attestationId, proof, _, _, ⟨post, rfl, rfl⟩, hproves, he, ?_⟩
  -- the root of the DSC keys at that moment is the last one announced, if any
  have hroot := (Network.run_journaled hl pre address).represents.dscKeyCommitmentRoot
  cases hdsc : (announced (((Network.deploy inst).run inst pre).registries
      address).events).dscKeyCommitmentRoot with
  | none =>
    rw [hdsc] at hroot
    exact .inl (hproves.root.symm.trans hroot)
  | some dscRoot =>
    rw [hdsc] at hroot
    -- and goes back to a DSC proof in the same way
    obtain ⟨e', he', hdscRoot⟩ := exists_dscRoot hdsc
    obtain ⟨n', tx', hlogs', horigin'⟩ := event_origin hl hext' he'
    obtain ⟨pre', post', rfl, rfl⟩ := hlogs'.step
    obtain ⟨proof', index', hproves', rfl⟩ :=
      horigin'.dscRoot hlogs' htxs' (htxs'.of_append.hub hl) hdscRoot
    have heq : proof.merkleRoot = dscRoot := hproves.root.symm.trans hroot
    exact .inr ⟨pre', _, tx', proof', _, index', ⟨post', rfl, rfl⟩, hproves', heq ▸ he'⟩

/-- **The chain of trust**: after a run of external transactions, a transaction that changes
RuleSelf's registry registers with a proof made for a root that the registry of the proof's
attestation id has announced. Where the calls of that registry leave its trees to the
hub, the root goes back to a verified register proof, and that proof to verified DSC
proofs made for the CSCA root. -/
theorem registration_chain (hl : inst.imt.Lawful) {txs : List NetworkTransaction}
    (hext : ∀ tx ∈ txs, tx.External inst.toDeployment)
    (htx : tx.External inst.toDeployment)
    (hchanged : let n := (Network.deploy inst).run inst txs
      RegistryChanged n.ruleSelf (Run.step (Network.exec inst) n tx).ruleSelf) :
    let n := (Network.deploy inst).run inst txs
    ∃ P C d c proof, Registers inst.toDeployment n.world (Network.shadow inst n tx)
        (Run.step (Network.exec inst) n tx).world P C d c proof ∧
      (∃ e ∈ (n.registries (n.hub.registries d.attestationId)).events, ∃ timestamp,
        e.dated = some (d.merkleRoot proof.pubSignals, timestamp)) ∧
      (LeftToHub inst txs (n.hub.registries d.attestationId) →
        Trusted inst txs (n.hub.registries d.attestationId) (d.merkleRoot proof.pubSignals)) := by
  intro n
  -- the step is one of the deployed system, and registers there
  have hstep := Network.step_shadow inst n tx
  obtain ⟨P, C, d, c, proof, hregisters⟩ := step_registers
    (Network.shadow_external (n := n) htx) (by rw [hstep]; exact hchanged)
  rw [hstep] at hregisters
  have hknown := rootKnown_iff.mp hregisters.verified.accepts.root_known
  refine ⟨P, C, d, c, proof, hregisters, ?_, fun hkeeps => known_trusted hl hext hkeeps hknown⟩
  have hjournaled := Network.run_journaled hl txs (n.hub.registries d.attestationId)
  exact exists_dated (hjournaled.represents.rootTimestamps ▸ hknown)

/-- A proof over a blank passport, with nullifier `n`, for the root `root` of the commitments. -/
def rootedProof (n root : Word) : VcAndDiscloseProof :=
  { (Disclosure.blank .passport n 0 0).proof .passport with
    pubSignals := Function.update ((Disclosure.blank .passport n 0 0).signals .passport) 9 root }

/-- The call of `verifySelfProof` with this proof, for user identifier `u`. -/
def rootedCall (n root u : Word) : Call :=
  .verifySelfProof (payloadOf .passport (rootedProof n root)) (contextOf newYear.chainid u)

/-- Account 4 registers user identifier `u` in RuleSelf. -/
def liveRegistration (n u : Word) : NetworkTransaction :=
  ⟨newYear, 4, .contract (rootedCall n 5 u) rfl⟩

theorem revealedData_rootedProof (n root : Word) :
    DocumentType.passport.revealedData (rootedProof n root).pubSignals = blankData .passport := by
  have hblank := Disclosure.revealedData_signals (d := .passport)
    (p := Disclosure.blank .passport n 0 0) (blankData_length .passport)
  refine Eq.trans (congrArg (Formatter.unpackElements ![31, 31, 31]) (funext fun i => ?_)) hblank
  match i with
  | 0 | 1 | 2 => rfl

/-- The live network accepts the proof. -/
theorem liveNetwork_accepts (n u : Word) :
    Accepts plainDeployment.oracles liveNetwork.world.registries newYear liveNetwork.world.hub
      .passport liveNetwork.world.ruleSelf.scope noRequirements (rootedProof n 5)
      (contextOf newYear.chainid u) where
  configured := rfl
  scope_eq := rfl
  userIdentifier_eq := rfl
  registry_set := by decide
  root_known := rfl
  date_in_range := by
    have hdate : DocumentType.passport.currentDate (rootedProof n 5).pubSignals =
        ![0, 0, 0, 1, 0, 1] := by
      funext i
      match i with
      | 0 | 1 | 2 | 3 | 4 | 5 => rfl
    rw [hdate]
    exact newYear_dateInRange
  groth16 := rfl
  in_field := by
    intro i
    -- the root is another signal, so the disclosed words are those of the blank proof
    have hfield := Disclosure.revealedInField_signals (d := .passport)
      (p := Disclosure.blank .passport n 0 0) i
    match i with
    | 0 | 1 | 2 => exact hfield
  meets := meets_noRequirements ..
  dates_readable := by
    rw [revealedData_rootedProof]
    exact blankData_datesReadable .passport

/-- The registration in RuleSelf commits, and registers `u` with nullifier `n`. -/
theorem exec_liveRegistration {n u : Word} (hu : u ≠ 0) :
    liveNetwork.exec plainInstallation (liveRegistration n u) =
      .ok (liveNetwork.withWorld (liveNetwork.world.register u n)) := by
  have hconfig : generateConfigId plainDeployment.oracles noRequirements =
      liveNetwork.world.ruleSelf.configId := by decide +kernel
  have hverified := Verified.of_accepts hconfig (liveNetwork_accepts n u)
  have hregister := verifySelfProof_iff.mpr ⟨_, _, _, hverified,
    by rw [userIdentifierOf_contextOf]; exact ⟨rfl, rfl, hu, rfl⟩, rfl⟩
  rw [userIdentifierOf_contextOf] at hregister
  exact Network.exec_contract rfl (World.onRuleSelf_eq_ok.mpr ⟨_, hregister, rfl⟩)

/-- In the live history, the only call of a registry gives it the hub. -/
private theorem leftToHub_liveHistory (address : Address) :
    LeftToHub plainInstallation liveHistory address := by
  have hkeeps : ∀ tx ∈ liveHistory, ∀ a call, tx.call = .registry a call → call.KeepsTo 1 := by
    simp [liveHistory, setUp, dscRegistration, commitmentRegistration, networkOpening,
      IdentityRegistry.Call.KeepsTo]
  intro n tx call n' hstep hcall _
  exact hkeeps tx hstep.mem address call hcall

/-- A registration in the live network goes back to its register proof and its DSC proof. -/
theorem registration_chain_liveNetwork :
    ∃ P C d c proof, Registers plainDeployment liveNetwork.world
        (Network.shadow plainInstallation liveNetwork (liveRegistration 9 7))
        (Run.step (Network.exec plainInstallation) liveNetwork (liveRegistration 9 7)).world
        P C d c proof ∧
      (∃ e ∈ (liveNetwork.registries (liveNetwork.hub.registries d.attestationId)).events,
        ∃ timestamp, e.dated = some (d.merkleRoot proof.pubSignals, timestamp)) ∧
      Trusted plainInstallation liveHistory (liveNetwork.hub.registries d.attestationId)
        (d.merkleRoot proof.pubSignals) := by
  have hchanged : RegistryChanged liveNetwork.ruleSelf
      (Run.step (Network.exec plainInstallation) liveNetwork (liveRegistration 9 7)).ruleSelf := by
    rw [Run.step_of_ok (exec_liveRegistration (by decide))]
    exact CanRegister.registryChanged (s := liveNetwork.ruleSelf) ⟨rfl, rfl, by decide, rfl⟩
  obtain ⟨P, C, d, c, proof, hregisters, hannounced, htrusted⟩ := registration_chain
    plainInstallation_lawful external_liveHistory ⟨by decide, by decide⟩ hchanged
  exact ⟨P, C, d, c, proof, hregisters, hannounced, htrusted (leftToHub_liveHistory _)⟩

/-! ## The registry of ID cards -/

/-- The call gives a registry another hub, or writes its commitments in the hub's place. -/
def IdentityRegistry.Call.Unlocks : IdentityRegistry.Call → Prop
  | .updateHub _ | .devAddIdentityCommitment _ _ _ | .devUpdateCommitment _ _ _
  | .devRemoveCommitment _ _ => True
  | _ => False

/-- The registry trusts no hub, and has announced no root. -/
private def Locked (s : IdentityRegistry.Storage Owners Tree) : Prop :=
  s.hub = 0 ∧ ∀ e ∈ s.events, e.dated = none

/-- A call that does not unlock the registry of ID cards keeps it locked. -/
private theorem Locked.logged {ctx : IdentityRegistry.Context} {call : IdentityRegistry.Call}
    {s s' : IdentityRegistry.Storage Owners Tree} (hs : Locked s) (hcall : ¬ call.Unlocks)
    (hauthorized : Authorized inst.ownable ctx s call)
    (hlogged : IdentityRegistry.Logged inst.imt .idCard ctx call s s' e) : Locked s' := by
  obtain ⟨hhub, hevents⟩ := hs
  have hannounces := hlogged.announces
  -- the event leaves the hub 0 and dates no root
  suffices hubAfter .idCard s.hub e = 0 ∧ e.dated = none by
    refine ⟨hlogged.hub.trans this.1, ?_⟩
    rw [hlogged.events]
    exact List.forall_mem_append.mpr ⟨hevents, List.forall_mem_singleton.mpr this.2⟩
  cases hannounces with
  | registerCommitment => exact absurd hhub hauthorized.1
  | updateHub | devAddIdentityCommitment | devUpdateCommitment | devRemoveCommitment =>
    exact absurd trivial hcall
  | _ => exact ⟨hhub, rfl⟩

/-- In the run of `txs`, no call of the registry at `address` its owner makes unlocks it. -/
def NotUnlocked (inst : Installation Roles Owners Tree) (txs : List NetworkTransaction)
    (address : Address) : Prop :=
  ∀ n tx call n', Run.StepOf (Network.exec inst) (Network.deploy inst) txs n tx →
    tx.call = .registry address call → Network.exec inst n tx = .ok n' →
    inst.ownable.owner (n.registries address).implRoot.owners = tx.sender → ¬ call.Unlocks

/-- Only the owner can unlock a registry. -/
theorem IdentityRegistry.Authorized.owner_of_unlocks {ctx : IdentityRegistry.Context}
    {call : IdentityRegistry.Call} {s : IdentityRegistry.Storage Owners Tree}
    (h : Authorized inst.ownable ctx s call) (hcall : call.Unlocks) :
    inst.ownable.owner s.implRoot.owners = ctx.sender := by
  cases call with
  | updateHub | devAddIdentityCommitment | devUpdateCommitment | devRemoveCommitment => exact h
  | _ => exact hcall.elim

private theorem NotUnlocked.locked (hl : inst.imt.Lawful)
    (himpl : inst.implementation address = some .idCard) {txs : List NetworkTransaction}
    (htxs : NotUnlocked inst txs address) :
    Locked (((Network.deploy inst).run inst txs).registries address) := by
  unfold Network.run
  refine Run.run_preserves (I := fun n : Network Roles Owners Tree => Locked (n.registries address))
    ⟨rfl, fun _ h => absurd h List.not_mem_nil⟩ ?_
  intro n tx n' hstep h hn
  rcases Network.exec_log_cases hl h address with ⟨hevents, hhub⟩ |
    ⟨_, call, impl, e, horigin, himpl', hauthorized, hlogged⟩
  · exact ⟨hhub.trans hn.1, hevents ▸ hn.2⟩
  · obtain rfl : .idCard = impl := Option.some.inj (himpl.symm.trans himpl')
    -- a call that unlocks would be the owner's, and the owner makes none
    refine hn.logged (fun hunlocks => ?_) hauthorized hlogged
    cases horigin with
    | direct _ _ hcall =>
      exact htxs n tx call n' hstep hcall h (hauthorized.owner_of_unlocks hunlocks) hunlocks
    | commitment | dscKeyCommitment => exact hunlocks

/-- What an initializer announces stays in the log. -/
private theorem registryInitialized_mem (hl : inst.imt.Lawful) {txs : List NetworkTransaction}
    {n n' : Network Roles Owners Tree} {hub : Address}
    (hstep : Run.StepOf (Network.exec inst) (Network.deploy inst) txs n tx)
    (hcall : tx.call = .registry address (.initializeRegistry hub))
    (hexec : Network.exec inst n tx = .ok n') :
    .registryInitialized hub ∈
      (((Network.deploy inst).run inst txs).registries address).events := by
  refine (Network.stepOf_events hl hstep hexec address).subset ?_
  obtain ⟨block, sender, call⟩ := tx
  obtain rfl : call = .registry address (.initializeRegistry hub) := hcall
  obtain ⟨⟨impl, after, -, hregister, rfl⟩⟩ := Network.callRegistry_eq_ok hexec
  obtain ⟨-, ⟨e, hlogged⟩ | ⟨_, _, hcall, -⟩⟩ := exec_logged hl hregister
  · -- of what a call may announce, the initializer announces this
    have hannounces := hlogged.announces
    cases hannounces
    simp [hlogged.events]
  · nomatch hcall

/-- **The registry of ID cards is locked**: its initializer sets no hub, whatever address it is
given and announces. Until the owner updates the hub, or writes commitments himself, the hub
registers no commitment there, no root is known, and as long as the hub looks ID cards up in
it, nobody registers in RuleSelf with one. -/
theorem idCard_registry_locked (hl : inst.imt.Lawful)
    (himpl : inst.implementation address = some .idCard) {txs : List NetworkTransaction}
    (hlocked : NotUnlocked inst txs address) :
    let n := (Network.deploy inst).run inst txs
    (n.registries address).hub = 0 ∧
      (∀ m tx hub m', Run.StepOf (Network.exec inst) (Network.deploy inst) txs m tx →
        tx.call = .registry address (.initializeRegistry hub) → Network.exec inst m tx = .ok m' →
        .registryInitialized hub ∈ (n.registries address).events) ∧
      (∀ root, (n.registries address).rootTimestamps root = 0) ∧
      (∀ tx attestationId verifierId proof,
        tx.call = .registerCommitment attestationId verifierId proof →
        n.hub.registries attestationId = address → ∃ e, Network.exec inst n tx = .error e) ∧
      ∀ tx P C d c proof w, n.hub.registries d.attestationId = address →
        ¬ Registers inst.toDeployment n.world tx w P C d c proof := by
  intro n
  have hstate : Locked (n.registries address) := hlocked.locked hl himpl
  have hroots (root : Word) : (n.registries address).rootTimestamps root = 0 := by
    -- a known root was announced with its date, and no event in the log has one
    by_contra hknown
    rw [(Network.run_journaled hl txs address).represents.rootTimestamps] at hknown
    obtain ⟨e, he, timestamp, hdated⟩ := exists_dated hknown
    rw [hstate.2 e he] at hdated
    exact nomatch hdated
  refine ⟨hstate.1, fun _ _ _ _ => registryInitialized_mem hl, hroots, ?_, ?_⟩
  · intro tx attestationId verifierId proof hcall hregistry
    cases hexec : Network.exec inst n tx with
    | error e => exact ⟨e, rfl⟩
    | ok n' =>
      -- a committed registration calls the registry as its hub, which it has not
      rcases Network.exec_cases hexec with ⟨_, _, _, hcall', -⟩ | ⟨_, _, hcall', -⟩ |
        ⟨_, _, _, horigin, ⟨⟨impl, after, -, hregister, -⟩⟩⟩
      · exact nomatch hcall.symm.trans hcall'
      · exact nomatch hcall.symm.trans hcall'
      · cases horigin with
        | direct _ _ hcall' => exact nomatch hcall.symm.trans hcall'
        | dscKeyCommitment _ _ _ hcall' => exact nomatch hcall.symm.trans hcall'
        | commitment a _ _ hcall' =>
          obtain ⟨rfl, -⟩ := NetworkCall.registerCommitment.inj (hcall.symm.trans hcall')
          rw [hregistry] at hregister
          exact absurd hstate.1 (exec_logged hl hregister).1.1
  · intro tx P C d c proof w hregistry hregisters
    have hknown := rootKnown_iff.mp hregisters.verified.accepts.root_known
    -- a registration of RuleSelf shows a root that the registry knows
    have hroot := hroots (d.merkleRoot proof.pubSignals)
    rw [← hregistry] at hroot
    exact hknown hroot

/-- The registry of ID cards after its initializer was given the hub, and somebody else has
tried to update it. -/
theorem idCard_registry_locked_initialized :
    let n := (Network.deploy plainInstallation).run plainInstallation
      [⟨newYear, 3, .registry 22 (.initializeRegistry 1)⟩,
        ⟨newYear, 4, .registry 22 (.updateHub 1)⟩]
    (n.registries 22).hub = 0 ∧ .registryInitialized 1 ∈ (n.registries 22).events := by
  intro n
  have hlocked : NotUnlocked plainInstallation [⟨newYear, 3, .registry 22 (.initializeRegistry 1)⟩,
      ⟨newYear, 4, .registry 22 (.updateHub 1)⟩] 22 := by
    rintro n tx call n' ⟨pre, post, htxs, rfl⟩ hcall - howner hunlocks
    rcases pre with _ | ⟨first, _ | ⟨second, pre⟩⟩
    · obtain ⟨rfl, -⟩ := List.cons.inj htxs
      obtain ⟨-, rfl⟩ := NetworkCall.registry.inj hcall
      exact hunlocks
    · -- the owner is account 3, which has initialized the registry
      obtain ⟨rfl, hrest⟩ := List.cons.inj htxs
      obtain ⟨rfl, -⟩ := List.cons.inj hrest
      exact absurd howner (by decide)
    · simp at htxs
  obtain ⟨hhub, hannounced, -⟩ := idCard_registry_locked plainInstallation_lawful
    (rfl : plainInstallation.implementation 22 = some .idCard) hlocked
  exact ⟨hhub, hannounced _ _ 1 _ ⟨[], _, rfl, rfl⟩ rfl rfl⟩

end RuleSelf
