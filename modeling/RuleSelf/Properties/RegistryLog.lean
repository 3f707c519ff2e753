import RuleSelf.Contract.Completeness
import RuleSelf.Contract.Network

/-!
# The Log of a Registry

What the events an identity registry has logged say about it, after every run of the
network: they are the history of its ledger, a nullifier, a DSC key and a leaf are
registered once unless the owner undoes it, and the roots the hub accepts are those of
the events, for ever.
-/

namespace RuleSelf

open Evm IdentityRegistry

variable {Roles Owners Tree : Type} {inst : Installation Roles Owners Tree}

/-! ## The log is the history -/

/-- The hub a registry has is the one its events lead to. -/
private theorem run_hub (hl : inst.imt.Lawful) {address : Address} {impl : Implementation}
    (himpl : inst.implementation address = some impl) (txs : List NetworkTransaction) :
    let s := ((Network.deploy inst).run inst txs).registries address
    s.hub = Journal.replay (hubAfter impl) 0 s.events := by
  unfold Network.run
  refine Run.run_invariant (A := fun _ => True) (I := fun n : Network Roles Owners Tree =>
    (n.registries address).hub =
      Journal.replay (hubAfter impl) 0 (n.registries address).events) ?_ rfl fun _ _ => trivial
  intro n tx n' _ hn h
  rcases Network.exec_log_cases hl h address with ⟨hevents, hhub⟩ |
    ⟨_, _, impl', e, -, himpl', -, hlogged⟩
  · -- a call that logs nothing leaves the hub
    rwa [hevents, hhub]
  · obtain rfl : impl = impl' := Option.some.inj (himpl.symm.trans himpl')
    rw [hlogged.events, Journal.replay_concat, ← hn]
    exact hlogged.hub

/-- **The log is the history**: after every run, a registry represents the ledger its events
announce, each event was allowed where it was logged, and the hub it trusts is the one its
events lead to. -/
theorem registry_log (hl : inst.imt.Lawful) (txs : List NetworkTransaction) {address : Address}
    {impl : Implementation} (himpl : inst.implementation address = some impl) :
    let s := ((Network.deploy inst).run inst txs).registries address
    Journal.Legal Ledger.apply Ledger.Allows Ledger.empty s.events ∧
      IdentityRegistry.Represents inst.imt s (announced s.events) ∧
      s.hub = Journal.replay (hubAfter impl) 0 s.events := by
  have hjournaled := Network.run_journaled hl txs address
  exact ⟨hjournaled.legal, hjournaled.represents, run_hub hl himpl txs⟩

/-- The plain deployment, next to two registries. -/
def plainInstallation : Installation AccessControl.RoleFlags (Address × Address) (List Word) where
  toDeployment := plainDeployment
  registrationOracles := ⟨fun _ _ => true, fun _ _ => true⟩
  ownable := .pair
  imt := .leaves fun left right => left + right
  implementation address :=
    if address = 21 then some .passport else if address = 22 then some .idCard else none

theorem plainInstallation_lawful : plainInstallation.imt.Lawful :=
  LeanIMT.leaves_lawful _

/-- Account 3 initializes the hub and the registry of passports, and sets them up. -/
def setUp : List NetworkTransaction :=
  [⟨newYear, 3, .admin .initializeHub⟩,
    ⟨newYear, 3, .registry 21 (.initializeRegistry 1)⟩,
    ⟨newYear, 3, .admin (.updateRegistry AttestationId.ePassport 21)⟩,
    ⟨newYear, 3, .admin (.updateRegisterCircuitVerifier AttestationId.ePassport 0 8)⟩,
    ⟨newYear, 3, .admin (.updateDscVerifier AttestationId.ePassport 0 9)⟩]

/-- Account 4 registers the DSC key commitment `c`. -/
def dscRegistration (c : Word) : NetworkTransaction :=
  ⟨newYear, 4, .registerDscKeyCommitment AttestationId.ePassport 0
    ⟨fun _ => 0, fun _ _ => 0, fun _ => 0, ![c, 0]⟩⟩

/-- Account 4 registers the commitment `c` of a passport with nullifier `n`, with a proof made
for the root `root` of the DSC keys. -/
def commitmentRegistration (n c root : Word) : NetworkTransaction :=
  ⟨newYear, 4, .registerCommitment AttestationId.ePassport 0
    ⟨fun _ => 0, fun _ _ => 0, fun _ => 0, ![n, c, root]⟩⟩

/-- The deployer opens RuleSelf's registration. -/
def networkOpening : NetworkTransaction := ⟨newYear, 3, .contract .openRegistration rfl⟩

/-- The set-up, a DSC key, a passport, and the opening. -/
def liveHistory : List NetworkTransaction :=
  setUp ++ [dscRegistration 7, commitmentRegistration 6 5 7, networkOpening]

/-- The network after it. -/
def liveNetwork : Network AccessControl.RoleFlags (Address × Address) (List Word) :=
  (Network.deploy plainInstallation).run plainInstallation liveHistory

/-- The log of the registry of passports after a passport has been registered. -/
theorem registry_log_liveHistory :
    let s := liveNetwork.registries 21
    Journal.Legal Ledger.apply Ledger.Allows Ledger.empty s.events ∧
      IdentityRegistry.Represents plainInstallation.imt s (announced s.events) ∧
      s.hub = Journal.replay (hubAfter .passport) 0 s.events :=
  registry_log plainInstallation_lawful liveHistory
    (rfl : plainInstallation.implementation 21 = some .passport)

/-! ## Registered once -/

namespace IdentityRegistry

variable {L : Ledger} {e : Event}

/-- What makes a nullifier unused again. -/
theorem undoes_nullifier {a n : Word} (hbefore : (a, n) ∈ L.nullifiers)
    (hafter : (a, n) ∉ (L.apply e).nullifiers) : e = .devNullifierStateChanged a n false := by
  cases e with
  | devNullifierStateChanged a' n' state =>
    simp only [Ledger.apply, Ledger.setNullifier, mem_setState, not_or, not_and] at hafter
    -- the flag of another nullifier is left alone
    by_cases hkey : (a, n) = (a', n')
    · obtain ⟨rfl, rfl⟩ := Prod.mk.inj hkey
      rw [Bool.eq_false_iff.mpr (hafter.1 rfl)]
    · exact absurd hbefore (hafter.2 hkey)
  | commitmentRegistered | devCommitmentRegistered =>
    simp only [Ledger.apply, Ledger.setNullifier, mem_setState, not_or, not_and] at hafter
    exact absurd hbefore (hafter.2 fun h => hafter.1 h trivial)
  | _ => exact absurd hbefore hafter

/-- What makes a DSC key unregistered again. -/
theorem undoes_registeredDscKey {c : Word} (hbefore : c ∈ L.registeredDscKeyCommitments)
    (hafter : c ∉ (L.apply e).registeredDscKeyCommitments) :
    e = .devDscKeyCommitmentStateChanged c false := by
  cases e with
  | devDscKeyCommitmentStateChanged c' state =>
    simp only [Ledger.apply, Ledger.setRegisteredDscKey, mem_setState, not_or, not_and] at hafter
    -- the state is set for one key, and taken back only by setting it to false
    by_cases hkey : c = c'
    · subst hkey
      rw [Bool.eq_false_iff.mpr (hafter.1 rfl)]
    · exact absurd hbefore (hafter.2 hkey)
  | dscKeyCommitmentRegistered | devDscKeyCommitmentRegistered =>
    simp only [Ledger.apply, Ledger.setRegisteredDscKey, mem_setState, not_or, not_and] at hafter
    -- a registration sets the state to true
    exact absurd hbefore (hafter.2 fun h => hafter.1 h trivial)
  | _ => exact absurd hbefore hafter

/-- The event takes a leaf out of the identity commitment tree. -/
def Event.TakesOut (c : Word) : Event → Prop
  | .devCommitmentUpdated oldLeaf _ _ _ | .devCommitmentRemoved oldLeaf _ _ => oldLeaf = c
  | _ => False

/-- What takes a commitment out of the tree. -/
theorem undoes_commitment {c : Word} (hbefore : c ∈ L.commitments)
    (hafter : c ∉ (L.apply e).commitments) : e.TakesOut c := by
  -- the leaf that is written over is the only one that goes
  have hreplaced {oldLeaf newLeaf : Word} (h : c ∉ replaceLeaf L.commitments oldLeaf newLeaf) :
      oldLeaf = c := by
    simp only [mem_replaceLeaf, not_or, not_and, not_not] at h
    exact (h.1 hbefore).symm
  cases e with
  | devCommitmentUpdated | devCommitmentRemoved => exact hreplaced hafter
  | commitmentRegistered | devCommitmentRegistered =>
    exact absurd (Set.mem_insert_of_mem _ hbefore) hafter
  | _ => exact absurd hbefore hafter

end IdentityRegistry

/-- Event `e'` is logged after event `e`, with `mid` in between. -/
def LoggedBetween (log : List IdentityRegistry.Event) (e : IdentityRegistry.Event)
    (mid : List IdentityRegistry.Event) (e' : IdentityRegistry.Event) : Prop :=
  ∃ before since, log = before ++ e :: (mid ++ e' :: since)

/-- **Registered once**: between two registrations of one nullifier by the hub, the owner has
reset it; between two of one DSC key, its state; and between two of one commitment, the
owner has taken it out of the tree. -/
theorem registered_once (hl : inst.imt.Lawful) (txs : List NetworkTransaction)
    (address : Address) {mid : List IdentityRegistry.Event} :
    let log := (((Network.deploy inst).run inst txs).registries address).events
    (∀ {a n c t r i c' t' r' i'}, LoggedBetween log (.commitmentRegistered a n c t r i) mid
        (.commitmentRegistered a n c' t' r' i') →
      IdentityRegistry.Event.devNullifierStateChanged a n false ∈ mid) ∧
    (∀ {c t r i t' r' i'}, LoggedBetween log (.dscKeyCommitmentRegistered c t r i) mid
        (.dscKeyCommitmentRegistered c t' r' i') →
      IdentityRegistry.Event.devDscKeyCommitmentStateChanged c false ∈ mid) ∧
    ∀ {a n c t r i a' n' t' r' i'}, LoggedBetween log (.commitmentRegistered a n c t r i) mid
        (.commitmentRegistered a' n' c t' r' i') → ∃ e ∈ mid, e.TakesOut c := by
  have hlegal := (Network.run_journaled hl txs address).legal
  refine ⟨?_, ?_, ?_⟩
  · -- between two registrations of a nullifier, its state was set back
    rintro a n c t r i c' t' r' i' ⟨before, since, hlog⟩
    rw [hlog] at hlegal
    obtain ⟨e, he, L, hbefore, hafter⟩ := hlegal.exists_between
      (P := fun L => (a, n) ∈ L.nullifiers) (fun _ _ => mem_setState.mpr (.inl ⟨rfl, rfl⟩))
      fun _ hok => hok.1
    rwa [← undoes_nullifier hbefore hafter]
  · -- of a DSC key, the same
    rintro c t r i t' r' i' ⟨before, since, hlog⟩
    rw [hlog] at hlegal
    obtain ⟨e, he, L, hbefore, hafter⟩ := hlegal.exists_between
      (P := fun L => c ∈ L.registeredDscKeyCommitments)
      (fun _ _ => mem_setState.mpr (.inl ⟨rfl, rfl⟩)) fun _ hok => hok.1
    rwa [← undoes_registeredDscKey hbefore hafter]
  · -- of a commitment: between the two it was taken out of the tree
    rintro a n c t r i a' n' t' r' i' ⟨before, since, hlog⟩
    rw [hlog] at hlegal
    obtain ⟨e, he, L, hbefore, hafter⟩ := hlegal.exists_between
      (P := fun L => c ∈ L.commitments) (fun _ _ => Set.mem_insert _ _) fun _ hok => hok.2.2
    exact ⟨e, he, undoes_commitment hbefore hafter⟩

/-- A nullifier registered again after the owner has reset it. -/
theorem registered_once_reset :
    let history := setUp ++ [commitmentRegistration 6 5 0,
      ⟨newYear, 3, .registry 21 (.devChangeNullifierState AttestationId.ePassport 6 false)⟩,
      commitmentRegistration 6 7 0]
    let log := (((Network.deploy plainInstallation).run plainInstallation history).registries
      21).events
    log.length = 4 ∧ ∃ mid, (∃ t r i t' r' i', LoggedBetween log
        (.commitmentRegistered AttestationId.ePassport 6 5 t r i) mid
        (.commitmentRegistered AttestationId.ePassport 6 7 t' r' i')) ∧
      IdentityRegistry.Event.devNullifierStateChanged AttestationId.ePassport 6 false ∈ mid := by
  intro history log
  have hbetween : LoggedBetween log
      (.commitmentRegistered AttestationId.ePassport 6 5 946728000 5 0)
      [.devNullifierStateChanged AttestationId.ePassport 6 false]
      (.commitmentRegistered AttestationId.ePassport 6 7 946728000 12 1) :=
    ⟨[.registryInitialized 1], [], by decide⟩
  exact ⟨by decide, _, ⟨_, _, _, _, _, _, hbetween⟩,
    (registered_once plainInstallation_lawful history 21).1 hbetween⟩

/-! ## The roots the hub accepts -/

namespace IdentityRegistry

/-- The root of the identity commitments an event announces, and its time. -/
def Event.dated : Event → Option (Word × Word)
  | .commitmentRegistered _ _ _ timestamp root _
  | .devCommitmentRegistered _ _ _ timestamp root _
  | .devCommitmentUpdated _ _ root timestamp
  | .devCommitmentRemoved _ root timestamp => some (root, timestamp)
  | _ => none

/-- Only an event that announces a root dates one. -/
theorem Ledger.apply_roots (L : Ledger) (e : Event) :
    (∃ root timestamp, e.dated = some (root, timestamp) ∧
      (L.apply e).rootTimestamps = Function.update L.rootTimestamps root timestamp ∧
      (L.apply e).commitmentRoot = some root) ∨
    (e.dated = none ∧ (L.apply e).rootTimestamps = L.rootTimestamps ∧
      (L.apply e).commitmentRoot = L.commitmentRoot) := by
  cases e with
  | commitmentRegistered | devCommitmentRegistered | devCommitmentUpdated
  | devCommitmentRemoved => exact .inl ⟨_, _, rfl, rfl, rfl⟩
  | _ => exact .inr ⟨rfl, rfl, rfl⟩

/-- No event of the log dates a root zero. -/
def Timed (log : List Event) : Prop :=
  ∀ e ∈ log, ∀ root timestamp, e.dated = some (root, timestamp) → timestamp ≠ 0

/-- The roots with a date are those announced, and the current one is among them. -/
theorem announced_roots {log : List Event} (hlog : Timed log) :
    (∀ root, (announced log).rootTimestamps root ≠ 0 ↔
      ∃ e ∈ log, ∃ timestamp, e.dated = some (root, timestamp)) ∧
    ((∃ e ∈ log, e.dated ≠ none) →
      ∃ root, (announced log).commitmentRoot = some root ∧
        (announced log).rootTimestamps root ≠ 0) := by
  induction log using List.reverseRecOn with
  | nil =>
    refine ⟨fun root => by simp [announced, Ledger.empty], ?_⟩
    rintro ⟨_, h, _⟩
    exact absurd h List.not_mem_nil
  | append_singleton log e ih =>
    obtain ⟨hknown, hcurrent⟩ := ih fun e' he' => hlog e' (List.mem_append_left _ he')
    rw [announced, Journal.replay_concat, ← announced]
    rcases Ledger.apply_roots (announced log) e with ⟨root, timestamp, hdated, htimes, hroot⟩ |
      ⟨hdated, htimes, hroot⟩
    · -- the event dates a root, which is the current one from now on
      have htimestamp : timestamp ≠ 0 := hlog e (by simp) root timestamp hdated
      constructor
      · intro r
        rw [htimes]
        by_cases hr : r = root
        · subst hr
          rw [Function.update_self]
          exact ⟨fun _ => ⟨e, by simp, timestamp, hdated⟩, fun _ => htimestamp⟩
        · rw [Function.update_of_ne hr, hknown]
          simp [hdated, Ne.symm hr]
      · exact fun _ => ⟨root, hroot, by rwa [htimes, Function.update_self]⟩
    · -- the event dates no root, and leaves the dates and the current root
      rw [htimes, hroot]
      simp only [List.mem_append, List.mem_singleton]
      constructor
      · intro r
        rw [hknown]
        constructor
        · rintro ⟨e', he', h⟩
          exact ⟨e', .inl he', h⟩
        · rintro ⟨e', he' | rfl, timestamp, h⟩
          · exact ⟨e', he', timestamp, h⟩
          · simp [hdated] at h
      · rintro ⟨e', he' | rfl, h⟩
        · exact hcurrent ⟨e', he', h⟩
        · exact absurd hdated h

end IdentityRegistry

/-- The transaction's block has a time, which fits a word. -/
def NetworkTransaction.Timed (tx : NetworkTransaction) : Prop :=
  0 < tx.block.timestamp ∧ tx.block.timestamp < 2 ^ 256

/-- What a timed call announces is dated. -/
private theorem announces_timed {sender : Address} {tx : NetworkTransaction} (htx : tx.Timed)
    {call : IdentityRegistry.Call} {e : IdentityRegistry.Event}
    (h : Announces ⟨sender, tx.block.timestamp⟩ call e) {root timestamp : Word}
    (hdated : e.dated = some (root, timestamp)) : timestamp ≠ 0 := by
  have hnow : (Context.mk sender tx.block.timestamp).now ≠ 0 := by
    intro hzero
    have := congrArg BitVec.toNat hzero
    rw [Context.now, BitVec.toNat_ofNat, Nat.mod_eq_of_lt htx.2] at this
    exact absurd this (Nat.pos_iff_ne_zero.mp htx.1)
  cases h <;> simp only [Event.dated, Option.some.injEq, Prod.mk.injEq, reduceCtorEq] at hdated <;>
    exact hdated.2 ▸ hnow

/-- After a timed run, the log of every registry is timed. -/
private theorem run_timed (hl : inst.imt.Lawful) {txs : List NetworkTransaction}
    (htxs : ∀ tx ∈ txs, tx.Timed) (address : Address) :
    Timed (((Network.deploy inst).run inst txs).registries address).events := by
  unfold Network.run
  refine Run.run_invariant (A := NetworkTransaction.Timed)
    (I := fun n : Network Roles Owners Tree => Timed (n.registries address).events) ?_
    (fun _ h => absurd h List.not_mem_nil) htxs
  intro n tx n' htx hn h
  rcases Network.exec_log_cases hl h address with ⟨hsame, -⟩ | ⟨_, _, _, e, -, -, -, hlogged⟩
  · rwa [hsame]
  · rw [hlogged.events]
    intro e' he' root timestamp hdated
    -- an event is an earlier one, or that of the step, dated by its block
    rcases List.mem_append.mp he' with he' | he'
    · exact hn e' he' root timestamp hdated
    · rw [List.mem_singleton.mp he'] at hdated
      exact announces_timed htx hlogged.announces hdated

/-- The hub knows a root when the registry has dated it. -/
theorem rootKnown_iff {n : Network Roles Owners Tree} {d : DocumentType} {address : Address}
    {root : Word} : IdentityVerificationHub.RootKnown n.world.registries d address root ↔
      (n.registries address).rootTimestamps root ≠ 0 := by
  cases d <;> exact decide_eq_true_iff

/-- **The roots the hub accepts**: after every run, a root is known exactly when an event of the
registry has announced it; a root once known stays known, whatever is removed later; and the
root the tree has now is known as soon as one has been announced. -/
theorem known_roots (hl : inst.imt.Lawful) {txs : List NetworkTransaction}
    (htxs : ∀ tx ∈ txs, tx.Timed) (d : DocumentType) (address : Address) :
    let n := (Network.deploy inst).run inst txs
    (∀ root, IdentityVerificationHub.RootKnown n.world.registries d address root ↔
      ∃ e ∈ (n.registries address).events, ∃ timestamp, e.dated = some (root, timestamp)) ∧
    (∀ root later, (∀ tx ∈ later, NetworkTransaction.Timed tx) →
      IdentityVerificationHub.RootKnown n.world.registries d address root →
      IdentityVerificationHub.RootKnown (n.run inst later).world.registries d address root) ∧
    ((∃ e ∈ (n.registries address).events, e.dated ≠ none) →
      IdentityVerificationHub.RootKnown n.world.registries d address
        (inst.imt.root (n.registries address).identityCommitmentIMT)) := by
  intro n
  have hjournaled (txs : List NetworkTransaction) := Network.run_journaled hl txs address
  -- a root is known by its timestamp, which is never 0 under a clock past the epoch
  have hknown {txs : List NetworkTransaction} (htxs : ∀ tx ∈ txs, tx.Timed) (root : Word) :
      IdentityVerificationHub.RootKnown ((Network.deploy inst).run inst txs).world.registries d
        address root ↔
      ∃ e ∈ (((Network.deploy inst).run inst txs).registries address).events, ∃ timestamp,
        e.dated = some (root, timestamp) := by
    rw [rootKnown_iff, (hjournaled txs).represents.rootTimestamps]
    exact (announced_roots (run_timed hl htxs address)).1 root
  refine ⟨hknown htxs, ?_, ?_⟩
  · intro root later hlater hroot
    obtain ⟨e, he, timestamp, hdated⟩ := (hknown htxs root).mp hroot
    -- the event is still in the log
    have hrun : n.run inst later = (Network.deploy inst).run inst (txs ++ later) :=
      (Run.run_append ..).symm
    rw [hrun, hknown (List.forall_mem_append.mpr ⟨htxs, hlater⟩) root, ← hrun]
    exact ⟨e, (Network.run_events hl n later address).subset he, timestamp, hdated⟩
  · intro hevent
    -- the tree's root is the last one announced
    obtain ⟨root, hroot, hdate⟩ := (announced_roots (run_timed hl htxs address)).2 hevent
    rw [rootKnown_iff, (hjournaled txs).represents.rootTimestamps,
      (hjournaled txs).represents.commitmentRoot, hroot]
    exact hdate

/-- The root of the one passport registered is known, and stays known after it is removed. -/
theorem known_roots_liveHistory :
    let removal : NetworkTransaction := ⟨newYear, 3, .registry 21 (.devRemoveCommitment 5 [])⟩
    IdentityVerificationHub.RootKnown liveNetwork.world.registries .passport 21 5 ∧
      IdentityVerificationHub.RootKnown
        (liveNetwork.run plainInstallation [removal]).world.registries .passport 21 5 := by
  intro removal
  have htimed (sender : Address) (call : NetworkCall) :
      NetworkTransaction.Timed ⟨newYear, sender, call⟩ :=
    (by decide : 0 < newYear.timestamp ∧ newYear.timestamp < 2 ^ 256)
  have htxs : ∀ tx ∈ liveHistory, tx.Timed := by
    simp [liveHistory, setUp, dscRegistration, commitmentRegistration, networkOpening, htimed]
  obtain ⟨hknown, hstays, -⟩ := known_roots plainInstallation_lawful htxs .passport 21
  -- the registration in the run has announced the root 5 of its tree
  have hroot := (hknown 5).mpr
    ⟨.commitmentRegistered AttestationId.ePassport 6 5 946728000 5 0, by decide, 946728000, rfl⟩
  exact ⟨hroot, hstays 5 [removal] (List.forall_mem_singleton.mpr (htimed 3 _)) hroot⟩

end RuleSelf
