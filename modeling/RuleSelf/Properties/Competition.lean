import RuleSelf.Contract.Completeness
import RuleSelf.Properties.Registry

/-!
# Competing Registrations

What becomes of the outputs the hub delivers to RuleSelf while registration is open. Each is a
pair offered to the matching behind the maps, so that the pairs accepted extend it to a maximal
matching, and outputs that share no component are accepted in any order.
-/

namespace RuleSelf

open Evm Revert IdentityVerificationHub

variable {Roles : Type} {dep : Deployment Roles} {w w' : World Roles} {tx : Transaction}
  {txs : List Transaction} {p : Word × Word}

/-! ## Deliveries -/

/-- The callback that a transaction makes the hub send to RuleSelf, accepted or not. -/
def callbackOf (dep : Deployment Roles) (w : World Roles) (tx : Transaction) : Option Callback :=
  match tx.call with
  | .onVerificationSuccess output userData =>
    if tx.sender = dep.hub then some ⟨output, userData⟩ else none
  | .verifySelfProof proofPayload userContextData =>
    if 32 ≤ proofPayload.length ∧ 64 ≤ userContextData.length then
      (w.hubVerify dep tx.block (baseVerificationInput w.ruleSelf proofPayload)
        (Word.toBytes w.ruleSelf.configId ++ userContextData)).toOption
    else none
  | .verify baseVerificationInput userContextData =>
    if tx.sender = dep.ruleSelf then
      (w.hubVerify dep tx.block baseVerificationInput userContextData).toOption
    else none
  | _ => none

/-- The nullifier and the user identifier of the output that the hub delivers. -/
def delivery (dep : Deployment Roles) (w : World Roles) (tx : Transaction) :
    Option (Word × Word) := do
  let callback ← callbackOf dep w tx
  let output ← ISelfVerificationRoot.GenericDiscloseOutputV2.codec.read callback.output
  return (output.nullifier, output.userIdentifier)

/-- The pairs delivered in the course of a run. -/
def deliveries (dep : Deployment Roles) (w : World Roles) (txs : List Transaction) :
    List (Word × Word) :=
  Run.labels (World.exec dep) (delivery dep) w txs

/-- The pairs delivered by the transactions that commit. -/
def accepted (dep : Deployment Roles) (w : World Roles) (txs : List Transaction) :
    List (Word × Word) :=
  Run.committedLabels (World.exec dep) (delivery dep) w txs

private theorem toOption_eq_some {ε α : Type} {x : Except ε α} {a : α} :
    x.toOption = some a ↔ x = .ok a := by
  cases x <;> simp [Except.toOption]

/-- A transaction that leads to a callback is that callback. -/
theorem exec_of_callback {callback : Callback} (h : callbackOf dep w tx = some callback) :
    w.exec dep tx = .ok w' ↔
      w.onRuleSelf (onVerificationSuccess dep.hub dep.hub callback.output callback.userData
        w.ruleSelf) = .ok w' := by
  obtain ⟨block, sender, call⟩ := tx
  unfold callbackOf at h
  cases call with
  | onVerificationSuccess output userData =>
    dsimp only at h
    split at h
    · rename_i hsender
      cases h
      cases hsender
      exact Iff.rfl
    · simp at h
  | verifySelfProof proofPayload userContextData =>
    dsimp only at h
    split at h
    · rename_i hlen
      -- the hub verifies the proof in the same transaction, then calls back
      have hverify := toOption_eq_some.mp h
      change w.onRuleSelf _ = .ok w' ↔ _
      simp only [World.onRuleSelf_eq_ok, verifySelfProof_eq_ok, hlen.1, hlen.2, hverify,
        true_and, Except.ok.injEq, exists_eq_left']
    · simp at h
  | verify baseVerificationInput userContextData =>
    dsimp only at h
    split at h
    · -- the hub calls its caller back, which is RuleSelf here
      rename_i hsender
      have hverify := toOption_eq_some.mp h
      unfold World.exec
      dsimp only
      rw [hverify, ok_bind, if_pos hsender]
    · simp at h
  | setScope | openRegistration | closeRegistration | setConfigId | grantRole | revokeRole
  | renounceRole | setVerificationConfigV2 | environment => simp at h

/-- A transaction that leads to no callback registers nobody. -/
theorem exec_of_no_callback (h : callbackOf dep w tx = none) (hexec : w.exec dep tx = .ok w') :
    Maintenance w.ruleSelf w'.ruleSelf := by
  rcases World.exec_cases hexec with hmaintain | ⟨P, C, s', hcall, hs, -⟩ | ⟨hext, -⟩
  · exact hmaintain
  · -- a proof that was verified has sent a callback
    obtain ⟨hP, hC, callback, hverify, -⟩ := verifySelfProof_eq_ok.mp hs
    simp [callbackOf, hcall, hP, hC, hverify, Except.toOption] at h
  · -- the hub has sent a callback
    obtain ⟨block, sender, call⟩ := tx
    unfold callbackOf at h
    cases call with
    | onVerificationSuccess output userData =>
      have hsender : sender = dep.hub := not_not.mp hext
      simp [hsender] at h
    | verify baseVerificationInput userContextData =>
      have hsender : sender = dep.ruleSelf := not_not.mp hext
      unfold World.exec at hexec
      rw [bind_eq_ok] at hexec
      obtain ⟨callback, hverify, -⟩ := hexec
      simp [hsender, hverify, Except.toOption] at h
    | setScope | openRegistration | closeRegistration | setConfigId | grantRole | revokeRole
    | renounceRole | verifySelfProof | setVerificationConfigV2 | environment =>
      exact absurd trivial hext

/-- **A delivery** commits exactly if the pair can be registered, and registers it. -/
theorem exec_of_delivery (h : delivery dep w tx = some p) :
    w.exec dep tx = .ok w' ↔ CanRegister w.ruleSelf p.2 p.1 ∧ w' = w.register p.2 p.1 := by
  simp only [delivery, Option.bind_eq_bind, Option.bind_eq_some_iff, Option.pure_def,
    Option.some.injEq] at h
  obtain ⟨callback, hcallback, output, hread, rfl⟩ := h
  rw [exec_of_callback hcallback]
  simp only [World.onRuleSelf_eq_ok, onVerificationSuccess_eq_ok, hread, true_and,
    Option.some.injEq, exists_eq_left']
  -- the callback reads the output that was delivered, and registers its pair or reverts
  constructor
  · intro ⟨s', ⟨hcan, hs'⟩, hw'⟩
    exact ⟨hcan, by rw [← hw', hs']; rfl⟩
  · intro ⟨hcan, hw'⟩
    exact ⟨_, ⟨hcan, rfl⟩, hw'.symm⟩

/-- Any other transaction registers nobody. -/
theorem exec_of_no_delivery (h : delivery dep w tx = none) (hexec : w.exec dep tx = .ok w') :
    Maintenance w.ruleSelf w'.ruleSelf := by
  cases hcallback : callbackOf dep w tx with
  | none => exact exec_of_no_callback hcallback hexec
  | some callback =>
    -- a callback with an output that cannot be decoded reverts
    rw [exec_of_callback hcallback, World.onRuleSelf_eq_ok] at hexec
    obtain ⟨s', hs', -⟩ := hexec
    obtain ⟨-, output, hread, -⟩ := onVerificationSuccess_eq_ok.mp hs'
    simp [delivery, hcallback, hread] at h

/-! ## Any pairs can be delivered -/

/-- An output that names a pair. -/
def outputOf (p : Word × Word) : SelfStructs.GenericDiscloseOutputV2 where
  attestationId := AttestationId.ePassport
  userIdentifier := p.2
  nullifier := p.1
  forbiddenCountriesListPacked _ := 0
  issuingState := []
  name := [[], []]
  idNumber := []
  nationality := []
  dateOfBirth := []
  gender := []
  expiryDate := []
  olderThan := 0
  ofac _ := false

theorem outputOf_short (p : Word × Word) : (outputOf p).Short := by
  constructor <;> simp [outputOf]

/-- The hub delivers an output that names the pair. -/
def deliver (dep : Deployment Roles) (p : Word × Word) : Transaction :=
  ⟨newYear, dep.hub, .onVerificationSuccess
    (SelfStructs.GenericDiscloseOutputV2.codec.encode (outputOf p)) []⟩

@[simp] theorem delivery_deliver : delivery dep w (deliver dep p) = some p := by
  have hread := ISelfVerificationRoot.GenericDiscloseOutputV2.read_encode _ (outputOf_short p)
  simp only [delivery, deliver, callbackOf, if_true, Option.bind_eq_bind, Option.bind_some, hread,
    Option.pure_def]
  rfl

/-- Every list of pairs can be delivered, one after the other. -/
theorem deliveries_deliver (dep : Deployment Roles) (w : World Roles) (L : List (Word × Word)) :
    deliveries dep w (L.map (deliver dep)) = L := by
  unfold deliveries
  induction L generalizing w with
  | nil => rfl
  | cons p L ih => simp [ih]

/-! ## Registration stays open -/

/-- No transaction closes registration. -/
def KeepsOpen (txs : List Transaction) : Prop := ∀ tx ∈ txs, tx.call ≠ .closeRegistration

theorem exec_keeps_open (hcall : tx.call ≠ .closeRegistration)
    (hopen : w.ruleSelf.isRegistrationOpen = true) (h : w.exec dep tx = .ok w') :
    w'.ruleSelf.isRegistrationOpen = true := by
  cases hadmin : tx.call.isAdministrative with
  | true =>
    have hadministers := World.exec_administers hadmin h
    generalize tx.call = call at hadministers hcall
    generalize w'.ruleSelf = s' at hadministers ⊢
    -- of the seven functions only one closes the registration
    cases hadministers with
    | openRegistration => rfl
    | closeRegistration => exact absurd rfl hcall
    | setScope | setConfigId | grantRole | revokeRole | renounceRole => exact hopen
  | false =>
    rcases World.exec_registering hadmin h with hsame | ⟨u, n, -, hregister⟩
    · rwa [hsame]
    · rwa [hregister]

theorem run_keeps_open (hkeeps : KeepsOpen txs) (hopen : w.ruleSelf.isRegistrationOpen = true) :
    (w.run dep txs).ruleSelf.isRegistrationOpen = true := by
  refine Run.run_invariant (A := fun tx : Transaction => tx.call ≠ .closeRegistration)
    (I := fun w : World Roles => w.ruleSelf.isRegistrationOpen = true) ?_ hopen hkeeps
  intro w tx w' hcall hopen hexec
  exact exec_keeps_open hcall hopen hexec

/-! ## Deliveries are offers -/

/-- A pair with an identifier can be registered, if it is free. -/
def Admissible (p : Word × Word) : Prop := p.2 ≠ 0

/-- A delivered pair that is refused is not free, or has no identifier. -/
theorem refused_of_error {M : Matching Word Word} (hM : Represents M w.ruleSelf)
    (hopen : w.ruleSelf.isRegistrationOpen = true) (hdelivery : delivery dep w tx = some p)
    {e : Error} (hexec : w.exec dep tx = .error e) : ¬ (Admissible p ∧ M.Free p) := by
  intro h
  have hcan := (hM.canRegister_iff hopen).mpr h
  have hok := (exec_of_delivery hdelivery).mpr ⟨hcan, rfl⟩
  simp [hexec] at hok

/-- **One step**: what a transaction delivers is offered to the matching behind the maps, and
the transaction commits if the matching takes it. -/
theorem step_offers (dep : Deployment Roles) (tx : Transaction) {M : Matching Word Word}
    (hM : Represents M w.ruleSelf) (hopen : w.ruleSelf.isRegistrationOpen = true) :
    Represents (Matching.offers Admissible M (delivery dep w tx).toList)
        (Run.step (World.exec dep) w tx).ruleSelf ∧
      accepted dep w [tx] = Matching.taken Admissible M (delivery dep w tx).toList := by
  unfold accepted
  cases hexec : w.exec dep tx with
  | error e =>
    rw [Run.step_of_error hexec, Run.committedLabels_of_error hexec]
    cases hdelivery : delivery dep w tx with
    | none => exact ⟨hM, rfl⟩
    | some p =>
      -- a delivered pair that reverts is refused by the matching too
      have hrefused := refused_of_error hM hopen hdelivery hexec
      simpa [Matching.offer_of_refused hrefused, Matching.taken_cons, hrefused] using hM
  | ok w' =>
    rw [Run.step_of_ok hexec, Run.committedLabels_of_ok hexec]
    cases hdelivery : delivery dep w tx with
    | none => exact ⟨hM.maintenance (exec_of_no_delivery hdelivery hexec), rfl⟩
    | some p =>
      -- a delivered pair that commits is admissible and free, so the matching takes it
      obtain ⟨hcan, rfl⟩ := (exec_of_delivery hdelivery).mp hexec
      have htaken : Admissible p ∧ M.Free p := (hM.canRegister_iff hopen).mp hcan
      simpa [Matching.offer_of_free htaken.1 htaken.2, Matching.taken_cons, htaken] using
        hM.register hcan

/-- **Refinement**: a run that keeps registration open offers what it delivers to the matching
behind the maps, and accepts what the matching takes. -/
theorem run_offers (dep : Deployment Roles) {M : Matching Word Word} (hM : Represents M w.ruleSelf)
    (hopen : w.ruleSelf.isRegistrationOpen = true) (hkeeps : KeepsOpen txs) :
    Represents (Matching.offers Admissible M (deliveries dep w txs)) (w.run dep txs).ruleSelf ∧
      accepted dep w txs = Matching.taken Admissible M (deliveries dep w txs) := by
  induction txs generalizing w M with
  | nil => exact ⟨hM, rfl⟩
  | cons tx txs ih =>
    obtain ⟨hstep, haccepted⟩ := step_offers dep tx hM hopen
    -- the first transaction is one step, and leaves the registration open for the rest
    have hopen' : (Run.step (World.exec dep) w tx).ruleSelf.isRegistrationOpen = true :=
      Run.step_preserves (I := fun w : World Roles => w.ruleSelf.isRegistrationOpen = true) hopen
        fun w' hexec => exec_keeps_open (hkeeps tx List.mem_cons_self) hopen hexec
    obtain ⟨hrest, haccepted'⟩ :=
      ih hstep hopen' fun tx' h => hkeeps tx' (List.mem_cons_of_mem tx h)
    have hdeliveries : deliveries dep w (tx :: txs) = (delivery dep w tx).toList ++
        deliveries dep (Run.step (World.exec dep) w tx) txs := rfl
    have hcons : accepted dep w (tx :: txs) = accepted dep w [tx] ++
        accepted dep (Run.step (World.exec dep) w tx) txs := Run.committedLabels_cons w tx txs
    rw [hdeliveries, Matching.offers_append, Matching.taken_append, hcons, haccepted, haccepted']
    exact ⟨hrest, rfl⟩

/-! ## The maps -/

/-- The storage holds the pair. -/
def Holds (s : Storage Roles) (p : Word × Word) : Prop :=
  s.nullifierToUserIdentifier p.1 = p.2 ∧ p.2 ≠ 0

/-- The two maps are the same. -/
structure SameRegistry (s s' : Storage Roles) : Prop where
  nullifiers : s.nullifierToUserIdentifier = s'.nullifierToUserIdentifier
  identifiers : s.registeredUserIdentifiers = s'.registeredUserIdentifiers

section Represents

variable {M : Matching Word Word} {s s' : Storage Roles}

theorem Represents.mem_iff (hM : Represents M s) : p ∈ M.pairs ↔ Holds s p := hM.graph p.1 p.2

/-- Two storages that hold the same pairs hold the same nullifiers. -/
private theorem nullifier_eq_of_holds {n : Word} (h : ∀ p, Holds s p → Holds s' p)
    (hne : s.nullifierToUserIdentifier n ≠ 0) :
    s.nullifierToUserIdentifier n = s'.nullifierToUserIdentifier n :=
  (h (n, _) ⟨rfl, hne⟩).1.symm

/-- The matching determines the maps. -/
theorem Represents.sameRegistry (hM : Represents M s) (hM' : Represents M s') :
    SameRegistry s s' := by
  constructor
  · funext n
    -- a nullifier that holds something in one state holds the same in the other
    by_cases hn : s.nullifierToUserIdentifier n = 0
    · by_cases hn' : s'.nullifierToUserIdentifier n = 0
      · rw [hn, hn']
      · exact (nullifier_eq_of_holds (fun p h => hM.mem_iff.mp (hM'.mem_iff.mpr h)) hn').symm
    · exact nullifier_eq_of_holds (fun p h => hM'.mem_iff.mp (hM.mem_iff.mpr h)) hn
  · funext u
    rw [Bool.eq_iff_iff, hM.registered, hM'.registered]

end Represents

/-! ## Competition -/

/-- The pairs accepted in a run extend the pairs held before it to a maximal matching: they use
each nullifier and each identifier once, and every pair with an identifier that is refused shares
a component with one of them. -/
structure MaximalMatching (dep : Deployment Roles) (w : World Roles)
    (txs : List Transaction) : Prop where
  held_after : ∀ p, Holds (w.run dep txs).ruleSelf p ↔
    Holds w.ruleSelf p ∨ p ∈ accepted dep w txs
  held_apart : ∀ p q, Holds w.ruleSelf p → Holds w.ruleSelf q → p ≠ q → Matching.Apart p q
  accepted_apart : (accepted dep w txs).Pairwise Matching.Apart
  accepted_free : ∀ p ∈ accepted dep w txs, ∀ q, Holds w.ruleSelf q → Matching.Apart q p
  maximal : ∀ before tx since p e, txs = before ++ tx :: since →
    delivery dep (w.run dep before) tx = some p →
    (w.run dep before).exec dep tx = .error e → p.2 ≠ 0 →
      ∃ q, (Holds w.ruleSelf q ∨ q ∈ accepted dep w before) ∧ (q.1 = p.1 ∨ q.2 = p.2)

/-- The pairs do not compete: they have identifiers, and share no component with each other or
with a pair held. -/
structure NoCompetition (s : Storage Roles) (L : List (Word × Word)) : Prop where
  apart : L.Pairwise Matching.Apart
  nonzero : ∀ p ∈ L, p.2 ≠ 0
  free : ∀ p ∈ L, ∀ q, Holds s q → Matching.Apart q p

/-- The order of deliveries does not matter, as far as they do not compete. -/
structure OrderIndependent (dep : Deployment Roles) (w : World Roles) : Prop where
  all_accepted : ∀ txs, KeepsOpen txs → NoCompetition w.ruleSelf (deliveries dep w txs) →
    accepted dep w txs = deliveries dep w txs
  permuted : ∀ txs txs', KeepsOpen txs → KeepsOpen txs' →
    NoCompetition w.ruleSelf (deliveries dep w txs) →
    (deliveries dep w txs).Perm (deliveries dep w txs') →
      SameRegistry (w.run dep txs).ruleSelf (w.run dep txs').ruleSelf
  swapped : ∀ txs txs' L p q L', KeepsOpen txs → KeepsOpen txs' → Matching.Apart p q →
    deliveries dep w txs = L ++ p :: q :: L' → deliveries dep w txs' = L ++ q :: p :: L' →
      SameRegistry (w.run dep txs).ruleSelf (w.run dep txs').ruleSelf ∧
        (accepted dep w txs).Perm (accepted dep w txs')

section Open

variable {M : Matching Word Word} (hM : Represents M w.ruleSelf)
  (hopen : w.ruleSelf.isRegistrationOpen = true)

include hM hopen

/-- A run that keeps registration open extends the matching to a maximal one. -/
theorem maximalMatching (hkeeps : KeepsOpen txs) : MaximalMatching dep w txs := by
  obtain ⟨hrun, haccepted⟩ := run_offers dep hM hopen hkeeps
  constructor
  · intro p
    rw [← hrun.mem_iff, Matching.mem_offers, hM.mem_iff, haccepted]
  · intro p q hp hq hne
    exact Matching.apart_of_mem (hM.mem_iff.mpr hp) (hM.mem_iff.mpr hq) hne
  · rw [haccepted]
    exact Matching.pairwise_apart_taken
  · intro p hp q hq
    -- what was taken is apart from everything the matching had
    rw [haccepted] at hp
    exact Matching.free_of_mem_taken hp q (hM.mem_iff.mpr hq)
  · intro before tx since p e hsplit hdelivery hexec hne
    have hbefore : KeepsOpen before := fun tx' h => hkeeps tx' (by simp [hsplit, h])
    obtain ⟨hrun, haccepted⟩ := run_offers dep hM hopen hbefore
    have hrefused := refused_of_error hrun (run_keeps_open hbefore hopen) hdelivery hexec
    -- the pair is refused though its identifier is not 0, so that it is not free
    have hfree : ¬ (Matching.offers Admissible M (deliveries dep w before)).Free p :=
      fun hfree => hrefused ⟨hne, hfree⟩
    obtain ⟨q, hq, hshared⟩ := Matching.exists_not_apart_of_not_free hfree
    rw [hM.mem_iff, ← haccepted] at hq
    refine ⟨q, hq, ?_⟩
    unfold Matching.Apart at hshared
    tauto

/-- The order of deliveries that do not compete does not matter. -/
theorem orderIndependent : OrderIndependent dep w where
  all_accepted txs hkeeps h := by
    rw [(run_offers dep hM hopen hkeeps).2]
    refine Matching.taken_eq_self h.apart fun p hp => ⟨h.nonzero p hp, fun q hq => ?_⟩
    exact h.free p hp q (hM.mem_iff.mp hq)
  permuted txs txs' hkeeps hkeeps' h hperm := by
    -- the run is the matching its deliveries lead to, whatever their order
    have hrun := (run_offers dep hM hopen hkeeps).1
    rw [Matching.offers_perm hperm h.apart] at hrun
    exact hrun.sameRegistry (run_offers dep hM hopen hkeeps').1
  swapped txs txs' L p q L' hkeeps hkeeps' h hL hL' := by
    obtain ⟨hrun, haccepted⟩ := run_offers dep hM hopen hkeeps
    obtain ⟨hrun', haccepted'⟩ := run_offers dep hM hopen hkeeps'
    rw [hL] at hrun haccepted
    rw [hL'] at hrun' haccepted'
    rw [Matching.offers_swap h] at hrun
    rw [haccepted, haccepted']
    exact ⟨hrun.sameRegistry hrun', Matching.taken_swap h L'⟩

end Open

/-- **Competing registrations**: from every reachable state with registration open, every list of
pairs can be delivered. While nobody closes registration, the pairs accepted extend those held to
a maximal matching, and the order of pairs that do not compete does not matter. -/
theorem competing_registrations (dep : Deployment Roles) (hub : IdentityVerificationHub.Storage)
    (registries : Registries) (w : World Roles)
    (hreach : Run.Reaches (World.exec dep) (fun _ => True) (World.deploy dep hub registries) w)
    (hopen : w.ruleSelf.isRegistrationOpen = true) :
    (∀ L, ∃ txs, KeepsOpen txs ∧ deliveries dep w txs = L) ∧
    (∀ txs, KeepsOpen txs → MaximalMatching dep w txs) ∧
    OrderIndependent dep w := by
  obtain ⟨before, -, rfl⟩ := hreach
  obtain ⟨hempty, hlog⟩ := represents_deploy dep.access dep.deployer dep.configId dep.scope
  obtain ⟨⟨M, hM⟩, -⟩ :=
    World.run_represents dep (w := World.deploy dep hub registries) ⟨_, hempty⟩ hlog before
  -- every list of pairs is delivered by a run, one callback of the hub for each
  refine ⟨fun L => ⟨L.map (deliver dep), ?_, deliveries_deliver dep _ L⟩,
    fun txs hkeeps => maximalMatching hM hopen hkeeps, orderIndependent hM hopen⟩
  intro tx htx
  obtain ⟨p, -, rfl⟩ := List.mem_map.mp htx
  simp [deliver]

/-- Two blank passports compete for nullifier 1. -/
theorem competing_blank_registrations :
    plainWorld.ruleSelf.isRegistrationOpen = true ∧
    MaximalMatching plainDeployment plainWorld [blankRegistration 1 5, blankRegistration 1 6] := by
  have hopen : plainWorld.ruleSelf.isRegistrationOpen = true := rfl
  have hreach : Run.Reaches (World.exec plainDeployment) (fun _ => True)
      (World.deploy plainDeployment plainHub (openRegistries 0 0 0)) plainWorld :=
    ⟨[opening], fun _ _ => trivial, rfl⟩
  refine ⟨hopen, (competing_registrations _ _ _ plainWorld hreach hopen).2.1 _ ?_⟩
  simp [KeepsOpen, blankRegistration, blankCall]

end RuleSelf
