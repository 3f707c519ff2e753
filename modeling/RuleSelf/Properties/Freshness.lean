import RuleSelf.Properties.Provenance
import RuleSelf.Self.CurrentDate

/-!
# Freshness

A proof is registered on the day it was made for, and on no other: the six digits it carries
are the Gregorian date of the day of the block, in Universal Time.
-/

namespace RuleSelf

open Evm SelfStructs IdentityVerificationHub

variable {Roles : Type} {dep : Deployment Roles} {w w' : World Roles} {tx : Transaction}
  {d : DocumentType} {proof : VcAndDiscloseProof}

/-- The transaction submits a proof over a document of type `d`. -/
def Transaction.SubmitsProof (tx : Transaction) (d : DocumentType) (proof : VcAndDiscloseProof) :
    Prop :=
  ∃ proofPayload userContextData, tx.call = .verifySelfProof proofPayload userContextData ∧
    Word.ofBytes (slice proofPayload 0 32) = d.attestationId ∧
    VcAndDiscloseProof.codec.read (proofPayload.drop 32) = some proof

/-- The day of a block, counted from 1 January 1970. -/
def Block.dayNumber (block : Block) : ℕ := block.timestamp / Formatter.day

/-- The proof was made for the day of the block. -/
def MadeFor (d : DocumentType) (proof : VcAndDiscloseProof) (block : Block) : Prop :=
  WritesDay (d.currentDate proof.pubSignals) block.dayNumber

/-- A proof that commits was made for the day of its block. -/
theorem madeFor_of_exec (hsubmits : tx.SubmitsProof d proof) (h : w.exec dep tx = .ok w') :
    Formatter.day ≤ tx.block.timestamp ∧ MadeFor d proof tx.block := by
  obtain ⟨P, C, hcall, hheader, hpayload⟩ := hsubmits
  obtain ⟨c, hregisters⟩ := registers_of_exec hcall hheader hpayload h
  exact dateInRange_iff.mp hregisters.verified.accepts.date_in_range

/-- All registrations from a proof are in blocks of one day. -/
theorem exists_day (d : DocumentType) (proof : VcAndDiscloseProof) :
    ∃ n, ∀ block : Block, MadeFor d proof block → block.dayNumber = n := by
  by_cases hany : ∃ n, WritesDay (d.currentDate proof.pubSignals) n
  · obtain ⟨n, hn⟩ := hany
    exact ⟨n, fun block hblock => hblock.unique hn⟩
  · exact ⟨0, fun block hblock => absurd ⟨_, hblock⟩ hany⟩

/-- **Registrations are fresh**: from the second day on, the date check passes exactly when the
six signals are digits and write the date of the block; a proof that was not made for the day of
the block reverts; and for every proof there is one day such that in every run the proof is
registered in blocks of that day only. -/
theorem registrations_fresh :
    (∀ (block : Block) (d : DocumentType) (proof : VcAndDiscloseProof),
      Formatter.day ≤ block.timestamp →
      (performCurrentDateCheck block proof d.indices = .ok () ↔ MadeFor d proof block)) ∧
    (∀ (Roles : Type) (dep : Deployment Roles) (w : World Roles) (tx : Transaction)
      (d : DocumentType) (proof : VcAndDiscloseProof), tx.SubmitsProof d proof →
      ¬ (Formatter.day ≤ tx.block.timestamp ∧ MadeFor d proof tx.block) →
      ∃ e, w.exec dep tx = .error e) ∧
    ∀ (d : DocumentType) (proof : VcAndDiscloseProof), ∃ n,
      ∀ (Roles : Type) (dep : Deployment Roles) (hub : IdentityVerificationHub.Storage)
        (registries : Registries) (txs : List Transaction) (t t' : World Roles) (tx : Transaction),
        Run.StepOf (World.exec dep) (World.deploy dep hub registries) txs t tx →
        tx.SubmitsProof d proof → t.exec dep tx = .ok t' → tx.block.dayNumber = n := by
  refine ⟨fun block d proof hday => ?_, fun Roles dep w tx d proof hsubmits hnot => ?_,
    fun d proof => ?_⟩
  · rw [performCurrentDateCheck_eq_ok, dateInRange_iff]
    exact and_iff_right hday
  · -- a submission that commits was made for the day of its block
    cases hexec : w.exec dep tx with
    | error e => exact ⟨e, rfl⟩
    | ok w' => exact absurd (madeFor_of_exec hsubmits hexec) hnot
  · obtain ⟨n, hn⟩ := exists_day d proof
    refine ⟨n, fun Roles dep hub registries txs t t' tx _ hsubmits hexec => ?_⟩
    exact hn tx.block (madeFor_of_exec hsubmits hexec).2

end RuleSelf
