import RuleSelf.Contract.System

/-!
# Verified Calls

What a call of `verifySelfProof` has to carry to succeed, end to end: RuleSelf packs
the header and the context, the hub unpacks and checks them, and the callback
unpacks the output. All of the packing is undone here once, and the properties of
registrations are read off `Verified`.
-/

namespace RuleSelf

open Evm Abi Revert SelfStructs IdentityVerificationHub

variable {Roles : Type} {dep : Deployment Roles} {block : Block} {w : World Roles}
  {proofPayload userContextData : Bytes}

/-- The user identifier of a context: bytes 32..63. -/
def userIdentifierOf (userContextData : Bytes) : Word :=
  Word.ofBytes (slice userContextData 32 64)

/-- The call carries a proof over a document of type `d` that the hub accepts under the
config `c` RuleSelf asks for. -/
structure Verified (dep : Deployment Roles) (block : Block) (w : World Roles)
    (proofPayload userContextData : Bytes) (d : DocumentType) (c : VerificationConfigV2)
    (proof : VcAndDiscloseProof) : Prop where
  payload_length : 32 < proofPayload.length
  context_length : 64 ≤ userContextData.length
  attestationId : Word.ofBytes (slice proofPayload 0 32) = d.attestationId
  payload : VcAndDiscloseProof.codec.read (proofPayload.drop 32) = some proof
  config : generateConfigId dep.oracles c = w.ruleSelf.configId
  accepts : Accepts dep.oracles w.registries block w.hub d w.ruleSelf.scope c proof
    userContextData
  chain : Word.ofBytes (slice userContextData 0 32) = block.chainid

/-! ## The header -/

/-- The hub decodes the header RuleSelf packs. -/
private theorem decodeInput_eq_ok (s : Storage Roles) {r : HubInputHeader × Bytes} :
    decodeInput (baseVerificationInput s proofPayload) = .ok r ↔
      32 < proofPayload.length ∧
        r = (⟨contractVersion, s.scope, Word.ofBytes (slice proofPayload 0 32)⟩,
          proofPayload.drop 32) := by
  -- the input as 32 bytes, then the scope, then the attestation id, then the proof
  have hsplit : baseVerificationInput s proofPayload =
      (contractVersion :: List.replicate 31 0) ++ (Word.toBytes s.scope ++
        (Word.toBytes (Word.ofBytes (slice proofPayload 0 32)) ++ proofPayload.drop 32)) := by
    simp [baseVerificationInput]
  have hfront : (contractVersion :: List.replicate 31 (0 : UInt8)).length = 32 := by simp
  have hscope : slice (baseVerificationInput s proofPayload) 32 64 = Word.toBytes s.scope := by
    rw [hsplit]
    exact slice_part hfront (by rw [Word.toBytes_length])
  have hattestation : slice (baseVerificationInput s proofPayload) 64 96 =
      Word.toBytes (Word.ofBytes (slice proofPayload 0 32)) := by
    rw [hsplit, ← List.append_assoc]
    exact slice_part (by simp) (by rw [Word.toBytes_length])
  have hproof : (baseVerificationInput s proofPayload).drop 96 = proofPayload.drop 32 := by
    rw [hsplit, ← List.append_assoc, ← List.append_assoc]
    exact List.drop_left' (by simp)
  have hlen : (baseVerificationInput s proofPayload).length = 96 + (proofPayload.length - 32) := by
    rw [hsplit]
    simp only [List.length_append, hfront, Word.toBytes_length, List.length_drop]
    omega
  have hversion : (baseVerificationInput s proofPayload).headD 0 = contractVersion := by
    rw [hsplit]
    rfl
  -- the length check leaves at least one byte of proof
  unfold decodeInput
  rw [check_bind_eq_ok, revertIf_eq_ok, pure_eq_ok, hlen, hscope, hattestation, hproof, hversion,
    Word.ofBytes_toBytes, Word.ofBytes_toBytes]
  constructor
  · rintro ⟨hle, rfl⟩
    exact ⟨by omega, rfl⟩
  · rintro ⟨hlt, rfl⟩
    exact ⟨by omega, rfl⟩

/-! ## The context -/

/-- The context RuleSelf sends: its config id in front of the user's context. -/
private theorem slice_context (configId : Word) (context : Bytes) (start stop : ℕ) :
    slice (Word.toBytes configId ++ context) (32 + start) (32 + stop) =
      slice context start stop :=
  slice_append (Word.toBytes_length configId) start stop

private theorem slice_configId (configId : Word) (context : Bytes) :
    slice (Word.toBytes configId ++ context) 0 32 = Word.toBytes configId :=
  slice_prefix (Word.toBytes_length configId)

private theorem drop_context (configId : Word) (context : Bytes) :
    (Word.toBytes configId ++ context).drop 32 = context :=
  List.drop_left' (Word.toBytes_length configId)

/-! ## The call -/

/-- The callback the hub makes for a verified call registers the user identifier of the
context with the nullifier of the proof. -/
private theorem callback_eq_ok {out : SelfStructs.GenericDiscloseOutputV2} (hshort : out.Short)
    (userData : Bytes) {s s' : Storage Roles} :
    onVerificationSuccess dep.hub dep.hub (formatVerificationOutput contractVersion out) userData
      s = .ok s' ↔ CanRegister s out.userIdentifier out.nullifier ∧
        s' = register out.userIdentifier out.nullifier s := by
  have hread := ISelfVerificationRoot.GenericDiscloseOutputV2.read_encode out hshort
  have hformat : formatVerificationOutput contractVersion out =
      SelfStructs.GenericDiscloseOutputV2.codec.encode out := if_pos rfl
  rw [onVerificationSuccess_eq_ok, hformat]
  constructor
  · rintro ⟨-, out', hout', h⟩
    rw [hread] at hout'
    -- what is read back is the output that was written
    cases hout'
    exact h
  · intro h
    exact ⟨rfl, _, hread, h⟩

/-- **What a successful `verifySelfProof` is**: a verified call whose user identifier and
nullifier can be registered, and are. -/
theorem verifySelfProof_iff {s' : Storage Roles} :
    verifySelfProof (w.hubVerify dep block) dep.hub proofPayload userContextData w.ruleSelf =
      .ok s' ↔
      ∃ d c proof, Verified dep block w proofPayload userContextData d c proof ∧
        CanRegister w.ruleSelf (userIdentifierOf userContextData)
          (d.nullifier proof.pubSignals) ∧
        s' = register (userIdentifierOf userContextData) (d.nullifier proof.pubSignals)
          w.ruleSelf := by
  rw [verifySelfProof_eq_ok]
  unfold World.hubVerify
  constructor
  · rintro ⟨-, hcontext, callback, hverify, hcallback⟩
    obtain ⟨header, proofData, output, dest, rest, hinput, hflow, hchain, rfl⟩ :=
      verify_eq_ok.mp hverify
    obtain ⟨hpayload, hheader⟩ := (decodeInput_eq_ok w.ruleSelf).mp hinput
    cases hheader
    obtain ⟨d, c, proof, out, hd, hproof, -, hconfig, haccepts, hdest, -, houtput, huser,
      hnullifier, hshort⟩ := executeVerificationFlow_eq_ok hflow
    -- undo the packing of the context, part by part
    rw [slice_configId, Word.ofBytes_toBytes] at hconfig
    rw [drop_context] at haccepts
    rw [slice_context w.ruleSelf.configId userContextData 0 32] at hdest
    rw [slice_context w.ruleSelf.configId userContextData 32 64] at huser
    subst houtput
    rw [callback_eq_ok hshort, huser, hnullifier] at hcallback
    refine ⟨d, c, proof, ?_, hcallback⟩
    exact {
      payload_length := hpayload
      context_length := hcontext
      attestationId := hd
      payload := hproof
      config := hconfig.symm
      accepts := haccepts
      chain := hdest.symm.trans hchain }
  · rintro ⟨d, c, proof, hverified, hcan⟩
    -- pack the context and the input, and run the hub on them
    have hlen : 96 ≤ (Word.toBytes w.ruleSelf.configId ++ userContextData).length := by
      have := hverified.context_length
      rw [List.length_append, Word.toBytes_length]
      omega
    have hconfig : Word.ofBytes (slice (Word.toBytes w.ruleSelf.configId ++ userContextData) 0 32) =
        generateConfigId dep.oracles c := by
      rw [slice_configId, Word.ofBytes_toBytes, hverified.config]
    have haccepts := hverified.accepts
    rw [← drop_context w.ruleSelf.configId userContextData] at haccepts
    obtain ⟨out, hflow, huser, hnullifier, hshort⟩ :=
      executeVerificationFlow_succeeds contractVersion hverified.payload hlen hconfig haccepts
    rw [slice_context w.ruleSelf.configId userContextData 32 64] at huser
    rw [slice_context w.ruleSelf.configId userContextData 0 32, ← hverified.attestationId] at hflow
    have hinput := (decodeInput_eq_ok w.ruleSelf).mpr ⟨hverified.payload_length, rfl⟩
    have hverify := verify_eq_ok.mpr
      ⟨_, _, _, _, _, hinput, hflow, hverified.chain, rfl⟩
    refine ⟨hverified.payload_length.le, hverified.context_length, _, hverify, ?_⟩
    rw [callback_eq_ok hshort, huser, hnullifier]
    exact hcan

end RuleSelf
