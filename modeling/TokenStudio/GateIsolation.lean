import TokenStudio.BalanceGate.Core
import TokenStudio.ProofgateGovernance.Votes

/-!
# A proof for one gate says nothing at another gate

An accepted journal carries the hash of the gate's whole context, and the hash of
a context determines the context.  So two gates that differ in any field never
accept the same presentation, and two on-chain gates never accept the same
journal.

For the governance service the gates come from the proposals.  `validate_binding`
wants the gate id `proposal:` followed by the proposal id, so that two proposals
have different contexts (`validateBinding_inj`), and a run of the service accepts
only journals with the context hash it started with.
-/

namespace TokenStudio

/-! ## Proposals -/

/-- A gate is bound to one proposal. -/
theorem validateBinding_gateId {gate : GateConfig} {proposalId : String} {u : Unit}
    (h : validateBinding gate proposalId = .ok u) :
    gate.context.gateId = "proposal:" ++ proposalId := by
  simp only [validateBinding, Outcome.bind_eq_ok, Outcome.check_eq_ok, Outcome.exists_unit,
    not_or, not_not, ne_eq] at h
  exact h.2.2.2.1

/-- Two proposals with one gate context are one proposal. -/
theorem validateBinding_inj {gate gate' : GateConfig} {proposalId proposalId' : String}
    {u u' : Unit} (h : validateBinding gate proposalId = .ok u)
    (h' : validateBinding gate' proposalId' = .ok u') (hcontext : gate.context = gate'.context) :
    proposalId = proposalId' := by
  have heq : "proposal:" ++ proposalId = "proposal:" ++ proposalId' := by
    rw [← validateBinding_gateId h, ← validateBinding_gateId h', hcontext]
  exact String.append_right_inj _ |>.mp heq

/-! ## The hash that an accepted journal carries -/

/-- An accepted presentation carries the hash of the gate's context. -/
theorem contextHash_of_verify {P : Primitives} {r : VerifyRequest} {cache : InMemoryReplayCache}
    (h : (verify P r cache).1.isOk) :
    r.expectedGate.context.contextHash P.sha256 = some r.envelope.journal.contextHash :=
  (verify_eq_ok_iff.mp h).1.claims.journalContext

/-- An accepted vote carries the hash of the context that the service was made
for. -/
theorem contextHash_of_vote {P : Primitives} {gate : GateConfig} {proposalId : String}
    {start : GovernanceState} (hnew : GovernanceState.new P gate proposalId = .ok start)
    {calls : List GovernanceCall} {e : AttestationEnvelope}
    (he : e ∈ acceptedEnvelopes (Mutating.run (GovernanceCall.step P) calls start)) :
    gate.context.contextHash P.sha256 = some e.journal.contextHash := by
  obtain ⟨-, contextHash, hhash, hstart⟩ := GovernanceState.new_eq_ok_iff.mp hnew
  have htext := (voteLedger_run hnew calls).1.contexts e he
  rw [hstart] at htext
  rw [digestToHex_injective htext]
  exact hhash

/-- A claim accepted by a new gate carries the hash of its context. -/
theorem contextHash_of_evaluateClaim {P : Primitives} {context : GateContext}
    {root nonce : Digest32} {maxProofAgeMs : UInt64} {state : GateState}
    (hnew : GateState.newWithMaxProofAge P.sha256 context root nonce maxProofAgeMs = some state)
    {programId : ProgramId} {claimAccountId : Digest32} {access : ClaimAccess}
    (h : (evaluateClaim P state programId claimAccountId access).isOk) :
    context.contextHash P.sha256 = some access.journal.contextHash := by
  obtain ⟨result, hresult⟩ := Outcome.isOk_iff.mp h
  have hvalid := (evaluateClaim_eq_ok_iff.mp hresult).1
  rw [(GateState.newWithMaxProofAge_eq_some.mp hnew).1, hvalid.context]

/-! ## Isolation -/

/-- Gates with different contexts accept nothing in common: no envelope passes
`verify` for both, no envelope is accepted as a vote by the services of two
proposals, however long they run, and no journal passes `evaluate_claim` for
both. -/
theorem gate_isolation (P : Primitives) :
    (∀ (r r' : VerifyRequest) (cache cache' : InMemoryReplayCache),
      r.envelope = r'.envelope →
      r.expectedGate.context ≠ r'.expectedGate.context →
      CollisionFree P.sha256 (r.expectedGate.context.canonicalBytes.toList ++
        r'.expectedGate.context.canonicalBytes.toList) →
      ¬ ((verify P r cache).1.isOk ∧ (verify P r' cache').1.isOk)) ∧
    (∀ (gate gate' : GateConfig) (proposalId proposalId' : String)
        (start start' : GovernanceState) (calls calls' : List GovernanceCall)
        (e : AttestationEnvelope),
      GovernanceState.new P gate proposalId = .ok start →
      GovernanceState.new P gate' proposalId' = .ok start' →
      proposalId ≠ proposalId' →
      CollisionFree P.sha256 (gate.context.canonicalBytes.toList ++
        gate'.context.canonicalBytes.toList) →
      ¬ (e ∈ acceptedEnvelopes (Mutating.run (GovernanceCall.step P) calls start) ∧
        e ∈ acceptedEnvelopes (Mutating.run (GovernanceCall.step P) calls' start'))) ∧
    (∀ (context context' : GateContext) (root root' nonce nonce' : Digest32)
        (maxProofAgeMs maxProofAgeMs' : UInt64) (state state' : GateState)
        (programId programId' : ProgramId) (claimAccountId claimAccountId' : Digest32)
        (access access' : ClaimAccess),
      GateState.newWithMaxProofAge P.sha256 context root nonce maxProofAgeMs = some state →
      GateState.newWithMaxProofAge P.sha256 context' root' nonce' maxProofAgeMs' = some state' →
      context ≠ context' →
      CollisionFree P.sha256 (context.canonicalBytes.toList ++
        context'.canonicalBytes.toList) →
      access.journal = access'.journal →
      ¬ ((evaluateClaim P state programId claimAccountId access).isOk ∧
        (evaluateClaim P state' programId' claimAccountId' access').isOk)) := by
  refine ⟨?_, ?_, ?_⟩
  · intro r r' cache cache' henvelope hne hfree ⟨hok, hok'⟩
    have hhash' := contextHash_of_verify hok'
    rw [← henvelope] at hhash'
    exact hne (GateContext.eq_of_contextHash_eq hfree (contextHash_of_verify hok) hhash')
  · intro gate gate' proposalId proposalId' start start' calls calls' e hnew hnew' hne hfree
      ⟨he, he'⟩
    have hcontext : gate.context = gate'.context :=
      GateContext.eq_of_contextHash_eq hfree (contextHash_of_vote hnew he)
        (contextHash_of_vote hnew' he')
    exact hne (validateBinding_inj (GovernanceState.new_eq_ok_iff.mp hnew).1
      (GovernanceState.new_eq_ok_iff.mp hnew').1 hcontext)
  · intro context context' root root' nonce nonce' maxProofAgeMs maxProofAgeMs' state state'
      programId programId' claimAccountId claimAccountId' access access' hnew hnew' hne hfree
      hjournal ⟨hok, hok'⟩
    have hhash' := contextHash_of_evaluateClaim hnew' hok'
    rw [← hjournal] at hhash'
    exact hne (GateContext.eq_of_contextHash_eq hfree (contextHash_of_evaluateClaim hnew hok)
      hhash')

/-- The founders' presentation is not accepted by the gate of the proposal. -/
theorem gate_isolation_founders :
    (verify foundersPrimitives foundersRequest ⟨∅⟩).1.isOk ∧
      ∀ (r : VerifyRequest) (cache : InMemoryReplayCache), r.envelope = foundersEnvelope →
        r.expectedGate = treasuryGate → ¬ (verify foundersPrimitives r cache).1.isOk := by
  have hok := verify_foundersRequest_isOk
  have hcontexts : foundersGate.context ≠ treasuryGate.context ∧
      CollisionFree sha256 (foundersGate.context.canonicalBytes.toList ++
        treasuryGate.context.canonicalBytes.toList) := by decide +kernel
  refine ⟨hok, ?_⟩
  intro r cache henvelope hgate hok'
  refine (gate_isolation foundersPrimitives).1 foundersRequest r ⟨∅⟩ cache henvelope.symm ?_ ?_
    ⟨hok, hok'⟩
  · rw [hgate]
    exact hcontexts.1
  · rw [hgate]
    exact hcontexts.2

end TokenStudio
