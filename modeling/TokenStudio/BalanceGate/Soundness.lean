import TokenStudio.AttestationVerifier.Soundness
import TokenStudio.BalanceGate.Guest

/-!
# What a badge proves, and why a claim works once

Two results about whole runs of the gate.

* `claim_run_attests_account`.  Every badge that a gate issues after
  `initialize` carries the data of a witness of the circuit, and when the root
  given to `initialize` is the root of the tree over a list of accounts, an
  account of the list satisfies the policy given to `initialize`.
* `claim_run_no_replay`.  In a run of `evaluate_claim` steps, a claim that was
  accepted once is rejected from then on, for every badge account.  The counter
  of the state is part of the signed challenge, and it grows with every
  accepted claim (`counter_lt_of_accepted`).
-/

namespace TokenStudio

/-! ## Soundness -/

/-- `env::verify` succeeds only for journals with a witness behind them. -/
def VerifySound (P : Primitives) (G : GuestRuntime)
    (witnessOf : AttestationJournal → BalanceAttestationWitness) (call : ClaimCall) : Prop :=
  ∀ journal words, G.toVec journal = some words →
    call.envVerify balanceAttestationImageId words = true →
      evaluate P.sha256 (witnessOf journal) = .ok journal

/-- The witness behind an accepted claim. -/
theorem witness_of_claimAccepted {P : Primitives} {G : GuestRuntime} {programId : ProgramId}
    {witnessOf : AttestationJournal → BalanceAttestationWitness} {call : ClaimCall}
    (hsound : VerifySound P G witnessOf call) {gate : Account} {output : ClaimOutput}
    {state : GateState} {claimNumber : UInt64}
    (h : ClaimAccepted P G call.envVerify programId gate call.badge call.access output state
      claimNumber) :
    let w := witnessOf call.access.journal.toAttestationJournal
    Attests P.sha256 w ∧ w.gateContext.contextHash P.sha256 = some state.contextHash ∧
      w.gateContext.tokenProgramOwner = state.tokenProgramOwner ∧
      w.gateContext.tokenDefinitionId = state.tokenDefinitionId ∧
      w.gateContext.threshold = state.threshold ∧ w.commitmentRoot = state.commitmentRoot ∧
      w.presenterPublicKey = call.access.journal.presenterPublicKey ∧
      w.issuedAtUnixMs = call.access.journal.issuedAtUnixMs := by
  intro w
  obtain ⟨words, hwords, hverify⟩ := h.receipt
  obtain ⟨hattests, hnew⟩ := evaluate_eq_ok_iff.mp (hsound _ words hwords hverify)
  obtain ⟨hcontext, howner, hdefinition, hthreshold, hroot, hkey, htime, -⟩ :=
    AttestationJournal.new_eq_some hnew
  refine ⟨hattests, ?_, ?_, ?_, ?_, ?_, hkey.symm, htime.symm⟩
  · rw [hcontext, ← h.valid.context]
    rfl
  · exact howner.symm.trans h.valid.owner
  · exact hdefinition.symm.trans h.valid.definition
  · exact hthreshold.symm.trans h.valid.threshold
  · exact hroot.symm.trans h.valid.root

/-- Every badge of a run stands for a witness, and for an account that satisfies
the policy of the gate. -/
theorem claim_run_attests_account {P : Primitives} {G : GuestRuntime} {programId : ProgramId}
    {witnessOf : AttestationJournal → BalanceAttestationWitness} {created gate : Account}
    {inputs : InitializeInputs} (hinit : initializeGate G created inputs = .ok gate)
    (calls : List ClaimCall) (hsound : ∀ call ∈ calls, VerifySound P G witnessOf call)
    (c : Call ClaimCall Account GuestFailure ClaimOutput)
    (hc : c ∈ Mutating.run (executeClaim P G programId) calls gate)
    (output : ClaimOutput) (hok : c.result = .ok output) :
    let w := witnessOf c.input.access.journal.toAttestationJournal
    (∃ badge, decodeAccessBadge output.badge.data = some badge ∧
      w.gateContext.contextHash P.sha256 = some badge.contextHash ∧
      badge.presenterPublicKey = w.presenterPublicKey ∧
      badge.proofIssuedAtUnixMs = w.issuedAtUnixMs) ∧
    ∀ (d : Nat) (accounts : List LezAccount) (hlen : accounts.length = 2 ^ d),
      inputs.commitmentRoot = commitmentTreeRoot P.sha256 accounts hlen →
      CollisionFree P.sha256
        (commitmentTreeHashed P.sha256 accounts hlen ++ w.hashed P.sha256) →
      ∃ a ∈ accounts, a.programOwner = inputs.tokenProgramOwner ∧
        ∃ balance : U128, inputs.threshold ≤ balance ∧
          a.data = (FungibleTokenHolding.mk inputs.tokenDefinitionId balance).encode := by
  intro w
  obtain ⟨pre, post, hcalls, hcall⟩ := Mutating.mem_run _ hc
  have hmem : c.input ∈ calls := by simp [hcalls]
  have hpolicy : HoldsPolicy inputs.state.policy
      (Mutating.final (executeClaim P G programId) pre gate) := by
    refine final_holdsPolicy ?_ pre
    rw [(initializeGate_eq_ok hinit).2]
    exact ⟨_, rfl, rfl⟩
  obtain ⟨held, hdata, hheld⟩ := hpolicy
  have hresult : (executeClaim P G programId c.input
      (Mutating.final (executeClaim P G programId) pre gate)).1 = .ok output := by
    rw [hcall] at hok
    exact hok
  obtain ⟨state, claimNumber, haccepted⟩ := executeClaim_eq_ok hresult
  obtain rfl := haccepted.state_eq hdata
  obtain ⟨hattests, hcontext, howner, hdefinition, hthreshold, hroot, hkey, htime⟩ :=
    witness_of_claimAccepted (hsound _ hmem) haccepted
  have hfields : state.tokenProgramOwner = inputs.tokenProgramOwner ∧
      state.tokenDefinitionId = inputs.tokenDefinitionId ∧
      state.threshold = inputs.threshold ∧ state.commitmentRoot = inputs.commitmentRoot :=
    ⟨congrArg GatePolicy.tokenProgramOwner hheld, congrArg GatePolicy.tokenDefinitionId hheld,
      congrArg GatePolicy.threshold hheld, congrArg GatePolicy.commitmentRoot hheld⟩
  refine ⟨⟨(claimResult P state programId c.input.badge.accountId c.input.access
    claimNumber).badge, ?_, hcontext, hkey.symm, htime.symm⟩, ?_⟩
  · rw [haccepted.badge_eq]
    exact decodeAccessBadge_encodeAccessBadge _
  · intro d accounts hlen htree hfree
    have haccount := hattests.exists_account hlen
      ((hroot.trans hfields.2.2.2).trans htree) hfree
    rw [howner, hdefinition, hthreshold, hfields.1, hfields.2.1, hfields.2.2.1] at haccount
    exact haccount

/-- The arguments that set up the gate of the tests for the two accounts. -/
def foundersInputs : InitializeInputs where
  contextHash := foundersContextHash
  tokenProgramOwner := List.Vector.replicate 8 7
  tokenDefinitionId := List.Vector.replicate 32 4
  threshold := 100
  commitmentRoot := foundersRoot
  expiresAtUnixMs := 2000000
  maxProofAgeMs := defaultOnChainProofAgeMs
  challengeNonce := List.Vector.replicate 32 5

/-- The gate of the tests as the context of the gate sets it up. -/
theorem newWithMaxProofAge_founders :
    GateState.newWithMaxProofAge sha256 foundersGate.context foundersRoot
      (List.Vector.replicate 32 5) defaultOnChainProofAgeMs = some foundersInputs.state := by
  have hok := verify_foundersRequest_isOk
  exact GateState.newWithMaxProofAge_eq_some.mpr
    ⟨(verify_eq_ok_iff.mp hok).1.claims.journalContext, rfl⟩

/-- A claim of the first account, signed for badge account `[6; 32]`. -/
def foundersAccess : ClaimAccess where
  journal := .ofAttestationJournal foundersJournal
  presenterSignature := (leBytes 64 0x8d2f56026ff7b94f5d6316b1b952b72292c30d513494d1c947eb6d82807d6d32ec66a3720ae3e9dea5300fe85079ce38cab0a3a3644591592304a304a983d503).reverse

/-- An execution of that claim by a host with the receipt of its journal. -/
def foundersCall : ClaimCall where
  envVerify imageId words :=
    imageId = balanceAttestationImageId && words = journalWords foundersJournal
  badge := { accountId := List.Vector.replicate 32 6, data := [] }
  access := foundersAccess

/-- The gate account `[1; 32]` after `initialize`. -/
def foundersGateAccount : Account where
  accountId := List.Vector.replicate 32 1
  data := encodeGateState foundersInputs.state

def foundersRuntime : GuestRuntime := .ofJournal foundersJournal

/-- The program id of the tests. -/
def foundersProgramId : ProgramId := List.Vector.replicate 8 9

theorem verifySound_foundersCall :
    VerifySound foundersPrimitives foundersRuntime (fun _ => foundersWitness) foundersCall := by
  intro journal words hwords _
  have hjournal : journal = foundersJournal := by
    by_contra hne
    simp [foundersRuntime, GuestRuntime.ofJournal, hne] at hwords
  rw [hjournal]
  exact evaluate_foundersWitness

theorem initializeGate_founders :
    initializeGate foundersRuntime ⟨List.Vector.replicate 32 1, []⟩ foundersInputs =
      .ok foundersGateAccount := by
  decide +kernel

/-- The output of the claim. -/
def foundersOutput : ClaimOutput where
  gate := foundersGateAccount.withData (encodeGateState
    (claimResult foundersPrimitives foundersInputs.state foundersProgramId
      (List.Vector.replicate 32 6) foundersAccess 1).nextGateState)
  badge := foundersCall.badge.withData (encodeAccessBadge
    { version := accessBadgeVersion
      contextHash := foundersContextHash
      presenterPublicKey := foundersKey
      claimNumber := 1
      proofIssuedAtUnixMs := 1000 })
  validFrom := 0
  validUntil := 601001

theorem claim_founders :
    claim foundersPrimitives foundersRuntime foundersCall.envVerify foundersProgramId
      foundersGateAccount foundersCall.badge foundersAccess = .ok foundersOutput := by
  decide +kernel

theorem executeClaim_founders :
    executeClaim foundersPrimitives foundersRuntime foundersProgramId foundersCall
      foundersGateAccount = (.ok foundersOutput, foundersOutput.gate) := by
  have hclaim := claim_founders
  rw [show foundersAccess = foundersCall.access from rfl] at hclaim
  simp [executeClaim, Mutating.commit, hclaim]

theorem claim_run_attests_founder :
    (∃ badge, decodeAccessBadge foundersOutput.badge.data = some badge ∧
      foundersWitness.gateContext.contextHash sha256 = some badge.contextHash ∧
      badge.presenterPublicKey = foundersWitness.presenterPublicKey ∧
      badge.proofIssuedAtUnixMs = foundersWitness.issuedAtUnixMs) ∧
    ∃ a ∈ foundersAccounts, a.programOwner = foundersInputs.tokenProgramOwner ∧
      ∃ balance : U128, foundersInputs.threshold ≤ balance ∧
        a.data = (FungibleTokenHolding.mk foundersInputs.tokenDefinitionId balance).encode := by
  have hsound : ∀ call ∈ [foundersCall], VerifySound foundersPrimitives foundersRuntime
      (fun _ => foundersWitness) call := by
    simpa using verifySound_foundersCall
  have hmem : Mutating.call (executeClaim foundersPrimitives foundersRuntime foundersProgramId)
      foundersCall foundersGateAccount ∈
        Mutating.run (executeClaim foundersPrimitives foundersRuntime foundersProgramId)
          [foundersCall] foundersGateAccount := List.mem_cons_self
  obtain ⟨hbadge, haccount⟩ := claim_run_attests_account initializeGate_founders [foundersCall]
    hsound _ hmem foundersOutput (by simp only [Mutating.call, executeClaim_founders])
  exact ⟨hbadge, haccount 1 foundersAccounts foundersAccounts_length foundersRoot_eq
    (founders_collisionFree.mono (List.subset_append_left _ _))⟩

/-! ## No replay -/

/-- The inputs of one `evaluate_claim` step. -/
structure ClaimStep where
  claimAccountId : Digest32
  access : ClaimAccess
  deriving DecidableEq

/-- One step on a gate state.  A failed one leaves it unchanged. -/
def stepClaim (P : Primitives) (programId : ProgramId) (step : ClaimStep) :
    Mutating GateState ClaimError ClaimResult :=
  Mutating.commit fun state => do
    let result ← evaluateClaim P state programId step.claimAccountId step.access
    pure (result, result.nextGateState)

/-- What one step can do. -/
theorem stepClaim_cases (P : Primitives) (programId : ProgramId) (step : ClaimStep)
    (state : GateState) :
    (∃ claimNumber : UInt64, claimNumber.toNat = state.claimCounter.toNat + 1 ∧
        ClaimValid P state programId step.claimAccountId step.access ∧
        stepClaim P programId step state =
          (.ok (claimResult P state programId step.claimAccountId step.access claimNumber),
            (claimResult P state programId step.claimAccountId step.access
              claimNumber).nextGateState)) ∨
      ((stepClaim P programId step state).1.isOk = false ∧
        (stepClaim P programId step state).2 = state) := by
  rcases Mutating.commit_cases (fun state => do
      let result ← evaluateClaim P state programId step.claimAccountId step.access
      pure (result, result.nextGateState)) state with ⟨result, state', hplan, hcommit⟩ | hfailed
  · obtain ⟨result', heval, hresult⟩ := Outcome.bind_eq_ok.mp hplan
    simp only [Outcome.pure_eq, Outcome.ok.injEq, Prod.mk.injEq] at hresult
    obtain ⟨rfl, rfl⟩ := hresult
    obtain ⟨hvalid, claimNumber, hnumber, rfl⟩ := evaluateClaim_eq_ok_iff.mp heval
    exact Or.inl ⟨claimNumber, hnumber, hvalid, hcommit⟩
  · exact Or.inr hfailed

/-- The counter before an accepted step is below the counter that the run
reaches. -/
theorem counter_lt_of_accepted (P : Primitives) (programId : ProgramId) (start : GateState)
    (steps : List ClaimStep) :
    ∀ c ∈ Mutating.run (stepClaim P programId) steps start, c.result.isOk →
      c.before.claimCounter.toNat <
        (Mutating.final (stepClaim P programId) steps start).claimCounter.toNat := by
  refine Mutating.run_induction (stepClaim P programId)
    (motive := fun calls s => ∀ c ∈ calls, c.result.isOk →
      c.before.claimCounter.toNat < s.claimCounter.toNat) (by simp) ?_ steps
  intro calls s step ih c hc hok
  rcases stepClaim_cases P programId step s with ⟨claimNumber, hnumber, -, hnext⟩ | ⟨hfail, hsame⟩
  · have hcounter : (stepClaim P programId step s).2.claimCounter = claimNumber := by
      rw [hnext]
      rfl
    rw [hcounter, hnumber]
    rcases List.mem_append.mp hc with hc | hc
    · exact Nat.lt_succ_of_lt (ih c hc hok)
    · rw [List.mem_singleton.mp hc]
      exact Nat.lt_succ_self _
  · rw [hsame]
    rcases List.mem_append.mp hc with hc | hc
    · exact ih c hc hok
    · rw [List.mem_singleton.mp hc] at hok
      exact absurd hok (Bool.eq_false_iff.mp hfail)

/-- The byte string whose hash a step asks the presenter to have signed. -/
def presentedBytes (programId : ProgramId)
    (c : Call ClaimStep GateState ClaimError ClaimResult) : Bytes :=
  onChainPresentationBytes (c.before.challenge programId c.input.claimAccountId)
    c.input.access.journal

/-- An accepted step carries a signature of its own presentation. -/
theorem accepts_of_isOk {P : Primitives} {programId : ProgramId} {step : ClaimStep}
    {state : GateState} (h : (stepClaim P programId step state).1.isOk) :
    P.ed25519.Accepts step.access.journal.presenterPublicKey step.access.presenterSignature
      (P.sha256 (presentedBytes programId
        (Mutating.call (stepClaim P programId) step state))).toList := by
  rcases stepClaim_cases P programId step state with ⟨_, -, hvalid, -⟩ | ⟨hfail, -⟩
  · exact hvalid.signature
  · rw [hfail] at h
    cases h

/-- A claim that a run accepted is rejected at every later step. -/
theorem claim_run_no_replay {P : Primitives} {programId : ProgramId} {start : GateState}
    {steps : List ClaimStep}
    (hsign : ∀ step ∈ steps, P.ed25519.SignsOne step.access.journal.presenterPublicKey
      step.access.presenterSignature
      ((Mutating.run (stepClaim P programId) steps start).map fun c =>
        (P.sha256 (presentedBytes programId c)).toList))
    (hfree : CollisionFree P.sha256
      ((Mutating.run (stepClaim P programId) steps start).map (presentedBytes programId))) :
    (Mutating.run (stepClaim P programId) steps start).Pairwise fun c c' =>
      c.result.isOk → c'.input.access = c.input.access → c'.result.isOk = false := by
  refine Mutating.run_pairwise _ ?_
  intro pre step post hsteps c hc hok haccess
  by_contra hok'
  rw [Bool.not_eq_false] at hok'
  have hrun : Mutating.run (stepClaim P programId) steps start =
      Mutating.run (stepClaim P programId) pre start ++
        Mutating.run (stepClaim P programId) (step :: post)
          (Mutating.final (stepClaim P programId) pre start) := by
    rw [hsteps, Mutating.run_append]
  -- Both steps belong to the run, so the assumptions cover both presentations.
  have hmem : c ∈ Mutating.run (stepClaim P programId) steps start := by
    rw [hrun]
    exact List.mem_append_left _ hc
  have hmem' : Mutating.call (stepClaim P programId) step
      (Mutating.final (stepClaim P programId) pre start) ∈
        Mutating.run (stepClaim P programId) steps start := by
    rw [hrun]
    exact List.mem_append_right _ List.mem_cons_self
  have hsteps_mem : step ∈ steps := by simp [hsteps]
  have haccepts : P.ed25519.Accepts step.access.journal.presenterPublicKey
      step.access.presenterSignature (P.sha256 (presentedBytes programId c)).toList := by
    obtain ⟨_, _, -, hcall⟩ := Mutating.mem_run _ hc
    rw [show step.access = c.input.access from haccess]
    rw [hcall] at hok ⊢
    exact accepts_of_isOk hok
  have hmessages := hsign step hsteps_mem _ (List.mem_map_of_mem hmem) _
    (List.mem_map_of_mem hmem') haccepts (accepts_of_isOk hok')
  have hbytes := hfree _ (List.mem_map_of_mem hmem) _ (List.mem_map_of_mem hmem')
    (List.Vector.eq _ _ hmessages)
  -- Equal presentations have equal counters, and the counter has grown.
  have hcounter := congrArg OnChainChallenge.claimCounter (onChainPresentationBytes_inj hbytes).1
  have hlt := counter_lt_of_accepted P programId start pre c hc hok
  simp only [GateState.challenge] at hcounter
  rw [hcounter] at hlt
  exact absurd hlt (Nat.lt_irrefl _)

/-- The claim of the first account, presented twice, for two badge accounts. -/
def foundersReplay : List ClaimStep :=
  [⟨List.Vector.replicate 32 6, foundersAccess⟩, ⟨List.Vector.replicate 32 8, foundersAccess⟩]

theorem claim_run_no_replay_founders :
    (Mutating.run (stepClaim foundersPrimitives foundersProgramId) foundersReplay
      foundersInputs.state).Pairwise fun c c' =>
        c.result.isOk → c'.input.access = c.input.access → c'.result.isOk = false :=
  claim_run_no_replay (by decide +kernel) (by decide +kernel)

end TokenStudio
