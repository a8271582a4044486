import TokenStudio.BalanceGate.Soundness

/-!
# What ties a signed claim to one gate

A claim is signed for a program, a badge account, a context hash, a nonce and a
counter.  The account id of the gate is not among them.  So two gate accounts
that were initialized with the same arguments accept the same signed claim
(`claim_moves_between_gates`).

`claim_bound_to_gate` is the exact extent of the protection.  When the two
`initialize` calls differ in an argument other than the maximal proof age, no
claim that one gate accepts is accepted by the other, whatever happened to the
two gates before.  When they agree, what one fresh gate accepts the other
accepts as well.

The nonce is the reason that the history of a gate does not matter.  The nonce
of a state is a hash chain over the signatures of the accepted claims, one link
per claim, and the counter is its length (`GateHistory`).  Two chains of the
same length that end in the same nonce start from the same nonce
(`nonceAfter_inj`).
-/

namespace TokenStudio

/-! ## The nonce chain -/

/-- The nonce after claims with the given signatures. -/
def nonceAfter (sha256 : Bytes → Digest32) (nonce : Digest32) : List Bytes → Digest32
  | [] => nonce
  | signature :: rest =>
    nonceAfter sha256 (sha256 (onChainNonceDomain ++ nonce.toList ++ signature)) rest

/-- The byte strings that the chain hashes. -/
def nonceChain (sha256 : Bytes → Digest32) (nonce : Digest32) : List Bytes → List Bytes
  | [] => []
  | signature :: rest =>
    (onChainNonceDomain ++ nonce.toList ++ signature) ::
      nonceChain sha256 (sha256 (onChainNonceDomain ++ nonce.toList ++ signature)) rest

theorem nonceAfter_append (sha256 : Bytes → Digest32) (nonce : Digest32)
    (signatures : List Bytes) (signature : Bytes) :
    nonceAfter sha256 nonce (signatures ++ [signature]) =
      sha256 (onChainNonceDomain ++ (nonceAfter sha256 nonce signatures).toList ++
        signature) := by
  induction signatures generalizing nonce with
  | nil => rfl
  | cons s rest ih => exact ih _

theorem nonceChain_append (sha256 : Bytes → Digest32) (nonce : Digest32)
    (signatures : List Bytes) (signature : Bytes) :
    nonceChain sha256 nonce (signatures ++ [signature]) =
      nonceChain sha256 nonce signatures ++
        [onChainNonceDomain ++ (nonceAfter sha256 nonce signatures).toList ++ signature] := by
  induction signatures generalizing nonce with
  | nil => rfl
  | cons s rest ih => exact congrArg (_ :: ·) (ih _)

/-- Chains of one length with one end have one start. -/
theorem nonceAfter_inj {sha256 : Bytes → Digest32} {nonce nonce' : Digest32}
    {signatures signatures' : List Bytes} (hlength : signatures.length = signatures'.length)
    (hfree : CollisionFree sha256
      (nonceChain sha256 nonce signatures ++ nonceChain sha256 nonce' signatures'))
    (h : nonceAfter sha256 nonce signatures = nonceAfter sha256 nonce' signatures') :
    nonce = nonce' := by
  induction signatures generalizing nonce nonce' signatures' with
  | nil =>
    obtain rfl : signatures' = [] := List.length_eq_zero_iff.mp hlength.symm
    exact h
  | cons s rest ih =>
    obtain ⟨s', rest', rfl⟩ := List.exists_cons_of_length_eq_add_one hlength.symm
    have hnext : sha256 (onChainNonceDomain ++ nonce.toList ++ s) =
        sha256 (onChainNonceDomain ++ nonce'.toList ++ s') := by
      refine ih (by simpa using hlength) (hfree.mono ?_) h
      intro m hm
      simp only [nonceChain, List.mem_append, List.mem_cons] at hm ⊢
      rcases hm with hm | hm
      · exact Or.inl (Or.inr hm)
      · exact Or.inr (Or.inr hm)
    have hbytes := hfree _ (by simp [nonceChain]) _ (by simp [nonceChain]) hnext
    rw [List.append_assoc, List.append_assoc] at hbytes
    exact ((Codec.byteArray 32).peel (List.append_cancel_left hbytes)).1

/-! ## The history of a gate -/

/-- The byte strings whose hashes are the nonces of a run. -/
def runNonceInputs (calls : List (Call ClaimCall Account GuestFailure ClaimOutput)) :
    List Bytes :=
  calls.flatMap fun c =>
    (decodeGateState c.before.data).toList.map fun state => nonceInput state c.input.access

/-- The state of a gate after a run that started with `inputs`: its policy is the
initial one, its nonce is a chain over the accepted signatures, and its counter
is the length of the chain. -/
def GateHistory (sha256 : Bytes → Digest32) (inputs : InitializeInputs) (hashed : List Bytes)
    (gate : Account) : Prop :=
  ∃ (state : GateState) (signatures : List Bytes),
    gate.data = encodeGateState state ∧ state.policy = inputs.state.policy ∧
      state.challengeNonce = nonceAfter sha256 inputs.challengeNonce signatures ∧
      state.claimCounter.toNat = signatures.length ∧
      nonceChain sha256 inputs.challengeNonce signatures ⊆ hashed

/-- Every account that a run reaches has a history. -/
theorem gateHistory_final {P : Primitives} {G : GuestRuntime} {programId : ProgramId}
    {created gate : Account} {inputs : InitializeInputs}
    (hinit : initializeGate G created inputs = .ok gate) (calls : List ClaimCall) :
    GateHistory P.sha256 inputs
      (runNonceInputs (Mutating.run (executeClaim P G programId) calls gate))
      (Mutating.final (executeClaim P G programId) calls gate) := by
  refine Mutating.run_induction (executeClaim P G programId)
    (motive := fun calls s => GateHistory P.sha256 inputs (runNonceInputs calls) s) ?_ ?_ calls
  · rw [(initializeGate_eq_ok hinit).2]
    exact ⟨inputs.state, [], rfl, rfl, rfl, rfl, List.nil_subset _⟩
  · rintro calls s call ⟨held, signatures, hdata, hpolicy, hnonce, hcounter, hchain⟩
    have hhashed : runNonceInputs (calls ++ [Mutating.call (executeClaim P G programId) call s]) =
        runNonceInputs calls ++ [nonceInput held call.access] := by
      simp [runNonceInputs, Mutating.call, hdata]
    rw [hhashed]
    rcases executeClaim_cases P G programId call s with
      ⟨output, state, claimNumber, hexec, haccepted⟩ | ⟨-, hsame⟩
    · obtain rfl := haccepted.state_eq hdata
      have hinput : nonceInput state call.access = onChainNonceDomain ++
          (nonceAfter P.sha256 inputs.challengeNonce signatures).toList ++
            call.access.presenterSignature := by
        rw [nonceInput, hnonce]
      rw [hexec, haccepted.gate_eq]
      refine ⟨_, signatures ++ [call.access.presenterSignature], rfl, hpolicy, ?_, ?_, ?_⟩
      · rw [nonceAfter_append, ← hinput]
        rfl
      · rw [List.length_append, ← hcounter]
        exact haccepted.number
      · rw [nonceChain_append, ← hinput]
        exact List.append_subset.mpr ⟨List.subset_append_of_subset_left _ hchain,
          List.subset_append_right _ _⟩
    · rw [hsame]
      exact ⟨held, signatures, hdata, hpolicy, hnonce, hcounter,
        List.subset_append_of_subset_left _ hchain⟩

/-! ## Two gates -/

/-- The arguments of `initialize` that a signature depends on: all but the
maximal proof age. -/
def InitializeInputs.signed (inputs : InitializeInputs) : InitializeInputs :=
  { inputs with maxProofAgeMs := 0 }

/-- The byte string that a claim has to be signed for on a gate account. -/
def gatePresentation (programId : ProgramId) (gate : Account) (badgeId : Digest32)
    (access : ClaimAccess) : List Bytes :=
  (decodeGateState gate.data).toList.map fun state =>
    onChainPresentationBytes (state.challenge programId badgeId) access.journal

/-- The policy fields that a journal has to match. -/
theorem signed_eq_of_policy {inputs inputs' : InitializeInputs} {state state' : GateState}
    (hpolicy : state.policy = inputs.state.policy)
    (hpolicy' : state'.policy = inputs'.state.policy)
    (hcontext : state.contextHash = state'.contextHash)
    (howner : state.tokenProgramOwner = state'.tokenProgramOwner)
    (hdefinition : state.tokenDefinitionId = state'.tokenDefinitionId)
    (hthreshold : state.threshold = state'.threshold)
    (hroot : state.commitmentRoot = state'.commitmentRoot)
    (hexpiry : state.expiresAtUnixMs = state'.expiresAtUnixMs)
    (hnonce : inputs.challengeNonce = inputs'.challengeNonce) :
    inputs.signed = inputs'.signed := by
  simp only [GateState.policy, InitializeInputs.state, GateState.fromPublicInputs,
    GatePolicy.mk.injEq] at hpolicy hpolicy'
  obtain ⟨-, h1, h2, h3, h4, h5, h6, -⟩ := hpolicy
  obtain ⟨-, h1', h2', h3', h4', h5', h6', -⟩ := hpolicy'
  have hexpires : inputs.expiresAtUnixMs = inputs'.expiresAtUnixMs := by
    rw [h6, h6'] at hexpiry
    by_cases hzero : inputs.expiresAtUnixMs = 0 <;>
      by_cases hzero' : inputs'.expiresAtUnixMs = 0 <;> simp_all
  cases inputs
  cases inputs'
  simp_all [InitializeInputs.signed]

/-- Two executions that accept the same claim for the same badge account ran on
gates that were initialized alike. -/
theorem signed_eq_of_accepted {P : Primitives} {G : GuestRuntime} {programId : ProgramId}
    {inputs inputs' : InitializeInputs} {hashed hashed' : List Bytes} {gate gate' : Account}
    (hhistory : GateHistory P.sha256 inputs hashed gate)
    (hhistory' : GateHistory P.sha256 inputs' hashed' gate')
    {call call' : ClaimCall} (haccess : call'.access = call.access)
    (hbadge : call'.badge.accountId = call.badge.accountId)
    (hsign : P.ed25519.SignsOne call.access.journal.presenterPublicKey
      call.access.presenterSignature
      ((gatePresentation programId gate call.badge.accountId call.access ++
        gatePresentation programId gate' call.badge.accountId call.access).map fun bytes =>
          (P.sha256 bytes).toList))
    (hfree : CollisionFree P.sha256 (hashed ++ hashed' ++
      (gatePresentation programId gate call.badge.accountId call.access ++
        gatePresentation programId gate' call.badge.accountId call.access)))
    (hok : (executeClaim P G programId call gate).1.isOk)
    (hok' : (executeClaim P G programId call' gate').1.isOk) :
    inputs.signed = inputs'.signed := by
  obtain ⟨held, signatures, hdata, hpolicy, hnonce, hcounter, hchain⟩ := hhistory
  obtain ⟨held', signatures', hdata', hpolicy', hnonce', hcounter', hchain'⟩ := hhistory'
  obtain ⟨output, hresult⟩ := Outcome.isOk_iff.mp hok
  obtain ⟨output', hresult'⟩ := Outcome.isOk_iff.mp hok'
  obtain ⟨state, claimNumber, haccepted⟩ := executeClaim_eq_ok hresult
  obtain ⟨state', claimNumber', haccepted'⟩ := executeClaim_eq_ok hresult'
  obtain rfl := haccepted.state_eq hdata
  obtain rfl := haccepted'.state_eq hdata'
  have hvalid := haccepted.valid
  have hvalid' := haccepted'.valid
  rw [haccess, hbadge] at hvalid'
  -- One signature, so one message, so one presentation.
  have hmem : onChainPresentationBytes (state.challenge programId call.badge.accountId)
      call.access.journal ∈
        gatePresentation programId gate call.badge.accountId call.access ++
          gatePresentation programId gate' call.badge.accountId call.access := by
    simp [gatePresentation, hdata]
  have hmem' : onChainPresentationBytes (state'.challenge programId call.badge.accountId)
      call.access.journal ∈
        gatePresentation programId gate call.badge.accountId call.access ++
          gatePresentation programId gate' call.badge.accountId call.access := by
    simp [gatePresentation, hdata']
  have hmessage := hsign _ (List.mem_map_of_mem hmem) _ (List.mem_map_of_mem hmem')
    hvalid.signature hvalid'.signature
  have hbytes := hfree _ (List.mem_append_right _ hmem) _ (List.mem_append_right _ hmem')
    (List.Vector.eq _ _ hmessage)
  have hchallenge := (onChainPresentationBytes_inj hbytes).1
  have hcounters : state.claimCounter = state'.claimCounter :=
    congrArg OnChainChallenge.claimCounter hchallenge
  have hnonces : state.challengeNonce = state'.challengeNonce :=
    congrArg OnChainChallenge.nonce hchallenge
  have hlength : signatures.length = signatures'.length := by
    rw [← hcounter, ← hcounter', hcounters]
  have hstart : inputs.challengeNonce = inputs'.challengeNonce := by
    refine nonceAfter_inj hlength (hfree.mono ?_) (by rw [← hnonce, ← hnonce', hnonces])
    intro m hm
    rcases List.mem_append.mp hm with hm | hm
    · exact List.mem_append_left _ (List.mem_append_left _ (hchain hm))
    · exact List.mem_append_left _ (List.mem_append_right _ (hchain' hm))
  exact signed_eq_of_policy hpolicy hpolicy' (hvalid.context.symm.trans hvalid'.context)
    (hvalid.owner.symm.trans hvalid'.owner) (hvalid.definition.symm.trans hvalid'.definition)
    (hvalid.threshold.symm.trans hvalid'.threshold) (hvalid.root.symm.trans hvalid'.root)
    (hvalid.expiry.symm.trans hvalid'.expiry) hstart

/-- Fresh gates that were initialized alike accept the same claims. -/
theorem claimValid_of_signed_eq {P : Primitives} {programId : ProgramId} {badgeId : Digest32}
    {access : ClaimAccess} {inputs inputs' : InitializeInputs}
    (hsigned : inputs.signed = inputs'.signed) (hvalid' : inputs'.state.validate = .ok ())
    (h : ClaimValid P inputs.state programId badgeId access) :
    ClaimValid P inputs'.state programId badgeId access := by
  simp only [InitializeInputs.signed, InitializeInputs.mk.injEq] at hsigned
  obtain ⟨hcontext, howner, hdefinition, hthreshold, hroot, hexpiry, -, hnonce⟩ := hsigned
  have hstate : inputs'.state =
      { inputs.state with maxProofAgeMs := inputs'.maxProofAgeMs } := by
    simp only [InitializeInputs.state, GateState.fromPublicInputs, hcontext, howner,
      hdefinition, hthreshold, hroot, hexpiry, hnonce]
  rw [hstate] at hvalid' ⊢
  exact ⟨hvalid', h.version, h.context, h.expiry, h.owner, h.definition, h.threshold, h.root,
    h.signature⟩

/-- A claim is tied to a gate exactly as far as the arguments of `initialize`
are. -/
theorem claim_bound_to_gate {P : Primitives} {G : GuestRuntime} {programId : ProgramId}
    {created created' gate gate' : Account} {inputs inputs' : InitializeInputs}
    (hinit : initializeGate G created inputs = .ok gate)
    (hinit' : initializeGate G created' inputs' = .ok gate') :
    (inputs.signed ≠ inputs'.signed →
      ∀ (calls calls' : List ClaimCall) (call call' : ClaimCall),
        call'.access = call.access → call'.badge.accountId = call.badge.accountId →
        P.ed25519.SignsOne call.access.journal.presenterPublicKey call.access.presenterSignature
          ((gatePresentation programId (Mutating.final (executeClaim P G programId) calls gate)
              call.badge.accountId call.access ++
            gatePresentation programId (Mutating.final (executeClaim P G programId) calls' gate')
              call.badge.accountId call.access).map fun bytes => (P.sha256 bytes).toList) →
        CollisionFree P.sha256
          (runNonceInputs (Mutating.run (executeClaim P G programId) calls gate) ++
            runNonceInputs (Mutating.run (executeClaim P G programId) calls' gate') ++
            (gatePresentation programId (Mutating.final (executeClaim P G programId) calls gate)
                call.badge.accountId call.access ++
              gatePresentation programId
                (Mutating.final (executeClaim P G programId) calls' gate')
                call.badge.accountId call.access)) →
        (executeClaim P G programId call
          (Mutating.final (executeClaim P G programId) calls gate)).1.isOk →
        (executeClaim P G programId call'
          (Mutating.final (executeClaim P G programId) calls' gate')).1.isOk = false) ∧
      (inputs.signed = inputs'.signed → ∀ (badgeId : Digest32) (access : ClaimAccess),
        (evaluateClaim P inputs.state programId badgeId access).isOk →
          (evaluateClaim P inputs'.state programId badgeId access).isOk) := by
  refine ⟨?_, ?_⟩
  · intro hsigned calls calls' call call' haccess hbadge hsign hfree hok
    by_contra hok'
    rw [Bool.not_eq_false] at hok'
    exact hsigned (signed_eq_of_accepted (gateHistory_final hinit calls)
      (gateHistory_final hinit' calls') haccess hbadge hsign hfree hok hok')
  · intro hsigned badgeId access hok
    obtain ⟨result, hresult⟩ := Outcome.isOk_iff.mp hok
    obtain ⟨hvalid, claimNumber, hnumber, -⟩ := evaluateClaim_eq_ok_iff.mp hresult
    refine Outcome.isOk_iff.mpr ⟨_, evaluateClaim_eq_ok_iff.mpr ⟨?_, claimNumber, hnumber, rfl⟩⟩
    exact claimValid_of_signed_eq hsigned (initializeGate_eq_ok hinit').1 hvalid

/-- The arguments of another gate for the same policy, with another nonce. -/
def foundersSecondInputs : InitializeInputs :=
  { foundersInputs with challengeNonce := List.Vector.replicate 32 6 }

/-- The gate account `[2; 32]` with these arguments. -/
def foundersSecondGate : Account where
  accountId := List.Vector.replicate 32 2
  data := encodeGateState foundersSecondInputs.state

theorem claim_bound_to_founders :
    (executeClaim foundersPrimitives foundersRuntime foundersProgramId foundersCall
      foundersSecondGate).1.isOk = false := by
  have hinit : initializeGate foundersRuntime ⟨List.Vector.replicate 32 2, []⟩
      foundersSecondInputs = .ok foundersSecondGate := by
    decide +kernel
  exact (claim_bound_to_gate initializeGate_founders hinit).1 (by decide +kernel) [] []
    foundersCall foundersCall rfl rfl (by decide +kernel) (by decide +kernel)
    (Outcome.isOk_iff.mpr ⟨_, congrArg Prod.fst executeClaim_founders⟩)

/-- Two gate accounts that were initialized with the same arguments accept the
same claim for the same badge account. -/
theorem claim_moves_between_gates :
    ∃ gate gate' : Account, gate.accountId ≠ gate'.accountId ∧
      initializeGate foundersRuntime ⟨List.Vector.replicate 32 1, []⟩ foundersInputs =
        .ok gate ∧
      initializeGate foundersRuntime ⟨List.Vector.replicate 32 2, []⟩ foundersInputs =
        .ok gate' ∧
      (claim foundersPrimitives foundersRuntime foundersCall.envVerify foundersProgramId gate
        foundersCall.badge foundersAccess).isOk ∧
      (claim foundersPrimitives foundersRuntime foundersCall.envVerify foundersProgramId gate'
        foundersCall.badge foundersAccess).isOk ∧
      foundersPrimitives.ed25519.SignsOne foundersKey foundersAccess.presenterSignature
        ((gatePresentation foundersProgramId gate foundersCall.badge.accountId foundersAccess ++
          gatePresentation foundersProgramId gate' foundersCall.badge.accountId
            foundersAccess).map fun bytes => (foundersPrimitives.sha256 bytes).toList) ∧
      CollisionFree foundersPrimitives.sha256
        (gatePresentation foundersProgramId gate foundersCall.badge.accountId foundersAccess ++
          gatePresentation foundersProgramId gate' foundersCall.badge.accountId
            foundersAccess) := by
  refine ⟨foundersGateAccount, { foundersGateAccount with accountId := List.Vector.replicate 32 2 },
    by decide, initializeGate_founders, by decide +kernel, ?_, by decide +kernel,
    by decide +kernel, by decide +kernel⟩
  rw [claim_founders]
  rfl

end TokenStudio
