import TokenStudio.AttestationVerifier.Completeness
import TokenStudio.ProofgateGovernance.Capacity

/-!
# An honest vote counts

A challenge that the service has issued keeps pending while other calls come in, until an
accepted vote presents it (`pending_of_issued`).  So a voter with a proof for the
proposal needs nothing of the others.  `honest_vote_counts` says when its vote is
accepted: exactly if no accepted vote carries its key or has used up its challenge.  The
second can happen, since a challenge does not name a voter, and whoever presents it first
takes it.
-/

namespace TokenStudio

/-- The encodings of the challenges that were issued. -/
def issuedBytes (calls : GovernanceCalls) : List Bytes :=
  (calls.filterMap issuedChallenge).flatMap fun challenge => challenge.canonicalBytes.toList

/-- The challenges that no accepted vote has presented are pending. -/
def IssuedPending (P : Primitives) (calls : GovernanceCalls) (s : GovernanceState) : Prop :=
  ∀ challenge ∈ calls.filterMap issuedChallenge,
    (∀ e ∈ acceptedEnvelopes calls, e.challenge ≠ challenge) →
    ∃ digest, challenge.digest P.sha256 = some digest ∧
      s.pendingChallenges[digestToHex digest]? = some challenge

section

variable {P : Primitives} {calls : GovernanceCalls} {s : GovernanceState}

theorem mem_issuedBytes {challenge : VerificationChallenge}
    (h : challenge ∈ calls.filterMap issuedChallenge) {bytes : Bytes}
    (hbytes : bytes ∈ challenge.canonicalBytes.toList) : bytes ∈ issuedBytes calls :=
  List.mem_flatMap.mpr ⟨challenge, h, hbytes⟩

/-- A call that issues a challenge makes it pending. -/
theorem issuedChallenge_eq_some {call : GovernanceCall} {challenge : VerificationChallenge}
    (h : issuedChallenge (Mutating.call (GovernanceCall.step P) call s) = some challenge) :
    ∃ gate root nowUnixMs ttlMs nonce digest,
      call = .issueChallenge gate root nowUnixMs ttlMs nonce ∧
      (GovernanceState.issueChallenge P gate root nowUnixMs ttlMs nonce s).1 = .ok challenge ∧
      challenge.digest P.sha256 = some digest ∧
      (call.step P s).2.pendingChallenges[digestToHex digest]? = some challenge := by
  cases call with
  | issueChallenge gate root nowUnixMs ttlMs nonce =>
    rcases GovernanceState.issueChallenge_cases P gate root nowUnixMs ttlMs nonce s with
      ⟨challenge', digest, hdigest, hcall⟩ | ⟨hfail, -⟩
    · have hreply : issuedChallenge (Mutating.call (GovernanceCall.step P)
          (.issueChallenge gate root nowUnixMs ttlMs nonce) s) = some challenge' := by
        simp [Mutating.call, GovernanceCall.step, Mutating.bind_apply, hcall, issuedChallenge]
      obtain rfl := Option.some.inj (hreply.symm.trans h)
      refine ⟨gate, root, nowUnixMs, ttlMs, nonce, digest, rfl, congrArg Prod.fst hcall, hdigest,
        ?_⟩
      rw [GovernanceCall.step, Mutating.bind_pure_apply, hcall]
      exact Std.ExtTreeMap.getElem?_insert_self
    · have hfailed : ((GovernanceCall.issueChallenge gate root nowUnixMs ttlMs nonce).step P
          s).1.isOk = false := Mutating.isOk_bind_pure hfail _
      cases (nothing_of_failed hfailed).1.symm.trans h
  | castVote gate envelope choice nowUnixMs =>
    rcases GovernanceState.castVote_cases P gate envelope choice nowUnixMs s with
      ⟨outcome, digest, consumed, -, hcall, -⟩ | ⟨hfail, -⟩
    · simp [Mutating.call, GovernanceCall.step, Mutating.bind_apply, hcall, issuedChallenge] at h
    · have hfailed : ((GovernanceCall.castVote gate envelope choice nowUnixMs).step P
          s).1.isOk = false := Mutating.isOk_bind_pure hfail _
      cases (nothing_of_failed hfailed).1.symm.trans h

/-- One call keeps the issued challenges pending. -/
theorem IssuedPending.append (h : IssuedPending P calls s) (call : GovernanceCall)
    (hfree : CollisionFree P.sha256
      (issuedBytes (calls ++ [Mutating.call (GovernanceCall.step P) call s]))) :
    IssuedPending P (calls ++ [Mutating.call (GovernanceCall.step P) call s])
      (call.step P s).2 := by
  intro challenge hmem hunused
  have hbytes : ∀ other ∈ (calls ++ [Mutating.call (GovernanceCall.step P) call s]).filterMap
      issuedChallenge, other.canonicalBytes.toList ⊆
        issuedBytes (calls ++ [Mutating.call (GovernanceCall.step P) call s]) :=
    fun other hother _ hb => mem_issuedBytes hother hb
  rw [List.filterMap_append] at hmem
  rcases List.mem_append.mp hmem with hold | hnew
  · -- issued before: this call may have presented it, or issued one with its digest
    have hkept : ∀ e ∈ acceptedEnvelopes calls, e.challenge ≠ challenge := by
      intro e he
      apply hunused
      rw [acceptedEnvelopes, List.filterMap_append]
      exact List.mem_append_left _ he
    obtain ⟨digest, hdigest, hpending⟩ := h challenge hold hkept
    refine ⟨digest, hdigest, ?_⟩
    rcases step_pending call hpending with hsame | ⟨envelope, haccepted, hpresented⟩ |
      ⟨other, digest', hissued, hdigest', hkey, hother⟩
    · exact hsame
    · have heq : envelope.challenge = challenge :=
        Option.some.inj (hpresented.symm.trans hpending)
      refine absurd heq (hunused envelope ?_)
      simp [acceptedEnvelopes, haccepted]
    · obtain rfl := digestToHex_injective hkey
      have hfree' : CollisionFree P.sha256
          (challenge.canonicalBytes.toList ++ other.canonicalBytes.toList) := by
        refine hfree.mono (List.append_subset.mpr ⟨hbytes challenge ?_, hbytes other ?_⟩)
        · rw [List.filterMap_append]
          exact hmem
        · simp [List.filterMap_append, hissued]
      rw [VerificationChallenge.eq_of_digest_eq hfree' hdigest hdigest']
      exact hother
  · have hissued : issuedChallenge (Mutating.call (GovernanceCall.step P) call s) =
        some challenge := by
      simpa using hnew
    obtain ⟨_, _, _, _, _, digest, -, -, hdigest, hpending⟩ := issuedChallenge_eq_some hissued
    exact ⟨digest, hdigest, hpending⟩

end

/-- In every run of a service the issued challenges stay pending until an accepted vote
presents them. -/
theorem pending_of_issued {P : Primitives} (start : GovernanceState) (calls : List GovernanceCall)
    (hfree : CollisionFree P.sha256
      (issuedBytes (Mutating.run (GovernanceCall.step P) calls start))) :
    IssuedPending P (Mutating.run (GovernanceCall.step P) calls start)
      (Mutating.final (GovernanceCall.step P) calls start) := by
  refine Mutating.run_induction (GovernanceCall.step P)
    (motive := fun calls s => CollisionFree P.sha256 (issuedBytes calls) →
      IssuedPending P calls s) ?_ ?_ calls hfree
  · intro _ challenge hmem
    cases hmem
  · intro calls s call h hall
    have hbefore : CollisionFree P.sha256 (issuedBytes calls) := by
      refine hall.mono ?_
      rw [issuedBytes, issuedBytes, List.filterMap_append, List.flatMap_append]
      exact List.subset_append_left _ _
    exact (h hbefore).append call hall

/-- A gate of the proposal with the context of a service. -/
theorem contextHash_of_valid {P : Primitives} {s : GovernanceState} {gate gate' : GateConfig}
    (h : s.Valid P gate s.proposalId) (h' : s.Valid P gate' s.proposalId) :
    gate.contextHash P.sha256 = gate'.contextHash P.sha256 ∧
      gate.context.verifierId = gate'.context.verifierId := by
  obtain ⟨contextHash, hhash, hstored⟩ := h.context
  obtain ⟨contextHash', hhash', hstored'⟩ := h'.context
  obtain rfl := digestToHex_injective (hstored.symm.trans hstored')
  refine ⟨hhash.trans hhash'.symm, ?_⟩
  have hverifier : ∀ {g : GateConfig}, validateBinding g s.proposalId = .ok () →
      g.context.verifierId = "proofgate-governance:" ++ s.proposalId := by
    intro g hg
    simp only [validateBinding, Outcome.bind_eq_ok, Outcome.mapErr_eq_ok, Outcome.exists_unit,
      Outcome.check_eq_ok, not_or, ne_eq, not_not] at hg
    exact hg.2.2.2.2
  rw [hverifier h.binding, hverifier h'.binding]

/-- Every challenge of a service is issued for its gate. -/
theorem issuedFor_of_issued {P : Primitives} {gate : GateConfig} {proposalId : String}
    {start : GovernanceState} (hnew : GovernanceState.new P gate proposalId = .ok start)
    {calls : List GovernanceCall} {challenge : VerificationChallenge}
    (h : challenge ∈ (Mutating.run (GovernanceCall.step P) calls start).filterMap
      issuedChallenge) :
    gate.validate = .ok () ∧ IssuedFor P gate challenge.expectedCommitmentRoot challenge := by
  obtain ⟨c, hc, hissued⟩ := List.mem_filterMap.mp h
  obtain ⟨pre, post, -, hcall⟩ := Mutating.mem_run (GovernanceCall.step P) hc
  rw [hcall] at hissued
  obtain ⟨gate', root, nowUnixMs, ttlMs, nonce, _, -, hok, -⟩ := issuedChallenge_eq_some hissued
  obtain ⟨hvalid', -, hcreate, -⟩ := GovernanceState.issueChallenge_eq_ok_iff.mp hok
  have hvalid := service_valid hnew pre
  obtain ⟨hcontext, hverifier⟩ := contextHash_of_valid hvalid hvalid'
  obtain ⟨-, hissuedFor, -, -⟩ := createChallenge_eq_ok hcreate
  exact ⟨gate_of_validateBinding hvalid.binding, hissuedFor.version,
    hcontext.trans hissuedFor.context, rfl, hissuedFor.verifier.trans hverifier.symm,
    hissuedFor.window, hissuedFor.ttl⟩

/-- The challenge of an accepted vote was issued before. -/
theorem VoteLedger.issued_of_accepted {P : Primitives} {start s : GovernanceState}
    {calls : GovernanceCalls} (h : VoteLedger P start calls s) {e : AttestationEnvelope}
    (he : e ∈ acceptedEnvelopes calls) : e.challenge ∈ calls.filterMap issuedChallenge := by
  obtain ⟨c, hc, haccepted⟩ := List.mem_filterMap.mp he
  obtain ⟨pre, post, hsplit⟩ := List.append_of_mem hc
  rw [hsplit, List.filterMap_append]
  exact List.mem_append_left _ (h.issued pre c post e hsplit haccepted)

/-- A challenge is used up exactly when an accepted vote has presented it. -/
theorem VoteLedger.mem_consumed_iff {P : Primitives} {start s : GovernanceState}
    {calls : GovernanceCalls} (h : VoteLedger P start calls s)
    (hfree : CollisionFree P.sha256 (issuedBytes calls)) {challenge : VerificationChallenge}
    (hissued : challenge ∈ calls.filterMap issuedChallenge) {digest : Digest32}
    (hdigest : challenge.digest P.sha256 = some digest) {consumed : List Digest32}
    (hconsumed : s.consumedChallenges.mapM parseDigest = .ok consumed) :
    digest ∈ consumed ↔ ∃ e ∈ acceptedEnvelopes calls, e.challenge = challenge := by
  have hmem : digest ∈ consumed ↔ digestToHex digest ∈ s.consumedChallenges := by
    rw [← (h.consumed_digests hconsumed).1, List.mem_map_of_injective digestToHex_injective]
  rw [hmem, h.consumed_texts]
  constructor
  · rintro ⟨e, he, digest', hdigest', htext⟩
    obtain rfl := digestToHex_injective htext
    refine ⟨e, he, VerificationChallenge.eq_of_digest_eq (hfree.mono ?_) hdigest' hdigest⟩
    refine List.append_subset.mpr ⟨fun _ hb => ?_, fun _ hb => mem_issuedBytes hissued hb⟩
    exact mem_issuedBytes (h.issued_of_accepted he) hb
  · rintro ⟨e, he, rfl⟩
    exact ⟨e, he, digest, hdigest, rfl⟩

/-- An honest vote counts.  A service has issued a challenge, and anything else has
happened since.  A holder with a proof for the proposal and the root of this challenge
can present it.  At every time in the stated bounds its vote is accepted exactly if no
accepted vote carries its key or has presented this challenge, and then it is recorded
with its choice in every later state. -/
theorem honest_vote_counts {P : Primitives} {gate : GateConfig} {proposalId : String}
    {start : GovernanceState} (hnew : GovernanceState.new P gate proposalId = .ok start)
    {calls : List GovernanceCall} {challenge : VerificationChallenge}
    (hissued : challenge ∈ (Mutating.run (GovernanceCall.step P) calls start).filterMap
      issuedChallenge)
    (hfree : CollisionFree P.sha256
      (issuedBytes (Mutating.run (GovernanceCall.step P) calls start)))
    {witness : BalanceAttestationWitness} {journal : AttestationJournal}
    (hcontext : witness.gateContext = gate.context)
    (hroot : witness.commitmentRoot = challenge.expectedCommitmentRoot)
    (heval : evaluate P.sha256 witness = .ok journal) {receipt : Bytes}
    (hreceipt : verifyReceipt P.risc0 ⟨journal, receipt⟩ = .ok journal)
    {signingKey : P.ed25519.SigningKey}
    (hkey : P.ed25519.publicKey signingKey = journal.presenterPublicKey)
    (hsign : ∀ message, presentationMessage P.sha256 challenge receipt = some message →
      P.ed25519.SignsOwn signingKey message.toList)
    (transport : ProofTransport) :
    ∃ envelope, present P ⟨journal, receipt⟩ challenge signingKey transport = .ok envelope ∧
      ∀ (choice : VoteChoice) (nowUnixMs : UInt64),
        challenge.issuedAtUnixMs.toNat ≤ nowUnixMs.toNat + 30000 →
        nowUnixMs ≤ challenge.expiresAtUnixMs →
        journal.issuedAtUnixMs.toNat ≤ nowUnixMs.toNat + 30000 →
        nowUnixMs.toNat ≤ journal.issuedAtUnixMs.toNat + 600000 →
        challenge.issuedAtUnixMs.toNat ≤ journal.issuedAtUnixMs.toNat + 600000 →
        (∀ expiry, gate.context.expiresAtUnixMs = some expiry → nowUnixMs ≤ expiry) →
        let vote := GovernanceState.castVote P gate envelope choice nowUnixMs
          (Mutating.final (GovernanceCall.step P) calls start)
        (vote.1.isOk = true ↔
          ∀ e ∈ acceptedEnvelopes (Mutating.run (GovernanceCall.step P) calls start),
            e.journal.presenterPublicKey ≠ journal.presenterPublicKey ∧
              e.challenge ≠ challenge) ∧
        (vote.1.isOk = true → ∀ later : List GovernanceCall,
          (Mutating.final (GovernanceCall.step P) later vote.2).votes[
            digestToHex journal.presenterPublicKey]? = some ⟨choice, nowUnixMs⟩) := by
  obtain ⟨hgate, hissuedFor⟩ := issuedFor_of_issued hnew hissued
  obtain ⟨message, hmessage⟩ := hissuedFor.exists_message hgate receipt
  refine ⟨honestEnvelope P journal receipt challenge signingKey transport message,
    present_honest hissuedFor hcontext hroot heval hkey hmessage transport, ?_⟩
  intro choice nowUnixMs hbegun hlive hproof hage hafter hexpiry vote
  have hledger := (voteLedger_run hnew calls).1
  obtain ⟨consumed, hconsumed⟩ := (service_valid hnew calls).exists_consumed
  constructor
  · refine (GovernanceState.castVote_isOk_iff (service_valid hnew calls)).trans ⟨?_, ?_⟩
    · rintro ⟨⟨digest, consumed', hadmissible⟩, hpresenter⟩ e he
      constructor
      · intro hsame
        refine hpresenter ((hledger.vote_keys _).mpr ⟨e, he, ?_⟩)
        rw [presenterText, hsame]
        rfl
      · intro hsame
        exact hadmissible.fresh ((hledger.mem_consumed_iff hfree hissued hadmissible.digest_eq
          hadmissible.consumed_eq).mpr ⟨e, he, hsame⟩)
    · intro hunused
      obtain ⟨digest, hdigest, hpending⟩ := pending_of_issued start calls hfree challenge hissued
        fun e he => (hunused e he).2
      have hclaims := claimsValid_honest hgate hissuedFor hcontext hroot heval hkey hmessage
        (hsign message hmessage) transport hbegun hlive hproof hage hafter hexpiry
      refine ⟨⟨digest, consumed, hdigest, hpending, hconsumed, ?_, hclaims, hreceipt⟩, ?_⟩
      · intro hused
        obtain ⟨e, he, hsame⟩ :=
          (hledger.mem_consumed_iff hfree hissued hdigest hconsumed).mp hused
        exact (hunused e he).2 hsame
      · intro hvoted
        obtain ⟨e, he, htext⟩ := (hledger.vote_keys _).mp hvoted
        exact (hunused e he).1 (digestToHex_injective htext)
  · intro hok later
    rcases GovernanceState.castVote_cases P gate
      (honestEnvelope P journal receipt challenge signingKey transport message) choice nowUnixMs
      (Mutating.final (GovernanceCall.step P) calls start) with
      ⟨_, _, _, -, hcall, -⟩ | ⟨hfailed, -⟩
    · refine Mutating.run_induction (GovernanceCall.step P)
        (motive := fun _ s => s.votes[digestToHex journal.presenterPublicKey]? =
          some ⟨choice, nowUnixMs⟩) ?_ (fun _ _ call hs => step_keeps_votes call hs) later
      rw [show vote.2 = _ from congrArg Prod.snd hcall]
      exact Std.ExtTreeMap.getElem?_insert_self
    · rw [show vote.1.isOk = false from hfailed] at hok
      cases hok

/-- The witness of the first account for the test proposal. -/
def treasuryWitness : BalanceAttestationWitness :=
  { foundersWitness with gateContext := treasuryGate.context }

theorem evaluate_treasuryWitness :
    evaluate treasuryPrimitives.sha256 treasuryWitness = .ok treasuryJournal := by
  decide +kernel

theorem presentable_treasury :
    Presentable treasuryPrimitives
      (GovernanceState.voteRequest treasuryGate treasuryEnvelope treasuryEnvelope.challenge
        1200) := by
  have hok : (verify treasuryPrimitives (GovernanceState.voteRequest treasuryGate treasuryEnvelope
      treasuryEnvelope.challenge 1200) ⟨∅⟩).1.isOk = true := by
    decide +kernel
  exact (verify_eq_ok_iff.mp hok).1

/-- The signature of the first account for the challenge of the proposal. -/
theorem foundersSeed_signs_treasury :
    (presentationMessage sha256 treasuryEnvelope.challenge treasuryEnvelope.receipt).map
      (fun message => (Edwards25519.group.sign foundersSeed message.toList).toList) =
        some treasuryEnvelope.presenterSignature := by
  decide +kernel

/-- The first vote of the test proposal is accepted, and it stays. -/
theorem honest_vote_counts_treasury :
    ∃ envelope, present treasuryPrimitives ⟨treasuryJournal, treasuryEnvelope.receipt⟩
        treasuryEnvelope.challenge foundersSeed .local = .ok envelope ∧
      ∀ later : List GovernanceCall,
        (Mutating.final (GovernanceCall.step treasuryPrimitives) later
          (GovernanceState.castVote treasuryPrimitives treasuryGate envelope .yes 1200
            (Mutating.final (GovernanceCall.step treasuryPrimitives) (treasuryCalls.take 1)
              treasuryState)).2).votes[digestToHex foundersKey]? = some ⟨.yes, 1200⟩ := by
  have hissued : (Mutating.run (GovernanceCall.step treasuryPrimitives) (treasuryCalls.take 1)
      treasuryState).filterMap issuedChallenge = [treasuryEnvelope.challenge] := by
    decide +kernel
  have hnone : acceptedEnvelopes (Mutating.run (GovernanceCall.step treasuryPrimitives)
      (treasuryCalls.take 1) treasuryState) = [] := by
    decide +kernel
  have hmem := List.mem_singleton_self treasuryEnvelope.challenge
  rw [← hissued] at hmem
  have hfree : CollisionFree treasuryPrimitives.sha256 (issuedBytes (Mutating.run
      (GovernanceCall.step treasuryPrimitives) (treasuryCalls.take 1) treasuryState)) := by
    rw [issuedBytes, hissued]
    intro x hx y hy _
    simp only [List.flatMap_cons, List.flatMap_nil, List.append_nil, Option.mem_toList] at hx hy
    exact Option.some.inj (hx.symm.trans hy)
  have hkey : treasuryPrimitives.ed25519.publicKey foundersSeed = foundersKey :=
    foundersSeed_signs_presentation.2.1
  have hsign : ∀ message, presentationMessage sha256 treasuryEnvelope.challenge
      treasuryEnvelope.receipt = some message →
      treasuryPrimitives.ed25519.SignsOwn foundersSeed message.toList := by
    intro message hmessage
    obtain ⟨message', hmessage', haccepts⟩ := presentable_treasury.claims.signature
    obtain rfl : message = message' := Option.some.inj (hmessage.symm.trans hmessage')
    have hsigned := foundersSeed_signs_treasury
    rw [hmessage, Option.map_some, Option.some.injEq] at hsigned
    show treasuryPrimitives.ed25519.Accepts (Edwards25519.group.publicKey foundersSeed)
      (Edwards25519.group.sign foundersSeed message.toList).toList message.toList
    rw [foundersSeed_signs_presentation.2.1, hsigned]
    exact haccepts
  have hcontext : treasuryWitness.gateContext = treasuryGate.context := rfl
  obtain ⟨envelope, hpresent, hvote⟩ := honest_vote_counts new_treasury hmem hfree hcontext rfl
    evaluate_treasuryWitness presentable_treasury.receipt hkey hsign .local
  refine ⟨envelope, hpresent, ?_⟩
  obtain ⟨haccepted, hstays⟩ := hvote .yes 1200 (by decide) (by decide) (by decide) (by decide)
    (by decide) (by
      intro expiry hexpiry
      obtain rfl : 2000000 = expiry := Option.some.inj hexpiry
      decide)
  rw [hnone] at haccepted
  exact hstays (haccepted.mpr fun e he => by cases he)

end TokenStudio
