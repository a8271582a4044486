import TokenStudio.AttestationVerifier.Soundness
import TokenStudio.CodeLib.Run
import TokenStudio.ProofgateGovernance.Basic

/-!
# One vote per presenter and per challenge

A run of the governance service is any sequence of `issue_challenge` and
`cast_vote` calls, with any arguments.  `VoteLedger` relates the calls of a run
to the state it reaches, and `governance_run` says that it holds for every run
of a new service.

The proof carries one more fact along the run: every pending challenge was
returned by a call (`PendingIssued`).  One step of the run is covered by
`step_cases`, which puts the spec lemmas of the two calls side by side.
-/

namespace TokenStudio

/-- A call of the service. -/
inductive GovernanceCall where
  | issueChallenge (gate : GateConfig) (expectedCommitmentRoot : Digest32)
      (nowUnixMs ttlMs : UInt64) (nonce : Digest32)
  | castVote (gate : GateConfig) (envelope : AttestationEnvelope) (choice : VoteChoice)
      (nowUnixMs : UInt64)

/-- What a successful call returns. -/
inductive GovernanceReply where
  | challenge (challenge : VerificationChallenge)
  | vote (outcome : CastOutcome)
  deriving DecidableEq

namespace GovernanceCall

/-- Run one call. -/
def step (P : Primitives) : GovernanceCall →
    Mutating GovernanceState GovernanceError GovernanceReply
  | issueChallenge gate root nowUnixMs ttlMs nonce => do
    let challenge ← GovernanceState.issueChallenge P gate root nowUnixMs ttlMs nonce
    pure (.challenge challenge)
  | castVote gate envelope choice nowUnixMs => do
    let outcome ← GovernanceState.castVote P gate envelope choice nowUnixMs
    pure (.vote outcome)

end GovernanceCall

/-- The calls of a run of the service. -/
abbrev GovernanceCalls :=
  List (Call GovernanceCall GovernanceState GovernanceError GovernanceReply)

/-- The challenge that a successful `issue_challenge` returned. -/
def issuedChallenge (c : Call GovernanceCall GovernanceState GovernanceError GovernanceReply) :
    Option VerificationChallenge :=
  match c.result with
  | .ok (.challenge challenge) => some challenge
  | _ => none

/-- The envelope of a successful `cast_vote`. -/
def acceptedEnvelope (c : Call GovernanceCall GovernanceState GovernanceError GovernanceReply) :
    Option AttestationEnvelope :=
  match c.input, c.result with
  | .castVote _ envelope _ _, .ok _ => some envelope
  | _, _ => none

/-- The envelopes of the accepted votes, in the order of the calls. -/
def acceptedEnvelopes (calls : GovernanceCalls) : List AttestationEnvelope :=
  calls.filterMap acceptedEnvelope

/-- The text under which an envelope's vote is stored. -/
def presenterText (envelope : AttestationEnvelope) : String :=
  digestToHex envelope.journal.presenterPublicKey

/-- The state of a service and the calls that led to it. -/
structure VoteLedger (P : Primitives) (start : GovernanceState) (calls : GovernanceCalls)
    (s : GovernanceState) : Prop where
  /-- One vote for each accepted call. -/
  vote_count : s.votes.size = (acceptedEnvelopes calls).length
  /-- One consumed challenge for each accepted call. -/
  consumed_count : s.consumedChallenges.length = (acceptedEnvelopes calls).length
  /-- The keys of the votes are the presenters of the accepted envelopes. -/
  vote_keys : ∀ key, key ∈ s.votes ↔ ∃ e ∈ acceptedEnvelopes calls, presenterText e = key
  /-- The presenters of the accepted envelopes are pairwise different. -/
  presenters : (acceptedEnvelopes calls).Pairwise fun e e' => presenterText e ≠ presenterText e'
  /-- The consumed challenges are strictly ascending. -/
  consumed_sorted : s.consumedChallenges.Pairwise (· < ·)
  /-- They are the digests of the challenges of the accepted envelopes. -/
  consumed_texts : ∀ text, text ∈ s.consumedChallenges ↔ ∃ e ∈ acceptedEnvelopes calls,
    ∃ digest, e.challenge.digest P.sha256 = some digest ∧ digestToHex digest = text
  /-- Each of these challenges had been returned by an earlier call. -/
  issued : ∀ pre c post e, calls = pre ++ c :: post → acceptedEnvelope c = some e →
    e.challenge ∈ pre.filterMap issuedChallenge
  /-- Every accepted journal carries the context hash of the new service. -/
  contexts : ∀ e ∈ acceptedEnvelopes calls,
    digestToHex e.journal.contextHash = start.gateContextHash

/-- Every pending challenge was returned by a call, and the context hash is the
first one. -/
structure PendingIssued (start : GovernanceState) (calls : GovernanceCalls)
    (s : GovernanceState) : Prop where
  pending : ∀ (key : String) challenge, s.pendingChallenges[key]? = some challenge →
    challenge ∈ calls.filterMap issuedChallenge
  context : s.gateContextHash = start.gateContextHash

/-! ## One step -/

/-- A failed call returns no challenge and accepts no envelope. -/
theorem nothing_of_failed {P : Primitives} {call : GovernanceCall} {s : GovernanceState}
    (h : (call.step P s).1.isOk = false) :
    issuedChallenge (Mutating.call (GovernanceCall.step P) call s) = none ∧
      acceptedEnvelope (Mutating.call (GovernanceCall.step P) call s) = none := by
  cases hresult : (call.step P s).1 with
  | ok reply =>
    rw [hresult] at h
    cases h
  | err e => simp [issuedChallenge, acceptedEnvelope, Mutating.call, hresult]
  | panic => simp [issuedChallenge, acceptedEnvelope, Mutating.call, hresult]

/-- What one step of a run can do. -/
theorem step_cases (P : Primitives) (call : GovernanceCall) (s : GovernanceState) :
    (∃ challenge digest, issuedChallenge (Mutating.call (GovernanceCall.step P) call s) =
          some challenge ∧
        acceptedEnvelope (Mutating.call (GovernanceCall.step P) call s) = none ∧
        (call.step P s).2 = { s with
          pendingChallenges := s.pendingChallenges.insert (digestToHex digest) challenge }) ∨
      (∃ envelope digest consumed record,
        issuedChallenge (Mutating.call (GovernanceCall.step P) call s) = none ∧
        acceptedEnvelope (Mutating.call (GovernanceCall.step P) call s) = some envelope ∧
        GovernanceState.VoteAccepted P s envelope digest consumed ∧
        (call.step P s).2 = s.withVote (digestToHex digest)
          ⟨insert digest consumed.toFinset⟩ envelope.journal.presenterPublicKey record) ∨
      (issuedChallenge (Mutating.call (GovernanceCall.step P) call s) = none ∧
        acceptedEnvelope (Mutating.call (GovernanceCall.step P) call s) = none ∧
        (call.step P s).2 = s) := by
  cases call with
  | issueChallenge gate root nowUnixMs ttlMs nonce =>
    rcases GovernanceState.issueChallenge_cases P gate root nowUnixMs ttlMs nonce s with
      ⟨challenge, digest, -, hcall⟩ | ⟨hfail, hsame⟩
    · refine Or.inl ⟨challenge, digest, ?_, ?_, ?_⟩ <;>
        simp [Mutating.call, GovernanceCall.step, Mutating.bind_apply, hcall, issuedChallenge,
          acceptedEnvelope]
    · have hfailed : ((GovernanceCall.issueChallenge gate root nowUnixMs ttlMs nonce).step P
          s).1.isOk = false := Mutating.isOk_bind_pure hfail _
      obtain ⟨hissued, haccepted⟩ := nothing_of_failed hfailed
      refine Or.inr (Or.inr ⟨hissued, haccepted, ?_⟩)
      rw [GovernanceCall.step, Mutating.bind_pure_apply]
      exact hsame
  | castVote gate envelope choice nowUnixMs =>
    rcases GovernanceState.castVote_cases P gate envelope choice nowUnixMs s with
      ⟨outcome, digest, consumed, haccepted, hcall, -⟩ | ⟨hfail, hsame⟩
    · refine Or.inr (Or.inl ⟨envelope, digest, consumed, ⟨choice, nowUnixMs⟩, ?_, ?_,
        haccepted, ?_⟩) <;>
        simp [Mutating.call, GovernanceCall.step, Mutating.bind_apply, hcall, issuedChallenge,
          acceptedEnvelope]
    · have hfailed : ((GovernanceCall.castVote gate envelope choice nowUnixMs).step P
          s).1.isOk = false := Mutating.isOk_bind_pure hfail _
      obtain ⟨hissued, haccepted⟩ := nothing_of_failed hfailed
      refine Or.inr (Or.inr ⟨hissued, haccepted, ?_⟩)
      rw [GovernanceCall.step, Mutating.bind_pure_apply]
      exact hsame

/-- The last call of a longer list of calls is the new one or an old one. -/
theorem issued_append {calls : GovernanceCalls}
    {c : Call GovernanceCall GovernanceState GovernanceError GovernanceReply}
    (hcalls : ∀ pre c' post e, calls = pre ++ c' :: post → acceptedEnvelope c' = some e →
      e.challenge ∈ pre.filterMap issuedChallenge)
    (hc : ∀ e, acceptedEnvelope c = some e → e.challenge ∈ calls.filterMap issuedChallenge) :
    ∀ pre c' post e, calls ++ [c] = pre ++ c' :: post → acceptedEnvelope c' = some e →
      e.challenge ∈ pre.filterMap issuedChallenge := by
  intro pre c' post e heq haccepted
  rcases List.eq_nil_or_concat post with rfl | ⟨post', last, rfl⟩
  · obtain ⟨rfl, hlast⟩ := List.append_inj' heq rfl
    cases hlast
    exact hc e haccepted
  · have hsplit : calls ++ [c] = (pre ++ c' :: post') ++ [last] := by
      rw [heq, List.concat_eq_append, List.append_assoc, List.cons_append]
    exact hcalls pre c' post' e (List.append_inj' hsplit rfl).1 haccepted

/-- A step without a new vote keeps the ledger. -/
theorem VoteLedger.append_no_vote {P : Primitives} {start s s' : GovernanceState}
    {calls : GovernanceCalls} (h : VoteLedger P start calls s)
    {c : Call GovernanceCall GovernanceState GovernanceError GovernanceReply}
    (hc : acceptedEnvelope c = none) (hvotes : s'.votes = s.votes)
    (hconsumed : s'.consumedChallenges = s.consumedChallenges) :
    VoteLedger P start (calls ++ [c]) s' := by
  have hsame : acceptedEnvelopes (calls ++ [c]) = acceptedEnvelopes calls := by
    simp [acceptedEnvelopes, hc]
  exact
    { vote_count := by rw [hvotes, hsame, h.vote_count]
      consumed_count := by rw [hconsumed, hsame, h.consumed_count]
      vote_keys := by rw [hvotes, hsame]; exact h.vote_keys
      presenters := by rw [hsame]; exact h.presenters
      consumed_sorted := by rw [hconsumed]; exact h.consumed_sorted
      consumed_texts := by rw [hconsumed, hsame]; exact h.consumed_texts
      issued := issued_append h.issued (by simp [hc])
      contexts := by rw [hsame]; exact h.contexts }

/-- The digests that an accepted vote read from the state. -/
theorem VoteLedger.consumed_digests {P : Primitives} {start s : GovernanceState}
    {calls : GovernanceCalls} (h : VoteLedger P start calls s) {consumed : List Digest32}
    (hparsed : s.consumedChallenges.mapM parseDigest = .ok consumed) :
    consumed.map digestToHex = s.consumedChallenges ∧ consumed.Nodup := by
  have hmap : consumed.map digestToHex = s.consumedChallenges := by
    refine GovernanceState.map_digestToHex_of_mapM_parseDigest ?_ hparsed
    intro text htext
    obtain ⟨e, -, digest, -, rfl⟩ := (h.consumed_texts text).mp htext
    exact ⟨digest, rfl⟩
  have hnodup : s.consumedChallenges.Nodup := h.consumed_sorted.imp fun hlt => ne_of_lt hlt
  rw [← hmap] at hnodup
  exact ⟨hmap, hnodup.of_map⟩

/-- An accepted vote extends the ledger. -/
theorem VoteLedger.append_vote {P : Primitives} {start s : GovernanceState}
    {calls : GovernanceCalls} (h : VoteLedger P start calls s)
    (hpending : PendingIssued start calls s)
    {c : Call GovernanceCall GovernanceState GovernanceError GovernanceReply}
    {envelope : AttestationEnvelope} {digest : Digest32} {consumed : List Digest32}
    {record : VoteRecord} (hc : acceptedEnvelope c = some envelope)
    (ha : GovernanceState.VoteAccepted P s envelope digest consumed) :
    VoteLedger P start (calls ++ [c]) (s.withVote (digestToHex digest)
      ⟨insert digest consumed.toFinset⟩ envelope.journal.presenterPublicKey record) := by
  have hlist : acceptedEnvelopes (calls ++ [c]) = acceptedEnvelopes calls ++ [envelope] := by
    simp [acceptedEnvelopes, hc]
  obtain ⟨hmap, hnodup⟩ := h.consumed_digests ha.consumed_eq
  have hnew : ∀ e ∈ acceptedEnvelopes calls, presenterText e ≠ presenterText envelope := by
    intro e he heq
    exact ha.newPresenter ((h.vote_keys _).mpr ⟨e, he, heq⟩)
  constructor
  · have hnot : ¬ s.votes.contains (digestToHex envelope.journal.presenterPublicKey) = true := by
      rw [← Std.ExtTreeMap.mem_iff_contains]
      exact ha.newPresenter
    rw [GovernanceState.withVote_votes, Std.ExtTreeMap.size_insert, if_neg hnot, h.vote_count,
      hlist, List.length_append, List.length_singleton]
  · have hcard : consumed.toFinset.card = (acceptedEnvelopes calls).length := by
      rw [List.toFinset_card_of_nodup hnodup, ← h.consumed_count, ← hmap, List.length_map]
    rw [GovernanceState.withVote_consumedChallenges, GovernanceState.consumedTexts_length,
      Finset.card_insert_of_notMem (by simpa using ha.fresh), hcard, hlist, List.length_append,
      List.length_singleton]
  · intro key
    rw [GovernanceState.withVote_votes, hlist, Std.ExtTreeMap.mem_insert, h.vote_keys key,
      Std.compare_eq_iff_eq]
    simp only [List.mem_append, List.mem_singleton, or_and_right, exists_or, exists_eq_left]
    exact or_comm
  · rw [hlist, List.pairwise_append]
    refine ⟨h.presenters, List.pairwise_singleton _ _, ?_⟩
    intro e he e' he'
    rw [List.mem_singleton.mp he']
    exact hnew e he
  · rw [GovernanceState.withVote_consumedChallenges]
    exact GovernanceState.consumedTexts_sorted _
  · intro text
    have hold : (∃ d ∈ consumed, digestToHex d = text) ↔ ∃ e ∈ acceptedEnvelopes calls,
        ∃ d, e.challenge.digest P.sha256 = some d ∧ digestToHex d = text := by
      rw [← h.consumed_texts, ← hmap, List.mem_map]
    rw [GovernanceState.withVote_consumedChallenges, GovernanceState.mem_consumedTexts, hlist]
    simp only [Finset.mem_insert, List.mem_toFinset, or_and_right, exists_or, exists_eq_left,
      List.mem_append, List.mem_singleton, hold, ha.digest_eq, Option.some.injEq,
      exists_eq_left']
    exact or_comm
  · refine issued_append h.issued ?_
    intro e he
    obtain rfl : envelope = e := Option.some.inj (hc.symm.trans he)
    exact hpending.pending _ _ ha.pending
  · rw [hlist]
    intro e he
    rcases List.mem_append.mp he with he | he
    · exact h.contexts e he
    · rw [List.mem_singleton.mp he, ← ha.context, hpending.context]

/-- One step keeps the fact about the pending challenges. -/
theorem PendingIssued.append {P : Primitives} {start s : GovernanceState}
    {calls : GovernanceCalls} (h : PendingIssued start calls s) (call : GovernanceCall) :
    PendingIssued start (calls ++ [Mutating.call (GovernanceCall.step P) call s])
      (call.step P s).2 := by
  have hmono : ∀ challenge, challenge ∈ calls.filterMap issuedChallenge → challenge ∈
      (calls ++ [Mutating.call (GovernanceCall.step P) call s]).filterMap issuedChallenge := by
    intro challenge hmem
    rw [List.filterMap_append]
    exact List.mem_append_left _ hmem
  rcases step_cases P call s with ⟨challenge, digest, hissued, -, hnext⟩ |
    ⟨envelope, digest, consumed, record, -, -, -, hnext⟩ | ⟨-, -, hnext⟩
  · rw [hnext]
    refine ⟨?_, h.context⟩
    intro key challenge' hget
    rw [Std.ExtTreeMap.getElem?_insert] at hget
    split at hget
    · obtain rfl := Option.some.inj hget
      simp [List.filterMap_append, hissued]
    · exact hmono _ (h.pending key challenge' hget)
  · rw [hnext]
    refine ⟨?_, h.context⟩
    intro key challenge' hget
    rw [GovernanceState.withVote_pendingChallenges, Std.ExtTreeMap.getElem?_erase] at hget
    split at hget
    · cases hget
    · exact hmono _ (h.pending key challenge' hget)
  · rw [hnext]
    exact ⟨fun key challenge' hget => hmono _ (h.pending key challenge' hget), h.context⟩

/-- One step keeps the ledger. -/
theorem VoteLedger.append {P : Primitives} {start s : GovernanceState} {calls : GovernanceCalls}
    (h : VoteLedger P start calls s) (hpending : PendingIssued start calls s)
    (call : GovernanceCall) :
    VoteLedger P start (calls ++ [Mutating.call (GovernanceCall.step P) call s])
      (call.step P s).2 := by
  rcases step_cases P call s with ⟨challenge, digest, -, hnone, hnext⟩ |
    ⟨envelope, digest, consumed, record, -, hsome, haccepted, hnext⟩ | ⟨-, hnone, hnext⟩
  · rw [hnext]
    exact h.append_no_vote hnone rfl rfl
  · rw [hnext]
    exact h.append_vote hpending hsome haccepted
  · rw [hnext]
    exact h.append_no_vote hnone rfl rfl

/-- One step keeps every vote. -/
theorem step_keeps_votes {P : Primitives} {s : GovernanceState} (call : GovernanceCall)
    {key : String} {record : VoteRecord} (h : s.votes[key]? = some record) :
    (call.step P s).2.votes[key]? = some record := by
  rcases step_cases P call s with ⟨challenge, digest, -, -, hnext⟩ |
    ⟨envelope, digest, consumed, record', -, -, haccepted, hnext⟩ | ⟨-, -, hnext⟩
  · rw [hnext]
    exact h
  · rw [hnext, GovernanceState.withVote_votes, Std.ExtTreeMap.getElem?_insert, if_neg, h]
    intro heq
    rw [Std.compare_eq_iff_eq] at heq
    refine haccepted.newPresenter ?_
    rw [heq, Std.ExtTreeMap.mem_iff_isSome_getElem?, h]
    rfl
  · rw [hnext]
    exact h

/-! ## Runs -/

/-- A new service has the ledger of no calls. -/
theorem voteLedger_of_new {P : Primitives} {gate : GateConfig} {proposalId : String}
    {start : GovernanceState} (hnew : GovernanceState.new P gate proposalId = .ok start) :
    VoteLedger P start [] start ∧ PendingIssued start [] start := by
  obtain ⟨-, contextHash, -, rfl⟩ := GovernanceState.new_eq_ok_iff.mp hnew
  refine ⟨⟨rfl, rfl, ?_, List.Pairwise.nil, List.Pairwise.nil, ?_, ?_, ?_⟩, ⟨?_, rfl⟩⟩ <;>
    simp [acceptedEnvelopes]

/-- The ledger of a run. -/
theorem voteLedger_run {P : Primitives} {gate : GateConfig} {proposalId : String}
    {start : GovernanceState} (hnew : GovernanceState.new P gate proposalId = .ok start)
    (calls : List GovernanceCall) :
    VoteLedger P start (Mutating.run (GovernanceCall.step P) calls start)
        (Mutating.final (GovernanceCall.step P) calls start) ∧
      PendingIssued start (Mutating.run (GovernanceCall.step P) calls start)
        (Mutating.final (GovernanceCall.step P) calls start) := by
  refine Mutating.run_induction (GovernanceCall.step P)
    (motive := fun calls s => VoteLedger P start calls s ∧ PendingIssued start calls s)
    (voteLedger_of_new hnew) ?_ calls
  intro calls s call h
  exact ⟨h.1.append h.2 call, h.2.append call⟩

/-- Every run of a new service keeps the ledger, and a vote that is recorded
stays as it is. -/
theorem governance_run {P : Primitives} {gate : GateConfig} {proposalId : String}
    {start : GovernanceState} (hnew : GovernanceState.new P gate proposalId = .ok start)
    (calls : List GovernanceCall) :
    VoteLedger P start (Mutating.run (GovernanceCall.step P) calls start)
        (Mutating.final (GovernanceCall.step P) calls start) ∧
      ∀ (later : List GovernanceCall) (key : String) (record : VoteRecord),
        (Mutating.final (GovernanceCall.step P) calls start).votes[key]? = some record →
        (Mutating.final (GovernanceCall.step P) (calls ++ later) start).votes[key]? =
          some record := by
  refine ⟨(voteLedger_run hnew calls).1, ?_⟩
  intro later key record h
  rw [Mutating.final_append]
  exact Mutating.run_induction (GovernanceCall.step P)
    (motive := fun _ s => s.votes[key]? = some record) h
    (fun _ _ call hs => step_keeps_votes call hs) later

/-- The gate of the test proposal. -/
def treasuryGate : GateConfig :=
  { foundersGate with
    context :=
      { foundersGate.context with
        applicationId := "proofgate-governance"
        gateId := "proposal:treasury-7"
        verifierId := "proofgate-governance:treasury-7" } }

/-- Its context hash. -/
def treasuryContextHash : Digest32 :=
  digestOf 0x16d678f3a070e6dfced00e494eadba493efad0c25190f5ad96406b075f71641a

/-- The journal of the first account for this gate. -/
def treasuryJournal : AttestationJournal :=
  { foundersJournal with contextHash := treasuryContextHash }

/-- A presentation of the journal for the challenge with nonce `[5; 32]`. -/
def treasuryEnvelope : AttestationEnvelope where
  journal := treasuryJournal
  receipt := List.replicate 128 9
  challenge := VerificationChallenge.new treasuryContextHash foundersRoot
    "proofgate-governance:treasury-7" (List.Vector.replicate 32 5) 1000 1500
  presenterSignature := (leBytes 64 0x2275229b8e24ae4133335ce8b758f3401f131251be2bf98d649fd496078f53f2959f2e8cc25cc6f66998d68661fb6421fde2fa5dca51abb17145240561b2d00f).reverse
  transport := .local

def treasuryPrimitives : Primitives :=
  .standard (.ofReceipt (List.Vector.replicate 8 1) (List.replicate 128 9) treasuryJournal)

/-- The new service of the test proposal. -/
def treasuryState : GovernanceState where
  version := governanceStateVersion
  proposalId := "treasury-7"
  gateContextHash := digestToHex treasuryContextHash
  pendingChallenges := ∅
  consumedChallenges := []
  votes := ∅

/-- Issue a challenge, vote with it, and vote again. -/
def treasuryCalls : List GovernanceCall :=
  [.issueChallenge treasuryGate foundersRoot 1000 500 (List.Vector.replicate 32 5),
    .castVote treasuryGate treasuryEnvelope .yes 1200,
    .castVote treasuryGate treasuryEnvelope .no 1300]

theorem new_treasury :
    GovernanceState.new treasuryPrimitives treasuryGate "treasury-7" = .ok treasuryState := by
  have hbinding : validateBinding treasuryGate "treasury-7" = .ok () := by decide +kernel
  have hhash : treasuryGate.contextHash treasuryPrimitives.sha256 = some treasuryContextHash := by
    decide +kernel
  exact GovernanceState.new_eq_ok_iff.mpr ⟨hbinding, treasuryContextHash, hhash, rfl⟩

theorem governance_run_treasury :
    (Mutating.run (GovernanceCall.step treasuryPrimitives) treasuryCalls treasuryState).map
        (fun c => c.result.isOk) = [true, true, false] ∧
      (Mutating.final (GovernanceCall.step treasuryPrimitives) treasuryCalls
        treasuryState).votes.size =
        (acceptedEnvelopes (Mutating.run (GovernanceCall.step treasuryPrimitives) treasuryCalls
          treasuryState)).length := by
  refine ⟨by decide +kernel, (governance_run new_treasury treasuryCalls).1.vote_count⟩

end TokenStudio
