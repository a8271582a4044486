import TokenStudio.ProofgateGovernance.Votes

/-!
# Governance states stay valid

`GovernanceState.validate` reads back the texts that other calls have written.
`Valid` is what it checks, and `Consistent` is the stronger property that every
call keeps: the keys and the stored digests are texts that the service writes
itself, and there is room for the pending challenges.  On a consistent state
`validate` comes down to its comparison with the gate (`Consistent.validate`), so
a service never ends in a state that it refuses.
`issueChallenge_eq_ok_iff` and `castVote_isOk_iff` say what the two calls need on a
valid state.

`governance_states_consistent` is the result for runs.  It also says that a failed
call changes nothing and how a challenge stops pending.
-/

namespace TokenStudio

namespace GovernanceState

/-- What `validate` checks. -/
structure Valid (P : Primitives) (s : GovernanceState) (gate : GateConfig)
    (proposalId : String) : Prop where
  version : s.version = governanceStateVersion
  binding : validateBinding gate proposalId = .ok ()
  context : ∃ contextHash, gate.contextHash P.sha256 = some contextHash ∧
    s.gateContextHash = digestToHex contextHash
  proposal : s.proposalId = proposalId
  consumed : ∀ text ∈ s.consumedChallenges, ∃ digest, parseDigest text = .ok digest
  pending : ∀ (key : String) challenge, s.pendingChallenges[key]? = some challenge →
    ∃ digest, parseDigest key = .ok digest ∧ challenge.digest P.sha256 = some digest
  votes : ∀ key ∈ s.votes, ∃ digest, parseDigest key = .ok digest

theorem validate_eq_ok_iff {P : Primitives} {self : GovernanceState} {gate : GateConfig}
    {proposalId : String} :
    self.validate P gate proposalId = .ok () ↔ self.Valid P gate proposalId := by
  simp only [validate, Outcome.bind_eq_ok, Outcome.check_eq_ok, Outcome.exists_unit,
    Outcome.forM_eq_ok, Outcome.liftM_eq, Outcome.ofOption_eq_ok, Outcome.pure_eq, not_or,
    not_not, ne_eq, and_true, Prod.forall, Std.ExtTreeMap.mem_toList_iff_getElem?_eq_some,
    Std.ExtTreeMap.mem_keys]
  constructor
  · rintro ⟨hversion, hbinding, contextHash, hhash, ⟨hproposal, hcontext⟩, hconsumed, hpending,
      hvotes⟩
    refine ⟨hversion, hbinding, ⟨contextHash, hhash, hcontext⟩, hproposal, hconsumed, ?_, hvotes⟩
    intro key challenge hget
    obtain ⟨parsed, hparsed, digest, hdigest, rfl⟩ := hpending key challenge hget
    exact ⟨parsed, hparsed, hdigest⟩
  · intro h
    obtain ⟨contextHash, hhash, hcontext⟩ := h.context
    refine ⟨h.version, h.binding, contextHash, hhash, ⟨h.proposal, hcontext⟩, h.consumed, ?_,
      h.votes⟩
    intro key challenge hget
    obtain ⟨digest, hparsed, hdigest⟩ := h.pending key challenge hget
    exact ⟨digest, hparsed, digest, hdigest, rfl⟩

/-- The consumed challenges of a valid state can be read. -/
theorem Valid.exists_consumed {P : Primitives} {s : GovernanceState} {gate : GateConfig}
    {proposalId : String} (hvalid : s.Valid P gate proposalId) :
    ∃ consumed, s.consumedChallenges.mapM parseDigest = .ok consumed := by
  have htexts := hvalid.consumed
  choose! digest hdigest using htexts
  refine ⟨s.consumedChallenges.map digest, ?_⟩
  rw [Outcome.mapM_eq_ok, List.forall₂_map_right_iff, List.forall₂_same]
  exact hdigest

/-- What the calls of the service keep: it has written every text itself. -/
structure Consistent (P : Primitives) (s : GovernanceState) : Prop where
  version : s.version = governanceStateVersion
  pending : ∀ (key : String) challenge, s.pendingChallenges[key]? = some challenge →
    ∃ digest, challenge.digest P.sha256 = some digest ∧ key = digestToHex digest
  room : s.pendingChallenges.size ≤ maxPendingChallenges
  consumed : ∃ cache : InMemoryReplayCache, s.consumedChallenges = consumedTexts cache
  votes : ∀ key ∈ s.votes, ∃ digest : Digest32, key = digestToHex digest

/-- What `cast_vote` checks of an envelope besides the gate and the earlier votes. -/
structure Admissible (P : Primitives) (s : GovernanceState) (gate : GateConfig)
    (envelope : AttestationEnvelope) (nowUnixMs : UInt64) (digest : Digest32)
    (consumed : List Digest32) : Prop where
  digest_eq : envelope.challenge.digest P.sha256 = some digest
  pending : s.pendingChallenges[digestToHex digest]? = some envelope.challenge
  consumed_eq : s.consumedChallenges.mapM parseDigest = .ok consumed
  fresh : digest ∉ consumed
  presentable : Presentable P (voteRequest gate envelope envelope.challenge nowUnixMs)

section

variable {P : Primitives} {self : GovernanceState}

/-- A consistent state passes every check of `validate` but the one of the gate. -/
theorem Consistent.valid (h : self.Consistent P) {gate : GateConfig}
    (hbinding : validateBinding gate self.proposalId = .ok ())
    (hcontext : ∃ contextHash, gate.contextHash P.sha256 = some contextHash ∧
      self.gateContextHash = digestToHex contextHash) :
    self.Valid P gate self.proposalId where
  version := h.version
  binding := hbinding
  context := hcontext
  proposal := rfl
  consumed := by
    obtain ⟨cache, hcache⟩ := h.consumed
    intro text htext
    rw [hcache] at htext
    obtain ⟨digest, -, rfl⟩ := mem_consumedTexts.mp htext
    exact ⟨digest, parseDigest_digestToHex digest⟩
  pending := by
    intro key challenge hget
    obtain ⟨digest, hdigest, rfl⟩ := h.pending key challenge hget
    exact ⟨digest, parseDigest_digestToHex digest, hdigest⟩
  votes := by
    intro key hkey
    obtain ⟨digest, rfl⟩ := h.votes key hkey
    exact ⟨digest, parseDigest_digestToHex digest⟩

/-- On a consistent state `validate` comes down to its comparison with the gate. -/
theorem Consistent.validate (h : self.Consistent P) (gate : GateConfig) :
    self.validate P gate self.proposalId = (do
      validateBinding gate self.proposalId
      let contextHash ← (gate.contextHash P.sha256 : Option Digest32)
      Outcome.check (self.gateContextHash ≠ digestToHex contextHash)
        GovernanceError.stateMismatch) := by
  cases hbinding : validateBinding gate self.proposalId with
  | err e => simp [GovernanceState.validate, h.version, hbinding]
  | panic => simp [GovernanceState.validate, h.version, hbinding]
  | ok u =>
    cases hhash : gate.contextHash P.sha256 with
    | none => simp [GovernanceState.validate, h.version, hbinding, hhash]
    | some contextHash =>
      by_cases hcontext : self.gateContextHash = digestToHex contextHash
      · rw [validate_eq_ok_iff.mpr (h.valid hbinding ⟨contextHash, hhash, hcontext⟩)]
        simp [hcontext]
      · simp [GovernanceState.validate, h.version, hbinding, hhash, hcontext]

/-! ## What a call needs and what it keeps -/

/-- When `issue_challenge` succeeds. -/
theorem issueChallenge_eq_ok_iff {gate : GateConfig} {root : Digest32}
    {nowUnixMs ttlMs : UInt64} {nonce : Digest32} {challenge : VerificationChallenge} :
    (issueChallenge P gate root nowUnixMs ttlMs nonce self).1 = .ok challenge ↔
      self.Valid P gate self.proposalId ∧ self.pendingChallenges.size < maxPendingChallenges ∧
        createChallenge P gate root gate.context.verifierId nowUnixMs ttlMs nonce =
          .ok challenge ∧
        ∃ digest, challenge.digest P.sha256 = some digest := by
  simp only [issueChallenge, Mutating.write_bind_pure, Mutating.lift_bind_commit,
    Mutating.read_bind_commit, Mutating.commit_fst, Outcome.bind_eq_ok, Outcome.check_eq_ok,
    Outcome.exists_unit, Outcome.mapErr_eq_ok, Outcome.ofOption_eq_ok, Outcome.pure_eq,
    Outcome.ok.injEq, validate_eq_ok_iff, Nat.not_le, ge_iff_le]
  constructor
  · rintro ⟨_, ⟨hvalid, hroom, challenge', hcreate, digest, hdigest, rfl⟩, rfl⟩
    exact ⟨hvalid, hroom, hcreate, digest, hdigest⟩
  · rintro ⟨hvalid, hroom, hcreate, digest, hdigest⟩
    exact ⟨_, ⟨hvalid, hroom, challenge, hcreate, digest, hdigest, rfl⟩, rfl⟩

/-- On a valid state a vote is accepted exactly when it is admissible and its presenter
has no vote under the text of the key. -/
theorem castVote_isOk_iff {gate : GateConfig} {envelope : AttestationEnvelope}
    {choice : VoteChoice} {nowUnixMs : UInt64} (hvalid : self.Valid P gate self.proposalId) :
    (castVote P gate envelope choice nowUnixMs self).1.isOk = true ↔
      (∃ digest consumed, self.Admissible P gate envelope nowUnixMs digest consumed) ∧
        digestToHex envelope.journal.presenterPublicKey ∉ self.votes := by
  have hok := validate_eq_ok_iff.mpr hvalid
  simp only [castVote, Mutating.write_bind_pure, Mutating.lift_bind_commit,
    Mutating.read_bind_commit, Mutating.commit_fst, Outcome.isOk_iff, Outcome.bind_eq_ok,
    Outcome.check_eq_ok, Outcome.exists_unit, Outcome.okOr_eq_ok, Outcome.mapErr_eq_ok,
    Outcome.ofOption_eq_ok, Outcome.pure_eq, Outcome.ok.injEq, hok, true_and]
  constructor
  · rintro ⟨_, _, ⟨digest, hdigest, expected, hexpected, hnew, consumed, hconsumed, verified,
      hverified, -⟩, -⟩
    have haccepted : (verify P (voteRequest gate envelope expected nowUnixMs)
        (.fromConsumed consumed)).1.isOk = true := Outcome.isOk_iff.mpr ⟨verified, hverified⟩
    obtain ⟨hpresentable, hfresh⟩ := verify_eq_ok_iff.mp haccepted
    have hchallenge : envelope.challenge = expected := hpresentable.claims.challenge
    subst hchallenge
    refine ⟨⟨digest, consumed, hdigest, hexpected, hconsumed, ?_, hpresentable⟩,
      by simpa using hnew⟩
    simpa [InMemoryReplayCache.fromConsumed] using hfresh digest hdigest
  · rintro ⟨⟨digest, consumed, h⟩, hnew⟩
    have haccepted : (verify P (voteRequest gate envelope envelope.challenge nowUnixMs)
        (.fromConsumed consumed)).1.isOk = true := by
      refine verify_eq_ok_iff.mpr ⟨h.presentable, ?_⟩
      intro digest' hdigest'
      obtain rfl : digest = digest' := Option.some.inj (h.digest_eq.symm.trans hdigest')
      simpa [InMemoryReplayCache.fromConsumed] using h.fresh
    obtain ⟨verified, hverified⟩ := Outcome.isOk_iff.mp haccepted
    exact ⟨_, _, ⟨digest, h.digest_eq, envelope.challenge, h.pending, by simpa using hnew, consumed,
      h.consumed_eq, verified, hverified, rfl⟩, rfl⟩

/-- A new challenge keeps the state consistent. -/
theorem Consistent.insertPending (h : self.Consistent P) {challenge : VerificationChallenge}
    {digest : Digest32} (hdigest : challenge.digest P.sha256 = some digest)
    (hroom : self.pendingChallenges.size < maxPendingChallenges) :
    Consistent P { self with
      pendingChallenges := self.pendingChallenges.insert (digestToHex digest) challenge } where
  version := h.version
  pending := by
    intro key challenge' hget
    rw [Std.ExtTreeMap.getElem?_insert] at hget
    split at hget
    · rename_i hkey
      obtain rfl := Option.some.inj hget
      exact ⟨digest, hdigest, (Std.compare_eq_iff_eq.mp hkey).symm⟩
    · exact h.pending key challenge' hget
  room := by
    have hsize : (self.pendingChallenges.insert (digestToHex digest) challenge).size ≤
        self.pendingChallenges.size + 1 := Std.ExtTreeMap.size_insert_le
    exact hsize.trans hroom
  consumed := h.consumed
  votes := h.votes

/-- An accepted vote keeps the state consistent. -/
theorem Consistent.withVote (h : self.Consistent P) (key : String)
    (cache : InMemoryReplayCache) (presenter : Digest32) (record : VoteRecord) :
    Consistent P (self.withVote key cache presenter record) where
  version := h.version
  pending := by
    intro key' challenge hget
    rw [withVote_pendingChallenges, Std.ExtTreeMap.getElem?_erase] at hget
    split at hget
    · cases hget
    · exact h.pending key' challenge hget
  room := by
    rw [withVote_pendingChallenges]
    exact Std.ExtTreeMap.size_erase_le.trans h.room
  consumed := ⟨cache, rfl⟩
  votes := by
    intro key' hkey'
    rw [withVote_votes, Std.ExtTreeMap.mem_insert] at hkey'
    rcases hkey' with hkey' | hkey'
    · exact ⟨presenter, (Std.compare_eq_iff_eq.mp hkey').symm⟩
    · exact h.votes key' hkey'

end

end GovernanceState

/-! ## One step -/

section

variable {P : Primitives} {s : GovernanceState}

/-- One step keeps a consistent state consistent. -/
theorem step_consistent (h : s.Consistent P) (call : GovernanceCall) :
    (call.step P s).2.Consistent P := by
  cases call with
  | issueChallenge gate root nowUnixMs ttlMs nonce =>
    rw [GovernanceCall.step, Mutating.bind_pure_apply]
    rcases GovernanceState.issueChallenge_cases P gate root nowUnixMs ttlMs nonce s with
      ⟨challenge, digest, hdigest, hcall⟩ | ⟨-, hsame⟩
    · have hroom :=
        (GovernanceState.issueChallenge_eq_ok_iff.mp (congrArg Prod.fst hcall)).2.1
      rw [hcall]
      exact h.insertPending hdigest hroom
    · rw [hsame]
      exact h
  | castVote gate envelope choice nowUnixMs =>
    rw [GovernanceCall.step, Mutating.bind_pure_apply]
    rcases GovernanceState.castVote_cases P gate envelope choice nowUnixMs s with
      ⟨_, digest, consumed, -, hcall, -⟩ | ⟨-, hsame⟩
    · rw [hcall]
      exact h.withVote _ _ _ _
    · rw [hsame]
      exact h

/-- One step keeps what ties the state to its proposal. -/
theorem step_keeps_binding (call : GovernanceCall) :
    (call.step P s).2.version = s.version ∧ (call.step P s).2.proposalId = s.proposalId ∧
      (call.step P s).2.gateContextHash = s.gateContextHash := by
  rcases step_cases P call s with ⟨_, _, -, -, hnext⟩ | ⟨_, _, _, _, -, -, -, hnext⟩ |
    ⟨-, -, hnext⟩
  · rw [hnext]
    exact ⟨rfl, rfl, rfl⟩
  · rw [hnext]
    exact ⟨rfl, rfl, rfl⟩
  · rw [hnext]
    exact ⟨rfl, rfl, rfl⟩

/-- A call that fails changes nothing. -/
theorem step_of_failed (call : GovernanceCall) (h : (call.step P s).1.isOk = false) :
    (call.step P s).2 = s := by
  cases call with
  | issueChallenge gate root nowUnixMs ttlMs nonce =>
    rw [GovernanceCall.step, Mutating.bind_pure_apply] at h ⊢
    rcases GovernanceState.issueChallenge_cases P gate root nowUnixMs ttlMs nonce s with
      ⟨challenge, _, -, hcall⟩ | ⟨-, hsame⟩
    · rw [hcall] at h
      cases h
    · exact hsame
  | castVote gate envelope choice nowUnixMs =>
    rw [GovernanceCall.step, Mutating.bind_pure_apply] at h ⊢
    rcases GovernanceState.castVote_cases P gate envelope choice nowUnixMs s with
      ⟨_, _, _, -, hcall, -⟩ | ⟨-, hsame⟩
    · rw [hcall] at h
      cases h
    · exact hsame

/-- A pending challenge stays, or it was presented by an accepted vote, or the call
issued another challenge with the same digest. -/
theorem step_pending (call : GovernanceCall) {key : String} {challenge : VerificationChallenge}
    (hget : s.pendingChallenges[key]? = some challenge) :
    (call.step P s).2.pendingChallenges[key]? = some challenge ∨
      (∃ envelope, acceptedEnvelope (Mutating.call (GovernanceCall.step P) call s) =
          some envelope ∧
        s.pendingChallenges[key]? = some envelope.challenge) ∨
      ∃ other digest, issuedChallenge (Mutating.call (GovernanceCall.step P) call s) =
          some other ∧
        other.digest P.sha256 = some digest ∧ digestToHex digest = key ∧
        (call.step P s).2.pendingChallenges[key]? = some other := by
  cases call with
  | issueChallenge gate root nowUnixMs ttlMs nonce =>
    simp only [Mutating.call, GovernanceCall.step, Mutating.bind_pure_apply]
    rcases GovernanceState.issueChallenge_cases P gate root nowUnixMs ttlMs nonce s with
      ⟨other, digest, hdigest, hcall⟩ | ⟨-, hsame⟩
    · rw [hcall]
      by_cases hkey : digestToHex digest = key
      · refine Or.inr (Or.inr ⟨other, digest, rfl, hdigest, hkey, ?_⟩)
        simp [hkey]
      · refine Or.inl ?_
        simp [Std.ExtTreeMap.getElem?_insert, hkey, hget]
    · rw [hsame]
      exact Or.inl hget
  | castVote gate envelope choice nowUnixMs =>
    simp only [Mutating.call, GovernanceCall.step, Mutating.bind_pure_apply]
    rcases GovernanceState.castVote_cases P gate envelope choice nowUnixMs s with
      ⟨_, digest, _, haccepted, hcall, -⟩ | ⟨-, hsame⟩
    · rw [hcall]
      by_cases hkey : digestToHex digest = key
      · refine Or.inr (Or.inl ⟨envelope, rfl, ?_⟩)
        rw [← hkey]
        exact haccepted.pending
      · refine Or.inl ?_
        simp [Std.ExtTreeMap.getElem?_erase, hkey, hget]
    · rw [hsame]
      exact Or.inl hget

end

/-! ## Runs -/

/-- What holds of every state of a service. -/
structure ServiceState (P : Primitives) (gate : GateConfig) (proposalId : String)
    (start s : GovernanceState) : Prop where
  valid : s.validate P gate proposalId = .ok ()
  version : s.version = start.version
  proposal : s.proposalId = start.proposalId
  context : s.gateContextHash = start.gateContextHash
  room : s.pendingChallenges.size ≤ maxPendingChallenges
  keys : ∀ (key : String) challenge, s.pendingChallenges[key]? = some challenge →
    ∃ digest, challenge.digest P.sha256 = some digest ∧ key = digestToHex digest

/-- What holds of every call of a service. -/
structure ServiceCall (P : Primitives)
    (c : Call GovernanceCall GovernanceState GovernanceError GovernanceReply) : Prop where
  /-- A failed call changes nothing. -/
  atomic : c.result.isOk = false → c.after = c.before
  /-- A digest stops pending when an accepted vote presents its challenge. -/
  leaves : ∀ key ∈ c.before.pendingChallenges, key ∉ c.after.pendingChallenges →
    ∃ envelope, acceptedEnvelope c = some envelope ∧
      c.before.pendingChallenges[key]? = some envelope.challenge
  /-- So does the challenge itself, unless a new one collides with it. -/
  keeps : ∀ (key : String) challenge, c.before.pendingChallenges[key]? = some challenge →
    CollisionFree P.sha256 ((challenge :: (issuedChallenge c).toList).flatMap fun x =>
      x.canonicalBytes.toList) →
    c.after.pendingChallenges[key]? = some challenge ∨
      ∃ envelope, acceptedEnvelope c = some envelope ∧ envelope.challenge = challenge

/-- Two challenges with the same digest are equal, unless their encodings collide. -/
theorem VerificationChallenge.eq_of_digest_eq {sha256 : Bytes → Digest32}
    {c c' : VerificationChallenge} {digest : Digest32}
    (hfree : CollisionFree sha256 (c.canonicalBytes.toList ++ c'.canonicalBytes.toList))
    (h : c.digest sha256 = some digest) (h' : c'.digest sha256 = some digest) : c = c' := by
  obtain ⟨b, hb, hd⟩ := Option.map_eq_some_iff.mp h
  obtain ⟨b', hb', hd'⟩ := Option.map_eq_some_iff.mp h'
  have hbytes : b = b' := hfree b (by simp [hb]) b' (by simp [hb']) (hd.trans hd'.symm)
  exact (canonicalBytes_peel hb hb' (congrArg (· ++ []) hbytes)).1

/-- What a service has at its start. -/
theorem consistent_of_new {P : Primitives} {gate : GateConfig} {proposalId : String}
    {start : GovernanceState} (hnew : GovernanceState.new P gate proposalId = .ok start) :
    start.Consistent P ∧ validateBinding gate proposalId = .ok () ∧
      start.proposalId = proposalId ∧
      ∃ contextHash, gate.contextHash P.sha256 = some contextHash ∧
        start.gateContextHash = digestToHex contextHash := by
  obtain ⟨hbinding, contextHash, hhash, rfl⟩ := GovernanceState.new_eq_ok_iff.mp hnew
  refine ⟨⟨rfl, by simp, Nat.zero_le _, ⟨⟨∅⟩, ?_⟩, by simp⟩, hbinding, rfl, contextHash, hhash,
    rfl⟩
  simp [GovernanceState.consumedTexts]

/-- Every state that a service reaches is consistent and bound to its proposal. -/
theorem service_reaches {P : Primitives} {gate : GateConfig} {proposalId : String}
    {start : GovernanceState} (hnew : GovernanceState.new P gate proposalId = .ok start)
    (calls : List GovernanceCall) :
    (Mutating.final (GovernanceCall.step P) calls start).Consistent P ∧
      ServiceState P gate proposalId start
        (Mutating.final (GovernanceCall.step P) calls start) := by
  obtain ⟨hstart, hbinding, hproposal, contextHash, hhash, hcontext⟩ := consistent_of_new hnew
  obtain ⟨hconsistent, hversion', hproposal', hcontext'⟩ :=
    Mutating.run_induction (GovernanceCall.step P)
      (motive := fun _ s => s.Consistent P ∧ s.version = start.version ∧
        s.proposalId = start.proposalId ∧ s.gateContextHash = start.gateContextHash)
      ⟨hstart, rfl, rfl, rfl⟩
      (fun _ s call ⟨hs, hv, hp, hc⟩ => by
        obtain ⟨hv', hp', hc'⟩ := step_keeps_binding (P := P) (s := s) call
        exact ⟨step_consistent hs call, hv'.trans hv, hp'.trans hp, hc'.trans hc⟩) calls
  have hid := hproposal'.trans hproposal
  have hbound : validateBinding gate
      (Mutating.final (GovernanceCall.step P) calls start).proposalId = .ok () := by
    rw [hid]
    exact hbinding
  have hvalid := hconsistent.valid hbound ⟨contextHash, hhash, hcontext'.trans hcontext⟩
  rw [hid] at hvalid
  exact ⟨hconsistent, GovernanceState.validate_eq_ok_iff.mpr hvalid, hversion', hproposal',
    hcontext', hconsistent.room, hconsistent.pending⟩

/-- One call on a consistent state. -/
theorem serviceCall {P : Primitives} {s : GovernanceState} (h : s.Consistent P)
    (call : GovernanceCall) : ServiceCall P (Mutating.call (GovernanceCall.step P) call s) where
  atomic := step_of_failed call
  leaves := by
    intro key hbefore hafter
    obtain ⟨challenge, hget⟩ : ∃ challenge, s.pendingChallenges[key]? = some challenge := by
      rw [← Option.isSome_iff_exists, ← Std.ExtTreeMap.mem_iff_isSome_getElem?]
      exact hbefore
    have hnone : ∀ other, (call.step P s).2.pendingChallenges[key]? ≠ some other := by
      intro other hother
      refine hafter ?_
      show key ∈ (call.step P s).2.pendingChallenges
      rw [Std.ExtTreeMap.mem_iff_isSome_getElem?, hother]
      rfl
    rcases step_pending call hget with hsame | haccepted | ⟨other, _, -, -, -, hother⟩
    · exact absurd hsame (hnone challenge)
    · exact haccepted
    · exact absurd hother (hnone other)
  keeps := by
    intro key challenge hbefore hfree
    have hget : s.pendingChallenges[key]? = some challenge := hbefore
    rcases step_pending call hget with hsame | ⟨envelope, haccepted, hpresented⟩ |
      ⟨other, digest, hissued, hdigest, hkey, hother⟩
    · exact Or.inl hsame
    · exact Or.inr ⟨envelope, haccepted, Option.some.inj (hpresented.symm.trans hget)⟩
    · -- the new challenge is the old one
      obtain ⟨digest', hdigest', hkey'⟩ := h.pending key challenge hget
      obtain rfl := digestToHex_injective (hkey.trans hkey')
      rw [hissued] at hfree
      have heq := VerificationChallenge.eq_of_digest_eq (by simpa using hfree) hdigest' hdigest
      exact Or.inl (by rw [heq]; exact hother)

/-- A service never reaches a state that it refuses, its failed calls change nothing,
and a challenge stops pending only in an accepted vote. -/
theorem governance_states_consistent {P : Primitives} {gate : GateConfig} {proposalId : String}
    {start : GovernanceState} (hnew : GovernanceState.new P gate proposalId = .ok start)
    (calls : List GovernanceCall) :
    ServiceState P gate proposalId start
        (Mutating.final (GovernanceCall.step P) calls start) ∧
      ∀ c ∈ Mutating.run (GovernanceCall.step P) calls start, ServiceCall P c := by
  refine ⟨(service_reaches hnew calls).2, ?_⟩
  intro c hc
  obtain ⟨before, _, -, hcall⟩ := Mutating.mem_run (GovernanceCall.step P) hc
  rw [hcall]
  exact serviceCall (service_reaches hnew before).1 c.input

/-- The service of the test proposal after a challenge, a vote and a second vote. -/
theorem governance_states_consistent_treasury :
    (Mutating.final (GovernanceCall.step treasuryPrimitives) treasuryCalls
        treasuryState).validate treasuryPrimitives treasuryGate "treasury-7" = .ok () ∧
      ∀ c ∈ Mutating.run (GovernanceCall.step treasuryPrimitives) treasuryCalls treasuryState,
        c.result.isOk = false → c.after = c.before := by
  obtain ⟨hstate, hcalls⟩ := governance_states_consistent new_treasury treasuryCalls
  exact ⟨hstate.valid, fun c hc => (hcalls c hc).atomic⟩

end TokenStudio
