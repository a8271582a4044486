import TokenStudio.ProofgateGovernance.Consistency

/-!
# State files with other spellings

`validate` reads the keys of a state with `parse_digest`, which takes digits of
either case.  `cast_vote` looks the keys up as texts, in the spelling that
`digest_to_hex` writes.  So a state file can be valid and hold a key that no lookup
finds: a presenter who is recorded under an upper-case key can vote again, and a
challenge that is stored under one is unknown.

`one_vote_per_key_iff` says exactly when this does not happen.  A state that the
service has written itself has lower-case keys only, so its votes are safe.
-/

namespace TokenStudio

namespace GovernanceState

section

variable {P : Primitives} {s : GovernanceState} {gate : GateConfig}
  {envelope : AttestationEnvelope} {choice : VoteChoice} {nowUnixMs : UInt64}

/-- On a valid state a challenge is unknown exactly when the text of its digest is not
pending. -/
theorem castVote_eq_unknownChallenge_iff (hvalid : s.Valid P gate s.proposalId) :
    (castVote P gate envelope choice nowUnixMs s).1 = .err .unknownChallenge ↔
      ∃ digest, envelope.challenge.digest P.sha256 = some digest ∧
        digestToHex digest ∉ s.pendingChallenges := by
  have hok := validate_eq_ok_iff.mpr hvalid
  obtain ⟨consumed, hconsumed⟩ := hvalid.exists_consumed
  simp only [castVote, Mutating.write_bind_pure, Mutating.lift_bind_commit,
    Mutating.read_bind_commit, Mutating.commit_fst, hok, hconsumed, Outcome.ok_bind,
    Outcome.bind_eq_err, Outcome.check_eq_err, Outcome.check_eq_ok, Outcome.okOr_eq_err,
    Outcome.okOr_eq_ok, Outcome.mapErr_eq_err, Outcome.ofOption_ne_err, Outcome.ofOption_eq_ok,
    Outcome.pure_eq, verificationError, reduceCtorEq, and_false, or_false,
    false_or, exists_false, and_true, Std.ExtTreeMap.mem_iff_isSome_getElem?,
    Option.not_isSome_iff_eq_none]

end

end GovernanceState

/-! ## One vote for a key -/

/-- `cast_vote` takes no second vote of a presenter who has a vote under some spelling
of the key, and it knows every challenge that is stored as pending. -/
structure OneVotePerKey (P : Primitives) (s : GovernanceState) (gate : GateConfig)
    (envelope : AttestationEnvelope) (choice : VoteChoice) (nowUnixMs : UInt64) : Prop where
  votes : (∃ key ∈ s.votes, parseDigest key = .ok envelope.journal.presenterPublicKey) →
    (GovernanceState.castVote P gate envelope choice nowUnixMs s).1.isOk = false
  pending : (∃ key : String, s.pendingChallenges[key]? = some envelope.challenge) →
    (GovernanceState.castVote P gate envelope choice nowUnixMs s).1 ≠ .err .unknownChallenge

/-- The presenter and the challenge of an admissible envelope are stored under their
lower-case keys, if they are stored at all. -/
structure LowerCaseFor (P : Primitives) (s : GovernanceState) (gate : GateConfig)
    (envelope : AttestationEnvelope) (nowUnixMs : UInt64) : Prop where
  votes : (∃ key ∈ s.votes, parseDigest key = .ok envelope.journal.presenterPublicKey) →
    (∃ digest consumed, s.Admissible P gate envelope nowUnixMs digest consumed) →
    digestToHex envelope.journal.presenterPublicKey ∈ s.votes
  pending : (∃ key : String, s.pendingChallenges[key]? = some envelope.challenge) →
    ∀ digest, envelope.challenge.digest P.sha256 = some digest →
      digestToHex digest ∈ s.pendingChallenges

/-- Every key of the state is a text that `digest_to_hex` writes. -/
structure LowerCase (s : GovernanceState) : Prop where
  votes : ∀ key ∈ s.votes, ∃ digest : Digest32, key = digestToHex digest
  pending : ∀ key ∈ s.pendingChallenges, ∃ digest : Digest32, key = digestToHex digest

theorem LowerCase.lowerCaseFor {P : Primitives} {s : GovernanceState} (h : LowerCase s)
    {gate : GateConfig} (hvalid : s.Valid P gate s.proposalId) (envelope : AttestationEnvelope)
    (nowUnixMs : UInt64) : LowerCaseFor P s gate envelope nowUnixMs where
  votes := by
    rintro ⟨key, hkey, hparse⟩ -
    obtain ⟨digest, rfl⟩ := h.votes key hkey
    rw [GovernanceState.parseDigest_digestToHex] at hparse
    rwa [← Outcome.ok.inj hparse]
  pending := by
    rintro ⟨key, hget⟩ digest hdigest
    have hmem : key ∈ s.pendingChallenges := by
      rw [Std.ExtTreeMap.mem_iff_isSome_getElem?, hget]
      rfl
    obtain ⟨digest', rfl⟩ := h.pending key hmem
    obtain ⟨parsed, hparsed, hdigest'⟩ := hvalid.pending _ _ hget
    rw [GovernanceState.parseDigest_digestToHex] at hparsed
    obtain rfl := Outcome.ok.inj hparsed
    rwa [Option.some.inj (hdigest.symm.trans hdigest')]

/-- A valid state keeps to one vote for a key exactly on the envelopes whose stored keys
are in lower case, and so on all envelopes when all of its keys are. -/
theorem one_vote_per_key_iff {P : Primitives} {s : GovernanceState} {gate : GateConfig}
    {proposalId : String} (h : s.validate P gate proposalId = .ok ()) :
    (∀ envelope choice nowUnixMs, OneVotePerKey P s gate envelope choice nowUnixMs ↔
        LowerCaseFor P s gate envelope nowUnixMs) ∧
      (LowerCase s → ∀ envelope choice nowUnixMs,
        OneVotePerKey P s gate envelope choice nowUnixMs) := by
  have hvalid := GovernanceState.validate_eq_ok_iff.mp h
  obtain rfl := hvalid.proposal
  have hiff : ∀ envelope choice nowUnixMs, OneVotePerKey P s gate envelope choice nowUnixMs ↔
      LowerCaseFor P s gate envelope nowUnixMs := by
    intro envelope choice nowUnixMs
    have haccepted : (GovernanceState.castVote P gate envelope choice nowUnixMs s).1.isOk = true ↔
        _ := GovernanceState.castVote_isOk_iff hvalid
    have hunknown : (GovernanceState.castVote P gate envelope choice nowUnixMs s).1 =
        .err .unknownChallenge ↔ _ := GovernanceState.castVote_eq_unknownChallenge_iff hvalid
    constructor
    · intro hsafe
      refine ⟨?_, ?_⟩
      · intro hkey hadmissible
        by_contra hnot
        have hok := haccepted.mpr ⟨hadmissible, hnot⟩
        rw [hsafe.votes hkey] at hok
        cases hok
      · intro hkey digest hdigest
        by_contra hnot
        exact hsafe.pending hkey (hunknown.mpr ⟨digest, hdigest, hnot⟩)
    · intro hlower
      refine ⟨?_, ?_⟩
      · intro hkey
        rw [← Bool.not_eq_true, haccepted]
        rintro ⟨hadmissible, hnot⟩
        exact hnot (hlower.votes hkey hadmissible)
      · intro hkey
        rw [ne_eq, hunknown]
        rintro ⟨digest, hdigest, hnot⟩
        exact hnot (hlower.pending hkey digest hdigest)
  exact ⟨hiff, fun hlower envelope choice nowUnixMs =>
    (hiff envelope choice nowUnixMs).mpr (hlower.lowerCaseFor hvalid envelope nowUnixMs)⟩

/-- The state of the test proposal with a pending challenge, and a vote of the presenter
under the upper-case text of the key. -/
def shoutingState : GovernanceState :=
  { treasuryState with
    pendingChallenges := (∅ : Std.ExtTreeMap String VerificationChallenge).insert
      "2284fd7da45d76d8e36acb2de049745bef05a8ecf8a07c7016dc3a9049b90404"
      treasuryEnvelope.challenge
    votes := (∅ : Std.ExtTreeMap String VoteRecord).insert
      "ED4928C628D1C2C6EAE90338905995612959273A5C63F93636C14614AC8737D1" ⟨.no, 1100⟩ }

/-- The same state with the pending challenge under an upper-case key and no vote. -/
def shoutingChallengeState : GovernanceState :=
  { treasuryState with
    pendingChallenges := (∅ : Std.ExtTreeMap String VerificationChallenge).insert
      "2284FD7DA45D76D8E36ACB2DE049745BEF05A8ECF8A07C7016DC3A9049B90404"
      treasuryEnvelope.challenge }

/-- Both states are valid.  In the first one the presenter votes a second time, and the
state then counts two votes of one key.  In the second one the challenge is unknown. -/
theorem second_vote_of_one_key :
    (shoutingState.validate treasuryPrimitives treasuryGate "treasury-7" = .ok () ∧
      (shoutingState.votes.keys.map fun key => parseDigest key) = [.ok foundersKey] ∧
      (GovernanceState.castVote treasuryPrimitives treasuryGate treasuryEnvelope .yes 1200
        shoutingState).1 = .ok ⟨foundersKey, .yes, 2⟩) ∧
    shoutingChallengeState.validate treasuryPrimitives treasuryGate "treasury-7" = .ok () ∧
      (GovernanceState.castVote treasuryPrimitives treasuryGate treasuryEnvelope .yes 1200
        shoutingChallengeState).1 = .err .unknownChallenge := by
  refine ⟨⟨by decide +kernel, by decide +kernel, by decide +kernel⟩, by decide +kernel,
    by decide +kernel⟩

/-- The state of the test proposal with the pending challenge and a vote of the presenter,
both under the texts that the service writes. -/
def recordedState : GovernanceState :=
  { shoutingState with
    votes := (∅ : Std.ExtTreeMap String VoteRecord).insert (digestToHex foundersKey) ⟨.no, 1100⟩ }

/-- There the presenter cannot vote again, for this reason alone. -/
theorem one_vote_per_key_treasury :
    OneVotePerKey treasuryPrimitives recordedState treasuryGate treasuryEnvelope .yes 1200 ∧
      (GovernanceState.castVote treasuryPrimitives treasuryGate treasuryEnvelope .yes 1200
        recordedState).1 = .err .duplicateVote := by
  have hvalid : recordedState.validate treasuryPrimitives treasuryGate "treasury-7" = .ok () := by
    decide +kernel
  have hvotes : ∀ key ∈ recordedState.votes, ∃ digest : Digest32, key = digestToHex digest := by
    intro key hkey
    rw [recordedState, Std.ExtTreeMap.mem_insert] at hkey
    rcases hkey with hkey | hkey
    · exact ⟨foundersKey, (Std.compare_eq_iff_eq.mp hkey).symm⟩
    · simp at hkey
  have hpending : ∀ key ∈ recordedState.pendingChallenges, ∃ digest : Digest32,
      key = digestToHex digest := by
    intro key hkey
    rw [recordedState, shoutingState, Std.ExtTreeMap.mem_insert] at hkey
    rcases hkey with hkey | hkey
    · refine ⟨digestOf 0x2284fd7da45d76d8e36acb2de049745bef05a8ecf8a07c7016dc3a9049b90404, ?_⟩
      rw [← Std.compare_eq_iff_eq.mp hkey]
      decide +kernel
    · simp at hkey
  exact ⟨(one_vote_per_key_iff hvalid).2 ⟨hvotes, hpending⟩ treasuryEnvelope .yes 1200,
    by decide +kernel⟩

end TokenStudio
