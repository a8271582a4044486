import Mathlib.Data.Multiset.Sort
import Mathlib.Data.String.Basic
import Std.Data.ExtTreeMap.Lemmas
import TokenStudio.AttestationTypes.Hex
import TokenStudio.AttestationVerifier.Basic

/-!
# The governance service

The model of the crate `proofgate-governance`: one proposal, the challenges it
has issued, the challenges it has consumed, and the votes.  The two `BTreeMap`s
are `Std.ExtTreeMap`s, and both operations are `Mutating` calls.

`castVote` rebuilds a replay cache from the stored texts, runs `verify` on it,
and stores the texts of the new cache in sorted order.

The spec lemmas are `issueChallenge_cases` and `castVote_cases`.  An accepted
vote has passed `verify` for a pending challenge and comes from a presenter
without a vote.  Every other call leaves the state as it was, whether it
returns an error or panics.  A call can only panic on a challenge with a
verifier id of `2 ^ 32` bytes or more.
-/

namespace TokenStudio

/-- `GOVERNANCE_STATE_VERSION`. -/
def governanceStateVersion : UInt16 := 1

/-- `GOVERNANCE_APPLICATION_ID`. -/
def governanceApplicationId : String := "proofgate-governance"

/-- `MAX_PENDING_CHALLENGES`. -/
def maxPendingChallenges : Nat := 4096

inductive VoteChoice where
  | yes
  | no
  | abstain
  deriving DecidableEq, Repr

structure VoteRecord where
  choice : VoteChoice
  castAtUnixMs : UInt64
  deriving DecidableEq, Repr

structure GovernanceState where
  version : UInt16
  proposalId : String
  gateContextHash : String
  pendingChallenges : Std.ExtTreeMap String VerificationChallenge
  consumedChallenges : List String
  votes : Std.ExtTreeMap String VoteRecord

structure CastOutcome where
  presenterPublicKey : Digest32
  choice : VoteChoice
  totalVotes : Nat
  deriving DecidableEq

inductive GovernanceError where
  | invalidGate (message : String)
  | invalidProposalId
  | wrongProposalBinding (proposalId : String)
  | unsupportedStateVersion (actual expected : UInt16)
  | stateMismatch
  | tooManyPendingChallenges
  | unknownChallenge
  | duplicateVote
  | malformedStateDigest
  | verification (code : UInt16) (source : VerificationError)
  deriving DecidableEq, Repr

/-- The text of a `GovernanceError`. -/
def GovernanceError.toText : GovernanceError → String
  | .invalidGate message => "invalid gate configuration: " ++ message
  | .invalidProposalId => "proposal id must be 1..=128 visible ASCII characters"
  | .wrongProposalBinding proposalId => "gate is not bound to governance proposal " ++ proposalId
  | .unsupportedStateVersion actual expected =>
    "governance state version " ++ toString actual ++ " is unsupported; expected " ++
      toString expected
  | .stateMismatch => "governance state does not match the supplied gate or proposal"
  | .tooManyPendingChallenges => "too many outstanding verification challenges"
  | .unknownChallenge => "presentation challenge was not issued by this governance service"
  | .duplicateVote => "presenter has already voted on this proposal"
  | .malformedStateDigest => "stored challenge digest is malformed"
  | .verification code source =>
    "attestation denied [" ++ toString code ++ "]: " ++ source.toText

/-- `u8::is_ascii_graphic`. -/
def isAsciiGraphic (byte : UInt8) : Bool := 0x21 ≤ byte && byte ≤ 0x7e

/-- `validate_binding`. -/
def validateBinding (gate : GateConfig) (proposalId : String) : Outcome GovernanceError Unit := do
  gate.validate.mapErr fun error => .invalidGate error.toText
  Outcome.check (asBytes proposalId = [] ∨ (asBytes proposalId).length > 128 ∨
    ¬ (asBytes proposalId).all isAsciiGraphic) .invalidProposalId
  let expectedGateId := "proposal:" ++ proposalId
  let expectedVerifierId := "proofgate-governance:" ++ proposalId
  Outcome.check (gate.context.applicationId ≠ governanceApplicationId ∨
    gate.context.gateId ≠ expectedGateId ∨ gate.context.verifierId ≠ expectedVerifierId)
    (.wrongProposalBinding proposalId)

/-- `parse_digest`. -/
def parseDigest (value : String) : Outcome GovernanceError Digest32 := do
  let decoded ← Outcome.okOr (hexDecode (asBytes value)) .malformedStateDigest
  if h : decoded.length = 32 then pure ⟨decoded, h⟩ else .err .malformedStateDigest

/-- `verification_error`. -/
def verificationError (source : VerificationError) : GovernanceError :=
  .verification source.code source

namespace GovernanceState

/-- `GovernanceState::new`. -/
def new (P : Primitives) (gate : GateConfig) (proposalId : String) :
    Outcome GovernanceError GovernanceState := do
  validateBinding gate proposalId
  let contextHash ← gate.contextHash P.sha256
  pure
    { version := governanceStateVersion
      proposalId
      gateContextHash := digestToHex contextHash
      pendingChallenges := ∅
      consumedChallenges := []
      votes := ∅ }

/-- `GovernanceState::validate`. -/
def validate (P : Primitives) (self : GovernanceState) (gate : GateConfig) (proposalId : String) :
    Outcome GovernanceError Unit := do
  Outcome.check (self.version ≠ governanceStateVersion)
    (.unsupportedStateVersion self.version governanceStateVersion)
  validateBinding gate proposalId
  let contextHash ← gate.contextHash P.sha256
  Outcome.check (self.proposalId ≠ proposalId ∨
    self.gateContextHash ≠ digestToHex contextHash) .stateMismatch
  self.consumedChallenges.forM fun digest => do
    let _ ← parseDigest digest
    pure ()
  self.pendingChallenges.toList.forM fun (digest, challenge) => do
    let parsed ← parseDigest digest
    let challengeDigest ← challenge.digest P.sha256
    Outcome.check (parsed ≠ challengeDigest) .stateMismatch
  self.votes.keys.forM fun presenter => do
    let _ ← parseDigest presenter
    pure ()

/-- `GovernanceState::issue_challenge`, with the nonce that the random generator
gives. -/
def issueChallenge (P : Primitives) (gate : GateConfig) (expectedCommitmentRoot : Digest32)
    (nowUnixMs ttlMs : UInt64) (nonce : Digest32) :
    Mutating GovernanceState GovernanceError VerificationChallenge := do
  let self ← Mutating.read
  self.validate P gate self.proposalId
  Outcome.check (self.pendingChallenges.size ≥ maxPendingChallenges)
    GovernanceError.tooManyPendingChallenges
  let challenge ← (createChallenge P gate expectedCommitmentRoot gate.context.verifierId nowUnixMs
    ttlMs nonce).mapErr verificationError
  let digest ← (Outcome.ofOption (challenge.digest P.sha256) : Outcome GovernanceError Digest32)
  Mutating.write
    { self with
      pendingChallenges := self.pendingChallenges.insert (digestToHex digest) challenge }
  pure challenge

/-- The stored form of a replay cache: the texts of its digests in ascending
order. -/
def consumedTexts (replayCache : InMemoryReplayCache) : List String :=
  (replayCache.consumed.val.map digestToHex).sort (· ≤ ·)

/-- The state after an accepted vote. -/
def withVote (self : GovernanceState) (challengeKey : String)
    (replayCache : InMemoryReplayCache) (presenterPublicKey : Digest32) (record : VoteRecord) :
    GovernanceState :=
  { self with
    pendingChallenges := self.pendingChallenges.erase challengeKey
    consumedChallenges := consumedTexts replayCache
    votes := self.votes.insert (digestToHex presenterPublicKey) record }

section

variable (self : GovernanceState) (challengeKey : String) (replayCache : InMemoryReplayCache)
  (presenterPublicKey : Digest32) (record : VoteRecord)

@[simp] theorem withVote_pendingChallenges :
    (self.withVote challengeKey replayCache presenterPublicKey record).pendingChallenges =
      self.pendingChallenges.erase challengeKey := rfl

@[simp] theorem withVote_consumedChallenges :
    (self.withVote challengeKey replayCache presenterPublicKey record).consumedChallenges =
      consumedTexts replayCache := rfl

@[simp] theorem withVote_votes :
    (self.withVote challengeKey replayCache presenterPublicKey record).votes =
      self.votes.insert (digestToHex presenterPublicKey) record := rfl

@[simp] theorem withVote_gateContextHash :
    (self.withVote challengeKey replayCache presenterPublicKey record).gateContextHash =
      self.gateContextHash := rfl

end

/-- `GovernanceState::cast_vote`. -/
def castVote (P : Primitives) (gate : GateConfig) (envelope : AttestationEnvelope)
    (choice : VoteChoice) (nowUnixMs : UInt64) :
    Mutating GovernanceState GovernanceError CastOutcome := do
  let self ← Mutating.read
  self.validate P gate self.proposalId
  let challengeDigest ← (Outcome.ofOption (envelope.challenge.digest P.sha256) :
    Outcome GovernanceError Digest32)
  let challengeKey := digestToHex challengeDigest
  let expectedChallenge ← Outcome.okOr self.pendingChallenges[challengeKey]?
    GovernanceError.unknownChallenge
  let presenterKey := digestToHex envelope.journal.presenterPublicKey
  Outcome.check (self.votes.contains presenterKey) GovernanceError.duplicateVote
  let consumed ← (self.consumedChallenges.mapM parseDigest :
    Outcome GovernanceError (List Digest32))
  let request : VerifyRequest :=
    { envelope, expectedChallenge, expectedGate := gate
      expectedVerifierId := gate.context.verifierId, nowUnixMs }
  let verification := verify P request (.fromConsumed consumed)
  let verified ← verification.1.mapErr verificationError
  let next := self.withVote challengeKey verification.2 verified.presenterPublicKey
    { choice, castAtUnixMs := nowUnixMs }
  Mutating.write next
  pure
    { presenterPublicKey := verified.presenterPublicKey
      choice
      totalVotes := next.votes.size }

/-- A new service is for a gate that is bound to the proposal, and nothing has happened
yet. -/
theorem new_eq_ok_iff {P : Primitives} {gate : GateConfig} {proposalId : String}
    {start : GovernanceState} :
    new P gate proposalId = .ok start ↔
      validateBinding gate proposalId = .ok () ∧ ∃ contextHash,
        gate.contextHash P.sha256 = some contextHash ∧
        start =
          { version := governanceStateVersion
            proposalId
            gateContextHash := digestToHex contextHash
            pendingChallenges := ∅
            consumedChallenges := []
            votes := ∅ } := by
  simp only [new, Outcome.bind_eq_ok, Outcome.exists_unit, Outcome.liftM_eq,
    Outcome.ofOption_eq_ok, Outcome.pure_eq, Outcome.ok.injEq]
  exact and_congr_right fun _ => exists_congr fun _ => and_congr_right fun _ => eq_comm

/-! ## The stored digests -/

theorem mem_consumedTexts {cache : InMemoryReplayCache} {text : String} :
    text ∈ consumedTexts cache ↔ ∃ digest ∈ cache.consumed, digestToHex digest = text := by
  simp [consumedTexts]

theorem consumedTexts_length (cache : InMemoryReplayCache) :
    (consumedTexts cache).length = cache.consumed.card := by
  rw [consumedTexts, Multiset.length_sort, Multiset.card_map]
  rfl

theorem consumedTexts_sorted (cache : InMemoryReplayCache) :
    (consumedTexts cache).Pairwise (· < ·) := by
  have hle : (consumedTexts cache).Pairwise (· ≤ ·) := Multiset.pairwise_sort _ _
  have hnodup : (consumedTexts cache).Nodup := by
    rw [← Multiset.coe_nodup, consumedTexts, Multiset.sort_eq]
    exact cache.consumed.nodup.map digestToHex_injective
  exact hle.imp₂ (fun _ _ hle hne => lt_of_le_of_ne hle hne) hnodup

theorem parseDigest_digestToHex (digest : Digest32) :
    parseDigest (digestToHex digest) = .ok digest := by
  simp only [parseDigest, asBytes_digestToHex, hexDecode_hexEncode, Outcome.okOr_some,
    Outcome.ok_bind]
  exact dif_pos digest.toList_length

/-- Any reader that reads a digest from its text reads the set from its stored form. -/
theorem mapM_consumedTexts {ε : Type} (parse : String → Outcome ε Digest32)
    (hparse : ∀ digest, parse (digestToHex digest) = .ok digest) (cache : InMemoryReplayCache) :
    ∃ digests, (consumedTexts cache).mapM parse = .ok digests ∧
      digests.toFinset = cache.consumed := by
  -- every stored text is the text of one digest of the set
  have htexts : ∀ text ∈ consumedTexts cache, ∃ digest ∈ cache.consumed,
      digestToHex digest = text := fun text h => mem_consumedTexts.mp h
  choose! readBack hmem htext using htexts
  refine ⟨(consumedTexts cache).map readBack, ?_, ?_⟩
  · rw [Outcome.mapM_eq_ok, List.forall₂_map_right_iff, List.forall₂_same]
    intro text h
    rw [← htext text h, hparse, htext text h]
  · ext digest
    rw [List.mem_toFinset, List.mem_map]
    constructor
    · rintro ⟨text, h, rfl⟩
      exact hmem text h
    · intro h
      have hstored : digestToHex digest ∈ consumedTexts cache :=
        mem_consumedTexts.mpr ⟨digest, h, rfl⟩
      exact ⟨_, hstored, digestToHex_injective (htext _ hstored)⟩

/-- Reading the stored texts gives the digests they were written from. -/
theorem map_digestToHex_of_mapM_parseDigest {texts : List String} {digests : List Digest32}
    (htexts : ∀ text ∈ texts, ∃ digest, text = digestToHex digest)
    (h : texts.mapM parseDigest = .ok digests) : digests.map digestToHex = texts := by
  induction texts generalizing digests with
  | nil =>
    rw [List.mapM_nil] at h
    cases h
    rfl
  | cons text rest ih =>
    obtain ⟨digest, rfl⟩ := htexts text List.mem_cons_self
    rw [List.mapM_cons, parseDigest_digestToHex, Outcome.ok_bind] at h
    obtain ⟨digests', hrest, hpure⟩ := Outcome.bind_eq_ok.mp h
    cases hpure
    rw [List.map_cons, ih (fun t ht => htexts t (List.mem_cons_of_mem _ ht)) hrest]

/-! ## What the two calls can do -/

/-- Validation compares the context hash of the gate with the stored one. -/
theorem gateContextHash_of_validate {P : Primitives} {self : GovernanceState} {gate : GateConfig}
    {proposalId : String} {u : Unit} (h : self.validate P gate proposalId = .ok u) :
    ∃ contextHash, gate.contextHash P.sha256 = some contextHash ∧
      self.gateContextHash = digestToHex contextHash := by
  simp only [validate, Outcome.bind_eq_ok, Outcome.check_eq_ok, Outcome.exists_unit,
    Outcome.liftM_eq, Outcome.ofOption_eq_ok, not_or, not_not, ne_eq] at h
  obtain ⟨-, -, contextHash, hhash, ⟨-, hstored⟩, -⟩ := h
  exact ⟨contextHash, hhash, hstored⟩

/-- `issue_challenge` stores a challenge under its digest and returns it, or it
leaves the state as it was. -/
theorem issueChallenge_cases (P : Primitives) (gate : GateConfig) (root : Digest32)
    (nowUnixMs ttlMs : UInt64) (nonce : Digest32) (s : GovernanceState) :
    (∃ challenge digest, challenge.digest P.sha256 = some digest ∧
        issueChallenge P gate root nowUnixMs ttlMs nonce s = (.ok challenge,
          { s with
            pendingChallenges := s.pendingChallenges.insert (digestToHex digest) challenge })) ∨
      ((issueChallenge P gate root nowUnixMs ttlMs nonce s).1.isOk = false ∧
        (issueChallenge P gate root nowUnixMs ttlMs nonce s).2 = s) := by
  simp only [issueChallenge, Mutating.write_bind_pure, Mutating.lift_bind_commit,
    Mutating.read_bind_commit]
  refine Or.imp ?_ id (Mutating.commit_cases _ s)
  rintro ⟨challenge, s', hplan, hcommit⟩
  simp only [Outcome.bind_eq_ok, Outcome.check_eq_ok, Outcome.exists_unit,
    Outcome.ofOption_eq_ok, Outcome.ok.injEq, Prod.mk.injEq] at hplan
  obtain ⟨-, -, challenge', -, digest, hdigest, rfl, rfl⟩ := hplan
  exact ⟨challenge', digest, hdigest, hcommit⟩

/-- The request that `cast_vote` hands to `verify`. -/
def voteRequest (gate : GateConfig) (envelope : AttestationEnvelope)
    (expectedChallenge : VerificationChallenge) (nowUnixMs : UInt64) : VerifyRequest where
  envelope := envelope
  expectedChallenge := expectedChallenge
  expectedGate := gate
  expectedVerifierId := gate.context.verifierId
  nowUnixMs := nowUnixMs

/-- What an accepted vote has passed. -/
structure VoteAccepted (P : Primitives) (s : GovernanceState) (envelope : AttestationEnvelope)
    (digest : Digest32) (consumed : List Digest32) : Prop where
  digest_eq : envelope.challenge.digest P.sha256 = some digest
  pending : s.pendingChallenges[digestToHex digest]? = some envelope.challenge
  newPresenter : digestToHex envelope.journal.presenterPublicKey ∉ s.votes
  consumed_eq : s.consumedChallenges.mapM parseDigest = .ok consumed
  fresh : digest ∉ consumed
  context : s.gateContextHash = digestToHex envelope.journal.contextHash

/-- `cast_vote` consumes a pending challenge and stores a first vote, or it
leaves the state as it was. -/
theorem castVote_cases (P : Primitives) (gate : GateConfig) (envelope : AttestationEnvelope)
    (choice : VoteChoice) (nowUnixMs : UInt64) (s : GovernanceState) :
    (∃ outcome digest consumed, VoteAccepted P s envelope digest consumed ∧
        castVote P gate envelope choice nowUnixMs s = (.ok outcome,
          s.withVote (digestToHex digest) ⟨insert digest consumed.toFinset⟩
            envelope.journal.presenterPublicKey ⟨choice, nowUnixMs⟩) ∧
        outcome.presenterPublicKey = envelope.journal.presenterPublicKey ∧
        outcome.choice = choice) ∨
      ((castVote P gate envelope choice nowUnixMs s).1.isOk = false ∧
        (castVote P gate envelope choice nowUnixMs s).2 = s) := by
  simp only [castVote, Mutating.write_bind_pure, Mutating.lift_bind_commit,
    Mutating.read_bind_commit]
  refine Or.imp ?_ id (Mutating.commit_cases _ s)
  rintro ⟨outcome, s', hplan, hcommit⟩
  simp only [Outcome.bind_eq_ok, Outcome.check_eq_ok, Outcome.exists_unit, Outcome.okOr_eq_ok,
    Outcome.mapErr_eq_ok, Outcome.ofOption_eq_ok, Outcome.ok.injEq, Prod.mk.injEq] at hplan
  obtain ⟨hvalidate, digest, hdigest, expected, hexpected, hnew, consumed, hconsumed,
    verified, hverified, houtcome, hnext⟩ := hplan
  rcases verify_cases P (voteRequest gate envelope expected nowUnixMs) (.fromConsumed consumed)
    with ⟨digest', hpresentable, hdigest', hfresh, hverify⟩ | ⟨⟨e, hverify⟩, -⟩
  · obtain rfl : digest = digest' := Option.some.inj (hdigest.symm.trans hdigest')
    have hchallenge : envelope.challenge = expected := hpresentable.claims.challenge
    obtain ⟨contextHash, hhash, hstored⟩ := gateContextHash_of_validate hvalidate
    have hcontext : contextHash = envelope.journal.contextHash :=
      Option.some.inj (hhash.symm.trans hpresentable.claims.journalContext)
    refine ⟨outcome, digest, consumed, ⟨hdigest, ?_, ?_, hconsumed, ?_, ?_⟩, ?_, ?_, ?_⟩
    · rw [hexpected, hchallenge]
    · simpa using hnew
    · simpa [InMemoryReplayCache.fromConsumed] using hfresh
    · rw [hstored, hcontext]
    · rw [voteRequest] at hverify
      rw [hverify] at hverified hnext
      obtain rfl : _ = verified := Outcome.ok.inj hverified
      rw [hcommit, ← hnext]
      rfl
    · rw [voteRequest] at hverify
      rw [hverify] at hverified
      obtain rfl : _ = verified := Outcome.ok.inj hverified
      rw [← houtcome]
      rfl
    · rw [← houtcome]
  · rw [voteRequest] at hverify
    rw [hverify] at hverified
    cases hverified

end GovernanceState

end TokenStudio
