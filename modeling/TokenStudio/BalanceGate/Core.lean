import TokenStudio.CodeLib.UInt64
import TokenStudio.Primitives

/-!
# The on-chain gate: state, challenge and claim

The model of the crate `balance-gate-core`.  A gate keeps its policy, a nonce
and a counter in a `GateState`.  A claim is a journal with a signature over the
challenge of the current state.  `evaluateClaim` checks it and returns the next
state and a badge.

`evaluateClaim_eq_ok_iff` is the spec lemma.  It lists what an accepted claim
satisfies (`ClaimValid`) and says what the result is.  The policy fields of a
state never change, the counter grows by one, and the nonce becomes the hash of
the old nonce and the signature.

`onChainPresentationBytes_inj` says that the signed byte string determines the
challenge and the journal.

The persisted form is Borsh.  The two layouts are `Codec`s, so that decoding
undoes encoding by construction.
-/

namespace TokenStudio

/-- `GATE_STATE_VERSION`. -/
def gateStateVersion : UInt16 := 3

/-- `ACCESS_BADGE_VERSION`. -/
def accessBadgeVersion : UInt16 := 1

/-- `ON_CHAIN_CHALLENGE_VERSION`. -/
def onChainChallengeVersion : UInt16 := 1

/-- `ON_CHAIN_CHALLENGE_DOMAIN`. -/
def onChainChallengeDomain : Bytes := asBytes "LEZ-TokenStudio/OnChainChallenge/v1"

/-- `ON_CHAIN_PRESENTATION_DOMAIN`. -/
def onChainPresentationDomain : Bytes := asBytes "LEZ-TokenStudio/OnChainPresentation/v1"

/-- `ON_CHAIN_NONCE_DOMAIN`. -/
def onChainNonceDomain : Bytes := asBytes "LEZ-TokenStudio/OnChainNonce/v1"

/-- `DEFAULT_ON_CHAIN_PROOF_AGE_MS`. -/
def defaultOnChainProofAgeMs : UInt64 := 10 * 60 * 1000

/-- `MIN_ON_CHAIN_PROOF_AGE_MS`. -/
def minOnChainProofAgeMs : UInt64 := 60 * 1000

/-- `MAX_ON_CHAIN_PROOF_AGE_MS`. -/
def maxOnChainProofAgeMs : UInt64 := 24 * 60 * 60 * 1000

/-- `MAX_ON_CHAIN_CLOCK_SKEW_MS`. -/
def maxOnChainClockSkewMs : UInt64 := 30000

/-- `BALANCE_ATTESTATION_IMAGE_ID`. -/
def balanceAttestationImageId : ProgramOwner :=
  ⟨[3279310716, 722719609, 391791259, 2458932001, 4000613703, 1196648380, 1925272195,
    3985399395], rfl⟩

/-- `[u32; 8]`. -/
abbrev ProgramId := List.Vector UInt32 8

/-! ## Journals and states -/

structure OnChainAttestationJournal where
  version : UInt16
  contextHash : Digest32
  tokenProgramOwner : ProgramOwner
  tokenDefinitionId : Digest32
  threshold : U128
  commitmentRoot : Digest32
  presenterPublicKey : PublicKey32
  issuedAtUnixMs : UInt64
  expiresAtUnixMs : Option UInt64
  deriving DecidableEq

namespace OnChainAttestationJournal

/-- `OnChainAttestationJournal::to_attestation_journal`. -/
def toAttestationJournal (self : OnChainAttestationJournal) : AttestationJournal where
  version := self.version
  contextHash := self.contextHash
  tokenProgramOwner := self.tokenProgramOwner
  tokenDefinitionId := self.tokenDefinitionId
  threshold := self.threshold
  commitmentRoot := self.commitmentRoot
  presenterPublicKey := self.presenterPublicKey
  issuedAtUnixMs := self.issuedAtUnixMs
  expiresAtUnixMs := self.expiresAtUnixMs

/-- `OnChainAttestationJournal::canonical_bytes`. -/
def canonicalBytes (self : OnChainAttestationJournal) : Bytes :=
  self.toAttestationJournal.canonicalBytes

/-- `From<&AttestationJournal>`. -/
def ofAttestationJournal (journal : AttestationJournal) : OnChainAttestationJournal where
  version := journal.version
  contextHash := journal.contextHash
  tokenProgramOwner := journal.tokenProgramOwner
  tokenDefinitionId := journal.tokenDefinitionId
  threshold := journal.threshold
  commitmentRoot := journal.commitmentRoot
  presenterPublicKey := journal.presenterPublicKey
  issuedAtUnixMs := journal.issuedAtUnixMs
  expiresAtUnixMs := journal.expiresAtUnixMs

@[simp] theorem ofAttestationJournal_toAttestationJournal (j : OnChainAttestationJournal) :
    ofAttestationJournal j.toAttestationJournal = j := rfl

theorem canonicalBytes_injective : Function.Injective canonicalBytes := by
  intro j j' h
  have hjournal := AttestationJournal.canonicalBytes_injective h
  rw [← ofAttestationJournal_toAttestationJournal j, hjournal,
    ofAttestationJournal_toAttestationJournal]

end OnChainAttestationJournal

inductive ClaimError where
  | invalidGateState
  | malformedClaim
  | invalidJournal
  | wrongContext
  | wrongToken
  | wrongThreshold
  | untrustedCommitmentRoot
  | badPresenter
  | counterOverflow
  deriving DecidableEq, Repr

namespace ClaimError

/-- `ClaimError::code`, as the number of the `ClaimErrorCode`. -/
def code : ClaimError → UInt16
  | invalidGateState => 2000
  | malformedClaim => 1011
  | invalidJournal => 1001
  | wrongContext => 1002
  | wrongToken => 1003
  | wrongThreshold => 1004
  | untrustedCommitmentRoot => 1013
  | badPresenter => 1009
  | counterOverflow => 2001

/-- The text of a `ClaimError`. -/
def message : ClaimError → String
  | invalidGateState => "gate state is malformed or unsupported"
  | malformedClaim => "claim payload is malformed"
  | invalidJournal => "attestation journal version is unsupported"
  | wrongContext => "attestation context or expiry does not match the gate"
  | wrongToken => "attestation token does not match the gate"
  | wrongThreshold => "attestation threshold does not equal the gate threshold"
  | untrustedCommitmentRoot => "attestation commitment root is not authorized by the gate"
  | badPresenter => "presenter signature is invalid"
  | counterOverflow => "gate claim counter overflowed"

end ClaimError

structure GateState where
  version : UInt16
  contextHash : Digest32
  tokenProgramOwner : ProgramOwner
  tokenDefinitionId : Digest32
  threshold : U128
  commitmentRoot : Digest32
  expiresAtUnixMs : Option UInt64
  maxProofAgeMs : UInt64
  challengeNonce : Digest32
  claimCounter : UInt64
  deriving DecidableEq

structure OnChainChallenge where
  version : UInt16
  programId : ProgramId
  claimAccountId : Digest32
  gateContextHash : Digest32
  nonce : Digest32
  claimCounter : UInt64
  deriving DecidableEq

namespace GateState

/-- `GateState::from_public_inputs`. -/
def fromPublicInputs (contextHash : Digest32) (tokenProgramOwner : ProgramOwner)
    (tokenDefinitionId : Digest32) (threshold : U128) (commitmentRoot : Digest32)
    (expiresAtUnixMs : Option UInt64) (maxProofAgeMs : UInt64) (challengeNonce : Digest32) :
    GateState :=
  { version := gateStateVersion
    contextHash, tokenProgramOwner, tokenDefinitionId, threshold, commitmentRoot
    expiresAtUnixMs, maxProofAgeMs, challengeNonce
    claimCounter := 0 }

/-- `GateState::new_with_max_proof_age`. -/
def newWithMaxProofAge (sha256 : Bytes → Digest32) (context : GateContext)
    (commitmentRoot challengeNonce : Digest32) (maxProofAgeMs : UInt64) : Option GateState := do
  let contextHash ← context.contextHash sha256
  pure (fromPublicInputs contextHash context.tokenProgramOwner context.tokenDefinitionId
    context.threshold commitmentRoot context.expiresAtUnixMs maxProofAgeMs challengeNonce)

/-- `GateState::new`. -/
def new (sha256 : Bytes → Digest32) (context : GateContext)
    (commitmentRoot challengeNonce : Digest32) : Option GateState :=
  newWithMaxProofAge sha256 context commitmentRoot challengeNonce defaultOnChainProofAgeMs

/-- `GateState::validate`. -/
def validate (self : GateState) : Outcome ClaimError Unit :=
  Outcome.check (self.version ≠ gateStateVersion ∨ self.threshold = 0 ∨
    self.commitmentRoot = zeroDigest ∨ self.challengeNonce = zeroDigest ∨
    ¬ (minOnChainProofAgeMs ≤ self.maxProofAgeMs ∧ self.maxProofAgeMs ≤ maxOnChainProofAgeMs))
    .invalidGateState

/-- `GateState::challenge`. -/
def challenge (self : GateState) (programId : ProgramId) (claimAccountId : Digest32) :
    OnChainChallenge where
  version := onChainChallengeVersion
  programId := programId
  claimAccountId := claimAccountId
  gateContextHash := self.contextHash
  nonce := self.challengeNonce
  claimCounter := self.claimCounter

/-- What `GateState::new_with_max_proof_age` puts into a state. -/
theorem newWithMaxProofAge_eq_some {sha256 : Bytes → Digest32} {context : GateContext}
    {root nonce : Digest32} {age : UInt64} {state : GateState} :
    newWithMaxProofAge sha256 context root nonce age = some state ↔
      context.contextHash sha256 = some state.contextHash ∧
        state = fromPublicInputs state.contextHash context.tokenProgramOwner
          context.tokenDefinitionId context.threshold root context.expiresAtUnixMs age nonce := by
  simp only [newWithMaxProofAge, Option.bind_eq_bind, Option.bind_eq_some_iff,
    Option.pure_def, Option.some.injEq]
  constructor
  · rintro ⟨contextHash, hhash, rfl⟩
    exact ⟨hhash, rfl⟩
  · rintro ⟨hhash, hstate⟩
    exact ⟨state.contextHash, hhash, hstate.symm⟩

/-- When a state is valid. -/
theorem validate_eq_ok {state : GateState} {u : Unit} :
    state.validate = .ok u ↔ state.version = gateStateVersion ∧ state.threshold ≠ 0 ∧
      state.commitmentRoot ≠ zeroDigest ∧ state.challengeNonce ≠ zeroDigest ∧
      minOnChainProofAgeMs ≤ state.maxProofAgeMs ∧ state.maxProofAgeMs ≤ maxOnChainProofAgeMs := by
  simp only [validate, Outcome.check_eq_ok, not_or, not_not, ne_eq]

end GateState

namespace OnChainChallenge

/-- `OnChainChallenge::canonical_bytes`. -/
def canonicalBytes (self : OnChainChallenge) : Bytes :=
  onChainChallengeDomain ++
    Codec.u16.encode self.version ++
    (Codec.u32.array 8).encode self.programId ++
    self.claimAccountId.toList ++
    self.gateContextHash.toList ++
    self.nonce.toList ++
    Codec.u64.encode self.claimCounter

/-- `OnChainChallenge::digest`. -/
def digest (sha256 : Bytes → Digest32) (self : OnChainChallenge) : Digest32 :=
  sha256 self.canonicalBytes

/-- A challenge can be split off the front of a longer byte string. -/
theorem canonicalBytes_peel {c c' : OnChainChallenge} {rest rest' : Bytes}
    (h : c.canonicalBytes ++ rest = c'.canonicalBytes ++ rest') : c = c' ∧ rest = rest' := by
  simp only [canonicalBytes, List.append_assoc] at h
  have h := List.append_cancel_left h
  obtain ⟨h1, h⟩ := Codec.u16.peel h
  obtain ⟨h2, h⟩ := (Codec.u32.array 8).peel h
  obtain ⟨h3, h⟩ := (Codec.byteArray 32).peel h
  obtain ⟨h4, h⟩ := (Codec.byteArray 32).peel h
  obtain ⟨h5, h⟩ := (Codec.byteArray 32).peel h
  obtain ⟨h6, h⟩ := Codec.u64.peel h
  refine ⟨?_, h⟩
  cases c
  cases c'
  simp_all

end OnChainChallenge

/-! ## Claims -/

structure ClaimAccess where
  journal : OnChainAttestationJournal
  presenterSignature : Bytes
  deriving DecidableEq

structure AccessBadge where
  version : UInt16
  contextHash : Digest32
  presenterPublicKey : PublicKey32
  claimNumber : UInt64
  proofIssuedAtUnixMs : UInt64
  deriving DecidableEq

structure ClaimResult where
  nextGateState : GateState
  badge : AccessBadge
  challengeDigest : Digest32
  deriving DecidableEq

/-- The bytes that `on_chain_presentation_message` hashes. -/
def onChainPresentationBytes (challenge : OnChainChallenge)
    (journal : OnChainAttestationJournal) : Bytes :=
  onChainPresentationDomain ++
    challenge.canonicalBytes ++
    (Codec.u32.array 8).encode balanceAttestationImageId ++
    journal.canonicalBytes

/-- `on_chain_presentation_message`. -/
def onChainPresentationMessage (sha256 : Bytes → Digest32) (challenge : OnChainChallenge)
    (journal : OnChainAttestationJournal) : Digest32 :=
  sha256 (onChainPresentationBytes challenge journal)

/-- The bytes whose hash is the next nonce. -/
def nonceInput (state : GateState) (claim : ClaimAccess) : Bytes :=
  onChainNonceDomain ++ state.challengeNonce.toList ++ claim.presenterSignature

/-- `evaluate_claim`. -/
def evaluateClaim (P : Primitives) (state : GateState) (programId : ProgramId)
    (claimAccountId : Digest32) (claim : ClaimAccess) : Outcome ClaimError ClaimResult := do
  state.validate
  let journal := claim.journal
  Outcome.check (journal.version ≠ attestationJournalVersion) .invalidJournal
  Outcome.check (journal.contextHash ≠ state.contextHash ∨
    journal.expiresAtUnixMs ≠ state.expiresAtUnixMs) .wrongContext
  Outcome.check (journal.tokenProgramOwner ≠ state.tokenProgramOwner ∨
    journal.tokenDefinitionId ≠ state.tokenDefinitionId) .wrongToken
  Outcome.check (journal.threshold ≠ state.threshold) .wrongThreshold
  Outcome.check (journal.commitmentRoot ≠ state.commitmentRoot) .untrustedCommitmentRoot
  let challenge := state.challenge programId claimAccountId
  let verifyingKey ← Outcome.okOr (P.ed25519.fromBytes journal.presenterPublicKey) .badPresenter
  let signature ← Outcome.okOr (Signature.fromSlice claim.presenterSignature) .malformedClaim
  Outcome.check (¬ P.ed25519.verify verifyingKey
    (onChainPresentationMessage P.sha256 challenge journal).toList signature) .badPresenter
  let claimNumber ← Outcome.okOr (checkedAdd state.claimCounter 1) .counterOverflow
  let nextGateState :=
    { state with
      challengeNonce := P.sha256 (nonceInput state claim)
      claimCounter := claimNumber }
  pure
    { nextGateState
      badge :=
        { version := accessBadgeVersion
          contextHash := state.contextHash
          presenterPublicKey := journal.presenterPublicKey
          claimNumber
          proofIssuedAtUnixMs := journal.issuedAtUnixMs }
      challengeDigest := challenge.digest P.sha256 }

/-! ## What an accepted claim satisfies -/

/-- The checks of `evaluate_claim` before the counter, all passed. -/
structure ClaimValid (P : Primitives) (state : GateState) (programId : ProgramId)
    (claimAccountId : Digest32) (claim : ClaimAccess) : Prop where
  validState : state.validate = .ok ()
  version : claim.journal.version = attestationJournalVersion
  context : claim.journal.contextHash = state.contextHash
  expiry : claim.journal.expiresAtUnixMs = state.expiresAtUnixMs
  owner : claim.journal.tokenProgramOwner = state.tokenProgramOwner
  definition : claim.journal.tokenDefinitionId = state.tokenDefinitionId
  threshold : claim.journal.threshold = state.threshold
  root : claim.journal.commitmentRoot = state.commitmentRoot
  signature : P.ed25519.Accepts claim.journal.presenterPublicKey claim.presenterSignature
    (onChainPresentationMessage P.sha256 (state.challenge programId claimAccountId)
      claim.journal).toList

/-- The result of an accepted claim with its number. -/
def claimResult (P : Primitives) (state : GateState) (programId : ProgramId)
    (claimAccountId : Digest32) (claim : ClaimAccess) (claimNumber : UInt64) : ClaimResult where
  nextGateState :=
    { state with
      challengeNonce := P.sha256 (nonceInput state claim)
      claimCounter := claimNumber }
  badge :=
    { version := accessBadgeVersion
      contextHash := state.contextHash
      presenterPublicKey := claim.journal.presenterPublicKey
      claimNumber
      proofIssuedAtUnixMs := claim.journal.issuedAtUnixMs }
  challengeDigest := (state.challenge programId claimAccountId).digest P.sha256

/-- `evaluate_claim` returns `Ok` exactly on a valid claim to a gate whose
counter can still grow. -/
theorem evaluateClaim_eq_ok_iff {P : Primitives} {state : GateState} {programId : ProgramId}
    {claimAccountId : Digest32} {claim : ClaimAccess} {result : ClaimResult} :
    evaluateClaim P state programId claimAccountId claim = .ok result ↔
      ClaimValid P state programId claimAccountId claim ∧
        ∃ claimNumber : UInt64, claimNumber.toNat = state.claimCounter.toNat + 1 ∧
          result = claimResult P state programId claimAccountId claim claimNumber := by
  simp only [evaluateClaim, Outcome.bind_eq_ok, Outcome.check_eq_ok, Outcome.exists_unit,
    Outcome.okOr_eq_ok, Outcome.pure_eq, Outcome.ok.injEq, not_or, not_not, ne_eq,
    checkedAdd_eq_some]
  constructor
  · rintro ⟨hstate, hversion, ⟨hcontext, hexpiry⟩, ⟨howner, hdefinition⟩, hthreshold, hroot,
      key, hkey, signature, hsignature, hverify, claimNumber, hnumber, rfl⟩
    exact ⟨⟨hstate, hversion, hcontext, hexpiry, howner, hdefinition, hthreshold, hroot,
      key, hkey, signature, hsignature, hverify⟩, claimNumber, hnumber, rfl⟩
  · rintro ⟨⟨hstate, hversion, hcontext, hexpiry, howner, hdefinition, hthreshold, hroot,
      key, hkey, signature, hsignature, hverify⟩, claimNumber, hnumber, rfl⟩
    exact ⟨hstate, hversion, ⟨hcontext, hexpiry⟩, ⟨howner, hdefinition⟩, hthreshold, hroot,
      key, hkey, signature, hsignature, hverify, claimNumber, hnumber, rfl⟩

/-- While the counter can grow, the valid claims are accepted. -/
theorem evaluateClaim_isOk_iff {P : Primitives} {state : GateState}
    (hcounter : state.claimCounter.toNat < u64Max) {programId : ProgramId}
    {claimAccountId : Digest32} {claim : ClaimAccess} :
    (evaluateClaim P state programId claimAccountId claim).isOk ↔
      ClaimValid P state programId claimAccountId claim := by
  obtain ⟨claimNumber, hnumber⟩ : ∃ n : UInt64, n.toNat = state.claimCounter.toNat + 1 := by
    unfold u64Max at hcounter
    exact ⟨UInt64.ofNat (state.claimCounter.toNat + 1),
      UInt64.toNat_ofNat_of_lt' (show state.claimCounter.toNat + 1 < 2 ^ 64 by omega)⟩
  rw [Outcome.isOk_iff]
  constructor
  · rintro ⟨result, hresult⟩
    exact (evaluateClaim_eq_ok_iff.mp hresult).1
  · intro hvalid
    exact ⟨_, evaluateClaim_eq_ok_iff.mpr ⟨hvalid, claimNumber, hnumber, rfl⟩⟩

/-- The signed byte string determines the challenge and the journal. -/
theorem onChainPresentationBytes_inj {c c' : OnChainChallenge}
    {j j' : OnChainAttestationJournal}
    (h : onChainPresentationBytes c j = onChainPresentationBytes c' j') : c = c' ∧ j = j' := by
  simp only [onChainPresentationBytes, List.append_assoc] at h
  obtain ⟨hchallenge, h⟩ := OnChainChallenge.canonicalBytes_peel (List.append_cancel_left h)
  exact ⟨hchallenge, OnChainAttestationJournal.canonicalBytes_injective
    (List.append_cancel_left h)⟩

/-! ## The persisted form -/

/-- Borsh of a `GateState`: its fields in declaration order. -/
def GateState.codec : Codec GateState :=
  (Codec.u16.pair <| (Codec.byteArray 32).pair <| (Codec.u32.array 8).pair <|
    (Codec.byteArray 32).pair <| Codec.u128.pair <| (Codec.byteArray 32).pair <|
    Codec.u64.option.pair <| Codec.u64.pair <| (Codec.byteArray 32).pair Codec.u64).iso
  (fun s => (s.version, s.contextHash, s.tokenProgramOwner, s.tokenDefinitionId, s.threshold,
    s.commitmentRoot, s.expiresAtUnixMs, s.maxProofAgeMs, s.challengeNonce, s.claimCounter))
  (fun (version, contextHash, tokenProgramOwner, tokenDefinitionId, threshold, commitmentRoot,
      expiresAtUnixMs, maxProofAgeMs, challengeNonce, claimCounter) =>
    { version, contextHash, tokenProgramOwner, tokenDefinitionId, threshold, commitmentRoot,
      expiresAtUnixMs, maxProofAgeMs, challengeNonce, claimCounter })
  (fun _ => rfl)

/-- Borsh of an `AccessBadge`. -/
def AccessBadge.codec : Codec AccessBadge :=
  (Codec.u16.pair <| (Codec.byteArray 32).pair <| (Codec.byteArray 32).pair <|
    Codec.u64.pair Codec.u64).iso
  (fun b => (b.version, b.contextHash, b.presenterPublicKey, b.claimNumber,
    b.proofIssuedAtUnixMs))
  (fun (version, contextHash, presenterPublicKey, claimNumber, proofIssuedAtUnixMs) =>
    { version, contextHash, presenterPublicKey, claimNumber, proofIssuedAtUnixMs })
  (fun _ => rfl)

/-- `encode_gate_state`. -/
def encodeGateState (state : GateState) : Bytes := GateState.codec.encode state

/-- `decode_gate_state`. -/
def decodeGateState (bytes : Bytes) : Option GateState := GateState.codec.decodeAll bytes

/-- `encode_access_badge`. -/
def encodeAccessBadge (badge : AccessBadge) : Bytes := AccessBadge.codec.encode badge

/-- `decode_access_badge`. -/
def decodeAccessBadge (bytes : Bytes) : Option AccessBadge := AccessBadge.codec.decodeAll bytes

@[simp] theorem decodeGateState_encodeGateState (state : GateState) :
    decodeGateState (encodeGateState state) = some state :=
  GateState.codec.decodeAll_encode state

@[simp] theorem decodeAccessBadge_encodeAccessBadge (badge : AccessBadge) :
    decodeAccessBadge (encodeAccessBadge badge) = some badge :=
  AccessBadge.codec.decodeAll_encode badge

/-- An encoded state is short. -/
theorem encodeGateState_length_le (state : GateState) : (encodeGateState state).length ≤ 203 := by
  have howner : ((Codec.u32.array 8).encode state.tokenProgramOwner).length = 32 := by
    simp [Codec.array, Codec.u32, Codec.fixed, List.length_flatMap]
  have hexpiry : (Codec.u64.option.encode state.expiresAtUnixMs).length ≤ 9 := by
    cases state.expiresAtUnixMs <;> simp [Codec.option, Codec.u64, Codec.fixed]
  have hu16 : ∀ x, (Codec.u16.encode x).length = 2 := fun _ => leBytes_length _ _
  have hu64 : ∀ x, (Codec.u64.encode x).length = 8 := fun _ => leBytes_length _ _
  have hu128 : ∀ x, (Codec.u128.encode x).length = 16 := fun _ => leBytes_length _ _
  have hdigest : ∀ x, ((Codec.byteArray 32).encode x).length = 32 := fun x => x.toList_length
  simp only [encodeGateState, GateState.codec, Codec.iso, Codec.pair, List.length_append, howner,
    hu16, hu64, hu128, hdigest]
  omega

/-- An encoded badge is short. -/
theorem encodeAccessBadge_length (badge : AccessBadge) : (encodeAccessBadge badge).length = 82 := by
  have hu16 : ∀ x, (Codec.u16.encode x).length = 2 := fun _ => leBytes_length _ _
  have hu64 : ∀ x, (Codec.u64.encode x).length = 8 := fun _ => leBytes_length _ _
  have hdigest : ∀ x, ((Codec.byteArray 32).encode x).length = 32 := fun x => x.toList_length
  simp only [encodeAccessBadge, AccessBadge.codec, Codec.iso, Codec.pair, List.length_append,
    hu16, hu64, hdigest]

end TokenStudio
