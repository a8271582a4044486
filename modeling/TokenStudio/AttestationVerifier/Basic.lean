import Mathlib.Data.Finset.Insert
import TokenStudio.CodeLib.UInt64
import TokenStudio.Primitives
import TokenStudio.TokenstudioConfig

/-!
# The off-chain verifier

The model of the crate `attestation-verifier`: challenges, presentations, the
checks of `verify` in their order, and the replay cache.

The cache is a `HashSet` behind a `&mut` reference.  It is a `Finset` here, and
`verify` is a `Mutating` call, so that the cache after a failed call is part of
the model.

There are two spec lemmas.

* `validateClaimsAndSignature_eq_ok_iff` lists every check that a valid
  presentation has passed (`ClaimsValid`).
* `verify_cases` says what one call of `verify` can do.  Either it accepts,
  and then the presentation is valid, the receipt is verified, and the digest
  of the challenge enters the cache for the first time; or it returns an error
  and the cache stays as it was, and then the presentation is not valid or its
  digest is in the cache.  The lemma also rules out a panic.

The random nonce of `create_challenge` is an argument of the model.
-/

namespace TokenStudio

/-- `PRESENTATION_BINDING_DOMAIN`. -/
def presentationBindingDomain : Bytes := asBytes "LEZ-TokenStudio/PresentationBinding/v1"

/-- `MAX_CHALLENGE_TTL_MS`. -/
def maxChallengeTtlMs : UInt64 := 5 * 60 * 1000

/-- `MAX_CLOCK_SKEW_MS`. -/
def maxClockSkewMs : UInt64 := 30000

/-- `MAX_PROOF_AGE_MS`. -/
def maxProofAgeMs : UInt64 := 10 * 60 * 1000

inductive VerificationError where
  | invalidGate
  | invalidProof
  | wrongContext
  | wrongToken
  | wrongThreshold
  | untrustedCommitmentRoot
  | expiredProof
  | invalidChallenge
  | expiredChallenge
  | wrongVerifier
  | badPresenter
  | replayedChallenge
  | malformedEnvelope
  | invalidProofTime
  deriving DecidableEq, Repr

/-- `VerificationError::code`, as the number of the `VerificationErrorCode`. -/
def VerificationError.code : VerificationError → UInt16
  | .invalidGate => 1000
  | .invalidProof => 1001
  | .wrongContext => 1002
  | .wrongToken => 1003
  | .wrongThreshold => 1004
  | .untrustedCommitmentRoot => 1013
  | .expiredProof => 1005
  | .invalidChallenge => 1006
  | .expiredChallenge => 1007
  | .wrongVerifier => 1008
  | .badPresenter => 1009
  | .replayedChallenge => 1010
  | .malformedEnvelope => 1011
  | .invalidProofTime => 1012

/-- The text of a `VerificationError`. -/
def VerificationError.toText : VerificationError → String
  | .invalidGate => "gate configuration is invalid"
  | .invalidProof => "Risc0 receipt is invalid"
  | .wrongContext => "proof or challenge is bound to a different gate context"
  | .wrongToken => "proof is for a different token"
  | .wrongThreshold => "proof threshold does not equal the gate threshold"
  | .untrustedCommitmentRoot => "proof commitment root was not authorized by the verifier"
  | .expiredProof => "proof has expired"
  | .invalidChallenge => "challenge is malformed or has an invalid time window"
  | .expiredChallenge => "challenge has expired"
  | .wrongVerifier => "challenge is for a different verifier"
  | .badPresenter => "presenter key or signature is invalid"
  | .replayedChallenge => "challenge has already been consumed"
  | .malformedEnvelope => "attestation envelope is malformed"
  | .invalidProofTime =>
    "proof issuance time is stale, predates the challenge, or is in the future"

structure VerifiedAttestation where
  contextHash : Digest32
  commitmentRoot : Digest32
  presenterPublicKey : Digest32
  issuedAtUnixMs : UInt64
  deriving DecidableEq

structure VerifyRequest where
  envelope : AttestationEnvelope
  expectedChallenge : VerificationChallenge
  expectedGate : GateConfig
  expectedVerifierId : String
  nowUnixMs : UInt64
  deriving DecidableEq

structure InMemoryReplayCache where
  consumed : Finset Digest32
  deriving DecidableEq

namespace InMemoryReplayCache

/-- `InMemoryReplayCache::from_consumed`. -/
def fromConsumed (consumed : List Digest32) : InMemoryReplayCache := ⟨consumed.toFinset⟩

/-- `InMemoryReplayCache::consume`: whether the digest is new, and the cache
with it. -/
def consume (self : InMemoryReplayCache) (challengeDigest : Digest32) :
    Bool × InMemoryReplayCache :=
  (challengeDigest ∉ self.consumed, ⟨insert challengeDigest self.consumed⟩)

end InMemoryReplayCache

/-! ## Challenges and presentations -/

/-- `create_challenge`, with the nonce that the random generator gives. -/
def createChallenge (P : Primitives) (gate : GateConfig) (expectedCommitmentRoot : Digest32)
    (verifierId : String) (nowUnixMs ttlMs : UInt64) (nonce : Digest32) :
    Outcome VerificationError VerificationChallenge := do
  gate.validate.mapErr fun _ => .invalidGate
  Outcome.check (verifierId ≠ gate.context.verifierId) .wrongVerifier
  Outcome.check (expectedCommitmentRoot = zeroDigest ∨ ttlMs = 0 ∨ ttlMs > maxChallengeTtlMs)
    .invalidChallenge
  let expiresAtUnixMs ← Outcome.okOr (checkedAdd nowUnixMs ttlMs) .invalidChallenge
  let contextHash ← gate.contextHash P.sha256
  pure (VerificationChallenge.new contextHash expectedCommitmentRoot verifierId nonce nowUnixMs
    expiresAtUnixMs)

/-- What `create_challenge` returns when its arguments are in order. -/
theorem createChallenge_of {P : Primitives} {gate : GateConfig} {root contextHash : Digest32}
    {nowUnixMs ttlMs expires : UInt64} (nonce : Digest32) (hgate : gate.validate = .ok ())
    (hhash : gate.contextHash P.sha256 = some contextHash) (hroot : root ≠ zeroDigest)
    (httl : 1 ≤ ttlMs) (hmax : ttlMs ≤ maxChallengeTtlMs)
    (hexpires : expires.toNat = nowUnixMs.toNat + ttlMs.toNat) :
    createChallenge P gate root gate.context.verifierId nowUnixMs ttlMs nonce =
      .ok (VerificationChallenge.new contextHash root gate.context.verifierId nonce nowUnixMs
        expires) := by
  have hzero : ttlMs ≠ 0 := by
    rintro rfl
    exact absurd httl (by decide)
  have hargs : ¬ (root = zeroDigest ∨ ttlMs = 0 ∨ ttlMs > maxChallengeTtlMs) := by
    simp [hroot, hzero, UInt64.not_lt.mpr hmax]
  have hadd : checkedAdd nowUnixMs ttlMs = some expires := checkedAdd_eq_some.mpr hexpires
  simp [createChallenge, hgate, Outcome.check_of_not hargs, hadd, hhash]

/-- A challenge for a gate and a root, as `create_challenge` makes it. -/
structure IssuedFor (P : Primitives) (gate : GateConfig) (root : Digest32)
    (challenge : VerificationChallenge) : Prop where
  version : challenge.version = verificationChallengeVersion
  context : gate.contextHash P.sha256 = some challenge.gateContextHash
  root : challenge.expectedCommitmentRoot = root
  verifier : challenge.verifierId = gate.context.verifierId
  window : challenge.issuedAtUnixMs ≤ challenge.expiresAtUnixMs
  ttl : challenge.expiresAtUnixMs - challenge.issuedAtUnixMs ≤ maxChallengeTtlMs

/-- What `create_challenge` returns. -/
theorem createChallenge_eq_ok {P : Primitives} {gate : GateConfig} {root : Digest32}
    {verifierId : String} {nowUnixMs ttlMs : UInt64} {nonce : Digest32}
    {challenge : VerificationChallenge}
    (h : createChallenge P gate root verifierId nowUnixMs ttlMs nonce = .ok challenge) :
    gate.validate = .ok () ∧ IssuedFor P gate root challenge ∧
      challenge.issuedAtUnixMs = nowUnixMs ∧
      challenge.expiresAtUnixMs.toNat = nowUnixMs.toNat + ttlMs.toNat := by
  simp only [createChallenge, Outcome.bind_eq_ok, Outcome.check_eq_ok, Outcome.exists_unit,
    Outcome.mapErr_eq_ok, Outcome.okOr_eq_ok, checkedAdd_eq_some, Outcome.liftM_eq,
    Outcome.ofOption_eq_ok, Outcome.pure_eq, Outcome.ok.injEq, not_or, not_not, ne_eq] at h
  obtain ⟨hgate, hverifier, ⟨-, -, httl⟩, expires, hexpires, contextHash, hhash, rfl⟩ := h
  rw [UInt64.not_lt] at httl
  have hle : nowUnixMs ≤ expires := by
    rw [UInt64.le_iff_toNat_le]
    omega
  refine ⟨hgate, ⟨rfl, hhash, rfl, hverifier, hle, ?_⟩, rfl, hexpires⟩
  -- the difference of the two times is the requested time to live
  show expires - nowUnixMs ≤ maxChallengeTtlMs
  rw [UInt64.le_iff_toNat_le] at httl ⊢
  rw [UInt64.toNat_sub_of_le _ _ hle]
  omega

/-- The bytes that `presentation_message` hashes. -/
def presentationBytes (sha256 : Bytes → Digest32) (challenge : VerificationChallenge)
    (receipt : Bytes) : Option Bytes := do
  let challengeBytes ← challenge.canonicalBytes
  pure (presentationBindingDomain ++ challengeBytes ++ (sha256 receipt).toList)

/-- The signed byte string determines the challenge and the hash of the receipt. -/
theorem presentationBytes_inj {sha256 : Bytes → Digest32} {c c' : VerificationChallenge}
    {receipt receipt' b : Bytes} (h : presentationBytes sha256 c receipt = some b)
    (h' : presentationBytes sha256 c' receipt' = some b) :
    c = c' ∧ sha256 receipt = sha256 receipt' := by
  simp only [presentationBytes, Option.bind_eq_bind, Option.bind_eq_some_iff, Option.pure_def,
    Option.some.injEq, List.append_assoc] at h h'
  obtain ⟨bytes, hbytes, rfl⟩ := h
  obtain ⟨bytes', hbytes', heq⟩ := h'
  obtain ⟨hchallenge, heq⟩ :=
    VerificationChallenge.canonicalBytes_peel hbytes' hbytes (List.append_cancel_left heq)
  exact ⟨hchallenge.symm, ((Codec.byteArray 32).peel_last heq).symm⟩

/-- `presentation_message`. -/
def presentationMessage (sha256 : Bytes → Digest32) (challenge : VerificationChallenge)
    (receipt : Bytes) : Option Digest32 :=
  (presentationBytes sha256 challenge receipt).map sha256

/-- `present`. -/
def present (P : Primitives) (proof : Risc0AttestationProof) (challenge : VerificationChallenge)
    (signingKey : P.ed25519.SigningKey) (transport : ProofTransport) :
    Outcome VerificationError AttestationEnvelope := do
  Outcome.check (proof.journal.presenterPublicKey ≠ P.ed25519.publicKey signingKey) .badPresenter
  Outcome.check (proof.journal.commitmentRoot ≠ challenge.expectedCommitmentRoot)
    .untrustedCommitmentRoot
  Outcome.check (proof.journal.contextHash ≠ challenge.gateContextHash) .wrongContext
  let message ← presentationMessage P.sha256 challenge proof.receipt
  let signature := P.ed25519.sign signingKey message.toList
  pure
    { journal := proof.journal
      receipt := proof.receipt
      challenge
      presenterSignature := signature.toList
      transport }

/-! ## Verification -/

/-- `validate_claims_and_signature`. -/
def validateClaimsAndSignature (P : Primitives) (request : VerifyRequest) :
    Outcome VerificationError Unit := do
  request.expectedGate.validate.mapErr fun _ => .invalidGate
  let envelope := request.envelope
  let challenge := envelope.challenge
  let expectedContextHash ← request.expectedGate.contextHash P.sha256
  Outcome.check (challenge ≠ request.expectedChallenge) .invalidChallenge
  Outcome.check (envelope.journal.version ≠ attestationJournalVersion) .malformedEnvelope
  Outcome.check (challenge.version ≠ verificationChallengeVersion ∨ ¬ challenge.hasValidWindow ∨
    challenge.expiresAtUnixMs - challenge.issuedAtUnixMs > maxChallengeTtlMs) .invalidChallenge
  Outcome.check (challenge.isExpired request.nowUnixMs) .expiredChallenge
  Outcome.check (challenge.issuedAtUnixMs > saturatingAdd request.nowUnixMs maxClockSkewMs)
    .invalidChallenge
  Outcome.check (challenge.verifierId ≠ request.expectedVerifierId ∨
    challenge.verifierId ≠ request.expectedGate.context.verifierId) .wrongVerifier
  Outcome.check (challenge.gateContextHash ≠ expectedContextHash ∨
    envelope.journal.contextHash ≠ expectedContextHash) .wrongContext
  Outcome.check (envelope.journal.commitmentRoot ≠ challenge.expectedCommitmentRoot)
    .untrustedCommitmentRoot
  Outcome.check
    (envelope.journal.tokenProgramOwner ≠ request.expectedGate.context.tokenProgramOwner ∨
      envelope.journal.tokenDefinitionId ≠ request.expectedGate.context.tokenDefinitionId)
    .wrongToken
  Outcome.check (envelope.journal.threshold ≠ request.expectedGate.context.threshold)
    .wrongThreshold
  Outcome.check (envelope.journal.expiresAtUnixMs ≠ request.expectedGate.context.expiresAtUnixMs)
    .wrongContext
  Outcome.check (envelope.journal.isExpired request.nowUnixMs) .expiredProof
  Outcome.check
    (envelope.journal.issuedAtUnixMs > saturatingAdd request.nowUnixMs maxClockSkewMs ∨
      saturatingSub request.nowUnixMs envelope.journal.issuedAtUnixMs > maxProofAgeMs ∨
      saturatingAdd envelope.journal.issuedAtUnixMs maxProofAgeMs < challenge.issuedAtUnixMs)
    .invalidProofTime
  let verifyingKey ← Outcome.okOr (P.ed25519.fromBytes envelope.journal.presenterPublicKey)
    .badPresenter
  let signature ← Outcome.okOr (Signature.fromSlice envelope.presenterSignature)
    .malformedEnvelope
  let message ← presentationMessage P.sha256 challenge envelope.receipt
  Outcome.check (¬ P.ed25519.verify verifyingKey message.toList signature) .badPresenter

/-- `verify`. -/
def verify (P : Primitives) (request : VerifyRequest) :
    Mutating InMemoryReplayCache VerificationError VerifiedAttestation := do
  validateClaimsAndSignature P request
  let proof : Risc0AttestationProof :=
    { journal := request.envelope.journal, receipt := request.envelope.receipt }
  let verifiedJournal ← (verifyReceipt P.risc0 proof).mapErr fun _ => VerificationError.invalidProof
  Outcome.check (verifiedJournal ≠ request.envelope.journal) VerificationError.invalidProof
  let digest ← (Outcome.ofOption (request.envelope.challenge.digest P.sha256) :
    Outcome VerificationError Digest32)
  let replayCache ← Mutating.read
  let (fresh, consumed) := replayCache.consume digest
  Mutating.write consumed
  Outcome.check (¬ fresh) VerificationError.replayedChallenge
  pure
    { contextHash := verifiedJournal.contextHash
      commitmentRoot := verifiedJournal.commitmentRoot
      presenterPublicKey := verifiedJournal.presenterPublicKey
      issuedAtUnixMs := verifiedJournal.issuedAtUnixMs }

/-! ## What a valid presentation satisfies -/

/-- The checks of `validate_claims_and_signature`, all passed. -/
structure ClaimsValid (P : Primitives) (r : VerifyRequest) : Prop where
  gate : r.expectedGate.validate = .ok ()
  challenge : r.envelope.challenge = r.expectedChallenge
  journalVersion : r.envelope.journal.version = attestationJournalVersion
  challengeVersion : r.envelope.challenge.version = verificationChallengeVersion
  window : r.envelope.challenge.hasValidWindow = true
  ttl : r.envelope.challenge.expiresAtUnixMs - r.envelope.challenge.issuedAtUnixMs ≤
    maxChallengeTtlMs
  live : r.envelope.challenge.isExpired r.nowUnixMs = false
  begun : r.envelope.challenge.issuedAtUnixMs ≤ saturatingAdd r.nowUnixMs maxClockSkewMs
  verifier : r.envelope.challenge.verifierId = r.expectedVerifierId
  gateVerifier : r.envelope.challenge.verifierId = r.expectedGate.context.verifierId
  challengeContext : r.expectedGate.contextHash P.sha256 =
    some r.envelope.challenge.gateContextHash
  journalContext : r.expectedGate.contextHash P.sha256 = some r.envelope.journal.contextHash
  root : r.envelope.journal.commitmentRoot = r.envelope.challenge.expectedCommitmentRoot
  owner : r.envelope.journal.tokenProgramOwner = r.expectedGate.context.tokenProgramOwner
  definition : r.envelope.journal.tokenDefinitionId = r.expectedGate.context.tokenDefinitionId
  threshold : r.envelope.journal.threshold = r.expectedGate.context.threshold
  expiry : r.envelope.journal.expiresAtUnixMs = r.expectedGate.context.expiresAtUnixMs
  unexpired : r.envelope.journal.isExpired r.nowUnixMs = false
  issued : r.envelope.journal.issuedAtUnixMs ≤ saturatingAdd r.nowUnixMs maxClockSkewMs
  age : saturatingSub r.nowUnixMs r.envelope.journal.issuedAtUnixMs ≤ maxProofAgeMs
  afterChallenge : r.envelope.challenge.issuedAtUnixMs ≤
    saturatingAdd r.envelope.journal.issuedAtUnixMs maxProofAgeMs
  signature : ∃ message, presentationMessage P.sha256 r.envelope.challenge r.envelope.receipt =
    some message ∧
    P.ed25519.Accepts r.envelope.journal.presenterPublicKey r.envelope.presenterSignature
      message.toList

/-- `validate_claims_and_signature` returns `Ok` exactly on a valid
presentation. -/
theorem validateClaimsAndSignature_eq_ok_iff {P : Primitives} {r : VerifyRequest} {u : Unit} :
    validateClaimsAndSignature P r = .ok u ↔ ClaimsValid P r := by
  simp only [validateClaimsAndSignature, Outcome.bind_eq_ok, Outcome.check_eq_ok,
    Outcome.exists_unit, Outcome.mapErr_eq_ok, Outcome.liftM_eq, Outcome.ofOption_eq_ok,
    Outcome.okOr_eq_ok, not_or, not_not, ne_eq]
  constructor
  · rintro ⟨hgate, h, hh, hch, hjv, ⟨hcv, hwin, httl⟩, hlive, hbegun, ⟨hver, hgver⟩,
      ⟨hcc, hjc⟩, hroot, ⟨hown, hdef⟩, hthr, hexp, hunexp, ⟨hiss, hage, hafter⟩,
      key, hkey, sig, hsig, message, hmessage, hverify⟩
    exact
      { gate := hgate, challenge := hch, journalVersion := hjv, challengeVersion := hcv
        window := hwin, ttl := UInt64.not_lt.mp httl, live := by simpa using hlive
        begun := UInt64.not_lt.mp hbegun, verifier := hver, gateVerifier := hgver
        challengeContext := by rw [hh, hcc], journalContext := by rw [hh, hjc]
        root := hroot, owner := hown, definition := hdef, threshold := hthr, expiry := hexp
        unexpired := by simpa using hunexp, issued := UInt64.not_lt.mp hiss
        age := UInt64.not_lt.mp hage, afterChallenge := UInt64.not_lt.mp hafter
        signature := ⟨message, hmessage, key, hkey, sig, hsig, hverify⟩ }
  · intro v
    obtain ⟨message, hmessage, key, hkey, sig, hsig, hverify⟩ := v.signature
    have hctx : r.envelope.journal.contextHash = r.envelope.challenge.gateContextHash :=
      Option.some.inj (v.journalContext.symm.trans v.challengeContext)
    exact ⟨v.gate, _, v.challengeContext, v.challenge, v.journalVersion,
      ⟨v.challengeVersion, v.window, UInt64.not_lt.mpr v.ttl⟩, by simp [v.live],
      UInt64.not_lt.mpr v.begun, ⟨v.verifier, v.gateVerifier⟩, ⟨rfl, hctx⟩, v.root,
      ⟨v.owner, v.definition⟩, v.threshold, v.expiry, by simp [v.unexpired],
      ⟨UInt64.not_lt.mpr v.issued, UInt64.not_lt.mpr v.age, UInt64.not_lt.mpr v.afterChallenge⟩,
      key, hkey, sig, hsig, message, hmessage, hverify⟩

/-- The receipt of a presentation, as `verify` hands it to `verify_receipt`. -/
def VerifyRequest.proof (r : VerifyRequest) : Risc0AttestationProof :=
  { journal := r.envelope.journal, receipt := r.envelope.receipt }

/-- The value that an accepted presentation returns. -/
def VerifyRequest.attestation (r : VerifyRequest) : VerifiedAttestation :=
  { contextHash := r.envelope.journal.contextHash
    commitmentRoot := r.envelope.journal.commitmentRoot
    presenterPublicKey := r.envelope.journal.presenterPublicKey
    issuedAtUnixMs := r.envelope.journal.issuedAtUnixMs }

/-- A valid presentation has a challenge with a short verifier id. -/
theorem ClaimsValid.verifierId_length {P : Primitives} {r : VerifyRequest}
    (h : ClaimsValid P r) : (asBytes r.envelope.challenge.verifierId).length < 2 ^ 32 := by
  have hlen := (GateConfig.label_lengths h.gate).2.2
  rw [h.gateVerifier]
  omega

/-- No check of a presentation panics: the gate is validated before anything is
encoded, and the verifier id is compared with the gate's before the challenge
is encoded. -/
theorem validateClaimsAndSignature_ne_panic (P : Primitives) (r : VerifyRequest) :
    validateClaimsAndSignature P r ≠ .panic := by
  simp only [validateClaimsAndSignature, ne_eq, Outcome.bind_eq_panic, Outcome.mapErr_eq_panic,
    Outcome.mapErr_eq_ok, Outcome.liftM_eq, Outcome.ofOption_eq_panic, Outcome.ofOption_eq_ok,
    Outcome.check_eq_ok, Outcome.check_ne_panic, Outcome.okOr_ne_panic, Outcome.okOr_eq_ok,
    Outcome.exists_unit, false_or, or_false, and_false, exists_false]
  rintro (hgate | ⟨hgate, hhash | ⟨h, -, -, -, -, -, -, hver, -, -, -, -, -, -, -, -, -, -, -,
    hmessage⟩⟩)
  · exact GateConfig.validate_ne_panic _ hgate
  · obtain ⟨d, hd⟩ := GateConfig.exists_contextHash P.sha256 hgate
    rw [hd] at hhash
    simp at hhash
  · have hlen := (GateConfig.label_lengths hgate).2.2
    rw [not_or, not_not, not_not] at hver
    obtain ⟨d, hd⟩ := VerificationChallenge.exists_digest P.sha256
      (c := r.envelope.challenge) (by rw [hver.2]; omega)
    simp [VerificationChallenge.digest, presentationMessage, presentationBytes] at hd hmessage
    simp [hmessage] at hd

/-- The digest under which the replay cache files a presentation. -/
def VerifyRequest.digest (P : Primitives) (r : VerifyRequest) : Option Digest32 :=
  r.envelope.challenge.digest P.sha256

/-- A presentation that passes every check but the one for a replay. -/
structure Presentable (P : Primitives) (r : VerifyRequest) : Prop where
  claims : ClaimsValid P r
  receipt : verifyReceipt P.risc0 r.proof = .ok r.envelope.journal

/-- What one call of `verify` can do. -/
theorem verify_cases (P : Primitives) (r : VerifyRequest) (cache : InMemoryReplayCache) :
    (∃ digest, Presentable P r ∧ r.digest P = some digest ∧ digest ∉ cache.consumed ∧
        verify P r cache = (.ok r.attestation, ⟨insert digest cache.consumed⟩)) ∨
      (∃ e, verify P r cache = (.err e, cache)) ∧
        (Presentable P r → ∃ digest ∈ cache.consumed, r.digest P = some digest) := by
  cases hclaims : validateClaimsAndSignature P r with
  | panic => exact absurd hclaims (validateClaimsAndSignature_ne_panic P r)
  | err e =>
    refine Or.inr ⟨⟨e, by simp [verify, Mutating.bind_apply, hclaims]⟩, ?_⟩
    intro hpresentable
    rw [validateClaimsAndSignature_eq_ok_iff (u := ()) |>.mpr hpresentable.claims] at hclaims
    cases hclaims
  | ok u =>
    have hvalid := validateClaimsAndSignature_eq_ok_iff.mp hclaims
    cases hreceipt : verifyReceipt P.risc0 r.proof with
    | panic => exact absurd hreceipt (verifyReceipt_ne_panic P.risc0 r.proof)
    | err e =>
      refine Or.inr ⟨⟨.invalidProof, ?_⟩, ?_⟩
      · rw [VerifyRequest.proof] at hreceipt
        simp [verify, Mutating.bind_apply, hclaims, hreceipt]
      · intro hpresentable
        rw [hpresentable.receipt] at hreceipt
        cases hreceipt
    | ok journal =>
      have hjournal : journal = r.envelope.journal := verifyReceipt_eq_ok hreceipt
      subst hjournal
      have hpresentable : Presentable P r := ⟨hvalid, hreceipt⟩
      obtain ⟨digest, hdigest⟩ :=
        VerificationChallenge.exists_digest P.sha256 hvalid.verifierId_length
      rw [VerifyRequest.proof] at hreceipt
      by_cases hmem : digest ∈ cache.consumed
      · refine Or.inr ⟨⟨.replayedChallenge, ?_⟩, fun _ => ⟨digest, hmem, hdigest⟩⟩
        simp [verify, Mutating.bind_apply, hclaims, hreceipt, hdigest,
          InMemoryReplayCache.consume, hmem]
      · refine Or.inl ⟨digest, hpresentable, hdigest, hmem, ?_⟩
        simp [verify, Mutating.bind_apply, hclaims, hreceipt, hdigest,
          InMemoryReplayCache.consume, hmem, VerifyRequest.attestation]

/-- The result of `verify` depends on the cache only through the digest of the
presented challenge. -/
theorem verify_congr {P : Primitives} {r : VerifyRequest} {cache cache' : InMemoryReplayCache}
    (h : ∀ digest, r.digest P = some digest →
      (digest ∈ cache.consumed ↔ digest ∈ cache'.consumed)) :
    (verify P r cache).1 = (verify P r cache').1 := by
  unfold verify
  simp only [Mutating.bind_apply, Mutating.liftM_apply, Mutating.read_apply,
    Mutating.write_apply]
  cases validateClaimsAndSignature P r with
  | err e => rfl
  | panic => rfl
  | ok u =>
    cases (verifyReceipt P.risc0 ⟨r.envelope.journal, r.envelope.receipt⟩).mapErr fun _ =>
        VerificationError.invalidProof with
    | err e => rfl
    | panic => rfl
    | ok journal =>
      by_cases hjournal : journal ≠ r.envelope.journal
      · simp [hjournal]
      · cases hdigest : r.envelope.challenge.digest P.sha256 with
        | none => simp [hjournal]
        | some digest =>
          have hmem := h digest hdigest
          by_cases hseen : digest ∈ cache'.consumed
          · simp [hjournal, InMemoryReplayCache.consume, hmem, hseen]
          · simp [hjournal, InMemoryReplayCache.consume, hmem, hseen]

/-- When a presentation is accepted. -/
theorem verify_eq_ok_iff {P : Primitives} {r : VerifyRequest} {cache : InMemoryReplayCache} :
    (verify P r cache).1.isOk ↔
      Presentable P r ∧ ∀ digest, r.digest P = some digest → digest ∉ cache.consumed := by
  rcases verify_cases P r cache with ⟨digest, hp, hdigest, hfresh, hv⟩ | ⟨⟨e, hv⟩, hreplay⟩
  · simp [hv, hp, hdigest, hfresh, Outcome.isOk]
  · simp only [hv, Outcome.isOk, Bool.false_eq_true, false_iff, not_and, not_forall, not_not]
    intro hp
    obtain ⟨digest, hmem, hdigest⟩ := hreplay hp
    exact ⟨digest, hdigest, hmem⟩

end TokenStudio
