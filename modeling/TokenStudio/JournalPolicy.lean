import TokenStudio.BalanceGate.Soundness
import TokenStudio.BalanceGate.Window

/-!
# The two consumers of a journal agree

`verify` and the on-chain gate check a journal in different ways.  The verifier
compares it with the gate configuration and with its own clock.  The gate compares
it with its state and turns the times into a window for the ledger.

`OffChainJournal` and `OnChainJournal` are the checks of the two that read the
journal.  `claimsValid_iff` and `claimValid_iff` say what the other checks of the
two functions are.  `journal_policy_agrees` is the equivalence: at a time at which
the challenge is live, the journal passes the checks of `verify` exactly when it
passes those of the gate and the time lies in the window.  So
`validate_claims_and_signature` accepts a presentation of the journal (`PresentsJournal`)
exactly when an execution of `claim` for it (`ClaimsJournal`) succeeds with such a window.

The check of the journal against the time of the challenge has no counterpart
on the chain.  It follows from the others, because the challenge is not younger
than the clock.
-/

namespace TokenStudio

/-! ## The checks of the verifier -/

/-- The checks of `validate_claims_and_signature` that read the journal. -/
structure OffChainJournal (P : Primitives) (gate : GateConfig)
    (challenge : VerificationChallenge) (journal : AttestationJournal) (nowUnixMs : UInt64) :
    Prop where
  version : journal.version = attestationJournalVersion
  context : gate.contextHash P.sha256 = some journal.contextHash
  root : journal.commitmentRoot = challenge.expectedCommitmentRoot
  owner : journal.tokenProgramOwner = gate.context.tokenProgramOwner
  definition : journal.tokenDefinitionId = gate.context.tokenDefinitionId
  threshold : journal.threshold = gate.context.threshold
  expiry : journal.expiresAtUnixMs = gate.context.expiresAtUnixMs
  unexpired : journal.isExpired nowUnixMs = false
  issued : journal.issuedAtUnixMs ≤ saturatingAdd nowUnixMs maxClockSkewMs
  age : saturatingSub nowUnixMs journal.issuedAtUnixMs ≤ maxProofAgeMs
  afterChallenge : challenge.issuedAtUnixMs ≤ saturatingAdd journal.issuedAtUnixMs maxProofAgeMs

/-- The checks of `validate_claims_and_signature` that do not read the journal,
and the signature. -/
structure OffChainChallenge (P : Primitives) (r : VerifyRequest) : Prop where
  gate : r.expectedGate.validate = .ok ()
  challenge : r.envelope.challenge = r.expectedChallenge
  version : r.envelope.challenge.version = verificationChallengeVersion
  window : r.envelope.challenge.hasValidWindow = true
  ttl : r.envelope.challenge.expiresAtUnixMs - r.envelope.challenge.issuedAtUnixMs ≤
    maxChallengeTtlMs
  live : r.envelope.challenge.isExpired r.nowUnixMs = false
  begun : r.envelope.challenge.issuedAtUnixMs ≤ saturatingAdd r.nowUnixMs maxClockSkewMs
  verifier : r.envelope.challenge.verifierId = r.expectedVerifierId
  gateVerifier : r.envelope.challenge.verifierId = r.expectedGate.context.verifierId
  context : r.expectedGate.contextHash P.sha256 = some r.envelope.challenge.gateContextHash
  signature : ∃ message, presentationMessage P.sha256 r.envelope.challenge r.envelope.receipt =
    some message ∧
    P.ed25519.Accepts r.envelope.journal.presenterPublicKey r.envelope.presenterSignature
      message.toList

/-- The checks of a presentation are those of the journal and the others. -/
theorem claimsValid_iff {P : Primitives} {r : VerifyRequest} :
    ClaimsValid P r ↔ OffChainChallenge P r ∧
      OffChainJournal P r.expectedGate r.envelope.challenge r.envelope.journal r.nowUnixMs := by
  constructor
  · intro h
    exact ⟨⟨h.gate, h.challenge, h.challengeVersion, h.window, h.ttl, h.live, h.begun, h.verifier,
      h.gateVerifier, h.challengeContext, h.signature⟩,
      ⟨h.journalVersion, h.journalContext, h.root, h.owner, h.definition, h.threshold, h.expiry,
        h.unexpired, h.issued, h.age, h.afterChallenge⟩⟩
  · intro ⟨h, hj⟩
    exact
      { gate := h.gate, challenge := h.challenge, journalVersion := hj.version
        challengeVersion := h.version, window := h.window, ttl := h.ttl, live := h.live
        begun := h.begun, verifier := h.verifier, gateVerifier := h.gateVerifier
        challengeContext := h.context, journalContext := hj.context, root := hj.root
        owner := hj.owner, definition := hj.definition, threshold := hj.threshold
        expiry := hj.expiry, unexpired := hj.unexpired, issued := hj.issued, age := hj.age
        afterChallenge := hj.afterChallenge, signature := h.signature }

/-! ## The checks of the gate -/

/-- The checks of `evaluate_claim` that read the journal. -/
structure OnChainJournal (state : GateState) (journal : OnChainAttestationJournal) : Prop where
  version : journal.version = attestationJournalVersion
  context : journal.contextHash = state.contextHash
  expiry : journal.expiresAtUnixMs = state.expiresAtUnixMs
  owner : journal.tokenProgramOwner = state.tokenProgramOwner
  definition : journal.tokenDefinitionId = state.tokenDefinitionId
  threshold : journal.threshold = state.threshold
  root : journal.commitmentRoot = state.commitmentRoot

/-- The checks of a claim are those of the state, of the journal and of the
signature. -/
theorem claimValid_iff {P : Primitives} {state : GateState} {programId : ProgramId}
    {claimAccountId : Digest32} {access : ClaimAccess} :
    ClaimValid P state programId claimAccountId access ↔
      state.validate = .ok () ∧ OnChainJournal state access.journal ∧
        P.ed25519.Accepts access.journal.presenterPublicKey access.presenterSignature
          (onChainPresentationMessage P.sha256 (state.challenge programId claimAccountId)
            access.journal).toList := by
  constructor
  · intro h
    exact ⟨h.validState, ⟨h.version, h.context, h.expiry, h.owner, h.definition, h.threshold,
      h.root⟩, h.signature⟩
  · intro ⟨hstate, hj, hsignature⟩
    exact ⟨hstate, hj.version, hj.context, hj.expiry, hj.owner, hj.definition, hj.threshold,
      hj.root, hsignature⟩

/-! ## Agreement -/

/-- The time checks of the verifier in natural numbers. -/
theorem proof_time_iff {issued now begun : UInt64} (hbegun : begun ≤ now) :
    (issued ≤ saturatingAdd now maxClockSkewMs ∧ saturatingSub now issued ≤ maxProofAgeMs ∧
        begun ≤ saturatingAdd issued maxProofAgeMs) ↔
      issued.toNat ≤ now.toNat + 30000 ∧ now.toNat ≤ issued.toNat + 600000 := by
  have hnow : begun.toNat ≤ now.toNat := UInt64.le_iff_toNat_le.mp hbegun
  have hskew : maxClockSkewMs.toNat = 30000 := rfl
  have hage : maxProofAgeMs.toNat = 600000 := rfl
  rw [le_saturatingAdd_iff, saturatingSub_le_iff, le_saturatingAdd_iff, hskew, hage]
  omega

/-- The checks of a journal by the verifier are those by a new gate, at the times in the
window. -/
theorem offChainJournal_iff {P : Primitives} {G : GuestRuntime} (hG : G.TakesWindows)
    {gate : GateConfig} {contextHash root nonce : Digest32}
    (hhash : gate.contextHash P.sha256 = some contextHash) {journal : AttestationJournal}
    {nowUnixMs : UInt64} {challenge : VerificationChallenge}
    (hmax : journal.issuedAtUnixMs.toNat + 600001 ≤ u64Max)
    (hissuedFor : IssuedFor P gate root challenge)
    (hbegun : challenge.issuedAtUnixMs ≤ nowUnixMs) :
    OffChainJournal P gate challenge journal nowUnixMs ↔
      OnChainJournal (.fromPublicInputs contextHash gate.context.tokenProgramOwner
          gate.context.tokenDefinitionId gate.context.threshold root gate.context.expiresAtUnixMs
          defaultOnChainProofAgeMs nonce) (.ofAttestationJournal journal) ∧
        ∃ window, claimWindow G (.ofAttestationJournal journal) defaultOnChainProofAgeMs =
            .ok window ∧ window.1 ≤ nowUnixMs ∧ nowUnixMs < window.2 := by
  have hdefault : defaultOnChainProofAgeMs.toNat = 600000 := rfl
  rw [mem_claimWindow_iff hG]
  constructor
  · intro h
    obtain ⟨hissued, hage⟩ :=
      (proof_time_iff hbegun).mp ⟨h.issued, h.age, h.afterChallenge⟩
    refine ⟨⟨h.version, ?_, h.expiry, h.owner, h.definition, h.threshold, ?_⟩, ?_, hissued, ?_,
      h.unexpired⟩
    · exact Option.some.inj (h.context.symm.trans hhash)
    · exact h.root.trans hissuedFor.root
    · show journal.issuedAtUnixMs.toNat + defaultOnChainProofAgeMs.toNat + 1 ≤ u64Max
      omega
    · show nowUnixMs.toNat ≤ journal.issuedAtUnixMs.toNat + defaultOnChainProofAgeMs.toNat
      omega
  · rintro ⟨h, -, hissued, hage, hexpiry⟩
    have htime := (proof_time_iff hbegun).mpr ⟨hissued, hage⟩
    refine ⟨h.version, ?_, ?_, h.owner, h.definition, h.threshold, h.expiry, hexpiry, htime.1,
      htime.2.1, htime.2.2⟩
    · exact hhash.trans (congrArg some h.context.symm)
    · exact h.root.trans hissuedFor.root.symm

/-- A request presents a journal for a challenge of the gate at a time, and passes the
checks that do not read the journal. -/
structure PresentsJournal (P : Primitives) (gate : GateConfig) (challenge : VerificationChallenge)
    (journal : AttestationJournal) (nowUnixMs : UInt64) (r : VerifyRequest) : Prop where
  gate : r.expectedGate = gate
  challenge : r.envelope.challenge = challenge
  journal : r.envelope.journal = journal
  time : r.nowUnixMs = nowUnixMs
  checks : OffChainChallenge P r

/-- An execution of `claim` is for a journal, on a gate account with the state, and
passes the checks that do not read the journal: the signature fits, and the host has a
verified receipt. -/
structure ClaimsJournal (P : Primitives) (G : GuestRuntime) (state : GateState)
    (journal : OnChainAttestationJournal) (programId : ProgramId) (gate : Account)
    (call : ClaimCall) : Prop where
  data : gate.data = encodeGateState state
  access : call.access.journal = journal
  signature : P.ed25519.Accepts journal.presenterPublicKey call.access.presenterSignature
    (onChainPresentationMessage P.sha256 (state.challenge programId call.badge.accountId)
      journal).toList
  receipt : ReceiptVerifies G call.envVerify call.access

/-- A request that presents a journal is valid exactly when the journal is. -/
theorem PresentsJournal.validate_iff {P : Primitives} {gate : GateConfig}
    {challenge : VerificationChallenge} {journal : AttestationJournal} {nowUnixMs : UInt64}
    {r : VerifyRequest} (h : PresentsJournal P gate challenge journal nowUnixMs r) :
    validateClaimsAndSignature P r = .ok () ↔
      OffChainJournal P gate challenge journal nowUnixMs := by
  rw [validateClaimsAndSignature_eq_ok_iff, claimsValid_iff, h.gate, h.challenge, h.journal,
    h.time]
  exact and_iff_right h.checks

/-- `evaluate_claim` accepts a claim with a fitting signature exactly when its journal
passes the checks of the gate, as long as the counter can grow. -/
theorem ClaimsJournal.evaluateClaim_iff {P : Primitives} {G : GuestRuntime} {state : GateState}
    (hstate : state.validate = .ok ()) (hcounter : state.claimCounter.toNat < u64Max)
    {journal : OnChainAttestationJournal} {programId : ProgramId} {gate : Account}
    {call : ClaimCall} (h : ClaimsJournal P G state journal programId gate call) :
    (evaluateClaim P state programId call.badge.accountId call.access).isOk ↔
      OnChainJournal state journal := by
  rw [evaluateClaim_isOk_iff hcounter, claimValid_iff, h.access]
  constructor
  · rintro ⟨-, hjournal, -⟩
    exact hjournal
  · intro hjournal
    exact ⟨hstate, hjournal, h.signature⟩

/-- An execution for a journal succeeds exactly when the journal passes the checks of the
gate, with the window that is computed for it. -/
theorem ClaimsJournal.window_iff {P : Primitives} {G : GuestRuntime} (hdata : 203 ≤ G.dataMaxLength)
    {state : GateState} (hstate : state.validate = .ok ())
    (hcounter : state.claimCounter.toNat < u64Max) {journal : OnChainAttestationJournal}
    {programId : ProgramId} {gate : Account} {call : ClaimCall}
    (h : ClaimsJournal P G state journal programId gate call) {window : UInt64 × UInt64} :
    (∃ output, claim P G call.envVerify programId gate call.badge call.access = .ok output ∧
        (output.validFrom, output.validUntil) = window) ↔
      OnChainJournal state journal ∧
        claimWindow G journal state.maxProofAgeMs = .ok window := by
  have hdecoded : decodeGateState gate.data = some state := by
    rw [h.data, decodeGateState_encodeGateState]
  rw [claim_window_iff hdata hdecoded h.receipt, h.evaluateClaim_iff hstate hcounter, h.access]

/-- The two consumers enforce the same policy on a journal.  At a time at which the
challenge is live, the journal passes the checks of the verifier exactly when it passes
those of the gate and the time lies in the window, and this is when
`validate_claims_and_signature` accepts it, and when `claim` succeeds with a window that
holds the time. -/
theorem journal_policy_agrees {P : Primitives} {G : GuestRuntime} (hG : G.TakesWindows)
    {gate : GateConfig} (hgate : gate.validate = .ok ()) {root nonce : Digest32}
    (hroot : root ≠ zeroDigest) (hnonce : nonce ≠ zeroDigest) :
    ∃ state, GateState.new P.sha256 gate.context root nonce = some state ∧
      state.validate = .ok () ∧
      ∀ (journal : AttestationJournal) (nowUnixMs : UInt64) (challenge : VerificationChallenge),
        journal.issuedAtUnixMs.toNat + 600001 ≤ u64Max →
        IssuedFor P gate root challenge →
        challenge.issuedAtUnixMs ≤ nowUnixMs → nowUnixMs ≤ challenge.expiresAtUnixMs →
        (OffChainJournal P gate challenge journal nowUnixMs ↔
          OnChainJournal state (.ofAttestationJournal journal) ∧
            ∃ window, claimWindow G (.ofAttestationJournal journal) state.maxProofAgeMs =
                .ok window ∧
              window.1 ≤ nowUnixMs ∧ nowUnixMs < window.2) ∧
        ∀ (r : VerifyRequest) (programId : ProgramId) (account : Account) (call : ClaimCall),
          PresentsJournal P gate challenge journal nowUnixMs r → 203 ≤ G.dataMaxLength →
          ClaimsJournal P G state (.ofAttestationJournal journal) programId account call →
          (validateClaimsAndSignature P r = .ok () ↔
              OffChainJournal P gate challenge journal nowUnixMs) ∧
            ((evaluateClaim P state programId call.badge.accountId call.access).isOk ↔
              OnChainJournal state (.ofAttestationJournal journal)) ∧
            (validateClaimsAndSignature P r = .ok () ↔
              ∃ output,
                claim P G call.envVerify programId account call.badge call.access = .ok output ∧
                output.validFrom ≤ nowUnixMs ∧ nowUnixMs < output.validUntil) := by
  obtain ⟨contextHash, hhash⟩ := GateConfig.exists_contextHash P.sha256 hgate
  have hbounds : minOnChainProofAgeMs ≤ defaultOnChainProofAgeMs ∧
      defaultOnChainProofAgeMs ≤ maxOnChainProofAgeMs := by decide
  refine ⟨.fromPublicInputs contextHash _ _ _ root _ defaultOnChainProofAgeMs nonce,
    GateState.newWithMaxProofAge_eq_some.mpr ⟨hhash, rfl⟩, ?_⟩
  generalize hnew : GateState.fromPublicInputs contextHash gate.context.tokenProgramOwner
    gate.context.tokenDefinitionId gate.context.threshold root gate.context.expiresAtUnixMs
    defaultOnChainProofAgeMs nonce = state
  have hstate : state.validate = .ok () := by
    rw [← hnew]
    exact GateState.validate_eq_ok.mpr
      ⟨rfl, GateConfig.threshold_ne_zero hgate, hroot, hnonce, hbounds.1, hbounds.2⟩
  have hcounter : state.claimCounter.toNat < u64Max := by
    rw [← hnew]
    show (0 : UInt64).toNat < u64Max
    decide
  refine ⟨hstate, ?_⟩
  intro journal nowUnixMs challenge hmax hissuedFor hbegun _
  have hpolicy : OffChainJournal P gate challenge journal nowUnixMs ↔
      OnChainJournal state (.ofAttestationJournal journal) ∧
        ∃ window, claimWindow G (.ofAttestationJournal journal) state.maxProofAgeMs =
            .ok window ∧ window.1 ≤ nowUnixMs ∧ nowUnixMs < window.2 := by
    subst hnew
    exact offChainJournal_iff hG hhash hmax hissuedFor hbegun
  refine ⟨hpolicy, ?_⟩
  intro r programId account call hpresents hdata hclaims
  refine ⟨hpresents.validate_iff, hclaims.evaluateClaim_iff hstate hcounter, ?_⟩
  rw [hpresents.validate_iff, hpolicy]
  constructor
  · rintro ⟨hjournal, window, hwindow, hcontains⟩
    obtain ⟨output, hclaim, rfl⟩ :=
      (hclaims.window_iff hdata hstate hcounter).mpr ⟨hjournal, hwindow⟩
    exact ⟨output, hclaim, hcontains⟩
  · rintro ⟨output, hclaim, hcontains⟩
    obtain ⟨hjournal, hwindow⟩ :=
      (hclaims.window_iff hdata hstate hcounter).mp ⟨output, hclaim, rfl⟩
    exact ⟨hjournal, _, hwindow, hcontains⟩

/-- The founders' journal passes the checks of both consumers at time 1200, and so the
claim of the tests succeeds with a window that holds this time. -/
theorem journal_policy_agrees_founders :
    OnChainJournal foundersInputs.state (.ofAttestationJournal foundersJournal) ∧
      (∃ window, claimWindow foundersRuntime (.ofAttestationJournal foundersJournal)
        defaultOnChainProofAgeMs = .ok window ∧ window.1 ≤ 1200 ∧ 1200 < window.2) ∧
      ∃ output, claim foundersPrimitives foundersRuntime foundersCall.envVerify
          foundersProgramId foundersGateAccount foundersCall.badge foundersAccess = .ok output ∧
        output.validFrom ≤ 1200 ∧ 1200 < output.validUntil := by
  have hok := verify_foundersRequest_isOk
  have hclaims := (verify_eq_ok_iff.mp hok).1.claims
  have hG : foundersRuntime.TakesWindows := by
    intro start stop hlt
    exact decide_eq_true hlt
  have hnonzero : foundersRoot ≠ zeroDigest ∧
      (List.Vector.replicate 32 5 : Digest32) ≠ zeroDigest := by
    decide +kernel
  obtain ⟨state, hnew, -, hiff⟩ := journal_policy_agrees (P := foundersPrimitives) hG
    hclaims.gate hnonzero.1 hnonzero.2
  obtain rfl : foundersInputs.state = state :=
    Option.some.inj (newWithMaxProofAge_founders.symm.trans hnew)
  have hissued : IssuedFor foundersPrimitives foundersGate foundersRoot
      foundersEnvelope.challenge :=
    ⟨rfl, hclaims.challengeContext, rfl, rfl, by decide, by decide⟩
  obtain ⟨hpolicy, hfunctions⟩ := hiff foundersJournal 1200 foundersEnvelope.challenge (by decide)
    hissued (by decide) (by decide)
  obtain ⟨hchecks, hjournal⟩ := claimsValid_iff.mp hclaims
  obtain ⟨hgate, hwindow⟩ := hpolicy.mp hjournal
  obtain ⟨state, claimNumber, haccepted⟩ := claim_eq_ok claim_founders
  obtain rfl : state = foundersInputs.state := haccepted.state_eq rfl
  have hpresents : PresentsJournal foundersPrimitives foundersGate foundersEnvelope.challenge
      foundersJournal 1200 foundersRequest := ⟨rfl, rfl, rfl, rfl, hchecks⟩
  have hclaim : ClaimsJournal foundersPrimitives foundersRuntime foundersInputs.state
      (.ofAttestationJournal foundersJournal) foundersProgramId foundersGateAccount foundersCall :=
    ⟨rfl, rfl, haccepted.valid.signature, haccepted.receipt⟩
  refine ⟨hgate, hwindow, ?_⟩
  exact (hfunctions foundersRequest foundersProgramId foundersGateAccount foundersCall hpresents
    (by decide) hclaim).2.2.mp (validateClaimsAndSignature_eq_ok_iff.mpr hclaims)

end TokenStudio
