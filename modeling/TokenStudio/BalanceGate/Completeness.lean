import TokenStudio.BalanceGate.ClaimRuns
import TokenStudio.BalanceGate.Window

/-!
# An honest holder can always claim

`create_on_chain_claim` builds a claim from a proof, the current state of the gate
and the presenter's key.  The result here is that the gate accepts it, in every
state that it can reach, and that the window of the claim covers the whole life of
the proof.

The journal of an accepted witness repeats the context of the gate, and a state
keeps what its context gave it (`OnChainPolicy`), so every comparison of
`evaluate_claim` is between equal values.  The window is not empty because the
circuit refuses a witness that is issued after the expiry.
-/

namespace TokenStudio

/-- `create_on_chain_claim`, on the contents of the files it reads.
`balanceGateId` is the image id of the guest, which the build generates. -/
def createOnChainClaim (P : Primitives) (balanceGateId : ProgramId)
    (proof : Risc0AttestationProof) (state : GateState) (claimAccountId : Digest32)
    (signingKey : P.ed25519.SigningKey) : Outcome String ClaimAccess := do
  state.validate.mapErr ClaimError.message
  Outcome.check (proof.journal.commitmentRoot ≠ state.commitmentRoot)
    "proof commitment root is not authorized by the on-chain gate"
  Outcome.check (P.ed25519.publicKey signingKey ≠ proof.journal.presenterPublicKey)
    "presenter key does not match the public key committed in the proof"
  let journal := OnChainAttestationJournal.ofAttestationJournal proof.journal
  let challenge := state.challenge balanceGateId claimAccountId
  let signature := P.ed25519.sign signingKey
    (onChainPresentationMessage P.sha256 challenge journal).toList
  pure { journal, presenterSignature := signature.toList }

/-- The claim that an honest holder builds. -/
def honestClaim (P : Primitives) (balanceGateId : ProgramId) (journal : AttestationJournal)
    (state : GateState) (claimAccountId : Digest32) (signingKey : P.ed25519.SigningKey) :
    ClaimAccess where
  journal := .ofAttestationJournal journal
  presenterSignature := (P.ed25519.sign signingKey
    (onChainPresentationMessage P.sha256 (state.challenge balanceGateId claimAccountId)
      (.ofAttestationJournal journal)).toList).toList

/-- The builder succeeds for a valid state, its root and the committed key. -/
theorem createOnChainClaim_eq_ok {P : Primitives} {balanceGateId : ProgramId}
    {proof : Risc0AttestationProof} {state : GateState} {claimAccountId : Digest32}
    {signingKey : P.ed25519.SigningKey} (hstate : state.validate = .ok ())
    (hroot : proof.journal.commitmentRoot = state.commitmentRoot)
    (hkey : P.ed25519.publicKey signingKey = proof.journal.presenterPublicKey) :
    createOnChainClaim P balanceGateId proof state claimAccountId signingKey =
      .ok (honestClaim P balanceGateId proof.journal state claimAccountId signingKey) := by
  simp [createOnChainClaim, hstate, hroot, hkey, honestClaim]

/-! ## What a reached state has from its context -/

/-- A state with the policy of a context. -/
structure OnChainPolicy (sha256 : Bytes → Digest32) (context : GateContext)
    (state : GateState) : Prop where
  hash : context.contextHash sha256 = some state.contextHash
  expiry : context.expiresAtUnixMs = state.expiresAtUnixMs
  owner : context.tokenProgramOwner = state.tokenProgramOwner
  definition : context.tokenDefinitionId = state.tokenDefinitionId
  threshold : context.threshold = state.threshold

/-- A new gate has the policy of its context. -/
theorem onChainPolicy_new {sha256 : Bytes → Digest32} {context : GateContext}
    {root nonce : Digest32} {age : UInt64} {state : GateState}
    (h : GateState.newWithMaxProofAge sha256 context root nonce age = some state) :
    OnChainPolicy sha256 context state := by
  obtain ⟨hhash, hstate⟩ := GateState.newWithMaxProofAge_eq_some.mp h
  rw [hstate]
  exact ⟨hhash, rfl, rfl, rfl, rfl⟩

/-- States with the same policy have the policy of the same context. -/
theorem OnChainPolicy.of_policy_eq {sha256 : Bytes → Digest32} {context : GateContext}
    {state state' : GateState} (h : OnChainPolicy sha256 context state)
    (heq : state'.policy = state.policy) : OnChainPolicy sha256 context state' := by
  simp only [GateState.policy, GatePolicy.mk.injEq] at heq
  obtain ⟨-, hcontext, howner, hdefinition, hthreshold, -, hexpiry, -⟩ := heq
  exact
    { hash := by rw [hcontext]; exact h.hash
      expiry := by rw [hexpiry]; exact h.expiry
      owner := by rw [howner]; exact h.owner
      definition := by rw [hdefinition]; exact h.definition
      threshold := by rw [hthreshold]; exact h.threshold }

/-- A state with a valid policy and a nonce passes validation. -/
theorem GateState.validate_of_policy_eq {state state' : GateState}
    (h : state.validate = .ok ()) (heq : state'.policy = state.policy)
    (hnonce : state'.challengeNonce ≠ zeroDigest) : state'.validate = .ok () := by
  simp only [GateState.policy, GatePolicy.mk.injEq] at heq
  obtain ⟨hversion, -, -, -, hthreshold, hroot, -, hage⟩ := heq
  obtain ⟨h1, h2, h3, -, h4⟩ := GateState.validate_eq_ok.mp h
  rw [GateState.validate_eq_ok, hversion, hthreshold, hroot, hage]
  exact ⟨h1, h2, h3, hnonce, h4⟩

/-! ## Acceptance -/

/-- The honest claim is valid in a state with the policy of the context. -/
theorem claimValid_honestClaim {P : Primitives} {context : GateContext} {state : GateState}
    (hpolicy : OnChainPolicy P.sha256 context state) (hstate : state.validate = .ok ())
    {witness : BalanceAttestationWitness} {journal : AttestationJournal}
    (hcontext : witness.gateContext = context)
    (hroot : witness.commitmentRoot = state.commitmentRoot)
    (heval : evaluate P.sha256 witness = .ok journal) {programId : ProgramId}
    {claimAccountId : Digest32} {signingKey : P.ed25519.SigningKey}
    (hkey : P.ed25519.publicKey signingKey = journal.presenterPublicKey)
    (hsign : P.ed25519.SignsOwn signingKey
      (onChainPresentationMessage P.sha256 (state.challenge programId claimAccountId)
        (.ofAttestationJournal journal)).toList) :
    ClaimValid P state programId claimAccountId
      (honestClaim P programId journal state claimAccountId signingKey) := by
  obtain ⟨-, hnew⟩ := evaluate_eq_ok_iff.mp heval
  have hversion := AttestationJournal.new_version hnew
  obtain ⟨hhash, howner, hdefinition, hthreshold, hjroot, -, -, hexpiry⟩ :=
    AttestationJournal.new_eq_some hnew
  rw [hcontext] at hhash howner hdefinition hthreshold hexpiry
  exact
    { validState := hstate
      version := hversion
      context := Option.some.inj (hhash.symm.trans hpolicy.hash)
      expiry := hexpiry.trans hpolicy.expiry
      owner := howner.trans hpolicy.owner
      definition := hdefinition.trans hpolicy.definition
      threshold := hthreshold.trans hpolicy.threshold
      root := hjroot.trans hroot
      signature := by
        unfold Ed25519.SignsOwn at hsign
        rw [hkey] at hsign
        exact hsign }

/-- The life of a proof: the times at which it is fresh and has not expired. -/
def AttestationJournal.LivesAt (journal : AttestationJournal) (maxProofAgeMs time : UInt64) :
    Prop :=
  journal.issuedAtUnixMs ≤ time ∧
    time.toNat ≤ journal.issuedAtUnixMs.toNat + maxProofAgeMs.toNat ∧
    ∀ expiry, journal.expiresAtUnixMs = some expiry → time ≤ expiry

/-- The window of an honest proof covers its whole life. -/
theorem honest_window {P : Primitives} {G : GuestRuntime} (hG : G.TakesWindows)
    {witness : BalanceAttestationWitness} {journal : AttestationJournal}
    (heval : evaluate P.sha256 witness = .ok journal) {age : UInt64}
    (hmax : journal.issuedAtUnixMs.toNat + age.toNat + 1 ≤ u64Max) :
    ∃ window, claimWindow G (.ofAttestationJournal journal) age = .ok window ∧
      ∀ time, journal.LivesAt age time → window.1 ≤ time ∧ time < window.2 := by
  obtain ⟨hattests, hnew⟩ := evaluate_eq_ok_iff.mp heval
  obtain ⟨-, -, -, -, -, -, hissued, hexpiry⟩ := AttestationJournal.new_eq_some hnew
  have hunexpired : isAfter journal.issuedAtUnixMs journal.expiresAtUnixMs = false := by
    rw [hissued, hexpiry]
    exact hattests.expiry
  have hmem : ∀ time : UInt64, journal.issuedAtUnixMs ≤ time →
      time.toNat ≤ journal.issuedAtUnixMs.toNat + age.toNat →
      isAfter time journal.expiresAtUnixMs = false →
      ∃ window, claimWindow G (.ofAttestationJournal journal) age = .ok window ∧
        window.1 ≤ time ∧ time < window.2 := by
    intro time hle hage hexpired
    rw [UInt64.le_iff_toNat_le] at hle
    refine (mem_claimWindow_iff hG).mpr ⟨hmax, ?_, hage, hexpired⟩
    show journal.issuedAtUnixMs.toNat ≤ time.toNat + 30000
    omega
  -- the time of issue is in the window, so there is one
  obtain ⟨window, hwindow, -⟩ :=
    hmem journal.issuedAtUnixMs UInt64.le_rfl (by omega) hunexpired
  refine ⟨window, hwindow, ?_⟩
  rintro time ⟨hle, hage, hexpired⟩
  obtain ⟨window', hwindow', hcontains⟩ := hmem time hle hage (isAfter_eq_false.mpr hexpired)
  rw [hwindow] at hwindow'
  rw [Outcome.ok.inj hwindow']
  exact hcontains

/-- `evaluate_claim` accepts the honest claim in a state whose counter can grow. -/
theorem evaluateClaim_honestClaim {P : Primitives} {context : GateContext} {state : GateState}
    (hpolicy : OnChainPolicy P.sha256 context state) (hstate : state.validate = .ok ())
    (hcounter : state.claimCounter.toNat < u64Max) {witness : BalanceAttestationWitness}
    {journal : AttestationJournal} (hcontext : witness.gateContext = context)
    (hroot : witness.commitmentRoot = state.commitmentRoot)
    (heval : evaluate P.sha256 witness = .ok journal) {programId : ProgramId}
    {claimAccountId : Digest32} {signingKey : P.ed25519.SigningKey}
    (hkey : P.ed25519.publicKey signingKey = journal.presenterPublicKey)
    (hsign : P.ed25519.SignsOwn signingKey
      (onChainPresentationMessage P.sha256 (state.challenge programId claimAccountId)
        (.ofAttestationJournal journal)).toList) :
    ∃ result, evaluateClaim P state programId claimAccountId
      (honestClaim P programId journal state claimAccountId signingKey) = .ok result := by
  have hvalid := claimValid_honestClaim hpolicy hstate hcontext hroot heval hkey hsign
  exact Outcome.isOk_iff.mp ((evaluateClaim_isOk_iff hcounter).mpr hvalid)

/-- The guest gets through an honest claim, with a window that covers the life of the
proof. -/
theorem exists_claimPasses {P : Primitives} {G : GuestRuntime} (hG : G.TakesWindows)
    (hdata : 203 ≤ G.dataMaxLength) {context : GateContext} {state : GateState}
    (hpolicy : OnChainPolicy P.sha256 context state) (hvalid : state.validate = .ok ())
    (hcounter : state.claimCounter.toNat < u64Max) {witness : BalanceAttestationWitness}
    {journal : AttestationJournal} (hcontext : witness.gateContext = context)
    (hroot : witness.commitmentRoot = state.commitmentRoot)
    (heval : evaluate P.sha256 witness = .ok journal)
    (hmax : journal.issuedAtUnixMs.toNat + state.maxProofAgeMs.toNat + 1 ≤ u64Max)
    {programId : ProgramId} {claimAccountId : Digest32} {signingKey : P.ed25519.SigningKey}
    (hkey : P.ed25519.publicKey signingKey = journal.presenterPublicKey)
    (hsign : P.ed25519.SignsOwn signingKey
      (onChainPresentationMessage P.sha256 (state.challenge programId claimAccountId)
        (.ofAttestationJournal journal)).toList) :
    ∃ result window,
      ClaimPasses P G programId state claimAccountId
        (honestClaim P programId journal state claimAccountId signingKey) result window ∧
      ∀ time, journal.LivesAt state.maxProofAgeMs time → window.1 ≤ time ∧ time < window.2 := by
  obtain ⟨result, hresult⟩ :=
    evaluateClaim_honestClaim hpolicy hvalid hcounter hcontext hroot heval hkey hsign
  obtain ⟨window, hwindow, hcovers⟩ := honest_window (P := P) hG heval hmax
  refine ⟨result, window, ⟨hresult, ?_, ?_, hwindow⟩, hcovers⟩
  · exact (encodeGateState_length_le _).trans hdata
  · rw [encodeAccessBadge_length]
    omega

/-- Honest holders are never locked out.  In every state that a gate for a context
reaches, with a counter that can grow and a nonce, the claim of a holder with an
accepted witness can be built, and `evaluate_claim` accepts it.  The window of the guest
covers the life of the proof: every execution of `claim` on an account with the state,
for a verified receipt, succeeds with such a window. -/
theorem honest_claim_accepted {P : Primitives} {G : GuestRuntime} (hG : G.TakesWindows)
    {context : GateContext} {root nonce : Digest32} {maxProofAgeMs : UInt64} {start : GateState}
    (hnew : GateState.newWithMaxProofAge P.sha256 context root nonce maxProofAgeMs = some start)
    (hstart : start.validate = .ok ()) (attempts : List ClaimAttempt) :
    let state := Mutating.final (attemptClaim P) attempts start
    state.claimCounter.toNat < u64Max → state.challengeNonce ≠ zeroDigest →
    ∀ (witness : BalanceAttestationWitness) (journal : AttestationJournal),
      witness.gateContext = context → witness.commitmentRoot = state.commitmentRoot →
      evaluate P.sha256 witness = .ok journal →
      (∀ (receipt : Bytes) (balanceGateId : ProgramId) (claimAccountId : Digest32)
          (signingKey : P.ed25519.SigningKey),
        P.ed25519.publicKey signingKey = journal.presenterPublicKey →
        P.ed25519.SignsOwn signingKey
          (onChainPresentationMessage P.sha256 (state.challenge balanceGateId claimAccountId)
            (.ofAttestationJournal journal)).toList →
        ∃ access, createOnChainClaim P balanceGateId ⟨journal, receipt⟩ state claimAccountId
            signingKey = .ok access ∧
          (evaluateClaim P state balanceGateId claimAccountId access).isOk ∧
          (journal.issuedAtUnixMs.toNat + state.maxProofAgeMs.toNat + 1 ≤ u64Max →
            203 ≤ G.dataMaxLength →
            ∀ (gate badge : Account) (envVerify : ProgramOwner → List UInt32 → Bool),
              gate.data = encodeGateState state → badge.accountId = claimAccountId →
              ReceiptVerifies G envVerify access →
              ∃ output, claim P G envVerify balanceGateId gate badge access = .ok output ∧
                ∀ time, journal.LivesAt state.maxProofAgeMs time →
                  output.validFrom ≤ time ∧ time < output.validUntil)) ∧
      (journal.issuedAtUnixMs.toNat + state.maxProofAgeMs.toNat + 1 ≤ u64Max →
        ∃ window, claimWindow G (.ofAttestationJournal journal) state.maxProofAgeMs =
            .ok window ∧
          ∀ time, journal.LivesAt state.maxProofAgeMs time →
            window.1 ≤ time ∧ time < window.2) := by
  intro state hcounter hnonce witness journal hcontext hroot heval
  have hzero : start.claimCounter = 0 := by
    rw [(GateState.newWithMaxProofAge_eq_some.mp hnew).2]
    rfl
  have hsame : state.policy = start.policy := (claimLedger_run P hzero attempts).policy
  have hstate : state.validate = .ok () :=
    GateState.validate_of_policy_eq hstart hsame hnonce
  have hpolicy := (onChainPolicy_new hnew).of_policy_eq hsame
  refine ⟨?_, fun hmax => honest_window hG heval hmax⟩
  intro receipt balanceGateId claimAccountId signingKey hkey hsign
  obtain ⟨-, hjournal⟩ := evaluate_eq_ok_iff.mp heval
  have hjroot : journal.commitmentRoot = state.commitmentRoot :=
    (AttestationJournal.new_eq_some hjournal).2.2.2.2.1.trans hroot
  refine ⟨_, createOnChainClaim_eq_ok hstate hjroot hkey, ?_, ?_⟩
  · exact Outcome.isOk_iff.mpr
      (evaluateClaim_honestClaim hpolicy hstate hcounter hcontext hroot heval hkey hsign)
  · rintro hmax hdata gate badge envVerify hgate rfl hreceipt
    obtain ⟨result, window, hpasses, hcovers⟩ := exists_claimPasses hG hdata hpolicy hstate
      hcounter hcontext hroot heval hmax hkey hsign
    have hdecoded : decodeGateState gate.data = some state := by
      rw [hgate, decodeGateState_encodeGateState]
    exact ⟨_, (claim_eq_ok_iff hdecoded).mpr ⟨hreceipt, result, window, hpasses, rfl⟩, hcovers⟩

/-- The public key of the first account, and its signature for badge account
`[6; 32]`. -/
theorem foundersSeed_signs_claim :
    Edwards25519.group.publicKey foundersSeed = foundersKey ∧
      (Edwards25519.group.sign foundersSeed (onChainPresentationMessage sha256
        (foundersInputs.state.challenge foundersProgramId (List.Vector.replicate 32 6))
        foundersAccess.journal).toList).toList = foundersAccess.presenterSignature := by
  decide +kernel

theorem honest_claim_accepted_founders :
    (∃ access, createOnChainClaim foundersPrimitives foundersProgramId ⟨foundersJournal, []⟩
        foundersInputs.state (List.Vector.replicate 32 6) foundersSeed = .ok access ∧
      (evaluateClaim foundersPrimitives foundersInputs.state foundersProgramId
        (List.Vector.replicate 32 6) access).isOk ∧
      ∃ output, claim foundersPrimitives foundersRuntime foundersCall.envVerify
          foundersProgramId foundersGateAccount foundersCall.badge access = .ok output ∧
        output.validFrom ≤ 1000 ∧ 1000 < output.validUntil) ∧
      ∃ window, claimWindow foundersRuntime (.ofAttestationJournal foundersJournal)
          defaultOnChainProofAgeMs = .ok window ∧ window.1 ≤ 1000 ∧ 1000 < window.2 := by
  have hG : foundersRuntime.TakesWindows := by
    intro start stop hlt
    exact decide_eq_true hlt
  have hvalid := (initializeGate_eq_ok initializeGate_founders).1
  obtain ⟨state, claimNumber, haccepted⟩ := claim_eq_ok claim_founders
  obtain rfl : state = foundersInputs.state := haccepted.state_eq rfl
  have hsign : foundersPrimitives.ed25519.SignsOwn foundersSeed (onChainPresentationMessage sha256
      (foundersInputs.state.challenge foundersProgramId (List.Vector.replicate 32 6))
      foundersAccess.journal).toList := by
    show foundersPrimitives.ed25519.Accepts (Edwards25519.group.publicKey foundersSeed)
      (Edwards25519.group.sign foundersSeed _).toList _
    rw [foundersSeed_signs_claim.1, foundersSeed_signs_claim.2]
    exact haccepted.valid.signature
  have hhonest := honest_claim_accepted (P := foundersPrimitives) hG newWithMaxProofAge_founders
    hvalid [] (by decide) (GateState.validate_eq_ok.mp hvalid).2.2.2.1 foundersWitness
    foundersJournal rfl rfl evaluate_foundersWitness
  have hlives : foundersJournal.LivesAt defaultOnChainProofAgeMs 1000 := by
    refine ⟨by decide, by decide, ?_⟩
    intro expiry hexpiry
    obtain rfl : 2000000 = expiry := Option.some.inj hexpiry
    decide
  obtain ⟨access, hcreated, haccepts, hclaim⟩ :=
    hhonest.1 [] foundersProgramId _ foundersSeed foundersSeed_signs_claim.1 hsign
  refine ⟨⟨access, hcreated, haccepts, ?_⟩, ?_⟩
  · have hhonestClaim := Outcome.ok.inj (hcreated.symm.trans (createOnChainClaim_eq_ok hvalid rfl
      foundersSeed_signs_claim.1))
    have hreceipt : ReceiptVerifies foundersRuntime foundersCall.envVerify access := by
      rw [hhonestClaim]
      exact ⟨journalWords foundersJournal, rfl, by simp [foundersCall]⟩
    obtain ⟨output, houtput, hcontains⟩ := hclaim (by decide) (by decide) foundersGateAccount
      foundersCall.badge foundersCall.envVerify rfl rfl hreceipt
    exact ⟨output, houtput, hcontains 1000 hlives⟩
  · obtain ⟨window, hwindow, hcontains⟩ := hhonest.2 (by decide)
    exact ⟨window, hwindow, hcontains 1000 hlives⟩

end TokenStudio
