import TokenStudio.AttestationCli.HolderChallenge
import TokenStudio.CodeLib.Base64
import TokenStudio.CodeLib.Emits
import TokenStudio.LezGateSdk.Claims

/-!
# The on-chain commands

The part of the crate `attestation-cli` that works with a gate on the chain:
`on-chain initialize-submit`, `fetch-state`, `present` and `claim-submit`.

The chain moves on while a holder prepares a claim.  A claim is signed for the state in a
file, so `claim-submit` fetches the account again and compares.  `submission_guard_exact`
says that this comparison is exact: it fails if and only if another claim was accepted in
between, and then the claim is worthless, since the gate would refuse it.

The command has effects that do not go away when it fails: two files and a transaction.
They form a log, and `submission_effects` says what may stand in it: nothing, unless the
guest has accepted the claim on the account as it was fetched.

What a sequencer answers, the key files and the results of writing are arguments.
-/

namespace TokenStudio

/-- `Account` of the crate `lee_core`, as far as it is read. -/
structure LedgerAccount where
  programOwner : ProgramId
  nonce : U128
  data : Bytes
  deriving DecidableEq

/-- `DEFAULT_PROGRAM_ID`. -/
def defaultProgramId : ProgramId := List.Vector.replicate 8 0

/-- What a sequencer behind a URL answers to these commands.  Accounts are asked for by
the text of their id. -/
structure LedgerSequencer where
  /-- `HttpClientBuilder::build`. -/
  build : Except String Unit
  /-- The method `getAccount`. -/
  getAccount : String → Except String LedgerAccount
  /-- The method `sendTransaction`. -/
  sendTransaction : String → Except String String

/-- Texts of other crates: an account id, and the error for bytes that do not decode. -/
structure LedgerTexts where
  accountId : Digest32 → String
  decodeError : Bytes → String

section

variable (texts : LedgerTexts) (balanceGateId : ProgramId) (sequencer : LedgerSequencer)

/-- `fetch_public_account`. -/
def fetchPublicAccount (accountId : Digest32) : Outcome String LedgerAccount := do
  Outcome.ofExcept (fun error => "failed to create sequencer RPC client: " ++ error)
    sequencer.build
  Outcome.ofExcept (fun error => "sequencer getAccount request failed: " ++ error)
    (sequencer.getAccount (texts.accountId accountId))

/-- The check of `validated_gate_state` and `validated_access_badge` that the account
belongs to the gate program. -/
def ensureGateOwner (account : LedgerAccount) (accountId : Digest32) : Outcome String Unit :=
  Outcome.check (account.programOwner ≠ balanceGateId)
    ("account " ++ texts.accountId accountId ++ " is not owned by balance_gate " ++
      programOwnerToHex balanceGateId)

/-- `validated_gate_state`. -/
def validatedGateState (account : LedgerAccount) (accountId : Digest32) :
    Outcome String GateState := do
  ensureGateOwner texts balanceGateId account accountId
  let state ← Outcome.okOr (decodeGateState account.data)
    ("account " ++ texts.accountId accountId ++ " has invalid gate state: " ++
      texts.decodeError account.data)
  state.validate.mapErr ClaimError.message
  pure state

/-- `fetch_on_chain_state`, with the result of writing the state. -/
def fetchOnChainState (gateAccountId : Digest32) (output : Outcome String Unit) :
    Outcome String GateState := do
  let account ← fetchPublicAccount texts sequencer gateAccountId
  let state ← validatedGateState texts balanceGateId account gateAccountId
  output
  pure state

end

/-! ## Sending -/

/-- What a command leaves behind, in the order in which it did so. -/
inductive ChainEffect where
  | badgeWritten (badge : AccessBadge)
  | proofWritten (proof : Bytes)
  | transactionSent (payload : String)
  deriving DecidableEq

/-- A call that leaves an effect. -/
def leave (effect : ChainEffect) : Mutating (List ChainEffect) String Unit :=
  fun log => (.ok (), log ++ [effect])

theorem emits_leave (effect : ChainEffect) :
    Emits (fun log => log) (leave effect) [effect] := by
  intro log
  exact ⟨[effect], List.prefix_refl _, rfl, fun _ => rfl⟩

/-- `LEZ_TX_PUBLIC_TAG`. -/
def lezTxPublicTag : UInt8 := 0

/-- `LEZ_TX_PRIVATE_TAG`. -/
def lezTxPrivateTag : UInt8 := 1

/-- `encode_lez_transaction`, with the result of the serialization. -/
def encodeLezTransaction (variantTag : UInt8) (serialized : Except String Bytes) :
    Outcome String Bytes := do
  let bytes ← Outcome.ofExcept (fun error => "failed to encode LEZ transaction: " ++ error)
    serialized
  pure (variantTag :: bytes)

/-- `send_lez_transaction`.  The transaction has been sent, whatever the sequencer
answers. -/
def sendLezTransaction (sequencer : LedgerSequencer) (variantTag : UInt8)
    (serialized : Except String Bytes) : Mutating (List ChainEffect) String String := do
  let bytes ← encodeLezTransaction variantTag serialized
  let payload := base64Encode bytes
  (Outcome.ofExcept (fun error => "failed to create sequencer RPC client: " ++ error)
    sequencer.build : Outcome String Unit)
  leave (.transactionSent payload)
  (Outcome.ofExcept (fun error => "sequencer sendTransaction request failed: " ++ error)
    (sequencer.sendTransaction payload) : Outcome String String)

/-! ## The private badge account -/

/-- `LEZ_PRIVATE_ACCOUNT_KEY_VERSION`. -/
def lezPrivateAccountKeyVersion : UInt16 := 1

structure LezPrivateAccountKeyFile where
  version : UInt16
  nullifierSecretKey : Digest32
  viewingSecretD : Digest32
  viewingSecretZ : Digest32
  identifier : U128
  accountId : String
  deriving DecidableEq

/-- The keys of private accounts in the crate `lee_core`. -/
structure PrivateAccountKeys (Identity : Type) where
  NullifierPublicKey : Type
  ViewingPublicKey : Type
  /-- `NullifierPublicKey::from`. -/
  nullifierPublicKey : Digest32 → NullifierPublicKey
  /-- `ViewingPublicKey::from_seed`. -/
  viewingPublicKey : Digest32 → Digest32 → ViewingPublicKey
  /-- `AccountId::for_regular_private_account`. -/
  accountId : NullifierPublicKey → U128 → Digest32
  /-- `InputAccountIdentity::PrivateAuthorizedInit`, with a shared secret that is
  encapsulated for the viewing key. -/
  authorizedInit : Digest32 → ViewingPublicKey → U128 → Identity

structure PrivateBadgeIdentity (Identity : Type) where
  accountId : Digest32
  circuitIdentity : Identity

/-- `private_badge_identity`. -/
def privateBadgeIdentity {Identity : Type} (keys : PrivateAccountKeys Identity)
    (nullifierSecretKey : Digest32) (viewingPublicKey : keys.ViewingPublicKey)
    (identifier : U128) : PrivateBadgeIdentity Identity where
  accountId := keys.accountId (keys.nullifierPublicKey nullifierSecretKey) identifier
  circuitIdentity := keys.authorizedInit nullifierSecretKey viewingPublicKey identifier

/-- `LezPrivateAccountKeyFile::identity`. -/
def LezPrivateAccountKeyFile.identity {Identity : Type} (texts : LedgerTexts)
    (keys : PrivateAccountKeys Identity) (self : LezPrivateAccountKeyFile) :
    Outcome String (PrivateBadgeIdentity Identity) := do
  Outcome.check (self.version ≠ lezPrivateAccountKeyVersion)
    ("unsupported LEZ private account key version " ++ toString self.version ++ "; expected " ++
      toString lezPrivateAccountKeyVersion)
  let viewingPublicKey := keys.viewingPublicKey self.viewingSecretD self.viewingSecretZ
  let identity := privateBadgeIdentity keys self.nullifierSecretKey viewingPublicKey
    self.identifier
  Outcome.check (texts.accountId identity.accountId ≠ self.accountId)
    "LEZ private account key file has a mismatched account ID"
  pure identity

/-! ## Submitting a claim -/

/-- The arguments of `submit_on_chain_claim`, with what it finds: the result of
`read_proof`, the state, the claim, the permissions and the content of the key file, and
the results of writing the two files. -/
structure ClaimSubmission where
  proof : Outcome String Risc0AttestationProof
  statePath : String
  state : JsonFile GateState
  claimPath : String
  claim : JsonFile ClaimAccess
  gateAccountId : Digest32
  badgeKeyPath : String
  badgeKeyPrivate : Outcome String Unit
  badgeKey : JsonFile LezPrivateAccountKeyFile
  writeBadge : Outcome String Unit
  writeProof : Outcome String Unit

/-- The text for a state that is not the one of the claim. -/
def stateChangedText : String :=
  "on-chain gate state changed after the challenge was issued; fetch state and create a new claim"

/-- The foreign code that a submission runs. -/
structure ClaimServices (risc0 : Risc0) where
  texts : LedgerTexts
  host : GateHost
  prover : GateProver risc0
  outer : OuterProver prover
  keys : PrivateAccountKeys outer.Identity
  /-- `BALANCE_GATE_ID`, which the build generates. -/
  balanceGateId : ProgramId

section

variable {risc0 : Risc0} (S : ClaimServices risc0) (sequencer : LedgerSequencer)

/-- The first part of `submit_on_chain_claim`: the proof, the claim and the account that
they are for, whose state is still the one of the claim. -/
def ClaimSubmission.current (args : ClaimSubmission) :
    Outcome String (Risc0AttestationProof × ClaimAccess × LedgerAccount) := do
  let proof ← args.proof
  let expectedState ← readJson args.statePath args.state
  let claim ← readJson args.claimPath args.claim
  let gateAccount ← fetchPublicAccount S.texts sequencer args.gateAccountId
  let currentState ← validatedGateState S.texts S.balanceGateId gateAccount args.gateAccountId
  Outcome.check (currentState ≠ expectedState) stateChangedText
  pure (proof, claim, gateAccount)

/-- The badge account that `submit_on_chain_claim` claims for. -/
def ClaimSubmission.identity (args : ClaimSubmission) :
    Outcome String (PrivateBadgeIdentity S.outer.Identity) := do
  args.badgeKeyPrivate
  let key ← readJson args.badgeKeyPath args.badgeKey
  key.identity S.texts S.keys

/-- The text for a transaction with other parts. -/
def claimShapeText (output : CircuitOutput) : String :=
  "invalid private badge transaction shape: " ++ toString output.publicPostStates ++
    " public post states, " ++ toString output.newCommitments ++ " commitments, " ++
    toString output.newNullifiers ++ " nullifiers, and " ++
    toString output.encryptedPrivatePostStates ++ " encrypted private post states"

/-- The second part of `submit_on_chain_claim`: the badge of the proved claim, and the
composed transaction. -/
def ClaimSubmission.compose (args : ClaimSubmission) (proof : Risc0AttestationProof)
    (claim : ClaimAccess) (gateAccount : LedgerAccount) :
    Outcome String (AccessBadge × ComposedGateExecution) := do
  let badgeIdentity ← args.identity S
  let gateExecution ← (proveGateClaim S.host S.prover ⟨args.gateAccountId, gateAccount.data⟩
    ⟨badgeIdentity.accountId, []⟩ claim proof).mapErr GateClaimError.toText
  let badgePost ← Outcome.okOr gateExecution.output.postStates[1]?
    "gate execution did not return an access badge"
  let badge ← Outcome.okOr (decodeAccessBadge badgePost.data)
    ("gate execution returned an invalid access badge: " ++ S.texts.decodeError badgePost.data)
  let composed ← (composePrivateExecution S.outer gateExecution
    [S.outer.publicIdentity, badgeIdentity.circuitIdentity]).mapErr GateClaimError.toText
  Outcome.check (¬ composed.circuitOutput.IsPrivateClaim) (claimShapeText composed.circuitOutput)
  pure (badge, composed)

/-- `submit_on_chain_claim`. -/
def submitOnChainClaim (args : ClaimSubmission) : Mutating (List ChainEffect) String String := do
  let (proof, claim, gateAccount) ← args.current S sequencer
  let (badge, composed) ← args.compose S proof claim gateAccount
  args.writeBadge
  leave (.badgeWritten badge)
  args.writeProof
  leave (.proofWritten composed.proof)
  let transaction ← ((privateGateClaimTransaction S.outer composed args.gateAccountId).mapErr
    GateClaimError.toText : Outcome String (S.outer.Message × Bytes))
  sendLezTransaction sequencer lezTxPrivateTag (S.outer.serialize transaction.1 transaction.2)

/-- The command `on-chain claim-submit`. -/
def claimSubmit (devMode : EnvVar) (gateAccountIdHex : String) (args : ClaimSubmission) :
    Mutating (List ChainEffect) String String := do
  let mode ← ((devModeStatus devMode).mapErr ProveError.toText : Outcome String DevModeStatus)
  (Outcome.check (mode ≠ .disabled)
    "RISC0_DEV_MODE must be 0 or unset for LEZ claim submission" : Outcome String Unit)
  let gateAccountId ← ((digestFromHex gateAccountIdHex).mapErr fun error =>
    "invalid --gate-account-id-hex: " ++ error.message : Outcome String Digest32)
  submitOnChainClaim S sequencer { args with gateAccountId }

end

/-! ## The gate account while a claim is prepared -/

/-- The accepted claims among some executions. -/
def acceptedClaims (calls : List (Call ClaimCall Account GuestFailure ClaimOutput)) : Nat :=
  calls.countP fun c => c.result.isOk

/-- A gate account after some executions, and the state that it holds. -/
structure GateLedger (start : Account) (state : GateState)
    (calls : List (Call ClaimCall Account GuestFailure ClaimOutput)) (gate : Account)
    (held : GateState) : Prop where
  accountId : gate.accountId = start.accountId
  data : gate.data = encodeGateState held
  policy : held.policy = state.policy
  counter : held.claimCounter.toNat = state.claimCounter.toNat + acceptedClaims calls
  same : acceptedClaims calls = 0 → gate = start

section

variable {P : Primitives} {G : GuestRuntime} {balanceGateId : ProgramId} {start gate : Account}
  {state held : GateState} {calls : List (Call ClaimCall Account GuestFailure ClaimOutput)}

/-- One execution keeps the ledger. -/
theorem GateLedger.append (h : GateLedger start state calls gate held) (call : ClaimCall) :
    ∃ held', GateLedger start state
      (calls ++ [Mutating.call (executeClaim P G balanceGateId) call gate])
      (executeClaim P G balanceGateId call gate).2 held' := by
  have hcount : acceptedClaims (calls ++ [Mutating.call (executeClaim P G balanceGateId) call
      gate]) = acceptedClaims calls +
        if (executeClaim P G balanceGateId call gate).1.isOk then 1 else 0 := by
    unfold acceptedClaims
    rw [List.countP_append, List.countP_singleton]
    rfl
  rcases executeClaim_cases P G balanceGateId call gate with
    ⟨output, state', claimNumber, hexec, haccepted⟩ | ⟨hfailed, hsame⟩
  · obtain rfl := haccepted.state_eq h.data
    rw [hexec] at hcount
    rw [hexec, haccepted.gate_eq]
    refine ⟨_, h.accountId, rfl, ?_, ?_, ?_⟩
    · rw [claimResult_policy, h.policy]
    · rw [hcount, ← Nat.add_assoc, ← h.counter]
      exact haccepted.number
    · intro hzero
      rw [hcount] at hzero
      cases hzero
  · rw [hfailed] at hcount
    rw [hsame]
    exact ⟨held, h.accountId, h.data, h.policy, by rw [hcount]; exact h.counter,
      fun hzero => h.same (by rw [hcount] at hzero; exact hzero)⟩

/-- Every run of a gate account keeps the ledger. -/
theorem exists_gateLedger (P : Primitives) (G : GuestRuntime) (balanceGateId : ProgramId)
    (hgate : start.data = encodeGateState state) (inputs : List ClaimCall) :
    ∃ held, GateLedger start state (Mutating.run (executeClaim P G balanceGateId) inputs start)
      (Mutating.final (executeClaim P G balanceGateId) inputs start) held := by
  refine Mutating.run_induction (executeClaim P G balanceGateId)
    (motive := fun calls gate => ∃ held, GateLedger start state calls gate held) ?_ ?_ inputs
  · exact ⟨state, rfl, hgate, rfl, rfl, fun _ => rfl⟩
  · rintro calls gate call ⟨held, h⟩
    exact h.append call

/-- The state on the account is the first one exactly when nothing was accepted. -/
theorem GateLedger.held_eq_iff (h : GateLedger start state calls gate held)
    (hgate : start.data = encodeGateState state) :
    held = state ↔ acceptedClaims calls = 0 := by
  constructor
  · intro heq
    have hcounter := h.counter
    rw [heq] at hcounter
    omega
  · intro hzero
    have hdata := h.data
    rw [h.same hzero, hgate] at hdata
    have hdecoded := congrArg decodeGateState hdata
    rw [decodeGateState_encodeGateState, decodeGateState_encodeGateState] at hdecoded
    exact (Option.some.inj hdecoded).symm

theorem acceptedClaims_eq_zero :
    acceptedClaims calls = 0 ↔ ∀ c ∈ calls, c.result.isOk = false := by
  simp only [acceptedClaims, List.countP_eq_zero, Bool.not_eq_true]

end

/-! ## The guard of a submission -/

/-- The sequencer shows an account of the gate program as it stands on the chain. -/
structure LedgerSequencer.Shows (sequencer : LedgerSequencer) (texts : LedgerTexts)
    (balanceGateId : ProgramId) (shown : Account) : Prop where
  build : sequencer.build = .ok ()
  account : ∃ nonce, sequencer.getAccount (texts.accountId shown.accountId) =
    .ok ⟨balanceGateId, nonce, shown.data⟩

section

variable {texts : LedgerTexts} {balanceGateId : ProgramId} {sequencer : LedgerSequencer}
  {gate : Account} {held state : GateState}

/-- The state of an account that the gate program owns. -/
theorem validatedGateState_eq_ok_iff {account : LedgerAccount} {accountId : Digest32} :
    validatedGateState texts balanceGateId account accountId = .ok state ↔
      account.programOwner = balanceGateId ∧ decodeGateState account.data = some state ∧
        state.validate = .ok () := by
  simp only [validatedGateState, ensureGateOwner, Outcome.bind_eq_ok, Outcome.exists_unit,
    Outcome.check_eq_ok, Outcome.okOr_eq_ok, Outcome.mapErr_eq_ok, Outcome.pure_eq,
    Outcome.ok.injEq, ne_eq, not_not]
  constructor
  · rintro ⟨howner, state', hdecoded, hvalid, rfl⟩
    exact ⟨howner, hdecoded, hvalid⟩
  · rintro ⟨howner, hdecoded, hvalid⟩
    exact ⟨howner, state, hdecoded, hvalid, rfl⟩

/-- The account that a fetch returns. -/
theorem LedgerSequencer.Shows.fetch (h : sequencer.Shows texts balanceGateId gate) :
    ∃ nonce, fetchPublicAccount texts sequencer gate.accountId =
      .ok ⟨balanceGateId, nonce, gate.data⟩ := by
  obtain ⟨nonce, haccount⟩ := h.account
  exact ⟨nonce, by simp [fetchPublicAccount, h.build, haccount, Outcome.ofExcept]⟩

/-- A fetched state is the one on the account, and it is valid. -/
theorem fetchOnChainState_eq_ok (h : sequencer.Shows texts balanceGateId gate)
    (hdata : gate.data = encodeGateState held) {output : Outcome String Unit}
    (hfetch : fetchOnChainState texts balanceGateId sequencer gate.accountId output =
      .ok state) : state = held ∧ held.validate = .ok () := by
  obtain ⟨nonce, haccount⟩ := h.fetch
  simp only [fetchOnChainState, haccount, Outcome.ok_bind, Outcome.bind_eq_ok,
    validatedGateState_eq_ok_iff, hdata, decodeGateState_encodeGateState, Option.some.injEq,
    Outcome.pure_eq, Outcome.ok.injEq, Outcome.exists_unit] at hfetch
  obtain ⟨_, ⟨-, rfl, hvalid⟩, -, rfl⟩ := hfetch
  exact ⟨rfl, hvalid⟩

/-- A state with a valid policy is fetched, unless its nonce is zero. -/
theorem fetchOnChainState_of_policy (h : sequencer.Shows texts balanceGateId gate)
    (hdata : gate.data = encodeGateState held)
    (hvalid : state.validate = .ok ()) (hpolicy : held.policy = state.policy) :
    fetchOnChainState texts balanceGateId sequencer gate.accountId (.ok ()) =
      if held.challengeNonce = zeroDigest then .err ClaimError.invalidGateState.message
      else .ok held := by
  obtain ⟨nonce, haccount⟩ := h.fetch
  have hfetch : fetchOnChainState texts balanceGateId sequencer gate.accountId (.ok ()) =
      (held.validate.mapErr ClaimError.message >>= fun _ => .ok held) := by
    simp [fetchOnChainState, haccount, validatedGateState, ensureGateOwner, hdata]
  rw [hfetch]
  split
  · rename_i hzero
    have hrefused : held.validate = .err .invalidGateState :=
      Outcome.check_of (Or.inr (Or.inr (Or.inr (Or.inl hzero)))) _
    rw [hrefused]
    rfl
  · rename_i hnonce
    rw [GateState.validate_of_policy_eq hvalid hpolicy hnonce]
    rfl

end

section

variable {risc0 : Risc0} {S : ClaimServices risc0} {sequencer : LedgerSequencer}
  {args : ClaimSubmission} {gate : Account} {held state : GateState}

/-- The command passes its first part exactly when the state is the one in its file. -/
theorem ClaimSubmission.current_isOk_iff (h : sequencer.Shows S.texts S.balanceGateId gate)
    (hdata : gate.data = encodeGateState held) (hid : args.gateAccountId = gate.accountId)
    {proof : Risc0AttestationProof} {access : ClaimAccess} (hproof : args.proof = .ok proof)
    (hstate : args.state = .holds state) (hclaim : args.claim = .holds access) :
    (args.current S sequencer).isOk ↔ held = state ∧ held.validate = .ok () := by
  obtain ⟨nonce, haccount⟩ := h.fetch
  simp only [ClaimSubmission.current, hproof, hstate, hclaim, readJson, hid, haccount,
    Outcome.ok_bind, Outcome.isOk_iff, Outcome.bind_eq_ok, validatedGateState_eq_ok_iff, hdata,
    decodeGateState_encodeGateState, Option.some.injEq, Outcome.check_eq_ok, Outcome.exists_unit,
    Outcome.pure_eq, Outcome.ok.injEq, ne_eq, not_not]
  constructor
  · rintro ⟨_, _, ⟨-, rfl, hvalid⟩, rfl, -⟩
    exact ⟨rfl, hvalid⟩
  · rintro ⟨rfl, hvalid⟩
    exact ⟨_, _, ⟨trivial, rfl, hvalid⟩, rfl, rfl⟩

/-- A command that fails in its first part leaves nothing behind. -/
theorem submitOnChainClaim_of_current (h : (args.current S sequencer).isOk = false)
    (log : List ChainEffect) :
    (submitOnChainClaim S sequencer args log).1.isOk = false ∧
      (submitOnChainClaim S sequencer args log).2 = log := by
  unfold submitOnChainClaim
  rw [Mutating.bind_apply, Mutating.liftM_apply]
  cases hcurrent : args.current S sequencer with
  | ok current => simp [hcurrent, Outcome.isOk] at h
  | err error => exact ⟨rfl, rfl⟩
  | panic => exact ⟨rfl, rfl⟩

end

/-- What `create_on_chain_claim` has built. -/
theorem createOnChainClaim_eq_ok_iff {P : Primitives} {balanceGateId : ProgramId}
    {proof : Risc0AttestationProof} {state : GateState} {claimAccountId : Digest32}
    {signingKey : P.ed25519.SigningKey} {access : ClaimAccess} :
    createOnChainClaim P balanceGateId proof state claimAccountId signingKey = .ok access ↔
      state.validate = .ok () ∧ proof.journal.commitmentRoot = state.commitmentRoot ∧
        P.ed25519.publicKey signingKey = proof.journal.presenterPublicKey ∧
        access = honestClaim P balanceGateId proof.journal state claimAccountId signingKey := by
  simp only [createOnChainClaim, Outcome.bind_eq_ok, Outcome.mapErr_eq_ok, Outcome.exists_unit,
    Outcome.check_eq_ok, Outcome.pure_eq, Outcome.ok.injEq, ne_eq, not_not]
  exact and_congr_right' (and_congr_right' (and_congr_right' eq_comm))

/-- A claim with the journal and with the signature of the holder is the honest one. -/
theorem eq_honestClaim {P : Primitives} {balanceGateId : ProgramId} {journal : AttestationJournal}
    {state : GateState} {claimAccountId : Digest32} {signingKey : P.ed25519.SigningKey}
    {access : ClaimAccess} (hjournal : access.journal = .ofAttestationJournal journal)
    (hsignature : (P.ed25519.sign signingKey (onChainPresentationMessage P.sha256
      (state.challenge balanceGateId claimAccountId) access.journal).toList).toList =
        access.presenterSignature) :
    access = honestClaim P balanceGateId journal state claimAccountId signingKey := by
  obtain ⟨accessJournal, signature⟩ := access
  obtain rfl : accessJournal = .ofAttestationJournal journal := hjournal
  exact congrArg (ClaimAccess.mk _) hsignature.symm

/-- The presentation that the gate asks for in a state. -/
def claimPresentation (balanceGateId : ProgramId) (state : GateState)
    (claimAccountId : Digest32) (access : ClaimAccess) : Bytes :=
  onChainPresentationBytes (state.challenge balanceGateId claimAccountId) access.journal

/-- A claim that was signed for a state is refused in a state with another counter. -/
theorem claim_of_other_counter {P : Primitives} {G : GuestRuntime} {balanceGateId : ProgramId}
    {state held : GateState} {gate badge : Account} {claimAccountId : Digest32}
    {access : ClaimAccess} (hgate : gate.data = encodeGateState held)
    (hcounter : held.claimCounter ≠ state.claimCounter)
    (haccepts : P.ed25519.Accepts access.journal.presenterPublicKey access.presenterSignature
      (P.sha256 (claimPresentation balanceGateId state claimAccountId access)).toList)
    (hone : P.ed25519.SignsOne access.journal.presenterPublicKey access.presenterSignature
      [(P.sha256 (claimPresentation balanceGateId state claimAccountId access)).toList,
        (P.sha256 (claimPresentation balanceGateId held badge.accountId access)).toList])
    (hfree : CollisionFree P.sha256
      [claimPresentation balanceGateId state claimAccountId access,
        claimPresentation balanceGateId held badge.accountId access])
    (envVerify : ProgramOwner → List UInt32 → Bool) :
    (claim P G envVerify balanceGateId gate badge access).isOk = false := by
  by_contra hok
  rw [Bool.not_eq_false] at hok
  obtain ⟨output, hclaim⟩ := Outcome.isOk_iff.mp hok
  have hdecoded : decodeGateState gate.data = some held := by
    rw [hgate, decodeGateState_encodeGateState]
  obtain ⟨-, result, window, hpasses, -⟩ := (claim_eq_ok_iff hdecoded).mp hclaim
  have hsignature : P.ed25519.Accepts access.journal.presenterPublicKey
      access.presenterSignature
      (P.sha256 (claimPresentation balanceGateId held badge.accountId access)).toList :=
    (evaluateClaim_eq_ok_iff.mp hpasses.evaluated).1.signature
  -- one signature for both states, so the two presentations are one
  have hmessage := hone _ List.mem_cons_self _ (List.mem_cons_of_mem _ List.mem_cons_self)
    haccepts hsignature
  have hbytes := hfree _ List.mem_cons_self _ (List.mem_cons_of_mem _ List.mem_cons_self)
    (List.Vector.eq _ _ hmessage)
  have hchallenge := (onChainPresentationBytes_inj hbytes).1
  exact hcounter (congrArg OnChainChallenge.claimCounter hchallenge).symm

/-- The comparison of `claim-submit` is exact.  A holder fetches the state of a gate and
prepares a claim, any executions follow, and the claim is submitted.  The command gets
past the comparison exactly when no execution was accepted.  Otherwise it fails and
leaves nothing behind, and the claim that was signed for the fetched state is refused by
the gate, for every badge account and with every receipt. -/
theorem submission_guard_exact {P : Primitives} {G : GuestRuntime}
    {S : ClaimServices P.risc0} {before after : LedgerSequencer} {gate : Account}
    {held state : GateState} (hdata : gate.data = encodeGateState held)
    (hbefore : before.Shows S.texts S.balanceGateId gate) {output : Outcome String Unit}
    (hfetch : fetchOnChainState S.texts S.balanceGateId before gate.accountId output =
      .ok state) (calls : List ClaimCall) {args : ClaimSubmission}
    {proof : Risc0AttestationProof} {access : ClaimAccess}
    (hafter : after.Shows S.texts S.balanceGateId
      (Mutating.final (executeClaim P G S.balanceGateId) calls gate))
    (hid : args.gateAccountId = gate.accountId) (hproof : args.proof = .ok proof)
    (hstate : args.state = .holds state) (hclaim : args.claim = .holds access) :
    let run := Mutating.run (executeClaim P G S.balanceGateId) calls gate
    let reached := Mutating.final (executeClaim P G S.balanceGateId) calls gate
    ((args.current S after).isOk ↔ ∀ c ∈ run, c.result.isOk = false) ∧
      ((∃ c ∈ run, c.result.isOk = true) →
        (∀ log, (submitOnChainClaim S after args log).1.isOk = false ∧
          (submitOnChainClaim S after args log).2 = log) ∧
        ∃ now : GateState, reached.data = encodeGateState now ∧
          ∀ (claimProof : Risc0AttestationProof) (claimAccountId : Digest32)
            (signingKey : P.ed25519.SigningKey) (badge : Account)
            (envVerify : ProgramOwner → List UInt32 → Bool),
            createOnChainClaim P S.balanceGateId claimProof state claimAccountId signingKey =
              .ok access →
            P.ed25519.SignsOwn signingKey
              (P.sha256 (claimPresentation S.balanceGateId state claimAccountId access)).toList →
            P.ed25519.SignsOne access.journal.presenterPublicKey access.presenterSignature
              [(P.sha256 (claimPresentation S.balanceGateId state claimAccountId access)).toList,
                (P.sha256 (claimPresentation S.balanceGateId now badge.accountId
                  access)).toList] →
            CollisionFree P.sha256
              [claimPresentation S.balanceGateId state claimAccountId access,
                claimPresentation S.balanceGateId now badge.accountId access] →
            (claim P G envVerify S.balanceGateId reached badge access).isOk = false) := by
  intro run reached
  obtain ⟨rfl, hvalid⟩ := fetchOnChainState_eq_ok hbefore hdata hfetch
  obtain ⟨now, hledger⟩ := exists_gateLedger P G S.balanceGateId hdata calls
  have hcurrent : (args.current S after).isOk ↔ ∀ c ∈ run, c.result.isOk = false := by
    rw [ClaimSubmission.current_isOk_iff hafter hledger.data (hid.trans hledger.accountId.symm)
      hproof hstate hclaim, ← acceptedClaims_eq_zero, ← hledger.held_eq_iff hdata]
    constructor
    · rintro ⟨heq, -⟩
      exact heq
    · intro heq
      exact ⟨heq, heq ▸ hvalid⟩
  refine ⟨hcurrent, ?_⟩
  rintro ⟨c, hc, hok⟩
  have hsome : ¬ ∀ c ∈ run, c.result.isOk = false := by
    intro hall
    rw [hall c hc] at hok
    cases hok
  refine ⟨submitOnChainClaim_of_current ?_, now, hledger.data, ?_⟩
  · rw [← Bool.not_eq_true]
    exact fun hpassed => hsome (hcurrent.mp hpassed)
  · intro claimProof claimAccountId signingKey badge envVerify hcreated hown hone hfree
    refine claim_of_other_counter hledger.data ?_ ?_ hone hfree envVerify
    · intro hcounter
      have hcount : now.claimCounter.toNat = state.claimCounter.toNat + acceptedClaims run :=
        hledger.counter
      rw [hcounter] at hcount
      have hzero : acceptedClaims run = 0 := by omega
      exact hsome (acceptedClaims_eq_zero.mp hzero)
    · obtain ⟨-, -, hkey, haccess⟩ := createOnChainClaim_eq_ok_iff.mp hcreated
      unfold Ed25519.SignsOwn at hown
      rw [hkey] at hown
      rw [haccess] at hown ⊢
      exact hown

/-- Account ids as hexadecimal texts. -/
def foundersTexts : LedgerTexts where
  accountId := digestToHex
  decodeError _ := "unexpected length of input"

/-- A prover that knows the receipt of the tests. -/
def foundersProver : GateProver foundersPrimitives.risc0 :=
  .replaying foundersPrimitives foundersRuntime foundersProgramId
    ⟨balanceAttestationImageId, sha256 (wordBytes (journalWords foundersJournal))⟩

/-- A circuit with one public and one private account. -/
def foundersOuter : OuterProver foundersProver where
  Identity := Unit
  publicIdentity := ()
  Receipt := CircuitOutput
  Message := List Digest32
  writeInput _ _ := .ok ()
  build := .ok ()
  proveWithOpts _ _ := .ok ⟨1, 1, 1, 1, []⟩
  verify _ := .ok ()
  decode receipt := .ok receipt
  encodeInner _ := .ok [7]
  tryFromCircuitOutput accountIds _ := .ok accountIds
  serialize _ proof := .ok proof

/-- The services of the tests.  The id of a private account is its nullifier key. -/
def foundersServices : ClaimServices foundersPrimitives.risc0 where
  texts := foundersTexts
  host := foundersHost
  prover := foundersProver
  outer := foundersOuter
  keys :=
    { NullifierPublicKey := Digest32
      ViewingPublicKey := Unit
      nullifierPublicKey := fun key => key
      viewingPublicKey := fun _ _ => ()
      accountId := fun key _ => key
      authorizedInit := fun _ _ _ => () }
  balanceGateId := foundersProgramId

/-- A sequencer with one account. -/
def ledgerAt (gate : Account) : LedgerSequencer where
  build := .ok ()
  getAccount accountId :=
    if accountId = digestToHex gate.accountId then .ok ⟨foundersProgramId, 3, gate.data⟩
    else .error "account not found"
  sendTransaction _ := .ok "c0ffee"

theorem ledgerAt_shows (gate : Account) :
    (ledgerAt gate).Shows foundersTexts foundersProgramId gate :=
  ⟨rfl, 3, if_pos rfl⟩

/-- The submission of the claim of the tests, for badge account `[6; 32]`. -/
def foundersSubmission : ClaimSubmission where
  proof := .ok ⟨foundersJournal, List.replicate 128 9⟩
  statePath := "state.json"
  state := .holds foundersInputs.state
  claimPath := "claim.json"
  claim := .holds foundersAccess
  gateAccountId := List.Vector.replicate 32 1
  badgeKeyPath := "badge.json"
  badgeKeyPrivate := .ok ()
  badgeKey := .holds
    { version := 1
      nullifierSecretKey := List.Vector.replicate 32 6
      viewingSecretD := List.Vector.replicate 32 7
      viewingSecretZ := List.Vector.replicate 32 8
      identifier := 0
      accountId := digestToHex (List.Vector.replicate 32 6) }
  writeBadge := .ok ()
  writeProof := .ok ()

/-- The signature of the claim is good for the first state only. -/
theorem foundersAccess_signs_one :
    foundersPrimitives.ed25519.SignsOne foundersKey foundersAccess.presenterSignature
        [(sha256 (claimPresentation foundersProgramId foundersInputs.state
            (List.Vector.replicate 32 6) foundersAccess)).toList,
          (sha256 (claimPresentation foundersProgramId
            (claimResult foundersPrimitives foundersInputs.state foundersProgramId
              (List.Vector.replicate 32 6) foundersAccess 1).nextGateState
            (List.Vector.replicate 32 6) foundersAccess)).toList] ∧
      CollisionFree sha256
        [claimPresentation foundersProgramId foundersInputs.state (List.Vector.replicate 32 6)
            foundersAccess,
          claimPresentation foundersProgramId
            (claimResult foundersPrimitives foundersInputs.state foundersProgramId
              (List.Vector.replicate 32 6) foundersAccess 1).nextGateState
            (List.Vector.replicate 32 6) foundersAccess] := by
  decide +kernel

/-- The holder's key has made the claim of the tests. -/
theorem createOnChainClaim_founders :
    createOnChainClaim foundersPrimitives foundersProgramId ⟨foundersJournal, []⟩
        foundersInputs.state (List.Vector.replicate 32 6) foundersSeed = .ok foundersAccess ∧
      foundersPrimitives.ed25519.SignsOwn foundersSeed (sha256 (claimPresentation
        foundersProgramId foundersInputs.state (List.Vector.replicate 32 6)
        foundersAccess)).toList := by
  have hvalid := (initializeGate_eq_ok initializeGate_founders).1
  obtain ⟨state, claimNumber, haccepted⟩ := claim_eq_ok claim_founders
  obtain rfl : state = foundersInputs.state := haccepted.state_eq rfl
  have hsign : foundersPrimitives.ed25519.SignsOwn foundersSeed (onChainPresentationMessage sha256
      (foundersInputs.state.challenge foundersProgramId (List.Vector.replicate 32 6))
      foundersAccess.journal).toList := by
    show foundersPrimitives.ed25519.Accepts (Edwards25519.group.publicKey foundersSeed)
      (Edwards25519.group.sign foundersSeed _).toList _
    rw [foundersSeed_signs_claim.1, foundersSeed_signs_claim.2]
    exact haccepted.valid.signature
  have hmade : (foundersPrimitives.ed25519.sign foundersSeed (onChainPresentationMessage sha256
      (foundersInputs.state.challenge foundersProgramId (List.Vector.replicate 32 6))
      foundersAccess.journal).toList).toList = foundersAccess.presenterSignature := by
    show (Edwards25519.group.sign foundersSeed _).toList = _
    exact foundersSeed_signs_claim.2
  have haccess : foundersAccess = honestClaim foundersPrimitives foundersProgramId foundersJournal
      foundersInputs.state (List.Vector.replicate 32 6) foundersSeed := eq_honestClaim rfl hmade
  exact ⟨createOnChainClaim_eq_ok_iff.mpr ⟨hvalid, rfl, foundersSeed_signs_claim.1, haccess⟩,
    hsign⟩

/-- After the claim of the tests, the same claim is neither submitted nor accepted. -/
theorem submission_guard_exact_founders :
    (submitOnChainClaim foundersServices (ledgerAt foundersOutput.gate) foundersSubmission []).2 =
        [] ∧
      (claim foundersPrimitives foundersRuntime foundersCall.envVerify foundersProgramId
        foundersOutput.gate foundersCall.badge foundersAccess).isOk = false := by
  have hvalid := (initializeGate_eq_ok initializeGate_founders).1
  have hgate : foundersGateAccount.data = encodeGateState foundersInputs.state := rfl
  have hnonce : foundersInputs.state.challengeNonce ≠ zeroDigest := by decide
  have hfetch := fetchOnChainState_of_policy (ledgerAt_shows foundersGateAccount) hgate hvalid rfl
  rw [if_neg hnonce] at hfetch
  have hfinal : Mutating.final (executeClaim foundersPrimitives foundersRuntime
      foundersProgramId) [foundersCall] foundersGateAccount = foundersOutput.gate := by
    simp only [Mutating.final, executeClaim_founders]
  have hafter := ledgerAt_shows foundersOutput.gate
  rw [← hfinal] at hafter
  have hmem : Mutating.call (executeClaim foundersPrimitives foundersRuntime foundersProgramId)
      foundersCall foundersGateAccount ∈
        Mutating.run (executeClaim foundersPrimitives foundersRuntime foundersProgramId)
          [foundersCall] foundersGateAccount := List.mem_cons_self
  have hok : (Mutating.call (executeClaim foundersPrimitives foundersRuntime foundersProgramId)
      foundersCall foundersGateAccount).result.isOk = true := by
    simp only [Mutating.call, executeClaim_founders, Outcome.isOk]
  obtain ⟨-, hrefused⟩ := submission_guard_exact (S := foundersServices) (G := foundersRuntime)
    hgate (ledgerAt_shows foundersGateAccount) hfetch [foundersCall] hafter rfl
      (show foundersSubmission.proof = .ok _ from rfl) rfl rfl
  rw [show foundersServices.balanceGateId = foundersProgramId from rfl, hfinal] at hrefused
  obtain ⟨hnothing, now, hnow, hnever⟩ := hrefused ⟨_, hmem, hok⟩
  have hdata : foundersOutput.gate.data = encodeGateState (claimResult foundersPrimitives
      foundersInputs.state foundersProgramId (List.Vector.replicate 32 6) foundersAccess
      1).nextGateState := rfl
  rw [hdata] at hnow
  have hdecoded := congrArg decodeGateState hnow
  rw [decodeGateState_encodeGateState, decodeGateState_encodeGateState] at hdecoded
  obtain rfl := Option.some.inj hdecoded
  obtain ⟨hcreated, hown⟩ := createOnChainClaim_founders
  obtain ⟨hone, hfree⟩ := foundersAccess_signs_one
  exact ⟨(hnothing []).2, hnever _ _ _ foundersCall.badge foundersCall.envVerify hcreated hown
    hone hfree⟩

/-! ## What a submission leaves behind -/

/-- The payload of a transaction that was serialized. -/
def payloadOf (variantTag : UInt8) : Except String Bytes → String
  | .ok bytes => base64Encode (variantTag :: bytes)
  | .error _ => ""

/-- The payload of the transaction of a composed claim. -/
def ClaimServices.payload {risc0 : Risc0} (S : ClaimServices risc0)
    (composed : ComposedGateExecution) (gateAccountId : Digest32) : String :=
  match privateGateClaimTransaction S.outer composed gateAccountId with
  | .ok transaction => payloadOf lezTxPrivateTag (S.outer.serialize transaction.1 transaction.2)
  | .err _ => ""
  | .panic => ""

theorem emits_sendLezTransaction (sequencer : LedgerSequencer) (variantTag : UInt8)
    (serialized : Except String Bytes) :
    Emits (fun log => log) (sendLezTransaction sequencer variantTag serialized)
      [.transactionSent (payloadOf variantTag serialized)] := by
  unfold sendLezTransaction
  refine Emits.lift_bind ?_
  intro bytes hbytes
  have hpayload : base64Encode bytes = payloadOf variantTag serialized := by
    unfold encodeLezTransaction at hbytes
    obtain ⟨content, hserialized, hcontent⟩ := Outcome.bind_eq_ok.mp hbytes
    rw [Outcome.ofExcept_eq_ok.mp hserialized, payloadOf, ← Outcome.ok.inj hcontent]
  rw [hpayload]
  refine Emits.lift_bind fun _ _ => ?_
  exact (emits_leave _).bind fun _ => Emits.lift _

/-- What the guest has accepted when a submission comes to its effects. -/
structure SubmissionAccepted {P : Primitives} (G : GuestRuntime) (S : ClaimServices P.risc0)
    (sequencer : LedgerSequencer) (args : ClaimSubmission) (held : GateState)
    (access : ClaimAccess) (badge : AccessBadge) (composed : ComposedGateExecution) : Prop where
  stateFile : args.state = .holds held
  claimFile : args.claim = .holds access
  valid : held.validate = .ok ()
  /-- The claim is one for the account on the chain, and its proof was verified. -/
  receipt : ∃ proof, args.proof = .ok proof ∧
    verifyReceipt P.risc0 proof = .ok access.journal.toAttestationJournal
  account : ∃ account, fetchPublicAccount S.texts sequencer args.gateAccountId = .ok account ∧
    account.programOwner = S.balanceGateId ∧ decodeGateState account.data = some held
  /-- The guest gets through the claim, and the badge is the one that it issues. -/
  passes : ∃ identity result window, args.identity S = .ok identity ∧
    ClaimPasses P G S.balanceGateId held identity.accountId access result window ∧
    badge = result.badge
  shape : composed.circuitOutput.IsPrivateClaim

section

variable {P : Primitives} {G : GuestRuntime} {S : ClaimServices P.risc0}
  {sequencer : LedgerSequencer} {args : ClaimSubmission}

/-- What the first part of the command has checked. -/
theorem ClaimSubmission.current_eq_ok {proof : Risc0AttestationProof} {access : ClaimAccess}
    {account : LedgerAccount} (h : args.current S sequencer = .ok (proof, access, account)) :
    ∃ held, args.proof = .ok proof ∧ args.state = .holds held ∧ args.claim = .holds access ∧
      fetchPublicAccount S.texts sequencer args.gateAccountId = .ok account ∧
      account.programOwner = S.balanceGateId ∧ decodeGateState account.data = some held ∧
      held.validate = .ok () := by
  simp only [ClaimSubmission.current, Outcome.bind_eq_ok, readJson_eq_ok,
    validatedGateState_eq_ok_iff, Outcome.check_eq_ok, Outcome.exists_unit, Outcome.pure_eq,
    Outcome.ok.injEq, Prod.mk.injEq, ne_eq, not_not] at h
  obtain ⟨_, hproof, held, hstate, _, hclaim, _, haccount, _, ⟨howner, hdecoded, hvalid⟩, rfl,
    rfl, rfl, rfl⟩ := h
  exact ⟨_, hproof, hstate, hclaim, haccount, howner, hdecoded, hvalid⟩

/-- A submission that gets through its first two parts has had the claim accepted. -/
theorem submissionAccepted_of_compose (hprover : S.prover.RunsGuest G S.balanceGateId)
    {proof : Risc0AttestationProof} {access : ClaimAccess} {account : LedgerAccount}
    (hcurrent : args.current S sequencer = .ok (proof, access, account)) {badge : AccessBadge}
    {composed : ComposedGateExecution}
    (hcompose : args.compose S proof access account = .ok (badge, composed)) :
    ∃ held, SubmissionAccepted G S sequencer args held access badge composed := by
  obtain ⟨held, hproof, hstate, hclaim, haccount, howner, hdecoded, hvalid⟩ :=
    ClaimSubmission.current_eq_ok hcurrent
  simp only [ClaimSubmission.compose, Outcome.bind_eq_ok, Outcome.mapErr_eq_ok,
    Outcome.okOr_eq_ok, Outcome.check_eq_ok, Outcome.exists_unit, Outcome.pure_eq,
    Outcome.ok.injEq, Prod.mk.injEq, not_not] at hcompose
  obtain ⟨identity, hidentity, execution, hproved, post, hpost, _, hbadge, _, -, hshape, rfl,
    rfl⟩ := hcompose
  obtain ⟨hverified, receipt, output, -, hguest, houtput⟩ := proveGateClaim_eq_ok hprover hproved
  obtain ⟨-, result, window, hpasses, rfl⟩ := (claim_eq_ok_iff hdecoded).mp hguest
  rw [houtput] at hpost
  obtain rfl := Option.some.inj hpost
  have hissued := Option.some.inj (hbadge.symm.trans (decodeAccessBadge_encodeAccessBadge _))
  exact ⟨held, hstate, hclaim, hvalid, ⟨proof, hproof, hverified⟩,
    ⟨account, haccount, howner, hdecoded⟩, ⟨identity, result, window, hidentity, hpasses, hissued⟩,
    hshape⟩

/-- The effects of a submission, in their order. -/
def ClaimSubmission.effects (S : ClaimServices P.risc0) (args : ClaimSubmission)
    (badge : AccessBadge) (composed : ComposedGateExecution) : List ChainEffect :=
  [.badgeWritten badge, .proofWritten composed.proof,
    .transactionSent (S.payload composed args.gateAccountId)]

/-- A submission leaves nothing behind before the claim is accepted, and after that its
effects in their order. -/
theorem submitOnChainClaim_effects (hprover : S.prover.RunsGuest G S.balanceGateId)
    (log : List ChainEffect) :
    ((submitOnChainClaim S sequencer args log).1.isOk = false ∧
        (submitOnChainClaim S sequencer args log).2 = log) ∨
      ∃ held access badge composed,
        SubmissionAccepted G S sequencer args held access badge composed ∧
        ∃ left, left <+: args.effects S badge composed ∧
          (submitOnChainClaim S sequencer args log).2 = log ++ left ∧
          ((submitOnChainClaim S sequencer args log).1.isOk = true →
            left = args.effects S badge composed) := by
  cases hcurrent : args.current S sequencer with
  | err error => exact Or.inl (submitOnChainClaim_of_current (by rw [hcurrent]; rfl) log)
  | panic => exact Or.inl (submitOnChainClaim_of_current (by rw [hcurrent]; rfl) log)
  | ok current =>
    obtain ⟨proof, access, account⟩ := current
    cases hcompose : args.compose S proof access account with
    | err error =>
      refine Or.inl ?_
      simp [submitOnChainClaim, Mutating.bind_apply, hcurrent, hcompose, Outcome.isOk]
    | panic =>
      refine Or.inl ?_
      simp [submitOnChainClaim, Mutating.bind_apply, hcurrent, hcompose, Outcome.isOk]
    | ok composition =>
      obtain ⟨badge, composed⟩ := composition
      obtain ⟨held, haccepted⟩ := submissionAccepted_of_compose hprover hcurrent hcompose
      refine Or.inr ⟨held, access, badge, composed, haccepted, ?_⟩
      have hemits : Emits (fun log => log) (submitOnChainClaim S sequencer args)
          (args.effects S badge composed) := by
        unfold submitOnChainClaim
        refine Emits.lift_bind ?_
        intro current' hcurrent'
        obtain rfl := Outcome.ok.inj (hcurrent.symm.trans hcurrent')
        refine Emits.lift_bind ?_
        intro composition' hcomposition'
        obtain rfl := Outcome.ok.inj (hcompose.symm.trans hcomposition')
        refine Emits.lift_bind fun _ _ => (emits_leave _).bind fun _ => ?_
        refine Emits.lift_bind fun _ _ => (emits_leave _).bind fun _ => ?_
        refine Emits.lift_bind ?_
        intro transaction htransaction
        have hpayload : S.payload composed args.gateAccountId = payloadOf lezTxPrivateTag
            (S.outer.serialize transaction.1 transaction.2) := by
          unfold ClaimServices.payload
          rw [Outcome.mapErr_eq_ok.mp htransaction]
        rw [hpayload]
        exact emits_sendLezTransaction sequencer lezTxPrivateTag _
      exact hemits log

/-- The chain accepts a submitted claim as long as the gate holds the same state: an
execution for the badge account of the key file, with the receipt, issues the badge that
was written, and the gate goes on to the next state. -/
theorem SubmissionAccepted.executes {held : GateState} {access : ClaimAccess}
    {badge : AccessBadge} {composed : ComposedGateExecution}
    (h : SubmissionAccepted G S sequencer args held access badge composed) {gate : Account}
    (hgate : decodeGateState gate.data = some held) {call : ClaimCall}
    (haccess : call.access = access) {identity : PrivateBadgeIdentity S.outer.Identity}
    (hidentity : args.identity S = .ok identity)
    (hbadge : call.badge.accountId = identity.accountId)
    (hreceipt : ReceiptVerifies G call.envVerify access) :
    ∃ output next, (executeClaim P G S.balanceGateId call gate).1 = .ok output ∧
      decodeAccessBadge output.badge.data = some badge ∧
      badge.presenterPublicKey = access.journal.presenterPublicKey ∧
      badge.contextHash = held.contextHash ∧ badge.claimNumber = next.claimCounter ∧
      decodeGateState output.gate.data = some next ∧ next.policy = held.policy ∧
      next.claimCounter.toNat = held.claimCounter.toNat + 1 := by
  obtain ⟨identity', result, window, hidentity', hpasses, rfl⟩ := h.passes
  obtain rfl := Outcome.ok.inj (hidentity.symm.trans hidentity')
  obtain ⟨-, claimNumber, hnumber, rfl⟩ := evaluateClaim_eq_ok_iff.mp hpasses.evaluated
  subst haccess
  rw [← hbadge] at hpasses ⊢
  exact ⟨_, _, executeClaim_fst_eq_ok.mpr ((claim_eq_ok_iff hgate).mpr
      ⟨hreceipt, _, window, hpasses, rfl⟩),
    decodeAccessBadge_encodeAccessBadge _, rfl, rfl, rfl,
    decodeGateState_encodeGateState _, rfl, hnumber⟩

/-- The command fails at its arguments, or it comes to the submission. -/
theorem claimSubmit_cases {risc0 : Risc0} (S : ClaimServices risc0) (sequencer : LedgerSequencer)
    (devMode : EnvVar) (gateAccountIdHex : String) (args : ClaimSubmission)
    (log : List ChainEffect) :
    ((claimSubmit S sequencer devMode gateAccountIdHex args log).1.isOk = false ∧
        (claimSubmit S sequencer devMode gateAccountIdHex args log).2 = log) ∨
      ∃ gateAccountId, devModeStatus devMode = .ok .disabled ∧
        digestFromHex gateAccountIdHex = .ok gateAccountId ∧
        claimSubmit S sequencer devMode gateAccountIdHex args log =
          submitOnChainClaim S sequencer { args with gateAccountId } log := by
  unfold claimSubmit
  rcases Mutating.liftM_bind_cases _ _ log with hfailed | ⟨mode, hmode, hchecked⟩
  · exact Or.inl hfailed
  rw [hchecked]
  rcases Mutating.liftM_bind_cases _ _ log with hfailed | ⟨_, hdisabled, hparsed⟩
  · exact Or.inl hfailed
  rw [hparsed]
  rcases Mutating.liftM_bind_cases _ _ log with hfailed | ⟨gateAccountId, hid, hsubmitted⟩
  · exact Or.inl hfailed
  have hmode : devModeStatus devMode = .ok .disabled := by
    rw [Outcome.mapErr_eq_ok.mp hmode, not_not.mp (Outcome.check_eq_ok.mp hdisabled)]
  exact Or.inr ⟨gateAccountId, hmode, Outcome.mapErr_eq_ok.mp hid, hsubmitted⟩

/-- What the command `on-chain claim-submit` leaves behind, whether it succeeds or fails
at any point.  Either nothing, or the badge, the proof and the transaction in this order,
possibly without the last ones.  In that case proving is real, the state in the file is
valid and on the chain, the attestation is verified for the claim, the guest has accepted
the claim, and the chain accepts it as long as the gate holds this state. -/
theorem submission_effects (hprover : S.prover.RunsGuest G S.balanceGateId)
    (devMode : EnvVar) (gateAccountIdHex : String) (log : List ChainEffect) :
    let run := claimSubmit S sequencer devMode gateAccountIdHex args log
    (run.1.isOk = false ∧ run.2 = log) ∨
      ∃ gateAccountId held access badge composed,
        devModeStatus devMode = .ok .disabled ∧
        digestFromHex gateAccountIdHex = .ok gateAccountId ∧
        SubmissionAccepted G S sequencer { args with gateAccountId } held access badge
          composed ∧
        (∃ left, left <+: ClaimSubmission.effects S { args with gateAccountId } badge composed ∧
          run.2 = log ++ left ∧
          (run.1.isOk = true →
            left = ClaimSubmission.effects S { args with gateAccountId } badge composed)) ∧
        ∀ gate call identity, decodeGateState gate.data = some held → call.access = access →
          args.identity S = .ok identity → call.badge.accountId = identity.accountId →
          ReceiptVerifies G call.envVerify access →
          ∃ output next, (executeClaim P G S.balanceGateId call gate).1 = .ok output ∧
            decodeAccessBadge output.badge.data = some badge ∧
            badge.presenterPublicKey = access.journal.presenterPublicKey ∧
            badge.contextHash = held.contextHash ∧ badge.claimNumber = next.claimCounter ∧
            decodeGateState output.gate.data = some next ∧ next.policy = held.policy ∧
            next.claimCounter.toNat = held.claimCounter.toNat + 1 := by
  intro run
  rcases claimSubmit_cases S sequencer devMode gateAccountIdHex args log with
    hnothing | ⟨gateAccountId, hmode, hid, hrun⟩
  · exact Or.inl hnothing
  · have hsubmission : run = submitOnChainClaim S sequencer { args with gateAccountId } log :=
      hrun
    rw [hsubmission]
    rcases submitOnChainClaim_effects hprover log with
      hnothing | ⟨held, access, badge, composed, haccepted, hleft⟩
    · exact Or.inl hnothing
    · refine Or.inr ⟨gateAccountId, held, access, badge, composed, hmode, hid, haccepted, hleft,
        ?_⟩
      intro gate call identity hgate haccess hidentity hbadge hreceipt
      exact haccepted.executes hgate haccess hidentity hbadge hreceipt

end

/-- The submission of the tests leaves the badge of the claim, its proof and one
transaction. -/
theorem submission_effects_founders :
    ∃ badge composed, badge.presenterPublicKey = foundersKey ∧ badge.claimNumber = 1 ∧
      (claimSubmit foundersServices (ledgerAt foundersGateAccount) (.value "0")
        (digestToHex (List.Vector.replicate 32 1)) foundersSubmission []).2 =
          [.badgeWritten badge, .proofWritten composed.proof,
            .transactionSent (foundersServices.payload composed (List.Vector.replicate 32 1))] := by
  have hok : (claimSubmit foundersServices (ledgerAt foundersGateAccount) (.value "0")
      (digestToHex (List.Vector.replicate 32 1)) foundersSubmission []).1.isOk = true := by
    decide +kernel
  have hprover : foundersServices.prover.RunsGuest foundersRuntime foundersServices.balanceGateId :=
    GateProver.replaying_runsGuest _ _ _ _
  rcases @submission_effects foundersPrimitives foundersRuntime foundersServices
    (ledgerAt foundersGateAccount) foundersSubmission hprover (.value "0")
    (digestToHex (List.Vector.replicate 32 1)) [] with ⟨hfailed, -⟩ |
    ⟨gateAccountId, held, access, badge, composed, -, hid, haccepted, ⟨left, -, hlog, hall⟩,
      hexecutes⟩
  · rw [hok] at hfailed
    cases hfailed
  rw [digestFromHex_digestToHex] at hid
  obtain rfl := Outcome.ok.inj hid
  obtain rfl := (JsonFile.holds.inj haccepted.stateFile : foundersInputs.state = held)
  obtain rfl := (JsonFile.holds.inj haccepted.claimFile : foundersAccess = access)
  obtain ⟨identity, -, -, hidentity, -, -⟩ := haccepted.passes
  have hbadge : foundersCall.badge.accountId = identity.accountId := by
    obtain rfl := (Outcome.ok.inj hidentity : _ = identity)
    rfl
  have hreceipt : ReceiptVerifies foundersRuntime foundersCall.envVerify foundersAccess :=
    ⟨journalWords foundersJournal, rfl, by simp [foundersCall]⟩
  obtain ⟨output, next, -, -, hkey, -, hnumber, -, -, hcounter⟩ := hexecutes foundersGateAccount
    foundersCall identity (decodeGateState_encodeGateState _) rfl hidentity hbadge hreceipt
  refine ⟨badge, composed, hkey, ?_, ?_⟩
  · rw [hnumber]
    exact UInt64.toNat_inj.mp hcounter
  · rw [hlog, hall hok]
    rfl

end TokenStudio
