import TokenStudio.AttestationTypes.Hex
import TokenStudio.JsonFile
import TokenStudio.Primitives

/-!
# Proving

The model of the crate `attestation-prover` and of the commands `prove` and
`sequencer-root`: the membership path that a sequencer gives for an account, the request
for a proof, and `prove`, which runs the guest and verifies its own receipt.

The sequencer and the part of Risc0 that proves are parameters.  A `Sequencer` answers
whatever it likes.  `fetchSequencerInput_eq_ok` says what the code has checked of an
answer: the path leads from the commitment of the account to the root.

`prove_eq_ok` is the spec lemma of `prove`, and `proveRequest_eq_ok` adds the checks of
the request: whoever has a proof of `proveRequest` has a witness for its journal
(`ProofFor`).  The same holds of both ways in which `runProve` comes to its input.
-/

namespace TokenStudio

/-! ## Errors -/

/-- `InputError`, as far as proving raises it. -/
inductive InputError where
  | invalidGate (message : String)
  | io (message : String)
  | json (message : String)
  | rpcClient (message : String)
  | rpcRequest (message : String)
  | unexpectedProofCount (count : Nat)
  | missingMembershipProof
  | membershipRootMismatch
  deriving DecidableEq, Repr

/-- The text of an `InputError`. -/
def InputError.toText : InputError → String
  | .invalidGate message => "invalid gate configuration: " ++ message
  | .io message => "failed to read or write prover data: " ++ message
  | .json message => "invalid prover JSON: " ++ message
  | .rpcClient message => "failed to create sequencer RPC client: " ++ message
  | .rpcRequest message => "sequencer membership proof request failed: " ++ message
  | .unexpectedProofCount count =>
    "sequencer returned " ++ toString count ++ " membership proof entries; expected exactly one"
  | .missingMembershipProof => "sequencer does not contain the private account commitment"
  | .membershipRootMismatch =>
    "sequencer membership proof does not match its returned commitment root"

/-- The text of a `CircuitError`. -/
def CircuitError.toText : CircuitError → String
  | .zeroThreshold => "gate threshold must be greater than zero"
  | .missingPresenterKey => "presenter public key cannot be all zero"
  | .issuedAfterExpiry => "attestation was issued after the gate expiry"
  | .wrongProgramOwner => "account is not owned by the configured token program"
  | .invalidTokenHolding => "account data is not a valid fungible token holding"
  | .wrongTokenDefinition => "token holding belongs to a different token definition"
  | .insufficientBalance => "private token balance is below the gate threshold"
  | .invalidMembershipProof =>
    "private account commitment is not a member of the supplied root"

/-- `ProverError`, as far as proving raises it.  The errors that `verify_receipt` raises
as well are a `ProverError` of the model. -/
inductive ProveError where
  | invalidWitness (error : CircuitError)
  | input (error : InputError)
  | devModeEnabled
  | invalidDevMode (value : String)
  | executorInput (message : String)
  | proving (message : String)
  | receiptEncode (message : String)
  | receipt (error : ProverError)
  deriving DecidableEq, Repr

/-- The text of a `ProveError`. -/
def ProveError.toText : ProveError → String
  | .invalidWitness error =>
    "private witness does not satisfy the attestation statement: " ++ error.toText
  | .input error => error.toText
  | .devModeEnabled => "RISC0_DEV_MODE must be 0 or unset for a real ProofGate proof"
  | .invalidDevMode value => "RISC0_DEV_MODE has unsupported value '" ++ value ++ "'"
  | .executorInput message => "failed to prepare Risc0 executor input: " ++ message
  | .proving message => "Risc0 proof generation failed: " ++ message
  | .receiptEncode message => "Risc0 receipt encoding failed: " ++ message
  | .receipt (.receiptVerification message) =>
    "Risc0 receipt verification failed: " ++ message
  | .receipt (.journalDecode message) => "Risc0 journal decoding failed: " ++ message
  | .receipt (.receiptDecode message) => "Risc0 receipt decoding failed: " ++ message
  | .receipt .journalMismatch => "guest journal did not match the host-evaluated statement"

/-! ## The mode of Risc0 -/

/-- What `env::var` finds. -/
inductive EnvVar where
  | notPresent
  | notUnicode
  | value (text : String)
  deriving DecidableEq

inductive DevModeStatus where
  | disabled
  | enabled
  deriving DecidableEq, Repr

/-- `value.trim().to_ascii_lowercase()`. -/
def normalizedMode (value : String) : String :=
  String.ofList (((value.toList.dropWhile isWhitespace).reverse.dropWhile isWhitespace).reverse.map
    Char.toLower)

/-- `parse_dev_mode`. -/
def parseDevMode : Option String → Outcome ProveError DevModeStatus
  | none => .ok .disabled
  | some value =>
    if normalizedMode value ∈ ["", "0", "false", "off"] then .ok .disabled
    else if normalizedMode value ∈ ["1", "true", "on"] then .ok .enabled
    else .err (.invalidDevMode value)

/-- `dev_mode_status`. -/
def devModeStatus : EnvVar → Outcome ProveError DevModeStatus
  | .notPresent => parseDevMode none
  | .notUnicode => .err (.invalidDevMode "non-Unicode value")
  | .value text => parseDevMode (some text)

/-- `ensure_real_proving_mode`. -/
def ensureRealProvingMode (devMode : EnvVar) : Outcome ProveError Unit := do
  match ← devModeStatus devMode with
  | .disabled => pure ()
  | .enabled => .err .devModeEnabled

@[simp] theorem ensureRealProvingMode_eq_ok {devMode : EnvVar} :
    ensureRealProvingMode devMode = .ok () ↔ devModeStatus devMode = .ok .disabled := by
  rw [ensureRealProvingMode]
  cases devModeStatus devMode with
  | ok status => cases status <;> simp
  | err e => simp
  | panic => simp

/-- The values of the variable with which proving is real. -/
theorem devModeStatus_eq_disabled {devMode : EnvVar} :
    devModeStatus devMode = .ok .disabled ↔
      devMode = .notPresent ∨
        ∃ text, devMode = .value text ∧ normalizedMode text ∈ ["", "0", "false", "off"] := by
  cases devMode with
  | notPresent => simp [devModeStatus, parseDevMode]
  | notUnicode => simp [devModeStatus]
  | value text =>
    simp only [devModeStatus, parseDevMode]
    split
    · rename_i hoff
      exact iff_of_true rfl (Or.inr ⟨text, rfl, hoff⟩)
    · rename_i hoff
      refine iff_of_false ?_ ?_
      · split <;> simp
      · rintro (hnone | ⟨text', htext, hoff'⟩)
        · cases hnone
        · obtain rfl := EnvVar.value.inj htext
          exact hoff hoff'

/-! ## The request -/

structure PrivateAccountSnapshot where
  account : LezAccount
  deriving DecidableEq

structure ProverInputFile where
  account : LezAccount
  membershipProof : MembershipProof
  commitmentRoot : Digest32
  deriving DecidableEq

/-- `ProverInputFile::validate_membership`. -/
def ProverInputFile.validateMembership (sha256 : Bytes → Digest32) (self : ProverInputFile) :
    Outcome InputError Unit :=
  let commitment := self.account.commitment sha256
  if self.membershipProof.verifies sha256 commitment self.commitmentRoot then .ok ()
  else .err .membershipRootMismatch

@[simp] theorem ProverInputFile.validateMembership_eq_ok {sha256 : Bytes → Digest32}
    {input : ProverInputFile} :
    input.validateMembership sha256 = .ok () ↔
      input.membershipProof.verifies sha256 (input.account.commitment sha256)
        input.commitmentRoot = true := by
  rw [validateMembership]
  split
  · rename_i hverifies
    exact iff_of_true rfl hverifies
  · rename_i hverifies
    exact iff_of_false (by simp) hverifies

structure ProofRequest where
  gate : GateConfig
  input : ProverInputFile
  presenterPublicKey : PublicKey32
  issuedAtUnixMs : UInt64
  deriving DecidableEq

/-- The witness that `ProofRequest::witness` builds. -/
def ProofRequest.toWitness (self : ProofRequest) : BalanceAttestationWitness where
  account := self.input.account
  membershipProof := self.input.membershipProof
  commitmentRoot := self.input.commitmentRoot
  gateContext := self.gate.context
  presenterPublicKey := self.presenterPublicKey
  issuedAtUnixMs := self.issuedAtUnixMs

/-- `ProofRequest::witness`. -/
def ProofRequest.witness (sha256 : Bytes → Digest32) (self : ProofRequest) :
    Outcome InputError BalanceAttestationWitness := do
  self.gate.validate.mapErr fun error => .invalidGate error.toText
  self.input.validateMembership sha256
  pure self.toWitness

/-! ## The sequencer -/

/-- What a sequencer behind a URL answers: the client for it, the current method and the
legacy one.  An error is a text. -/
structure Sequencer where
  /-- `HttpClientBuilder::build`. -/
  build : Except String Unit
  /-- The method `getProofsAndRoot`. -/
  getProofsAndRoot :
    List Digest32 → Except String (List (Option (Nat × List Digest32)) × Digest32)
  /-- The method `getProofForCommitment`. -/
  getProofForCommitment : Digest32 → Except String (Option (Nat × List Digest32))

/-- The path and the root that `fetch_sequencer_input` takes from the answers.  The
legacy method names no root, so the one that the path reaches is taken. -/
def Sequencer.pathAndRoot (sha256 : Bytes → Digest32) (sequencer : Sequencer)
    (commitment : Commitment) : Outcome InputError (MembershipProof × Digest32) :=
  match sequencer.getProofsAndRoot [commitment.digest] with
  | .ok (proofs, root) => do
    Outcome.check (proofs.length ≠ 1) (.unexpectedProofCount proofs.length)
    let (leafIndex, siblings) ← Outcome.okOr proofs.head?.join .missingMembershipProof
    pure (⟨leafIndex, siblings⟩, root)
  | .error currentError => do
    let legacy ← Outcome.ofExcept
      (fun legacyError => .rpcRequest
        ("getProofsAndRoot: " ++ currentError ++ "; getProofForCommitment: " ++ legacyError))
      (sequencer.getProofForCommitment commitment.digest)
    let (leafIndex, siblings) ← Outcome.okOr legacy .missingMembershipProof
    let membershipProof : MembershipProof := ⟨leafIndex, siblings⟩
    pure (membershipProof, membershipProof.computeRoot sha256 commitment)

/-- `fetch_sequencer_input`. -/
def fetchSequencerInput (sha256 : Bytes → Digest32) (sequencer : Sequencer)
    (account : LezAccount) : Outcome InputError ProverInputFile := do
  Outcome.ofExcept .rpcClient sequencer.build
  let (membershipProof, commitmentRoot) ←
    sequencer.pathAndRoot sha256 (account.commitment sha256)
  let input : ProverInputFile := { account, membershipProof, commitmentRoot }
  input.validateMembership sha256
  pure input

/-- `LezAccount::default`. -/
def LezAccount.default : LezAccount where
  accountId := zeroDigest
  programOwner := List.Vector.replicate 8 0
  balance := 0
  nonce := 0
  data := []

/-- `fetch_sequencer_commitment_root`. -/
def fetchSequencerCommitmentRoot (sha256 : Bytes → Digest32) (sequencer : Sequencer) :
    Outcome InputError Digest32 := do
  let input ← fetchSequencerInput sha256 sequencer .default
  pure input.commitmentRoot

/-- An input that was fetched is one for the account, and its path leads from the
commitment to the root. -/
theorem fetchSequencerInput_eq_ok {sha256 : Bytes → Digest32} {sequencer : Sequencer}
    {account : LezAccount} {input : ProverInputFile}
    (h : fetchSequencerInput sha256 sequencer account = .ok input) :
    input.account = account ∧
      input.membershipProof.verifies sha256 (account.commitment sha256)
        input.commitmentRoot = true := by
  simp only [fetchSequencerInput, Outcome.bind_eq_ok, Outcome.exists_unit, Outcome.pure_eq,
    Outcome.ok.injEq, ProverInputFile.validateMembership_eq_ok] at h
  obtain ⟨-, path, -, hverifies, rfl⟩ := h
  exact ⟨rfl, hverifies⟩

/-! ## Proving -/

/-- The part of Risc0 and `bincode` that makes a receipt with the guest program. -/
structure Risc0Prover (risc0 : Risc0) where
  /-- The builder of an executor environment. -/
  Builder : Type
  /-- `ExecutorEnv`. -/
  Env : Type
  /-- `ExecutorEnv::builder().write`. -/
  write : BalanceAttestationWitness → Except String Builder
  /-- `ExecutorEnvBuilder::build`. -/
  build : Builder → Except String Env
  /-- `default_prover().prove_with_opts`. -/
  proveWithOpts : Env → Except String risc0.Receipt
  /-- `bincode::serialize`. -/
  serialize : risc0.Receipt → Except String Bytes

/-- `bincode` reads back the receipts that it writes. -/
def Risc0Prover.RoundTrips {risc0 : Risc0} (prover : Risc0Prover risc0) : Prop :=
  ∀ receipt bytes, prover.serialize receipt = .ok bytes → risc0.deserialize bytes = .ok receipt

section

variable {risc0 : Risc0}

/-- `prove`. -/
def prove (sha256 : Bytes → Digest32) (prover : Risc0Prover risc0) (devMode : EnvVar)
    (witness : BalanceAttestationWitness) : Outcome ProveError Risc0AttestationProof := do
  ensureRealProvingMode devMode
  let expectedJournal ← (evaluate sha256 witness).mapErr .invalidWitness
  let builder ← Outcome.ofExcept .executorInput (prover.write witness)
  let env ← Outcome.ofExcept .executorInput (prover.build builder)
  let receipt ← Outcome.ofExcept .proving (prover.proveWithOpts env)
  Outcome.ofExcept (fun message => .receipt (.receiptVerification message))
    (risc0.verify receipt risc0.balanceAttestationId)
  let journal ← Outcome.ofExcept (fun message => .receipt (.journalDecode message))
    (risc0.decodeJournal receipt)
  Outcome.check (journal ≠ expectedJournal) (.receipt .journalMismatch)
  let bytes ← Outcome.ofExcept .receiptEncode (prover.serialize receipt)
  pure { journal, receipt := bytes }

/-- `prove_request`. -/
def proveRequest (sha256 : Bytes → Digest32) (prover : Risc0Prover risc0) (devMode : EnvVar)
    (request : ProofRequest) : Outcome ProveError Risc0AttestationProof := do
  let witness ← (request.witness sha256).mapErr .input
  prove sha256 prover devMode witness

/-- `prove_live`. -/
def proveLive (sha256 : Bytes → Digest32) (prover : Risc0Prover risc0) (devMode : EnvVar)
    (gate : GateConfig) (snapshot : PrivateAccountSnapshot) (sequencer : Sequencer)
    (presenterPublicKey : PublicKey32) (issuedAtUnixMs : UInt64) :
    Outcome ProveError Risc0AttestationProof := do
  let input ← (fetchSequencerInput sha256 sequencer snapshot.account).mapErr .input
  proveRequest sha256 prover devMode { gate, input, presenterPublicKey, issuedAtUnixMs }

/-- `prove` returns a proof exactly when the guest gives the journal of the host, and its
receipt is verified. -/
theorem prove_eq_ok {sha256 : Bytes → Digest32} {prover : Risc0Prover risc0} {devMode : EnvVar}
    {witness : BalanceAttestationWitness} {proof : Risc0AttestationProof} :
    prove sha256 prover devMode witness = .ok proof ↔
      devModeStatus devMode = .ok .disabled ∧ evaluate sha256 witness = .ok proof.journal ∧
        ∃ builder env receipt, prover.write witness = .ok builder ∧
          prover.build builder = .ok env ∧ prover.proveWithOpts env = .ok receipt ∧
          risc0.verify receipt risc0.balanceAttestationId = .ok () ∧
          risc0.decodeJournal receipt = .ok proof.journal ∧
          prover.serialize receipt = .ok proof.receipt := by
  simp only [prove, Outcome.bind_eq_ok, Outcome.exists_unit, Outcome.mapErr_eq_ok,
    Outcome.ofExcept_eq_ok, Outcome.check_eq_ok, Outcome.pure_eq, Outcome.ok.injEq,
    ensureRealProvingMode_eq_ok, ne_eq, not_not]
  constructor
  · rintro ⟨hmode, expected, heval, builder, hwrite, env, hbuild, receipt, hprove, hverify,
      journal, hdecode, rfl, bytes, hserialize, rfl⟩
    exact ⟨hmode, heval, builder, env, receipt, hwrite, hbuild, hprove, hverify, hdecode,
      hserialize⟩
  · rintro ⟨hmode, heval, builder, env, receipt, hwrite, hbuild, hprove, hverify, hdecode,
      hserialize⟩
    exact ⟨hmode, proof.journal, heval, builder, hwrite, env, hbuild, receipt, hprove, hverify,
      proof.journal, hdecode, rfl, proof.receipt, hserialize, rfl⟩

/-- `verify_receipt` accepts the proofs of `prove`. -/
theorem verifyReceipt_of_prove {sha256 : Bytes → Digest32} {prover : Risc0Prover risc0}
    (hround : prover.RoundTrips) {devMode : EnvVar} {witness : BalanceAttestationWitness}
    {proof : Risc0AttestationProof} (h : prove sha256 prover devMode witness = .ok proof) :
    verifyReceipt risc0 proof = .ok proof.journal := by
  obtain ⟨-, -, builder, env, receipt, -, -, -, hverify, hdecode, hserialize⟩ := prove_eq_ok.mp h
  have hdeserialize := hround receipt proof.receipt hserialize
  simp [verifyReceipt, decodeReceipt, hdeserialize, hverify, hdecode, Outcome.ofExcept]

/-- What stands behind a proof: an account, in a tree with the root of the journal, that
satisfies the statement of a valid gate for a key and a time, and a receipt that is
verified. -/
structure ProofFor (sha256 : Bytes → Digest32) (risc0 : Risc0) (gate : GateConfig)
    (account : LezAccount) (presenterPublicKey : PublicKey32) (issuedAtUnixMs : UInt64)
    (proof : Risc0AttestationProof) (witness : BalanceAttestationWitness) : Prop where
  valid : gate.validate = .ok ()
  context : witness.gateContext = gate.context
  proves : witness.account = account
  presenter : witness.presenterPublicKey = presenterPublicKey
  issuedAt : witness.issuedAtUnixMs = issuedAtUnixMs
  evaluated : evaluate sha256 witness = .ok proof.journal
  verified : verifyReceipt risc0 proof = .ok proof.journal

/-- Every proof of a request has a witness. -/
theorem proveRequest_eq_ok {sha256 : Bytes → Digest32} {prover : Risc0Prover risc0}
    (hround : prover.RoundTrips) {devMode : EnvVar} {request : ProofRequest}
    {proof : Risc0AttestationProof}
    (h : proveRequest sha256 prover devMode request = .ok proof) :
    devModeStatus devMode = .ok .disabled ∧
      ProofFor sha256 risc0 request.gate request.input.account request.presenterPublicKey
        request.issuedAtUnixMs proof request.toWitness := by
  simp only [proveRequest, ProofRequest.witness, Outcome.bind_eq_ok, Outcome.exists_unit,
    Outcome.mapErr_eq_ok, Outcome.pure_eq, Outcome.ok.injEq] at h
  obtain ⟨witness, ⟨hgate, -, rfl⟩, hprove⟩ := h
  obtain ⟨hmode, heval, -⟩ := prove_eq_ok.mp hprove
  exact ⟨hmode, hgate, rfl, rfl, rfl, rfl, heval, verifyReceipt_of_prove hround hprove⟩

/-- So has every live proof, whatever the sequencer answers. -/
theorem proveLive_eq_ok {sha256 : Bytes → Digest32} {prover : Risc0Prover risc0}
    (hround : prover.RoundTrips) {devMode : EnvVar} {gate : GateConfig}
    {snapshot : PrivateAccountSnapshot} {sequencer : Sequencer}
    {presenterPublicKey : PublicKey32} {issuedAtUnixMs : UInt64} {proof : Risc0AttestationProof}
    (h : proveLive sha256 prover devMode gate snapshot sequencer presenterPublicKey
      issuedAtUnixMs = .ok proof) :
    devModeStatus devMode = .ok .disabled ∧
      ∃ witness, ProofFor sha256 risc0 gate snapshot.account presenterPublicKey issuedAtUnixMs
        proof witness := by
  simp only [proveLive, Outcome.bind_eq_ok, Outcome.mapErr_eq_ok] at h
  obtain ⟨input, hfetch, hrequest⟩ := h
  obtain ⟨haccount, -⟩ := fetchSequencerInput_eq_ok hfetch
  obtain ⟨hmode, hproof⟩ := proveRequest_eq_ok hround hrequest
  rw [haccount] at hproof
  exact ⟨hmode, _, hproof⟩

/-! ## The command -/

/-- `read_json` of the prover. -/
def readProverJson {α : Type} : JsonFile α → Outcome InputError α
  | .absent => .err (.io notFoundText)
  | .unreadable message => .err (.io message)
  | .malformed message => .err (.json message)
  | .panics => .panic
  | .holds value => .ok value

@[simp] theorem readProverJson_eq_ok {α : Type} {file : JsonFile α} {value : α} :
    readProverJson file = .ok value ↔ file = .holds value := by
  cases file <;> simp [readProverJson]

/-- `read_prover_input`. -/
def readProverInput (sha256 : Bytes → Digest32) (file : JsonFile ProverInputFile) :
    Outcome InputError ProverInputFile := do
  let input ← readProverJson file
  input.validateMembership sha256
  pure input

/-- `ProveArgs`, with what the command finds: the files, the sequencer behind the URL, the
clock, and the result of writing the proof. -/
structure ProveArgs where
  gate : JsonFile GateConfig
  input : Option (JsonFile ProverInputFile)
  accountSnapshot : Option (JsonFile PrivateAccountSnapshot)
  sequencerUrl : Option Sequencer
  presenterPublicKeyHex : String
  issuedAtUnixMs : Option UInt64
  clock : Outcome String UInt64
  output : Outcome String Unit

/-- The three ways of `run_prove` to its proof. -/
def ProveArgs.proof (sha256 : Bytes → Digest32) (prover : Risc0Prover risc0) (devMode : EnvVar)
    (args : ProveArgs) (gate : GateConfig) (presenterPublicKey : PublicKey32)
    (issuedAtUnixMs : UInt64) : Outcome String Risc0AttestationProof :=
  match args.input, args.accountSnapshot, args.sequencerUrl with
  | some inputFile, none, none => do
    let input ← (readProverInput sha256 inputFile).mapErr InputError.toText
    (proveRequest sha256 prover devMode
      { gate, input, presenterPublicKey, issuedAtUnixMs }).mapErr ProveError.toText
  | none, some snapshotFile, some sequencer => do
    let snapshot ← (readProverJson snapshotFile).mapErr InputError.toText
    (proveLive sha256 prover devMode gate snapshot sequencer presenterPublicKey
      issuedAtUnixMs).mapErr ProveError.toText
  | _, _, _ =>
    .err "provide either --input, or both --account-snapshot and --sequencer-url"

/-- `run_prove`: the proof that it writes.  The clock is read even when the time is an
argument. -/
def runProve (sha256 : Bytes → Digest32) (prover : Risc0Prover risc0) (devMode : EnvVar)
    (args : ProveArgs) : Outcome String Risc0AttestationProof := do
  let status ← (devModeStatus devMode).mapErr ProveError.toText
  Outcome.check (status = .enabled) "RISC0_DEV_MODE must be 0 or unset for proof generation"
  let gate ← readGateConfig args.gate
  let presenterPublicKey ← (digestFromHex args.presenterPublicKeyHex).mapErr fun error =>
    "invalid --presenter-public-key-hex: " ++ error.message
  let clock ← args.clock
  let proof ← args.proof sha256 prover devMode gate presenterPublicKey
    (args.issuedAtUnixMs.getD clock)
  args.output
  pure proof

/-- The account that the command proves for: the one of the input file or of the
snapshot. -/
inductive ProveArgs.ProvesFor (args : ProveArgs) : LezAccount → Prop where
  | input {file : ProverInputFile} (h : args.input = some (.holds file)) :
      args.ProvesFor file.account
  | snapshot {file : PrivateAccountSnapshot} (h : args.accountSnapshot = some (.holds file)) :
      args.ProvesFor file.account

/-- Both ways give a proof with a witness. -/
theorem ProveArgs.proof_eq_ok {sha256 : Bytes → Digest32} {prover : Risc0Prover risc0}
    (hround : prover.RoundTrips) {devMode : EnvVar} {args : ProveArgs} {gate : GateConfig}
    {presenterPublicKey : PublicKey32} {issuedAtUnixMs : UInt64} {proof : Risc0AttestationProof}
    (h : args.proof sha256 prover devMode gate presenterPublicKey issuedAtUnixMs = .ok proof) :
    ∃ account, args.ProvesFor account ∧ ∃ witness,
      ProofFor sha256 risc0 gate account presenterPublicKey issuedAtUnixMs proof witness := by
  rw [ProveArgs.proof] at h
  split at h
  · rename_i inputFile hinput _ _
    simp only [readProverInput, Outcome.bind_eq_ok, Outcome.exists_unit, Outcome.mapErr_eq_ok,
      Outcome.pure_eq, Outcome.ok.injEq, readProverJson_eq_ok] at h
    obtain ⟨input, ⟨_, rfl, -, rfl⟩, hrequest⟩ := h
    exact ⟨_, .input hinput, _, (proveRequest_eq_ok hround hrequest).2⟩
  · rename_i snapshotFile sequencer _ hsnapshot _
    simp only [Outcome.bind_eq_ok, Outcome.mapErr_eq_ok, readProverJson_eq_ok] at h
    obtain ⟨snapshot, rfl, hlive⟩ := h
    exact ⟨_, .snapshot hsnapshot, (proveLive_eq_ok hround hlive).2⟩
  · cases h

/-- What `run_prove` has done when it writes a proof. -/
theorem runProve_eq_ok {sha256 : Bytes → Digest32} {prover : Risc0Prover risc0}
    (hround : prover.RoundTrips) {devMode : EnvVar} {args : ProveArgs}
    {proof : Risc0AttestationProof} (h : runProve sha256 prover devMode args = .ok proof) :
    devModeStatus devMode = .ok .disabled ∧
      ∃ gate account presenterPublicKey issuedAtUnixMs witness, args.gate = .holds gate ∧
        args.ProvesFor account ∧
        digestFromHex args.presenterPublicKeyHex = .ok presenterPublicKey ∧
        ProofFor sha256 risc0 gate account presenterPublicKey issuedAtUnixMs proof witness := by
  simp only [runProve, Outcome.bind_eq_ok, Outcome.check_eq_ok, Outcome.exists_unit,
    Outcome.mapErr_eq_ok, Outcome.pure_eq, Outcome.ok.injEq, readGateConfig_eq_ok] at h
  obtain ⟨status, hstatus, hmode, gate, ⟨hgate, -⟩, key, hkey, clock, -, written, hproof, -,
    rfl⟩ := h
  obtain ⟨account, hfor, witness, hwitness⟩ := ProveArgs.proof_eq_ok hround hproof
  cases status with
  | disabled =>
    exact ⟨hstatus, gate, account, key, _, witness, hgate, hfor, hkey, hwitness⟩
  | enabled => exact absurd rfl hmode

end

end TokenStudio
