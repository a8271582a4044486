import TokenStudio.AttestationProver.Basic
import TokenStudio.LezGateSdk

/-!
# Claims off the chain

The part of the crate `lez-gate-sdk` that runs the guest on a claim before the chain
does.  `simulateDemoClaim` executes it without a proof, on accounts that it makes up from a
state.  `proveGateClaim` proves the execution for a verified receipt, and
`composePrivateExecution` puts the proof into a private transaction.

The executor runs the guest that the ledger runs, with `env::verify` answered from the
assumption that the host has added (`GateEnv.run`).  `simulation_exact` compares the two:
a simulation allows a claim exactly when an account with the same state would, given the
receipt of the journal, and it predicts what the account and the badge hold afterwards.

The provers are parameters.  `GateProver.RunsGuest` is what a proof is good for.
-/

namespace TokenStudio

/-- `ProgramOutput`, as far as it is read. -/
structure ProgramOutput where
  postStates : List Account
  validFrom : Option UInt64
  validUntil : Option UInt64
  deriving DecidableEq

/-- What the guest commits for an accepted claim. -/
def ClaimOutput.programOutput (self : ClaimOutput) : ProgramOutput where
  postStates := [self.gate, self.badge]
  validFrom := some self.validFrom
  validUntil := some self.validUntil

/-- `LezGateError`, as far as executing, proving and composing a claim raises it. -/
inductive GateClaimError where
  | invalidAttestation (error : ProverError)
  | journalMismatch
  | inputEncoding (message : String)
  | environment (message : String)
  | programExecution (message : String)
  | programProving (message : String)
  | programVerification (message : String)
  | programOutput (message : String)
  | outerProving (message : String)
  | outerVerification (message : String)
  | outerOutput (message : String)
  | proofEncoding (message : String)
  | transaction (message : String)
  deriving DecidableEq, Repr

/-- The text of such an error. -/
def GateClaimError.toText : GateClaimError → String
  | .invalidAttestation error =>
    "attestation proof is invalid: " ++ (ProveError.receipt error).toText
  | .journalMismatch => "claim journal differs from the supplied attestation receipt"
  | .inputEncoding message => "failed to serialize Risc0 input: " ++ message
  | .environment message => "failed to build Risc0 executor environment: " ++ message
  | .programExecution message => "LEZ gate program execution failed: " ++ message
  | .programProving message => "LEZ gate program proving failed: " ++ message
  | .programVerification message => "LEZ gate program receipt is invalid: " ++ message
  | .programOutput message => "LEZ gate program output is invalid: " ++ message
  | .outerProving message => "LEZ outer private-execution proving failed: " ++ message
  | .outerVerification message =>
    "LEZ outer private-execution receipt is invalid: " ++ message
  | .outerOutput message => "LEZ outer private-execution output is invalid: " ++ message
  | .proofEncoding message => "failed to encode LEZ private-execution proof: " ++ message
  | .transaction message => "failed to construct LEZ transaction: " ++ message

/-! ## The environment of an execution -/

/-- `ReceiptClaim::ok`: a receipt for an image whose journal has a digest. -/
structure ReceiptClaim where
  imageId : ProgramOwner
  journalDigest : Digest32
  deriving DecidableEq

/-- The words of a journal as bytes. -/
def wordBytes (words : List UInt32) : Bytes := words.flatMap fun word => leBytes 4 word.toNat

/-- `env::verify` of a guest whose host has added this assumption. -/
def ReceiptClaim.verifies (sha256 : Bytes → Digest32) (self : ReceiptClaim)
    (imageId : ProgramOwner) (words : List UInt32) : Bool :=
  imageId = self.imageId && sha256 (wordBytes words) = self.journalDigest

/-- What a guest is started with. -/
structure GateEnv where
  assumption : ReceiptClaim
  gate : Account
  badge : Account
  access : ClaimAccess
  deriving DecidableEq

/-- What the host of an execution takes from Risc0 and Borsh.  The serialization of the
inputs and the build of the environment can fail. -/
structure GateHost where
  /-- `to_vec` of the instruction and the calls of `write`. -/
  writeInputs : Account → Account → ClaimAccess → Except String Unit
  /-- `ExecutorEnvBuilder::build`. -/
  build : GateEnv → Except String Unit
  /-- The text of the error of `to_vec`. -/
  toVecText : AttestationJournal → String
  /-- The text of the error of an execution that failed, or that panicked. -/
  executionText : Option GuestFailure → String
  /-- The text of the error of `try_from_slice`. -/
  borshText : Bytes → String

/-- The host serializes every input and builds every environment. -/
structure GateHost.Builds (H : GateHost) : Prop where
  writes : ∀ gate badge access, H.writeInputs gate badge access = .ok ()
  builds : ∀ env, H.build env = .ok ()

section

variable (P : Primitives) (G : GuestRuntime) (H : GateHost) (balanceGateId : ProgramId)

/-- The guest in an environment. -/
def GateEnv.run (env : GateEnv) : Outcome GuestFailure ProgramOutput := do
  let output ← claim P G (env.assumption.verifies P.sha256) balanceGateId env.gate env.badge
    env.access
  pure output.programOutput

/-- `attestation_claim`. -/
def attestationClaim (journal : OnChainAttestationJournal) :
    Outcome GateClaimError ReceiptClaim := do
  let attestationJournal := journal.toAttestationJournal
  let journalWords ← Outcome.okOr (G.toVec attestationJournal)
    (.inputEncoding (H.toVecText attestationJournal))
  pure ⟨balanceAttestationImageId, P.sha256 (wordBytes journalWords)⟩

/-- `gate_environment`. -/
def gateEnvironment (gate badge : Account) (access : ClaimAccess) (assumption : ReceiptClaim) :
    Outcome GateClaimError GateEnv := do
  Outcome.ofExcept .inputEncoding (H.writeInputs gate badge access)
  let env : GateEnv := { assumption, gate, badge, access }
  Outcome.ofExcept .environment (H.build env)
  pure env

/-- `default_executor().execute`, and the decoded journal of its session. -/
def GateEnv.execute (env : GateEnv) : Outcome GateClaimError ProgramOutput :=
  match env.run P G balanceGateId with
  | .ok output => .ok output
  | .err failure => .err (.programExecution (H.executionText (some failure)))
  | .panic => .err (.programExecution (H.executionText none))

/-- `execute_gate_claim_conditionally`. -/
def executeGateClaimConditionally (gate badge : Account) (access : ClaimAccess) :
    Outcome GateClaimError ProgramOutput := do
  let assumption ← attestationClaim P G H access.journal
  let env ← gateEnvironment H gate badge access assumption
  env.execute P G H balanceGateId

/-- `demo_pre_states`. -/
def demoPreStates (state : GateState) (gateAccountId badgeAccountId : Digest32) :
    Outcome GateClaimError (Account × Account) := do
  let data := encodeGateState state
  Outcome.expect (decide (data.length ≤ G.dataMaxLength))
  pure (⟨gateAccountId, data⟩, ⟨badgeAccountId, []⟩)

structure SimulatedGateClaim where
  nextGateState : GateState
  badge : AccessBadge
  validFromUnixMs : Option UInt64
  validUntilUnixMs : Option UInt64
  deriving DecidableEq

/-- `simulate_demo_claim`. -/
def simulateDemoClaim (state : GateState) (gateAccountId badgeAccountId : Digest32)
    (access : ClaimAccess) : Outcome GateClaimError SimulatedGateClaim := do
  let (gate, badge) ← demoPreStates G state gateAccountId badgeAccountId
  let output ← executeGateClaimConditionally P G H balanceGateId gate badge access
  let gatePost ← (Outcome.ofOption output.postStates[0]? : Outcome GateClaimError Account)
  let nextGateState ← Outcome.okOr (decodeGateState gatePost.data)
    (.programOutput (H.borshText gatePost.data))
  let badgePost ← (Outcome.ofOption output.postStates[1]? : Outcome GateClaimError Account)
  let badge ← Outcome.okOr (decodeAccessBadge badgePost.data)
    (.programOutput (H.borshText badgePost.data))
  pure
    { nextGateState, badge
      validFromUnixMs := output.validFrom
      validUntilUnixMs := output.validUntil }

end

/-! ## What the guest computes -/

section

variable {P : Primitives} {G : GuestRuntime} {H : GateHost} {balanceGateId : ProgramId}
  {state : GateState} {gate badge : Account} {access : ClaimAccess}

/-- The assumption that `attestation_claim` makes verifies the journal of the claim. -/
theorem verifies_attestationClaim {words : List UInt32}
    (h : G.toVec access.journal.toAttestationJournal = some words) :
    attestationClaim P G H access.journal =
        .ok ⟨balanceAttestationImageId, P.sha256 (wordBytes words)⟩ ∧
      ReceiptVerifies G (ReceiptClaim.verifies P.sha256
        ⟨balanceAttestationImageId, P.sha256 (wordBytes words)⟩) access := by
  refine ⟨by simp [attestationClaim, h], words, h, ?_⟩
  simp [ReceiptClaim.verifies]

/-- What a successful execution returns. -/
theorem GateEnv.execute_eq_ok {env : GateEnv} {output : ProgramOutput} :
    env.execute P G H balanceGateId = .ok output ↔
      env.run P G balanceGateId = .ok output := by
  unfold GateEnv.execute
  cases env.run P G balanceGateId <;> simp

/-- A simulation succeeds exactly when the journal can be serialized and the guest gets
through the claim. -/
theorem simulateDemoClaim_eq_ok_iff (hH : H.Builds) (hdata : 203 ≤ G.dataMaxLength)
    {gateAccountId badgeAccountId : Digest32} {simulated : SimulatedGateClaim} :
    simulateDemoClaim P G H balanceGateId state gateAccountId badgeAccountId access =
        .ok simulated ↔
      (∃ words, G.toVec access.journal.toAttestationJournal = some words) ∧ ∃ result window,
        ClaimPasses P G balanceGateId state badgeAccountId access result window ∧
          simulated =
            { nextGateState := result.nextGateState
              badge := result.badge
              validFromUnixMs := some window.1
              validUntilUnixMs := some window.2 } := by
  have hfits : (encodeGateState state).length ≤ G.dataMaxLength :=
    (encodeGateState_length_le state).trans hdata
  cases hwords : G.toVec access.journal.toAttestationJournal with
  | none =>
    refine iff_of_false ?_ (by rintro ⟨⟨words, hnone⟩, -⟩; cases hnone)
    simp [simulateDemoClaim, demoPreStates, hfits, executeGateClaimConditionally,
      attestationClaim, hwords, Outcome.expect]
  | some words =>
    obtain ⟨hassumption, hverifies⟩ := verifies_attestationClaim (P := P) (H := H) hwords
    simp only [simulateDemoClaim, demoPreStates, hfits, decide_true, Outcome.expect, if_true,
      Outcome.ok_bind, Outcome.pure_eq, executeGateClaimConditionally, hassumption,
      gateEnvironment, hH.writes, hH.builds, Outcome.ofExcept, Outcome.bind_eq_ok,
      GateEnv.execute_eq_ok, GateEnv.run, Outcome.ok.injEq, Outcome.ofOption_eq_ok,
      Outcome.okOr_eq_ok]
    constructor
    · rintro ⟨_, ⟨output, hclaim, rfl⟩, gatePost, hgate, next, hnext, badgePost, hbadge, decoded,
        hdecoded, rfl⟩
      obtain ⟨-, result, window, hpasses, rfl⟩ :=
        (claim_eq_ok_iff (decodeGateState_encodeGateState state)).mp hclaim
      obtain rfl := Option.some.inj hgate
      obtain rfl := Option.some.inj hbadge
      obtain rfl := Option.some.inj ((decodeGateState_encodeGateState _).symm.trans hnext)
      obtain rfl := Option.some.inj ((decodeAccessBadge_encodeAccessBadge _).symm.trans hdecoded)
      exact ⟨⟨words, rfl⟩, result, window, hpasses, rfl⟩
    · rintro ⟨-, result, window, hpasses, rfl⟩
      exact ⟨_, ⟨_, (claim_eq_ok_iff (decodeGateState_encodeGateState state)).mpr
          ⟨hverifies, result, window, hpasses, rfl⟩, rfl⟩,
        _, rfl, _, decodeGateState_encodeGateState _, _, rfl, _,
        decodeAccessBadge_encodeAccessBadge _, rfl⟩

/-- The result of one execution. -/
theorem executeClaim_fst_eq_ok {call : ClaimCall} {output : ClaimOutput} :
    (executeClaim P G balanceGateId call gate).1 = .ok output ↔
      claim P G call.envVerify balanceGateId gate call.badge call.access = .ok output := by
  simp only [executeClaim, Mutating.commit_fst, Outcome.bind_eq_ok, Outcome.pure_eq,
    Outcome.ok.injEq]
  constructor
  · rintro ⟨next, ⟨output', hclaim, rfl⟩, rfl⟩
    exact hclaim
  · intro hclaim
    exact ⟨_, ⟨output, hclaim, rfl⟩, rfl⟩

/-- The gate account after an execution that succeeded. -/
theorem executeClaim_snd_of_ok {call : ClaimCall} {output : ClaimOutput}
    (h : (executeClaim P G balanceGateId call gate).1 = .ok output) :
    (executeClaim P G balanceGateId call gate).2 = output.gate := by
  rcases executeClaim_cases P G balanceGateId call gate with
    ⟨output', -, -, hexecuted, -⟩ | ⟨hfailed, -⟩
  · rw [hexecuted] at h ⊢
    rw [Outcome.ok.inj h]
  · rw [h] at hfailed
    cases hfailed

/-- The states that a gate account holds in a run have one policy. -/
theorem final_holdsState (hgate : gate.data = encodeGateState state) (calls : List ClaimCall) :
    ∃ held, (Mutating.final (executeClaim P G balanceGateId) calls gate).data =
        encodeGateState held ∧ held.policy = state.policy :=
  final_holdsPolicy ⟨state, hgate, rfl⟩ calls

end

/-! ## A simulation predicts the chain -/

/-- What a simulation says about an execution: the accounts that it leaves and the window
in which the ledger may include it. -/
structure SimulatedGateClaim.Describes (simulated : SimulatedGateClaim)
    (c : Call ClaimCall Account GuestFailure ClaimOutput) (output : ClaimOutput) : Prop where
  gate : c.after.data = encodeGateState simulated.nextGateState
  badge : output.badge.data = encodeAccessBadge simulated.badge
  validFrom : simulated.validFromUnixMs = some output.validFrom
  validUntil : simulated.validUntilUnixMs = some output.validUntil

/-- At every point of every run of a gate account, a simulation on the state that the
account holds allows a claim exactly when an execution with its receipt accepts it, and
it predicts the accounts and the window of this execution.  It takes no receipt, and the
gate account that is named to it plays no part. -/
theorem simulation_predicts_run {P : Primitives} {G : GuestRuntime} {H : GateHost}
    {balanceGateId : ProgramId} (hH : H.Builds) (hdata : 203 ≤ G.dataMaxLength) {gate : Account}
    {state : GateState} (hgate : gate.data = encodeGateState state) (calls : List ClaimCall) :
    ∀ c ∈ Mutating.run (executeClaim P G balanceGateId) calls gate,
      ∃ held, c.before.data = encodeGateState held ∧ held.policy = state.policy ∧
        ∀ gateAccountId : Digest32,
          let simulation := simulateDemoClaim P G H balanceGateId held gateAccountId
            c.input.badge.accountId c.input.access
          (c.result.isOk ↔
            simulation.isOk ∧ ReceiptVerifies G c.input.envVerify c.input.access) ∧
          ∀ simulated output, simulation = .ok simulated → c.result = .ok output →
            simulated.Describes c output := by
  intro c hc
  obtain ⟨before, after, -, hcall⟩ := Mutating.mem_run _ hc
  obtain ⟨held, hheld, hpolicy⟩ := final_holdsState hgate before
  refine ⟨held, by rw [hcall]; exact hheld, hpolicy, ?_⟩
  intro gateAccountId
  generalize Mutating.final (executeClaim P G balanceGateId) before gate = reached
    at hcall hheld
  have hdecoded : decodeGateState reached.data = some held := by
    rw [hheld, decodeGateState_encodeGateState]
  have hexec : ∀ output, c.result = .ok output ↔
      claim P G c.input.envVerify balanceGateId reached c.input.badge c.input.access =
        .ok output := by
    intro output
    rw [hcall]
    exact executeClaim_fst_eq_ok
  constructor
  · simp only [Outcome.isOk_iff, hexec, claim_eq_ok_iff hdecoded,
      simulateDemoClaim_eq_ok_iff hH hdata]
    constructor
    · rintro ⟨output, hverifies, result, window, hpasses, -⟩
      have hwords := hverifies
      obtain ⟨words, hwords, -⟩ := hwords
      exact ⟨⟨_, ⟨words, hwords⟩, result, window, hpasses, rfl⟩, hverifies⟩
    · rintro ⟨⟨simulated, -, result, window, hpasses, -⟩, hverifies⟩
      exact ⟨_, hverifies, result, window, hpasses, rfl⟩
  · intro simulated output hsimulated houtput
    have hafter : c.after = output.gate := by
      rw [hcall] at houtput ⊢
      exact executeClaim_snd_of_ok houtput
    -- both run the guest on the same state, so they come to the same result and window
    obtain ⟨-, result, window, hpasses, rfl⟩ :=
      (simulateDemoClaim_eq_ok_iff hH hdata).mp hsimulated
    obtain ⟨-, result', window', hpasses', houtput'⟩ :=
      (claim_eq_ok_iff hdecoded).mp ((hexec output).mp houtput)
    obtain rfl := Outcome.ok.inj (hpasses.evaluated.symm.trans hpasses'.evaluated)
    obtain rfl := Outcome.ok.inj (hpasses.window.symm.trans hpasses'.window)
    subst houtput'
    exact ⟨by rw [hafter]; rfl, rfl, rfl, rfl⟩

/-- A host that serializes everything. -/
def foundersHost : GateHost where
  writeInputs _ _ _ := .ok ()
  build _ := .ok ()
  toVecText _ := "serialization failed"
  executionText _ := "guest panicked"
  borshText _ := "unexpected length of input"

theorem foundersHost_builds : foundersHost.Builds := ⟨fun _ _ _ => rfl, fun _ => rfl⟩

/-- The simulation of the claim of the tests, for a gate account that does not exist. -/
theorem simulation_predicts_run_founders :
    ∃ simulated, simulateDemoClaim foundersPrimitives foundersRuntime foundersHost
        foundersProgramId foundersInputs.state zeroDigest (List.Vector.replicate 32 6)
        foundersAccess = .ok simulated ∧
      foundersOutput.gate.data = encodeGateState simulated.nextGateState ∧
      simulated.validFromUnixMs = some 0 ∧ simulated.validUntilUnixMs = some 601001 := by
  have hgate : foundersGateAccount.data = encodeGateState foundersInputs.state := rfl
  have hmem : Mutating.call (executeClaim foundersPrimitives foundersRuntime foundersProgramId)
      foundersCall foundersGateAccount ∈
        Mutating.run (executeClaim foundersPrimitives foundersRuntime foundersProgramId)
          [foundersCall] foundersGateAccount := List.mem_cons_self
  obtain ⟨held, hheld, -, hpredicts⟩ := simulation_predicts_run foundersHost_builds (by decide)
    hgate [foundersCall] _ hmem
  have hdecoded := congrArg decodeGateState (hgate.symm.trans hheld)
  rw [decodeGateState_encodeGateState, decodeGateState_encodeGateState] at hdecoded
  obtain rfl : foundersInputs.state = held := Option.some.inj hdecoded
  obtain ⟨hallowed, hdescribes⟩ := hpredicts zeroDigest
  have hresult : (Mutating.call (executeClaim foundersPrimitives foundersRuntime
      foundersProgramId) foundersCall foundersGateAccount).result = .ok foundersOutput :=
    by simp only [Mutating.call, executeClaim_founders]
  have hafter : (Mutating.call (executeClaim foundersPrimitives foundersRuntime
      foundersProgramId) foundersCall foundersGateAccount).after = foundersOutput.gate :=
    by simp only [Mutating.call, executeClaim_founders]
  obtain ⟨simulated, hsimulated⟩ :=
    Outcome.isOk_iff.mp (hallowed.mp (Outcome.isOk_iff.mpr ⟨_, hresult⟩)).1
  obtain ⟨hnext, -, hfrom, huntil⟩ := hdescribes simulated foundersOutput hsimulated hresult
  rw [hafter] at hnext
  exact ⟨simulated, hsimulated, hnext, hfrom, huntil⟩

/-! ## Proving a claim -/

/-- The part of Risc0 that proves the guest. -/
structure GateProver (risc0 : Risc0) where
  Receipt : Type
  /-- The claim of an attestation receipt, which becomes the assumption. -/
  assumption : risc0.Receipt → ReceiptClaim
  /-- `default_prover().prove`. -/
  prove : GateEnv → Except String Receipt
  /-- `receipt.verify(BALANCE_GATE_ID)`. -/
  verify : Receipt → Except String Unit
  /-- `receipt.journal.decode`. -/
  decode : Receipt → Except String ProgramOutput

/-- A proof that verifies has the journal of the guest in its environment. -/
def GateProver.RunsGuest {P : Primitives} (prover : GateProver P.risc0) (G : GuestRuntime)
    (balanceGateId : ProgramId) : Prop :=
  ∀ env receipt output, prover.prove env = .ok receipt → prover.verify receipt = .ok () →
    prover.decode receipt = .ok output → env.run P G balanceGateId = .ok output

structure GateProgramExecution {risc0 : Risc0} (prover : GateProver risc0) where
  output : ProgramOutput
  receipt : prover.Receipt

/-- `prove_gate_claim`. -/
def proveGateClaim {risc0 : Risc0} (H : GateHost) (prover : GateProver risc0)
    (gate badge : Account) (access : ClaimAccess) (attestation : Risc0AttestationProof) :
    Outcome GateClaimError (GateProgramExecution prover) := do
  let verifiedJournal ← (verifyReceipt risc0 attestation).mapErr .invalidAttestation
  Outcome.check (verifiedJournal ≠ access.journal.toAttestationJournal) .journalMismatch
  let attestationReceipt ← (decodeReceipt risc0 attestation.receipt).mapErr .invalidAttestation
  let env ← gateEnvironment H gate badge access (prover.assumption attestationReceipt)
  let receipt ← Outcome.ofExcept .programProving (prover.prove env)
  Outcome.ofExcept .programVerification (prover.verify receipt)
  let output ← Outcome.ofExcept .programOutput (prover.decode receipt)
  pure { output, receipt }

/-- `PrivacyPreservingCircuitOutput`: the numbers of its parts, and the rest. -/
structure CircuitOutput where
  publicPostStates : Nat
  encryptedPrivatePostStates : Nat
  newCommitments : Nat
  newNullifiers : Nat
  content : Bytes
  deriving DecidableEq

/-- The part of Risc0 that proves the outer circuit for a gate proof, and the private
transactions of the crate `lee`. -/
structure OuterProver {risc0 : Risc0} (prover : GateProver risc0) where
  /-- `InputAccountIdentity`. -/
  Identity : Type
  /-- `InputAccountIdentity::Public`. -/
  publicIdentity : Identity
  Receipt : Type
  Message : Type
  /-- The write of the `PrivacyPreservingCircuitInput`. -/
  writeInput : ProgramOutput → List Identity → Except String Unit
  /-- `ExecutorEnvBuilder::build`. -/
  build : Except String Unit
  /-- `default_prover().prove_with_opts`, with the gate receipt as assumption. -/
  proveWithOpts : GateProgramExecution prover → List Identity → Except String Receipt
  /-- `receipt.verify(PRIVACY_PRESERVING_CIRCUIT_ID)`. -/
  verify : Receipt → Except String Unit
  /-- `receipt.journal.decode`. -/
  decode : Receipt → Except String CircuitOutput
  /-- `borsh::to_vec(&receipt.inner)`. -/
  encodeInner : Receipt → Except String Bytes
  /-- `Message::try_from_circuit_output`, for the public accounts. -/
  tryFromCircuitOutput : List Digest32 → CircuitOutput → Except String Message
  /-- `BorshSerialize::serialize` of the transaction of a message and a proof. -/
  serialize : Message → Bytes → Except String Bytes

structure ComposedGateExecution where
  gateOutput : ProgramOutput
  circuitOutput : CircuitOutput
  proof : Bytes
  deriving DecidableEq

section

variable {risc0 : Risc0} {prover : GateProver risc0} (outer : OuterProver prover)

/-- `compose_private_execution`. -/
def composePrivateExecution (gateExecution : GateProgramExecution prover)
    (accountIdentities : List outer.Identity) :
    Outcome GateClaimError ComposedGateExecution := do
  Outcome.ofExcept .inputEncoding (outer.writeInput gateExecution.output accountIdentities)
  Outcome.ofExcept .environment outer.build
  let receipt ← Outcome.ofExcept .outerProving
    (outer.proveWithOpts gateExecution accountIdentities)
  Outcome.ofExcept .outerVerification (outer.verify receipt)
  let circuitOutput ← Outcome.ofExcept .outerOutput (outer.decode receipt)
  let proof ← Outcome.ofExcept .proofEncoding (outer.encodeInner receipt)
  pure { gateOutput := gateExecution.output, circuitOutput, proof }

/-- One public account and one private account, which is new. -/
def CircuitOutput.IsPrivateClaim (self : CircuitOutput) : Prop :=
  self.publicPostStates = 1 ∧ self.encryptedPrivatePostStates = 1 ∧ self.newCommitments = 1 ∧
    self.newNullifiers = 1

instance (output : CircuitOutput) : Decidable output.IsPrivateClaim := by
  unfold CircuitOutput.IsPrivateClaim
  infer_instance

/-- `validate_private_claim_shape`. -/
def validatePrivateClaimShape (output : CircuitOutput) : Outcome GateClaimError Unit :=
  Outcome.check (¬ output.IsPrivateClaim)
    (.transaction ("private claim requires exactly one public post-state, " ++
      "encrypted private post-state, commitment, and nullifier; got " ++
      toString output.publicPostStates ++ ", " ++ toString output.encryptedPrivatePostStates ++
      ", " ++ toString output.newCommitments ++ ", and " ++ toString output.newNullifiers))

/-- `private_gate_claim_transaction`: the message and the proof of the transaction. -/
def privateGateClaimTransaction (composed : ComposedGateExecution) (gateAccountId : Digest32) :
    Outcome GateClaimError (outer.Message × Bytes) := do
  validatePrivateClaimShape composed.circuitOutput
  let message ← Outcome.ofExcept .transaction
    (outer.tryFromCircuitOutput [gateAccountId] composed.circuitOutput)
  pure (message, composed.proof)

end

/-- A proved claim is one that the guest has accepted, under the assumption that comes
from the verified attestation. -/
theorem proveGateClaim_eq_ok {P : Primitives} {G : GuestRuntime} {H : GateHost}
    {balanceGateId : ProgramId} {prover : GateProver P.risc0}
    (hprover : prover.RunsGuest G balanceGateId) {gate badge : Account} {access : ClaimAccess}
    {attestation : Risc0AttestationProof} {execution : GateProgramExecution prover}
    (h : proveGateClaim H prover gate badge access attestation = .ok execution) :
    verifyReceipt P.risc0 attestation = .ok access.journal.toAttestationJournal ∧
      ∃ receipt output, decodeReceipt P.risc0 attestation.receipt = .ok receipt ∧
        claim P G ((prover.assumption receipt).verifies P.sha256) balanceGateId gate badge
          access = .ok output ∧
        execution.output = output.programOutput := by
  simp only [proveGateClaim, gateEnvironment, Outcome.bind_eq_ok, Outcome.mapErr_eq_ok,
    Outcome.check_eq_ok, Outcome.exists_unit, Outcome.ofExcept_eq_ok, Outcome.pure_eq,
    Outcome.ok.injEq, ne_eq, not_not] at h
  obtain ⟨journal, hjournal, heq, receipt, hreceipt, env, ⟨-, -, rfl⟩, gateReceipt, hproved,
    hverified, output, hdecoded, rfl⟩ := h
  obtain ⟨claimed, hclaim, houtput⟩ :=
    Outcome.bind_eq_ok.mp (hprover _ _ _ hproved hverified hdecoded)
  exact ⟨heq ▸ hjournal, receipt, claimed, hreceipt, hclaim, (Outcome.ok.inj houtput).symm⟩

/-- A prover whose receipts are the outputs of the guest. -/
def GateProver.replaying (P : Primitives) (G : GuestRuntime) (balanceGateId : ProgramId)
    (assumption : ReceiptClaim) : GateProver P.risc0 where
  Receipt := ProgramOutput
  assumption _ := assumption
  prove env :=
    match env.run P G balanceGateId with
    | .ok output => .ok output
    | .err _ => .error "guest panicked"
    | .panic => .error "guest panicked"
  verify _ := .ok ()
  decode receipt := .ok receipt

theorem GateProver.replaying_runsGuest (P : Primitives) (G : GuestRuntime)
    (balanceGateId : ProgramId) (assumption : ReceiptClaim) :
    (GateProver.replaying P G balanceGateId assumption).RunsGuest G balanceGateId := by
  intro env receipt output hprove _ hdecode
  obtain rfl : receipt = output := Except.ok.inj hdecode
  unfold GateProver.replaying at hprove
  cases hrun : env.run P G balanceGateId with
  | ok output =>
    simp only [hrun] at hprove
    exact congrArg Outcome.ok (Except.ok.inj hprove)
  | err failure => simp [hrun] at hprove
  | panic => simp [hrun] at hprove

end TokenStudio
