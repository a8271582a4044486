import TokenStudio.AttestationTypes.Hex
import TokenStudio.BalanceGate.Core
import TokenStudio.CodeLib.Run

/-!
# The on-chain gate: the guest program

The model of the guest `balance_gate`.  It has two instructions, `initialize`
and `claim`.  Both end a failed execution with a panic whose text is
`ProofGate error {code}: {message}`.  Such a failure is an `err` here, with the
code and the message.  The `expect` on `env::verify` is the one `panic`.

A failed execution changes no account.  `executeClaim` is one claim as the
ledger sees it: an accepted execution replaces the gate account, every other
one leaves it.

What the program takes from Risc0, from the LEZ runtime and from the framework
is the parameter `GuestRuntime`.  What one execution can verify is an input of
that execution.  The account constraints in the instruction attributes are code
that the framework generates, and they are not modelled.

`GateState.policy` is the part of a state that no claim changes.
`HoldsPolicy` is the invariant of a gate account: its data is the encoding of a
state with the policy that `initialize` was given.
-/

namespace TokenStudio

/-- `AccountWithMetadata`, as far as the program reads or writes it. -/
structure Account where
  accountId : Digest32
  data : Bytes
  deriving DecidableEq

/-- The account with other data. -/
def Account.withData (self : Account) (data : Bytes) : Account := { self with data }

/-- A failed execution: `ProofGate error {code}: {message}`. -/
structure GuestFailure where
  code : UInt16
  message : String
  deriving DecidableEq, Repr

/-- `fail_claim`. -/
def GuestFailure.ofClaimError (error : ClaimError) : GuestFailure := ⟨error.code, error.message⟩

/-- What the guest takes from other crates. -/
structure GuestRuntime where
  /-- `risc0_zkvm::serde::to_vec`. -/
  toVec : AttestationJournal → Option (List UInt32)
  /-- The limit of account data, which its `TryFrom<Vec<u8>>` enforces. -/
  dataMaxLength : Nat
  /-- Whether a range of timestamps is a validity window. -/
  isValidityWindow : UInt64 → UInt64 → Bool

/-- The little-endian words of a byte string, padded with zeros. -/
def paddedWords : Nat → Bytes → List UInt32
  | 0, _ => []
  | n + 1, bytes => UInt32.ofNat (ofLeBytes (bytes.take 4)) :: paddedWords n (bytes.drop 4)

/-- A text in the word format of Risc0: its length, then its padded bytes. -/
def textWords (text : String) : List UInt32 :=
  let bytes := asBytes text
  UInt32.ofNat bytes.length :: paddedWords ((bytes.length + 3) / 4) bytes

/-- A journal in the word format of Risc0.  Digests and owners are written as
their hexadecimal texts. -/
def journalWords (journal : AttestationJournal) : List UInt32 :=
  journal.version.toUInt32 ::
    (textWords (digestToHex journal.contextHash) ++
      textWords (programOwnerToHex journal.tokenProgramOwner) ++
      textWords (digestToHex journal.tokenDefinitionId) ++
      paddedWords 4 (Codec.u128.encode journal.threshold) ++
      textWords (digestToHex journal.commitmentRoot) ++
      textWords (digestToHex journal.presenterPublicKey) ++
      paddedWords 2 (Codec.u64.encode journal.issuedAtUnixMs) ++
      match journal.expiresAtUnixMs with
      | some expiry => 1 :: paddedWords 2 (Codec.u64.encode expiry)
      | none => [0])

/-- A runtime that encodes one journal. -/
def GuestRuntime.ofJournal (journal : AttestationJournal) : GuestRuntime where
  toVec j := if j = journal then some (journalWords j) else none
  dataMaxLength := 100 * 1024
  isValidityWindow start stop := start < stop

/-- The arguments of `initialize`. -/
structure InitializeInputs where
  contextHash : Digest32
  tokenProgramOwner : ProgramOwner
  tokenDefinitionId : Digest32
  threshold : U128
  commitmentRoot : Digest32
  expiresAtUnixMs : UInt64
  maxProofAgeMs : UInt64
  challengeNonce : Digest32
  deriving DecidableEq

/-- The state that `initialize` builds.  An expiry of zero stands for none. -/
def InitializeInputs.state (inputs : InitializeInputs) : GateState :=
  GateState.fromPublicInputs inputs.contextHash inputs.tokenProgramOwner
    inputs.tokenDefinitionId inputs.threshold inputs.commitmentRoot
    (if inputs.expiresAtUnixMs ≠ 0 then some inputs.expiresAtUnixMs else none)
    inputs.maxProofAgeMs inputs.challengeNonce

/-- Account data from bytes, within the limit. -/
def GuestRuntime.toData (G : GuestRuntime) (bytes : Bytes) (message : String) :
    Outcome GuestFailure Bytes := do
  Outcome.check (bytes.length > G.dataMaxLength) ⟨2005, message⟩
  pure bytes

/-- `initialize`. -/
def initializeGate (G : GuestRuntime) (gate : Account) (inputs : InitializeInputs) :
    Outcome GuestFailure Account := do
  let state := inputs.state
  state.validate.mapErr GuestFailure.ofClaimError
  let data ← G.toData (encodeGateState state) "gate state is too large"
  pure (gate.withData data)

/-- The output of an accepted claim: the two accounts and the window in which
the ledger may include it. -/
structure ClaimOutput where
  gate : Account
  badge : Account
  validFrom : UInt64
  validUntil : UInt64
  deriving DecidableEq

/-- The end of the validity window: the proof is fresh up to and including its
maximal age, and no longer valid than its own expiry. -/
def validUntil (expiresAtUnixMs : Option UInt64) (freshnessEnd : UInt64) : UInt64 :=
  match expiresAtUnixMs.bind fun expiry => checkedAdd expiry 1 with
  | some expiry => min expiry freshnessEnd
  | none => freshnessEnd

/-- `claim`. -/
def claim (P : Primitives) (G : GuestRuntime) (envVerify : ProgramOwner → List UInt32 → Bool)
    (selfProgramId : ProgramId) (gate badge : Account) (claim : ClaimAccess) :
    Outcome GuestFailure ClaimOutput := do
  let state ← Outcome.okOr (decodeGateState gate.data) ⟨2005, "cannot decode gate state"⟩
  let result ← (evaluateClaim P state selfProgramId badge.accountId claim).mapErr
    GuestFailure.ofClaimError
  let attestationJournal := claim.journal.toAttestationJournal
  let journalWords ← Outcome.okOr (G.toVec attestationJournal)
    ⟨1011, "cannot encode attestation journal"⟩
  Outcome.expect (envVerify balanceAttestationImageId journalWords)
  let gateData ← G.toData (encodeGateState result.nextGateState) "gate state is too large"
  let badgeData ← G.toData (encodeAccessBadge result.badge) "access badge is too large"
  let validFrom := saturatingSub claim.journal.issuedAtUnixMs maxOnChainClockSkewMs
  let freshnessEnd ← Outcome.okOr
    ((checkedAdd claim.journal.issuedAtUnixMs state.maxProofAgeMs).bind fun value =>
      checkedAdd value 1)
    ⟨1005, "proof validity overflows"⟩
  let validUntil := validUntil claim.journal.expiresAtUnixMs freshnessEnd
  Outcome.check (validFrom ≥ validUntil) ⟨1005, "proof validity window is empty"⟩
  Outcome.check (¬ G.isValidityWindow validFrom validUntil)
    ⟨1005, "proof validity window is invalid"⟩
  pure
    { gate := gate.withData gateData
      badge := badge.withData badgeData
      validFrom, validUntil }

/-! ## Executions on a gate account -/

/-- The inputs of one execution of `claim`. -/
structure ClaimCall where
  /-- `env::verify` in this execution. -/
  envVerify : ProgramOwner → List UInt32 → Bool
  badge : Account
  access : ClaimAccess

/-- One execution of `claim` on a gate account.  A failed one changes nothing. -/
def executeClaim (P : Primitives) (G : GuestRuntime) (programId : ProgramId) (call : ClaimCall) :
    Mutating Account GuestFailure ClaimOutput :=
  Mutating.commit fun gate => do
    let output ← claim P G call.envVerify programId gate call.badge call.access
    pure (output, output.gate)

/-! ## What an accepted execution does -/

/-- What an accepted claim has passed, and what it writes. -/
structure ClaimAccepted (P : Primitives) (G : GuestRuntime)
    (envVerify : ProgramOwner → List UInt32 → Bool) (programId : ProgramId)
    (gate badge : Account) (access : ClaimAccess) (output : ClaimOutput) (state : GateState)
    (claimNumber : UInt64) : Prop where
  decoded : decodeGateState gate.data = some state
  valid : ClaimValid P state programId badge.accountId access
  number : claimNumber.toNat = state.claimCounter.toNat + 1
  receipt : ∃ words, G.toVec access.journal.toAttestationJournal = some words ∧
    envVerify balanceAttestationImageId words = true
  gate_eq : output.gate = gate.withData (encodeGateState
    (claimResult P state programId badge.accountId access claimNumber).nextGateState)
  badge_eq : output.badge = badge.withData (encodeAccessBadge
    (claimResult P state programId badge.accountId access claimNumber).badge)

theorem GuestRuntime.toData_eq_ok {G : GuestRuntime} {bytes data : Bytes} {message : String} :
    G.toData bytes message = .ok data ↔ bytes.length ≤ G.dataMaxLength ∧ bytes = data := by
  simp [GuestRuntime.toData, Outcome.bind_eq_ok]

/-- The facts behind an accepted execution of `claim`. -/
theorem claim_eq_ok {P : Primitives} {G : GuestRuntime}
    {envVerify : ProgramOwner → List UInt32 → Bool} {programId : ProgramId}
    {gate badge : Account} {access : ClaimAccess} {output : ClaimOutput}
    (h : claim P G envVerify programId gate badge access = .ok output) :
    ∃ state claimNumber,
      ClaimAccepted P G envVerify programId gate badge access output state claimNumber := by
  simp only [claim, Outcome.bind_eq_ok, Outcome.okOr_eq_ok, Outcome.mapErr_eq_ok,
    evaluateClaim_eq_ok_iff, GuestRuntime.toData_eq_ok, Outcome.expect_eq_ok,
    Outcome.exists_unit] at h
  obtain ⟨state, hdecoded, _, ⟨hvalid, claimNumber, hnumber, rfl⟩, words, hwords, hreceipt,
    _, ⟨-, rfl⟩, _, ⟨-, rfl⟩, freshnessEnd, -, -, -, houtput⟩ := h
  simp only [Outcome.pure_eq, Outcome.ok.injEq] at houtput
  subst houtput
  exact ⟨state, claimNumber, hdecoded, hvalid, hnumber, ⟨words, hwords, hreceipt⟩, rfl, rfl⟩

/-- What one execution can do to the gate account. -/
theorem executeClaim_cases (P : Primitives) (G : GuestRuntime) (programId : ProgramId)
    (call : ClaimCall) (gate : Account) :
    (∃ output state claimNumber, executeClaim P G programId call gate = (.ok output, output.gate) ∧
        ClaimAccepted P G call.envVerify programId gate call.badge call.access output state
          claimNumber) ∨
      ((executeClaim P G programId call gate).1.isOk = false ∧
        (executeClaim P G programId call gate).2 = gate) := by
  rcases Mutating.commit_cases (fun gate => do
      let output ← claim P G call.envVerify programId gate call.badge call.access
      pure (output, output.gate)) gate with ⟨output, gate', hplan, hcommit⟩ | hfailed
  · obtain ⟨output', hclaim, houtput⟩ := Outcome.bind_eq_ok.mp hplan
    simp only [Outcome.pure_eq, Outcome.ok.injEq, Prod.mk.injEq] at houtput
    obtain ⟨rfl, rfl⟩ := houtput
    obtain ⟨state, claimNumber, haccepted⟩ := claim_eq_ok hclaim
    exact Or.inl ⟨output', state, claimNumber, hcommit, haccepted⟩
  · exact Or.inr hfailed

/-- An execution that succeeds is an accepted claim. -/
theorem executeClaim_eq_ok {P : Primitives} {G : GuestRuntime} {programId : ProgramId}
    {call : ClaimCall} {gate : Account} {output : ClaimOutput}
    (h : (executeClaim P G programId call gate).1 = .ok output) :
    ∃ state claimNumber, ClaimAccepted P G call.envVerify programId gate call.badge call.access
      output state claimNumber := by
  rcases executeClaim_cases P G programId call gate with
    ⟨output', state, claimNumber, hexec, haccepted⟩ | ⟨hfailed, -⟩
  · rw [hexec] at h
    obtain rfl : output' = output := Outcome.ok.inj h
    exact ⟨state, claimNumber, haccepted⟩
  · rw [h] at hfailed
    cases hfailed

/-! ## The policy of a gate -/

/-- The fields of a state that no claim changes. -/
structure GatePolicy where
  version : UInt16
  contextHash : Digest32
  tokenProgramOwner : ProgramOwner
  tokenDefinitionId : Digest32
  threshold : U128
  commitmentRoot : Digest32
  expiresAtUnixMs : Option UInt64
  maxProofAgeMs : UInt64
  deriving DecidableEq

def GateState.policy (self : GateState) : GatePolicy where
  version := self.version
  contextHash := self.contextHash
  tokenProgramOwner := self.tokenProgramOwner
  tokenDefinitionId := self.tokenDefinitionId
  threshold := self.threshold
  commitmentRoot := self.commitmentRoot
  expiresAtUnixMs := self.expiresAtUnixMs
  maxProofAgeMs := self.maxProofAgeMs

@[simp] theorem claimResult_policy (P : Primitives) (state : GateState) (programId : ProgramId)
    (claimAccountId : Digest32) (access : ClaimAccess) (claimNumber : UInt64) :
    (claimResult P state programId claimAccountId access claimNumber).nextGateState.policy =
      state.policy := rfl

/-- The account holds the encoding of a state with the given policy. -/
def HoldsPolicy (policy : GatePolicy) (gate : Account) : Prop :=
  ∃ state : GateState, gate.data = encodeGateState state ∧ state.policy = policy

/-- What `initialize` writes. -/
theorem initializeGate_eq_ok {G : GuestRuntime} {gate gate' : Account} {inputs : InitializeInputs}
    (h : initializeGate G gate inputs = .ok gate') :
    inputs.state.validate = .ok () ∧
      gate' = gate.withData (encodeGateState inputs.state) := by
  simp only [initializeGate, Outcome.bind_eq_ok, Outcome.mapErr_eq_ok, Outcome.exists_unit,
    GuestRuntime.toData_eq_ok] at h
  obtain ⟨hvalid, data, ⟨-, rfl⟩, hgate⟩ := h
  simp only [Outcome.pure_eq, Outcome.ok.injEq] at hgate
  exact ⟨hvalid, hgate.symm⟩

/-- An accepted execution decodes the state that the account holds. -/
theorem ClaimAccepted.state_eq {P : Primitives} {G : GuestRuntime}
    {envVerify : ProgramOwner → List UInt32 → Bool} {programId : ProgramId}
    {gate badge : Account} {access : ClaimAccess} {output : ClaimOutput} {state held : GateState}
    {claimNumber : UInt64}
    (h : ClaimAccepted P G envVerify programId gate badge access output state claimNumber)
    (hheld : gate.data = encodeGateState held) : state = held := by
  have hdecoded := h.decoded
  rw [hheld, decodeGateState_encodeGateState] at hdecoded
  exact (Option.some.inj hdecoded).symm

/-- One execution keeps the policy. -/
theorem executeClaim_holdsPolicy {P : Primitives} {G : GuestRuntime} {programId : ProgramId}
    {policy : GatePolicy} (call : ClaimCall) {gate : Account} (h : HoldsPolicy policy gate) :
    HoldsPolicy policy (executeClaim P G programId call gate).2 := by
  obtain ⟨held, hdata, hpolicy⟩ := h
  rcases executeClaim_cases P G programId call gate with
    ⟨output, state, claimNumber, hexec, haccepted⟩ | ⟨-, hsame⟩
  · have hstate := haccepted.state_eq hdata
    subst hstate
    rw [hexec, haccepted.gate_eq]
    exact ⟨_, rfl, by rw [claimResult_policy, hpolicy]⟩
  · rw [hsame]
    exact ⟨held, hdata, hpolicy⟩

/-- Every account that a run reaches keeps the policy. -/
theorem final_holdsPolicy {P : Primitives} {G : GuestRuntime} {programId : ProgramId}
    {policy : GatePolicy} {gate : Account} (h : HoldsPolicy policy gate)
    (calls : List ClaimCall) :
    HoldsPolicy policy (Mutating.final (executeClaim P G programId) calls gate) :=
  Mutating.run_induction (executeClaim P G programId) (motive := fun _ s => HoldsPolicy policy s)
    h (fun _ _ call hs => executeClaim_holdsPolicy call hs) calls

end TokenStudio
