import TokenStudio.BalanceGate.Completeness

/-!
# Setting up a gate on the chain

The part of the crate `lez-gate-sdk` that builds the transaction for `initialize`,
and the step of the command line before it, which makes the state of a gate from
its configuration.

The operator's state goes through the instruction: the builder writes its fields
into it, and the guest makes a state from them again.  The instruction has no
optional expiry, so that none is written as zero, and it has no counter.
`initialize_stores_state_iff` says for which states the account holds the
operator's state in the end.  The exceptions are the states with the expiry zero
and the states with a counter.  The builder accepts both.

Keys, account ids, transaction messages and signatures are code of other crates.
They are the argument `L : LezCrate`.
-/

namespace TokenStudio

/-- The message of an `initialize` transaction. -/
structure InitializeMessage where
  programId : ProgramId
  accountIds : List Digest32
  nonces : List U128
  instruction : InitializeInputs
  deriving DecidableEq

/-- The part of the crate `lee` that the builder uses. -/
structure LezCrate where
  PrivateKey : Type
  WitnessSet : Type
  /-- `AccountId::from(&PublicKey::new_from_private_key(private_key))`. -/
  signerAccountId : PrivateKey → Digest32
  /-- `Message::try_new`, which serializes the instruction. -/
  tryNew : InitializeMessage → Except String Unit
  /-- `WitnessSet::for_message`. -/
  forMessage : InitializeMessage → PrivateKey → WitnessSet
  /-- `BALANCE_GATE_ID`, which the build generates. -/
  balanceGateId : ProgramId

/-- `LezGateError`, as far as the builder raises it. -/
inductive LezGateError where
  | transaction (message : String)
  | wrongSigner (expected actual : Digest32)
  deriving DecidableEq

structure PublicTransaction (L : LezCrate) where
  message : InitializeMessage
  witnessSet : L.WitnessSet

/-- `ensure_signer`. -/
def ensureSigner (L : LezCrate) (expected : Digest32) (privateKey : L.PrivateKey) :
    Outcome LezGateError Unit :=
  let actual := L.signerAccountId privateKey
  Outcome.check (actual ≠ expected) (.wrongSigner expected actual)

/-- The `GateInstruction::Initialize` that is built from a state. -/
def initializeInstruction (state : GateState) : InitializeInputs where
  contextHash := state.contextHash
  tokenProgramOwner := state.tokenProgramOwner
  tokenDefinitionId := state.tokenDefinitionId
  threshold := state.threshold
  commitmentRoot := state.commitmentRoot
  expiresAtUnixMs := state.expiresAtUnixMs.getD 0
  maxProofAgeMs := state.maxProofAgeMs
  challengeNonce := state.challengeNonce

/-- `gate_initialization_transaction`. -/
def gateInitializationTransaction (L : LezCrate) (state : GateState) (gateAccountId : Digest32)
    (gateNonce : U128) (gatePrivateKey : L.PrivateKey) :
    Outcome LezGateError (PublicTransaction L) := do
  ensureSigner L gateAccountId gatePrivateKey
  state.validate.mapErr fun error => .transaction error.message
  let message : InitializeMessage :=
    { programId := L.balanceGateId
      accountIds := [gateAccountId]
      nonces := [gateNonce]
      instruction := initializeInstruction state }
  Outcome.ofExcept LezGateError.transaction (L.tryNew message)
  pure { message, witnessSet := L.forMessage message gatePrivateKey }

/-- `initialize_on_chain_state`, on the contents of the gate file.  Reading the file
validates the gate. -/
def initializeOnChainState (P : Primitives) (gate : GateConfig)
    (commitmentRoot challengeNonce : Digest32) (maxProofAgeMs : UInt64) :
    Outcome String GateState := do
  gate.validate.mapErr ConfigError.toText
  let state ← (Outcome.ofOption (GateState.newWithMaxProofAge P.sha256 gate.context
    commitmentRoot challengeNonce maxProofAgeMs) : Outcome String GateState)
  state.validate.mapErr ClaimError.message
  pure state

/-! ## What the account holds -/

/-- The state that the guest makes from the instruction of a state. -/
theorem initializeInstruction_state {state : GateState} (h : state.validate = .ok ()) :
    (initializeInstruction state).state =
      { state with
        expiresAtUnixMs := if state.expiresAtUnixMs = some 0 then none else state.expiresAtUnixMs
        claimCounter := 0 } := by
  have hversion := (GateState.validate_eq_ok.mp h).1
  have hexpiry : (if state.expiresAtUnixMs.getD 0 ≠ 0 then some (state.expiresAtUnixMs.getD 0)
      else none) =
        if state.expiresAtUnixMs = some 0 then none else state.expiresAtUnixMs := by
    cases state.expiresAtUnixMs with
    | none => simp
    | some expiry => by_cases hzero : expiry = 0 <;> simp [hzero]
  unfold initializeInstruction InitializeInputs.state GateState.fromPublicInputs
  simp only [hexpiry, hversion]

/-- The guest's state is the operator's exactly when it has no expiry zero and no
counter. -/
theorem initializeInstruction_state_eq_iff {state : GateState} (h : state.validate = .ok ()) :
    (initializeInstruction state).state = state ↔
      state.expiresAtUnixMs ≠ some 0 ∧ state.claimCounter = 0 := by
  rw [initializeInstruction_state h]
  constructor
  · intro heq
    have hexpiry := congrArg GateState.expiresAtUnixMs heq
    have hcounter := congrArg GateState.claimCounter heq
    refine ⟨?_, hcounter.symm⟩
    intro hzero
    simp [hzero] at hexpiry
  · rintro ⟨hexpiry, hcounter⟩
    rw [if_neg hexpiry, ← hcounter]

/-- `initialize` with an instruction leaves an account whose data decodes to a
state. -/
def Stores (G : GuestRuntime) (gate : Account) (instruction : InitializeInputs)
    (state : GateState) : Prop :=
  ∃ gate', initializeGate G gate instruction = .ok gate' ∧
    decodeGateState gate'.data = some state

/-- The guest accepts the instruction of a valid state, and stores what it makes
of it. -/
theorem stores_iff {G : GuestRuntime} (hdata : 203 ≤ G.dataMaxLength) (gate : Account)
    {state stored : GateState} (h : state.validate = .ok ()) :
    Stores G gate (initializeInstruction state) stored ↔
      (initializeInstruction state).state = stored := by
  have hvalid : (initializeInstruction state).state.validate = .ok () := by
    rw [initializeInstruction_state h]
    exact GateState.validate_eq_ok.mpr (GateState.validate_eq_ok.mp h)
  have hsize := encodeGateState_length_le (initializeInstruction state).state
  have hinit : initializeGate G gate (initializeInstruction state) =
      .ok (gate.withData (encodeGateState (initializeInstruction state).state)) := by
    have hle : ¬ (encodeGateState (initializeInstruction state).state).length >
        G.dataMaxLength := by omega
    simp [initializeGate, hvalid, GuestRuntime.toData, hle]
  unfold Stores
  rw [hinit]
  constructor
  · rintro ⟨gate', hgate, hdecode⟩
    obtain rfl := Outcome.ok.inj hgate
    exact Option.some.inj ((decodeGateState_encodeGateState _).symm.trans hdecode)
  · intro heq
    refine ⟨_, rfl, ?_⟩
    rw [← heq]
    exact decodeGateState_encodeGateState _

/-- What an accepted transaction carries. -/
theorem gateInitializationTransaction_eq_ok {L : LezCrate} {state : GateState}
    {gateAccountId : Digest32} {gateNonce : U128} {gatePrivateKey : L.PrivateKey}
    {tx : PublicTransaction L}
    (h : gateInitializationTransaction L state gateAccountId gateNonce gatePrivateKey = .ok tx) :
    state.validate = .ok () ∧ tx.message.instruction = initializeInstruction state := by
  simp only [gateInitializationTransaction, Outcome.bind_eq_ok, Outcome.mapErr_eq_ok,
    Outcome.exists_unit, Outcome.ofExcept_eq_ok, Outcome.pure_eq, Outcome.ok.injEq] at h
  obtain ⟨-, hvalid, -, rfl⟩ := h
  exact ⟨hvalid, rfl⟩

/-- What `initialize_on_chain_state` writes. -/
theorem initializeOnChainState_eq_ok {P : Primitives} {gate : GateConfig}
    {root nonce : Digest32} {age : UInt64} {state : GateState}
    (h : initializeOnChainState P gate root nonce age = .ok state) :
    gate.context.contextHash P.sha256 = some state.contextHash ∧
      state.expiresAtUnixMs = gate.context.expiresAtUnixMs ∧ state.claimCounter = 0 := by
  simp only [initializeOnChainState, Outcome.bind_eq_ok, Outcome.mapErr_eq_ok,
    Outcome.exists_unit, Outcome.ofOption_eq_ok, Outcome.pure_eq, Outcome.ok.injEq] at h
  obtain ⟨-, state', hnew, -, rfl⟩ := h
  obtain ⟨hhash, hstate⟩ := GateState.newWithMaxProofAge_eq_some.mp hnew
  rw [hstate]
  exact ⟨hhash, rfl, rfl⟩

/-! ## When the operator's state is stored -/

/-- The stored state describes the gate of a context: it has the hash of the
context and its expiry. -/
def Describes (sha256 : Bytes → Digest32) (context : GateContext) (stored : GateState) : Prop :=
  context.contextHash sha256 = some stored.contextHash ∧
    context.expiresAtUnixMs = stored.expiresAtUnixMs

/-- `initialize` stores the state of an accepted transaction exactly when the state
has no expiry zero and no counter.  For a state made from a gate configuration this
is an expiry of the gate other than zero, and otherwise the stored state does not
describe the gate. -/
theorem initialize_stores_state_iff {L : LezCrate} {G : GuestRuntime}
    (hdata : 203 ≤ G.dataMaxLength) (account : Account) {state : GateState}
    {gateAccountId : Digest32} {gateNonce : U128} {gatePrivateKey : L.PrivateKey}
    {tx : PublicTransaction L}
    (htx : gateInitializationTransaction L state gateAccountId gateNonce gatePrivateKey =
      .ok tx) :
    (Stores G account tx.message.instruction state ↔
      state.expiresAtUnixMs ≠ some 0 ∧ state.claimCounter = 0) ∧
    ∀ (P : Primitives) (gate : GateConfig) (root nonce : Digest32) (maxProofAgeMs : UInt64),
      initializeOnChainState P gate root nonce maxProofAgeMs = .ok state →
      (Stores G account tx.message.instruction state ↔
        gate.context.expiresAtUnixMs ≠ some 0) ∧
      ((∃ stored, Stores G account tx.message.instruction stored ∧
          Describes P.sha256 gate.context stored) ↔
        gate.context.expiresAtUnixMs ≠ some 0) := by
  obtain ⟨hvalid, hinstruction⟩ := gateInitializationTransaction_eq_ok htx
  have hstores : Stores G account tx.message.instruction state ↔
      state.expiresAtUnixMs ≠ some 0 ∧ state.claimCounter = 0 := by
    rw [hinstruction, stores_iff hdata account hvalid]
    exact initializeInstruction_state_eq_iff hvalid
  refine ⟨hstores, ?_⟩
  intro P gate root nonce maxProofAgeMs hstate
  obtain ⟨hhash, hexpiry, hcounter⟩ := initializeOnChainState_eq_ok hstate
  rw [hexpiry] at hstores
  refine ⟨hstores.trans (and_iff_left hcounter), ?_⟩
  constructor
  · rintro ⟨stored, hstored, -, hdescribes⟩ hzero
    rw [hinstruction, stores_iff hdata account hvalid, initializeInstruction_state hvalid]
      at hstored
    rw [← hstored, hexpiry, hzero] at hdescribes
    simp at hdescribes
  · intro hne
    exact ⟨state, hstores.mpr ⟨hne, hcounter⟩, hhash, hexpiry.symm⟩

/-- An operator with one key. -/
def foundersLez : LezCrate where
  PrivateKey := Unit
  WitnessSet := Unit
  signerAccountId _ := List.Vector.replicate 32 1
  tryNew _ := .ok ()
  forMessage _ _ := ()
  balanceGateId := foundersProgramId

theorem gateInitializationTransaction_founders {state : GateState}
    (h : state.validate = .ok ()) :
    gateInitializationTransaction foundersLez state (List.Vector.replicate 32 1) 7 () =
      .ok ⟨⟨foundersProgramId, [List.Vector.replicate 32 1], [7], initializeInstruction state⟩,
        ()⟩ := by
  simp [gateInitializationTransaction, ensureSigner, foundersLez, h, Outcome.ofExcept]

theorem initialize_stores_state_founders :
    Stores foundersRuntime ⟨List.Vector.replicate 32 1, []⟩
      (initializeInstruction foundersInputs.state) foundersInputs.state := by
  have hvalid := (initializeGate_eq_ok initializeGate_founders).1
  exact (initialize_stores_state_iff (by decide) _
    (gateInitializationTransaction_founders hvalid)).1.mpr (by decide)

/-- The gate of the tests with the expiry zero, in the year 1970. -/
def expiredGate : GateConfig :=
  { foundersGate with context := { foundersGate.context with expiresAtUnixMs := some 0 } }

/-- Its state, with the hash of its context. -/
def expiredState (contextHash : Digest32) : GateState :=
  .fromPublicInputs contextHash expiredGate.context.tokenProgramOwner
    expiredGate.context.tokenDefinitionId expiredGate.context.threshold foundersRoot (some 0)
    defaultOnChainProofAgeMs (List.Vector.replicate 32 5)

/-- The gate is valid, the state is made from it and accepted, and the account holds
another state. -/
theorem initialize_loses_expiry_zero :
    ∃ state, initializeOnChainState foundersPrimitives expiredGate foundersRoot
        (List.Vector.replicate 32 5) defaultOnChainProofAgeMs = .ok state ∧
      ∃ tx, gateInitializationTransaction foundersLez state (List.Vector.replicate 32 1) 7 () =
          .ok tx ∧
        ¬ Stores foundersRuntime ⟨List.Vector.replicate 32 1, []⟩ tx.message.instruction state := by
  have hgate : expiredGate.validate = .ok () := by decide +kernel
  obtain ⟨contextHash, hhash⟩ := GateConfig.exists_contextHash sha256 hgate
  have hvalid : (expiredState contextHash).validate = .ok () := by
    have hfounders := GateState.validate_eq_ok.mp (initializeGate_eq_ok initializeGate_founders).1
    exact GateState.validate_eq_ok.mpr hfounders
  refine ⟨expiredState contextHash, ?_, _, gateInitializationTransaction_founders hvalid, ?_⟩
  · have hnew : GateState.newWithMaxProofAge foundersPrimitives.sha256 expiredGate.context
        foundersRoot (List.Vector.replicate 32 5) defaultOnChainProofAgeMs =
          some (expiredState contextHash) :=
      GateState.newWithMaxProofAge_eq_some.mpr ⟨hhash, rfl⟩
    unfold initializeOnChainState
    rw [hgate, hnew]
    simp [hvalid]
  · rw [stores_iff (by decide) _ hvalid, initializeInstruction_state_eq_iff hvalid]
    rintro ⟨hexpiry, -⟩
    exact hexpiry rfl

end TokenStudio
