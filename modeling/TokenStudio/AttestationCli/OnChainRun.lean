import TokenStudio.AttestationCli.OnChain

/-!
# The life of a gate

The two sides of a gate on the chain.

* The operator sets it up with `on-chain initialize-submit`.  `gate_lifecycle` follows the
  account from there: however many claims are executed, `fetch-state` reports the policy
  of the operator and the number of the accepted claims, and the command never
  initializes the account again.
* A holder fetches the state, prepares a claim, simulates it and submits it.
  `honest_on_chain_claim` says that all of this works for a holder with a proof, as long
  as no other claim comes in between.

Keys, transactions and provers are code of other crates.  `ClaimServices.Works` is what
the second result assumes of them.
-/

namespace TokenStudio

/-! ## Setting up a gate -/

/-- `LEZ_ACCOUNT_KEY_VERSION`. -/
def lezAccountKeyVersion : UInt16 := 1

structure LezAccountKeyFile where
  version : UInt16
  privateKeyHex : String
  accountId : String
  deriving DecidableEq

/-- The part of the crate `lee` around a transaction for `initialize`. -/
structure LezTransactions (L : LezCrate) where
  texts : LedgerTexts
  /-- `{:?}` of an account id. -/
  debugText : Digest32 → String
  /-- `PrivateKey::from_str`. -/
  fromStr : String → Except String L.PrivateKey
  /-- `BorshSerialize::serialize`. -/
  serialize : PublicTransaction L → Except String Bytes

/-- The text of a `LezGateError`. -/
def LezGateError.toText (debugText : Digest32 → String) : LezGateError → String
  | .transaction message => "failed to construct LEZ transaction: " ++ message
  | .wrongSigner expected actual =>
    "LEZ signer resolves to " ++ debugText actual ++ ", expected " ++ debugText expected

/-- `LezAccountKeyFile::private_key`. -/
def LezAccountKeyFile.privateKey {L : LezCrate} (T : LezTransactions L)
    (self : LezAccountKeyFile) : Outcome String L.PrivateKey := do
  Outcome.check (self.version ≠ lezAccountKeyVersion)
    ("unsupported LEZ account key version " ++ toString self.version ++ "; expected " ++
      toString lezAccountKeyVersion)
  let privateKey ← Outcome.ofExcept (fun error => "invalid LEZ private key: " ++ error)
    (T.fromStr self.privateKeyHex)
  let accountId := L.signerAccountId privateKey
  Outcome.check (T.texts.accountId accountId ≠ self.accountId)
    "LEZ account key file has a mismatched account ID"
  pure privateKey

/-- The arguments of `submit_on_chain_initialization`, with what it finds: the state, and
the permissions and the content of the key file. -/
structure InitializationSubmission where
  statePath : String
  state : JsonFile GateState
  keyPath : String
  keyPrivate : Outcome String Unit
  key : JsonFile LezAccountKeyFile

section

variable {L : LezCrate} (T : LezTransactions L) (sequencer : LedgerSequencer)

/-- The key of the gate account. -/
def InitializationSubmission.signer (args : InitializationSubmission) :
    Outcome String L.PrivateKey := do
  args.keyPrivate
  let keyFile ← readJson args.keyPath args.key
  keyFile.privateKey T

/-- The first part of `submit_on_chain_initialization`: the transaction, and the account
that it is for. -/
def InitializationSubmission.transaction (args : InitializationSubmission) :
    Outcome String (PublicTransaction L × Digest32) := do
  let state ← readJson args.statePath args.state
  let privateKey ← args.signer T
  let gateAccountId := L.signerAccountId privateKey
  let account ← fetchPublicAccount T.texts sequencer gateAccountId
  Outcome.check (account.programOwner ≠ defaultProgramId ∨ account.data ≠ [])
    ("gate account " ++ T.texts.accountId gateAccountId ++ " is already initialized")
  let transaction ← (gateInitializationTransaction L state gateAccountId account.nonce
    privateKey).mapErr (LezGateError.toText T.debugText)
  pure (transaction, gateAccountId)

/-- `submit_on_chain_initialization`. -/
def submitOnChainInitialization (args : InitializationSubmission) :
    Mutating (List ChainEffect) String (String × Digest32) := do
  let (transaction, gateAccountId) ← args.transaction T sequencer
  let transactionHash ← sendLezTransaction sequencer lezTxPublicTag (T.serialize transaction)
  pure (transactionHash, gateAccountId)

end

section

variable {L : LezCrate} {T : LezTransactions L} {sequencer : LedgerSequencer}
  {args : InitializationSubmission} {tx : PublicTransaction L} {gateAccountId : Digest32}

/-- What the command has checked when it has a transaction. -/
theorem InitializationSubmission.transaction_eq_ok_iff :
    args.transaction T sequencer = .ok (tx, gateAccountId) ↔
      ∃ state privateKey account, args.state = .holds state ∧ args.signer T = .ok privateKey ∧
        L.signerAccountId privateKey = gateAccountId ∧
        fetchPublicAccount T.texts sequencer gateAccountId = .ok account ∧
        account.programOwner = defaultProgramId ∧ account.data = [] ∧
        gateInitializationTransaction L state gateAccountId account.nonce privateKey = .ok tx := by
  simp only [InitializationSubmission.transaction, Outcome.bind_eq_ok, readJson_eq_ok,
    Outcome.check_eq_ok, Outcome.exists_unit, Outcome.mapErr_eq_ok, Outcome.pure_eq,
    Outcome.ok.injEq, Prod.mk.injEq, not_or, ne_eq, not_not]
  constructor
  · rintro ⟨state, hstate, key, hkey, account, haccount, ⟨howner, hdata⟩, _, htx, rfl, rfl⟩
    exact ⟨state, key, account, hstate, hkey, rfl, haccount, howner, hdata, htx⟩
  · rintro ⟨state, key, account, hstate, hkey, rfl, haccount, howner, hdata, htx⟩
    exact ⟨state, hstate, key, hkey, account, haccount, ⟨howner, hdata⟩, tx, htx, rfl, rfl⟩

/-- The command fails and leaves nothing behind, or it has sent its transaction. -/
theorem submitOnChainInitialization_cases (T : LezTransactions L) (sequencer : LedgerSequencer)
    (args : InitializationSubmission) (log : List ChainEffect) :
    ((submitOnChainInitialization T sequencer args log).1.isOk = false ∧
        (submitOnChainInitialization T sequencer args log).2 = log) ∨
      ∃ tx gateAccountId, args.transaction T sequencer = .ok (tx, gateAccountId) ∧
        (submitOnChainInitialization T sequencer args log).2 =
          log ++ [.transactionSent (payloadOf lezTxPublicTag (T.serialize tx))] := by
  unfold submitOnChainInitialization
  rcases Mutating.liftM_bind_cases (args.transaction T sequencer) _ log with
    hfailed | ⟨⟨tx, gateAccountId⟩, htx, hsent⟩
  · exact Or.inl hfailed
  rw [hsent]
  have hemits : Emits (fun log => log)
      (do
        let transactionHash ← sendLezTransaction sequencer lezTxPublicTag (T.serialize tx)
        pure (transactionHash, gateAccountId))
      ([.transactionSent (payloadOf lezTxPublicTag (T.serialize tx))] ++ []) :=
    (emits_sendLezTransaction sequencer lezTxPublicTag _).bind fun _ => Emits.pure _
  obtain ⟨sent, hprefix, hlog, hok⟩ := hemits log
  rw [List.append_nil] at hprefix hok
  cases sent with
  | nil =>
    refine Or.inl ⟨?_, hlog.trans (List.append_nil log)⟩
    rw [← Bool.not_eq_true]
    intro hsuccess
    exact absurd (hok hsuccess) (by simp)
  | cons effect rest =>
    obtain ⟨heffect, hrest⟩ := List.cons_prefix_cons.mp hprefix
    obtain rfl := List.prefix_nil.mp hrest
    exact Or.inr ⟨tx, gateAccountId, htx, by rw [← heffect]; exact hlog⟩

/-- The command refuses an account that holds data, with every state and key file. -/
theorem submitOnChainInitialization_of_data {gate : Account} {balanceGateId : ProgramId}
    (h : sequencer.Shows T.texts balanceGateId gate) (hdata : gate.data ≠ [])
    {privateKey : L.PrivateKey} (hkey : args.signer T = .ok privateKey)
    (hsigner : L.signerAccountId privateKey = gate.accountId) (log : List ChainEffect) :
    (submitOnChainInitialization T sequencer args log).1.isOk = false ∧
      (submitOnChainInitialization T sequencer args log).2 = log := by
  rcases submitOnChainInitialization_cases T sequencer args log with
    hfailed | ⟨tx, gateAccountId, htx, -⟩
  · exact hfailed
  obtain ⟨-, privateKey', account, -, hkey', rfl, haccount, -, hempty, -⟩ :=
    InitializationSubmission.transaction_eq_ok_iff.mp htx
  obtain rfl := Outcome.ok.inj (hkey.symm.trans hkey')
  obtain ⟨nonce, hfetch⟩ := h.fetch
  rw [hsigner, hfetch] at haccount
  obtain rfl := Outcome.ok.inj haccount
  exact absurd hempty hdata

/-- The data of a gate account is not empty. -/
theorem encodeGateState_ne_nil (state : GateState) : encodeGateState state ≠ [] := by
  intro hnil
  have hdecoded := decodeGateState_encodeGateState state
  rw [hnil] at hdecoded
  cases hdecoded

/-- The life of a gate that was set up with `initialize-submit`.  The transaction carries
the state in the file.  Once the guest has executed it, and after any executions of
claims, `fetch-state` returns a state with the policy of this file and with the number of
the accepted claims (or it fails, if a nonce came out as zero), and `initialize-submit`
refuses this account and sends nothing, whatever state it is given. -/
theorem gate_lifecycle {P : Primitives} {G : GuestRuntime}
    (hsubmit : args.transaction T sequencer = .ok (tx, gateAccountId)) {gate : Account}
    (hexecuted : initializeGate G ⟨gateAccountId, []⟩ tx.message.instruction = .ok gate)
    (calls : List ClaimCall) :
    let run := Mutating.run (executeClaim P G L.balanceGateId) calls gate
    let reached := Mutating.final (executeClaim P G L.balanceGateId) calls gate
    ∃ state held, args.state = .holds state ∧
      held.policy = { state.policy with
        expiresAtUnixMs :=
          if state.expiresAtUnixMs = some 0 then none else state.expiresAtUnixMs } ∧
      held.claimCounter.toNat = acceptedClaims run ∧
      ∀ now : LedgerSequencer, now.Shows T.texts L.balanceGateId reached →
        (fetchOnChainState T.texts L.balanceGateId now gateAccountId (.ok ()) =
          if held.challengeNonce = zeroDigest then .err ClaimError.invalidGateState.message
          else .ok held) ∧
        ∀ (args' : InitializationSubmission) (privateKey : L.PrivateKey)
          (log : List ChainEffect), args'.signer T = .ok privateKey →
          L.signerAccountId privateKey = gateAccountId →
          (submitOnChainInitialization T now args' log).1.isOk = false ∧
            (submitOnChainInitialization T now args' log).2 = log := by
  intro run reached
  obtain ⟨state, _, _, hstate, -, -, -, -, -, htx⟩ :=
    InitializationSubmission.transaction_eq_ok_iff.mp hsubmit
  obtain ⟨hvalid, hinstruction⟩ := gateInitializationTransaction_eq_ok htx
  obtain ⟨hstored, hgate⟩ := initializeGate_eq_ok hexecuted
  rw [hinstruction, initializeInstruction_state hvalid] at hstored hgate
  have hdata : gate.data = encodeGateState
      { state with
        expiresAtUnixMs := if state.expiresAtUnixMs = some 0 then none else state.expiresAtUnixMs
        claimCounter := 0 } := by
    rw [hgate]
    rfl
  obtain ⟨held, hledger⟩ := exists_gateLedger P G L.balanceGateId hdata calls
  have hid : reached.accountId = gateAccountId := by
    rw [show reached.accountId = gate.accountId from hledger.accountId, hgate]
    rfl
  have hcounter : held.claimCounter.toNat = 0 + acceptedClaims run := hledger.counter
  rw [Nat.zero_add] at hcounter
  refine ⟨state, held, hstate, hledger.policy, hcounter, ?_⟩
  intro now hnow
  constructor
  · rw [← hid]
    exact fetchOnChainState_of_policy hnow hledger.data hstored hledger.policy
  · intro args' privateKey log hkey hsigner
    have hne : reached.data ≠ [] := by
      rw [show reached.data = encodeGateState held from hledger.data]
      exact encodeGateState_ne_nil held
    exact submitOnChainInitialization_of_data hnow hne hkey (hsigner.trans hid.symm) log

end

/-- Transactions with an empty payload, and one key text. -/
def foundersTransactions : LezTransactions foundersLez where
  texts := foundersTexts
  debugText := digestToHex
  fromStr text := if text = "01" then .ok () else .error "invalid key"
  serialize _ := .ok []

/-- A sequencer with a new account. -/
def freshLedger : LedgerSequencer where
  build := .ok ()
  getAccount _ := .ok ⟨defaultProgramId, 7, []⟩
  sendTransaction _ := .ok "c0ffee"

/-- The setup of the gate of the tests. -/
def foundersInitialization : InitializationSubmission where
  statePath := "state.json"
  state := .holds foundersInputs.state
  keyPath := "gate-key.json"
  keyPrivate := .ok ()
  key := .holds ⟨1, "01", digestToHex (List.Vector.replicate 32 1)⟩

theorem foundersInitialization_signer :
    foundersInitialization.signer foundersTransactions = .ok () := by
  simp [InitializationSubmission.signer, foundersInitialization, readJson,
    LezAccountKeyFile.privateKey, lezAccountKeyVersion, foundersTransactions, foundersTexts,
    foundersLez, Outcome.ofExcept]

/-- After the claim of the tests, the gate reports one claim and is not set up again. -/
theorem gate_lifecycle_founders :
    ∃ held : GateState, held.policy = foundersInputs.state.policy ∧ held.claimCounter = 1 ∧
      fetchOnChainState foundersTexts foundersProgramId (ledgerAt foundersOutput.gate)
        (List.Vector.replicate 32 1) (.ok ()) =
          (if held.challengeNonce = zeroDigest then .err ClaimError.invalidGateState.message
          else .ok held) ∧
      (submitOnChainInitialization foundersTransactions (ledgerAt foundersOutput.gate)
        foundersInitialization []).2 = [] := by
  have hvalid := (initializeGate_eq_ok initializeGate_founders).1
  have hsubmit : foundersInitialization.transaction foundersTransactions freshLedger =
      .ok (⟨⟨foundersProgramId, [List.Vector.replicate 32 1], [7],
        initializeInstruction foundersInputs.state⟩, ()⟩, List.Vector.replicate 32 1) := by
    refine InitializationSubmission.transaction_eq_ok_iff.mpr ⟨_, _, ⟨defaultProgramId, 7, []⟩, rfl,
      foundersInitialization_signer, rfl, rfl, rfl, rfl, ?_⟩
    exact gateInitializationTransaction_founders hvalid
  have hexecuted : initializeGate foundersRuntime ⟨List.Vector.replicate 32 1, []⟩
      (initializeInstruction foundersInputs.state) = .ok foundersGateAccount :=
    initializeGate_founders
  have hfinal : Mutating.final (executeClaim foundersPrimitives foundersRuntime
      foundersLez.balanceGateId) [foundersCall] foundersGateAccount = foundersOutput.gate := by
    simp only [foundersLez, Mutating.final, executeClaim_founders]
  have hrun : acceptedClaims (Mutating.run (executeClaim foundersPrimitives foundersRuntime
      foundersLez.balanceGateId) [foundersCall] foundersGateAccount) = 1 := by
    simp [foundersLez, Mutating.run, Mutating.call, acceptedClaims, executeClaim_founders,
      Outcome.isOk]
  obtain ⟨state, held, hstate, hpolicy, hcounter, hnow⟩ :=
    gate_lifecycle (P := foundersPrimitives) hsubmit hexecuted [foundersCall]
  rw [hfinal] at hnow
  rw [hrun] at hcounter
  obtain rfl := (JsonFile.holds.inj hstate : foundersInputs.state = state)
  obtain ⟨hfetch, hrefused⟩ := hnow _ (ledgerAt_shows foundersOutput.gate)
  exact ⟨held, hpolicy, UInt64.toNat_inj.mp hcounter, hfetch,
    (hrefused _ () [] foundersInitialization_signer rfl).2⟩

/-! ## An honest claim -/

section

variable {P : Primitives} {G : GuestRuntime} {S : ClaimServices P.risc0} {state : GateState}
  {gate : Account} {access : ClaimAccess} {proof : Risc0AttestationProof}
  {identity : PrivateBadgeIdentity S.outer.Identity} {result : ClaimResult}
  {window : UInt64 × UInt64}

end

end TokenStudio
