import TokenStudio.AttestationProver.Basic
import TokenStudio.AttestationVerifier.Completeness

/-!
# Live proofs

The path of a live proof comes from a sequencer, and so does the root that a verifier pins
in its challenges (`sequencer-root`).

* `runProve_sound`.  The sequencer may answer anything.  A proof that can be presented
  for the root of a tree over a list of accounts is one of an account of this list,
  above the threshold.  A lying sequencer can prevent a proof, or lead to a proof for
  another root, which no challenge for the true root accepts.
* `live_proof_accepted`.  Sequencers that serve one tree lead to success: the verifier
  gets the root of the tree, a holder of the list gets a proof for it, through the current
  method or the legacy one, and the verifier accepts its presentation.
-/

namespace TokenStudio

/-! ## Any sequencer -/

section

variable {P : Primitives} {gate : GateConfig} {account : LezAccount}
  {presenterPublicKey : PublicKey32} {issuedAtUnixMs : UInt64} {proof : Risc0AttestationProof}
  {witness : BalanceAttestationWitness}

/-- The account of a proof has the token of the gate, at or above the threshold. -/
def HoldsToken (gate : GateConfig) (account : LezAccount) : Prop :=
  account.programOwner = gate.context.tokenProgramOwner ∧
    ∃ balance : U128, gate.context.threshold ≤ balance ∧
      account.data = (FungibleTokenHolding.mk gate.context.tokenDefinitionId balance).encode

theorem ProofFor.holdsToken (h : ProofFor P.sha256 P.risc0 gate account presenterPublicKey
    issuedAtUnixMs proof witness) : HoldsToken gate account := by
  obtain ⟨hattests, -⟩ := evaluate_eq_ok_iff.mp h.evaluated
  have howner := hattests.owner
  have hholding := hattests.holding
  rw [h.context, h.proves] at howner hholding
  exact ⟨howner, hholding⟩

/-- The journal of a proof names the presenter, the time and the root of its witness. -/
theorem ProofFor.journal (h : ProofFor P.sha256 P.risc0 gate account presenterPublicKey
    issuedAtUnixMs proof witness) :
    gate.contextHash P.sha256 = some proof.journal.contextHash ∧
      proof.journal.commitmentRoot = witness.commitmentRoot ∧
      proof.journal.presenterPublicKey = presenterPublicKey ∧
      proof.journal.issuedAtUnixMs = issuedAtUnixMs := by
  obtain ⟨-, hnew⟩ := evaluate_eq_ok_iff.mp h.evaluated
  obtain ⟨hcontext, -, -, -, hroot, hkey, htime, -⟩ := AttestationJournal.new_eq_some hnew
  rw [h.context] at hcontext
  exact ⟨hcontext, hroot, hkey.trans h.presenter, htime.trans h.issuedAt⟩

/-- The account of a proof for the root of a tree is in this tree. -/
theorem ProofFor.mem (h : ProofFor P.sha256 P.risc0 gate account presenterPublicKey
    issuedAtUnixMs proof witness) {d : Nat} {accounts : List LezAccount}
    (hlen : accounts.length = 2 ^ d)
    (hroot : proof.journal.commitmentRoot = commitmentTreeRoot P.sha256 accounts hlen)
    (hfree : CollisionFree P.sha256
      (commitmentTreeHashed P.sha256 accounts hlen ++ witness.hashed P.sha256)) :
    account ∈ accounts := by
  obtain ⟨hattests, -⟩ := evaluate_eq_ok_iff.mp h.evaluated
  have hmember := hattests.member
  rw [← h.journal.2.1, hroot] at hmember
  rw [← h.proves]
  refine mem_of_verifies hlen (hfree.mono ?_) hmember
  intro m hm
  simp only [BalanceAttestationWitness.hashed, List.mem_append] at hm ⊢
  rcases hm with hm | hm
  · exact Or.inl hm
  · exact Or.inr (Or.inr hm)

end

/-- What `present` has compared when it returns an envelope. -/
theorem present_eq_ok {P : Primitives} {proof : Risc0AttestationProof}
    {challenge : VerificationChallenge} {signingKey : P.ed25519.SigningKey}
    {transport : ProofTransport} {envelope : AttestationEnvelope}
    (h : present P proof challenge signingKey transport = .ok envelope) :
    proof.journal.presenterPublicKey = P.ed25519.publicKey signingKey ∧
      proof.journal.commitmentRoot = challenge.expectedCommitmentRoot ∧
      proof.journal.contextHash = challenge.gateContextHash := by
  simp only [present, Outcome.bind_eq_ok, Outcome.check_eq_ok, Outcome.exists_unit, ne_eq,
    not_not] at h
  exact ⟨h.1, h.2.1, h.2.2.1⟩

/-- A written proof can be relied on, whatever the sequencer has answered.  Proving was
real, the gate is valid, and the receipt is verified with its journal.  Behind the journal
stands the account of the command, with the token of the gate.  If the proof is presented
for a challenge that expects the root of a tree over a list of accounts, this account is
in the list, and the key that signs is the one the proof was made for. -/
theorem runProve_sound {P : Primitives} {prover : Risc0Prover P.risc0}
    (hround : prover.RoundTrips) {devMode : EnvVar} {args : ProveArgs}
    {proof : Risc0AttestationProof} (h : runProve P.sha256 prover devMode args = .ok proof) :
    (devMode = .notPresent ∨
        ∃ text, devMode = .value text ∧ normalizedMode text ∈ ["", "0", "false", "off"]) ∧
      ∃ gate account presenterPublicKey issuedAtUnixMs witness, args.gate = .holds gate ∧
        args.ProvesFor account ∧ HoldsToken gate account ∧
        digestFromHex args.presenterPublicKeyHex = .ok presenterPublicKey ∧
        ProofFor P.sha256 P.risc0 gate account presenterPublicKey issuedAtUnixMs proof witness ∧
        ∀ (d : Nat) (accounts : List LezAccount) (hlen : accounts.length = 2 ^ d)
          (challenge : VerificationChallenge) (signingKey : P.ed25519.SigningKey)
          (transport : ProofTransport) (envelope : AttestationEnvelope),
          CollisionFree P.sha256
            (commitmentTreeHashed P.sha256 accounts hlen ++ witness.hashed P.sha256) →
          challenge.expectedCommitmentRoot = commitmentTreeRoot P.sha256 accounts hlen →
          present P proof challenge signingKey transport = .ok envelope →
          account ∈ accounts ∧ gate.contextHash P.sha256 = some challenge.gateContextHash ∧
            P.ed25519.publicKey signingKey = presenterPublicKey := by
  obtain ⟨hmode, gate, account, key, time, witness, hgate, hfor, hkey, hproof⟩ :=
    runProve_eq_ok hround h
  refine ⟨devModeStatus_eq_disabled.mp hmode, gate, account, key, time, witness, hgate, hfor,
    hproof.holdsToken, hkey, hproof, ?_⟩
  intro d accounts hlen challenge signingKey transport envelope hfree hroot hpresent
  obtain ⟨hsigner, hjroot, hcontext⟩ := present_eq_ok hpresent
  obtain ⟨hhash, -, hpresenter, -⟩ := hproof.journal
  exact ⟨hproof.mem hlen (hjroot.trans hroot) hfree, hcontext ▸ hhash,
    hsigner.symm.trans hpresenter⟩

/-! ## A sequencer that serves a tree -/

/-- The path of the tree over a list of accounts at an index. -/
def servedPath (sha256 : Bytes → Digest32) {d : Nat} (accounts : List LezAccount)
    (h : accounts.length = 2 ^ d) (index : Nat) : MembershipProof where
  leafIndex := index
  siblings := (commitmentTree sha256 accounts h).siblings sha256 (fun c => c.digest.toList)
    nodeBytes index

/-- The path of a tree leads from the commitment of its account to the root. -/
theorem servedPath_computeRoot {sha256 : Bytes → Digest32} {d : Nat}
    {accounts : List LezAccount} (h : accounts.length = 2 ^ d) {index : Nat}
    {account : LezAccount} (hget : accounts[index]? = some account) :
    (servedPath sha256 accounts h index).computeRoot sha256 (account.commitment sha256) =
      commitmentTreeRoot sha256 accounts h := by
  have hindex : index < 2 ^ d := h ▸ (List.getElem?_eq_some_iff.mp hget).1
  have hleaf := (commitmentTree sha256 accounts h).getElem?_toList index
  rw [commitmentTree, PerfectTree.toList_ofList, Nat.mod_eq_of_lt hindex, List.getElem?_map, hget,
    Option.map_some, Option.some.injEq] at hleaf
  have hclimb := (climb_siblings sha256 (fun c : Commitment => c.digest.toList) nodeBytes
    (commitmentTree sha256 accounts h) index).1
  rw [commitmentTree, ← hleaf] at hclimb
  rw [MembershipProof.computeRoot_eq_climb]
  exact hclimb

/-- A sequencer that answers for every account of a list with its path in the tree over
the list, through the current method, or, if it has only this one, through the legacy
method. -/
structure Sequencer.Serves (sequencer : Sequencer) (sha256 : Bytes → Digest32) {d : Nat}
    (accounts : List LezAccount) (h : accounts.length = 2 ^ d) : Prop where
  build : sequencer.build = .ok ()
  answers : ∀ account ∈ accounts, ∃ index, accounts[index]? = some account ∧
    (sequencer.getProofsAndRoot [(account.commitment sha256).digest] =
        .ok ([some (index, (servedPath sha256 accounts h index).siblings)],
          commitmentTreeRoot sha256 accounts h) ∨
      (∃ error, sequencer.getProofsAndRoot [(account.commitment sha256).digest] =
          .error error) ∧
        sequencer.getProofForCommitment (account.commitment sha256).digest =
          .ok (some (index, (servedPath sha256 accounts h index).siblings)))

/-- Such a sequencer leads every account of the list to the root of the tree. -/
theorem fetchSequencerInput_of_serves {sha256 : Bytes → Digest32} {sequencer : Sequencer}
    {d : Nat} {accounts : List LezAccount} {hlen : accounts.length = 2 ^ d}
    (h : sequencer.Serves sha256 accounts hlen) {account : LezAccount}
    (hmem : account ∈ accounts) :
    ∃ index, fetchSequencerInput sha256 sequencer account =
      .ok ⟨account, servedPath sha256 accounts hlen index,
        commitmentTreeRoot sha256 accounts hlen⟩ ∧
      (servedPath sha256 accounts hlen index).verifies sha256 (account.commitment sha256)
        (commitmentTreeRoot sha256 accounts hlen) = true := by
  obtain ⟨index, hget, hanswer⟩ := h.answers account hmem
  have hroot : (servedPath sha256 accounts hlen index).computeRoot sha256
      (account.commitment sha256) = commitmentTreeRoot sha256 accounts hlen :=
    servedPath_computeRoot hlen hget
  have hverifies : (servedPath sha256 accounts hlen index).verifies sha256
      (account.commitment sha256) (commitmentTreeRoot sha256 accounts hlen) = true :=
    decide_eq_true hroot
  have hpath : sequencer.pathAndRoot sha256 (account.commitment sha256) =
      .ok (servedPath sha256 accounts hlen index, commitmentTreeRoot sha256 accounts hlen) := by
    rcases hanswer with hcurrent | ⟨⟨error, hcurrent⟩, hlegacy⟩
    · simp [Sequencer.pathAndRoot, hcurrent, servedPath]
    · -- the legacy method names no root, and the path reaches the one of the tree
      simp only [Sequencer.pathAndRoot, hcurrent, hlegacy, Outcome.ofExcept, Outcome.ok_bind,
        Outcome.okOr_some, Outcome.pure_eq]
      exact congrArg (fun root => Outcome.ok (servedPath sha256 accounts hlen index, root)) hroot
  refine ⟨index, ?_, hverifies⟩
  simp [fetchSequencerInput, h.build, hpath, ProverInputFile.validateMembership, hverifies,
    Outcome.ofExcept]

/-- The prover makes a verified receipt with the journal of every witness that satisfies
the statement. -/
def Risc0Prover.Complete {risc0 : Risc0} (prover : Risc0Prover risc0)
    (sha256 : Bytes → Digest32) : Prop :=
  ∀ witness journal, evaluate sha256 witness = .ok journal →
    ∃ builder env receipt bytes, prover.write witness = .ok builder ∧
      prover.build builder = .ok env ∧ prover.proveWithOpts env = .ok receipt ∧
      risc0.verify receipt risc0.balanceAttestationId = .ok () ∧
      risc0.decodeJournal receipt = .ok journal ∧ prover.serialize receipt = .ok bytes

/-- An account of the tree that holds the token is proved for, with the root of the
tree. -/
theorem proveLive_of_serves {P : Primitives} {prover : Risc0Prover P.risc0}
    (hround : prover.RoundTrips) (hcomplete : prover.Complete P.sha256) {devMode : EnvVar}
    (hmode : devModeStatus devMode = .ok .disabled) {gate : GateConfig}
    (hgate : gate.validate = .ok ()) {sequencer : Sequencer} {d : Nat}
    {accounts : List LezAccount} {hlen : accounts.length = 2 ^ d}
    (hserves : sequencer.Serves P.sha256 accounts hlen) {account : LezAccount}
    (hmem : account ∈ accounts) (hholds : HoldsToken gate account) {key : PublicKey32}
    (hkey : key ≠ zeroDigest) {time : UInt64}
    (htime : isAfter time gate.context.expiresAtUnixMs = false) :
    ∃ proof, proveLive P.sha256 prover devMode gate ⟨account⟩ sequencer key time = .ok proof ∧
      ∃ witness, witness.commitmentRoot = commitmentTreeRoot P.sha256 accounts hlen ∧
        ProofFor P.sha256 P.risc0 gate account key time proof witness := by
  obtain ⟨index, hfetch, hverifies⟩ := fetchSequencerInput_of_serves hserves hmem
  let request : ProofRequest :=
    { gate
      input := ⟨account, servedPath P.sha256 accounts hlen index,
        commitmentTreeRoot P.sha256 accounts hlen⟩
      presenterPublicKey := key
      issuedAtUnixMs := time }
  have hattests : Attests P.sha256 request.toWitness :=
    ⟨GateConfig.threshold_ne_zero hgate, hkey, htime, hholds.1, hholds.2, hverifies⟩
  obtain ⟨contextHash, hhash⟩ := GateConfig.exists_contextHash P.sha256 hgate
  have hnew : ∃ journal, AttestationJournal.new P.sha256 request.toWitness.gateContext
      request.toWitness.commitmentRoot request.toWitness.presenterPublicKey
      request.toWitness.issuedAtUnixMs = some journal := by
    rw [AttestationJournal.new,
      show request.toWitness.gateContext.contextHash P.sha256 = some contextHash from hhash]
    exact ⟨_, rfl⟩
  obtain ⟨journal, hnew⟩ := hnew
  have heval : evaluate P.sha256 request.toWitness = .ok journal :=
    evaluate_eq_ok_iff.mpr ⟨hattests, hnew⟩
  obtain ⟨builder, env, receipt, bytes, hwrite, hbuild, hprove, hverify, hdecode, hserialize⟩ :=
    hcomplete _ _ heval
  have hproved : prove P.sha256 prover devMode request.toWitness = .ok ⟨journal, bytes⟩ :=
    prove_eq_ok.mpr ⟨hmode, heval, builder, env, receipt, hwrite, hbuild, hprove, hverify, hdecode,
      hserialize⟩
  have hwitness : request.witness P.sha256 = .ok request.toWitness := by
    simp only [ProofRequest.witness]
    rw [show request.gate.validate = .ok () from hgate,
      show request.input.validateMembership P.sha256 = .ok () from
        ProverInputFile.validateMembership_eq_ok.mpr hverifies]
    rfl
  have hrequest : proveRequest P.sha256 prover devMode request = .ok ⟨journal, bytes⟩ := by
    rw [proveRequest, hwitness]
    exact hproved
  refine ⟨⟨journal, bytes⟩, ?_, request.toWitness, rfl, (proveRequest_eq_ok hround hrequest).2⟩
  rw [proveLive, hfetch]
  exact hrequest

/-- Live proofs are accepted.  Two sequencers serve the tree over a list of accounts, one to
the verifier and one to the holder.  The verifier gets the root of this tree.  The
holder, with an account of the list that has the token of the gate, gets a proof, and
for every challenge that the gate created for this root, bound to an admission or not, its
presentation is accepted at every time in the stated bounds, on every cache without the
digest of the challenge. -/
theorem live_proof_accepted {P : Primitives} {prover : Risc0Prover P.risc0}
    (hround : prover.RoundTrips) (hcomplete : prover.Complete P.sha256) {devMode : EnvVar}
    (hmode : devModeStatus devMode = .ok .disabled) {d : Nat} {accounts : List LezAccount}
    {hlen : accounts.length = 2 ^ d} {verifierSequencer holderSequencer : Sequencer}
    (hverifier : verifierSequencer.Serves P.sha256 accounts hlen)
    (hdefault : LezAccount.default ∈ accounts)
    (hholder : holderSequencer.Serves P.sha256 accounts hlen) {args : ProveArgs}
    {gate : GateConfig} (hfile : args.gate = .holds gate) (hgate : gate.validate = .ok ())
    {account : LezAccount} (hinput : args.input = none)
    (hsnapshot : args.accountSnapshot = some (.holds ⟨account⟩))
    (hurl : args.sequencerUrl = some holderSequencer) (hmem : account ∈ accounts)
    (hholds : HoldsToken gate account) {signingKey : P.ed25519.SigningKey}
    (hhex : digestFromHex args.presenterPublicKeyHex = .ok (P.ed25519.publicKey signingKey))
    (hkey : P.ed25519.publicKey signingKey ≠ zeroDigest) {clock : UInt64}
    (hclock : args.clock = .ok clock) {provedAt : UInt64}
    (hprovedAt : args.issuedAtUnixMs.getD clock = provedAt)
    (hexpiry : isAfter provedAt gate.context.expiresAtUnixMs = false)
    (houtput : args.output = .ok ()) :
    ∃ root proof, fetchSequencerCommitmentRoot P.sha256 verifierSequencer = .ok root ∧
      runProve P.sha256 prover devMode args = .ok proof ∧
      ∀ (createdAt ttlMs : UInt64) (nonce : Digest32) (created challenge : VerificationChallenge)
        (transport : ProofTransport),
        createChallenge P gate root gate.context.verifierId createdAt ttlMs nonce = .ok created →
        Handed P created challenge →
        (∀ message, presentationMessage P.sha256 challenge proof.receipt = some message →
          P.ed25519.SignsOwn signingKey message.toList) →
        ∃ envelope, present P proof challenge signingKey transport = .ok envelope ∧
          ∀ (nowUnixMs : UInt64) (cache : InMemoryReplayCache),
            createdAt.toNat ≤ nowUnixMs.toNat + 30000 →
            nowUnixMs.toNat ≤ createdAt.toNat + ttlMs.toNat →
            provedAt.toNat ≤ nowUnixMs.toNat + 30000 →
            nowUnixMs.toNat ≤ provedAt.toNat + 600000 →
            createdAt.toNat ≤ provedAt.toNat + 600000 →
            isAfter nowUnixMs gate.context.expiresAtUnixMs = false →
            (∀ digest, challenge.digest P.sha256 = some digest → digest ∉ cache.consumed) →
            (verify P
              { envelope, expectedChallenge := challenge, expectedGate := gate
                expectedVerifierId := gate.context.verifierId, nowUnixMs } cache).1.isOk := by
  obtain ⟨index, hfetch, -⟩ := fetchSequencerInput_of_serves hverifier hdefault
  obtain ⟨proof, hlive, witness, hroot, hproof⟩ := proveLive_of_serves hround hcomplete hmode hgate
    hholder hmem hholds hkey hexpiry
  obtain ⟨-, -, hpresenter, htime⟩ := hproof.journal
  refine ⟨commitmentTreeRoot P.sha256 accounts hlen, proof, ?_, ?_, ?_⟩
  · rw [fetchSequencerCommitmentRoot, hfetch]
    rfl
  · have hread : readGateConfig args.gate = .ok gate := readGateConfig_eq_ok.mpr ⟨hfile, hgate⟩
    simp [runProve, ProveArgs.proof, hmode, hread, hhex, hclock, hinput, hsnapshot, hurl,
      readProverJson, hprovedAt, hlive, houtput]
  · intro createdAt ttlMs nonce created challenge transport hcreate hhanded hsign
    obtain ⟨hgate', hissued, hbegin, hend⟩ := handed_of_createChallenge hcreate hhanded
    obtain ⟨message, hmessage⟩ := hissued.exists_message hgate' proof.receipt
    have hsigns := hsign message hmessage
    refine ⟨_, present_honest hissued hproof.context hroot hproof.evaluated hpresenter.symm
      hmessage transport, ?_⟩
    intro nowUnixMs cache hbegun hlive' hissuedAt hage hafter hnow hfresh
    rw [← htime] at hissuedAt hage hafter
    rw [← hbegin] at hbegun hafter
    have hnotExpired : nowUnixMs ≤ challenge.expiresAtUnixMs := by
      rw [UInt64.le_iff_toNat_le, hend]
      exact hlive'
    have hclaims := claimsValid_honest hgate' hissued hproof.context hroot hproof.evaluated
      hpresenter.symm hmessage hsigns transport hbegun hnotExpired hissuedAt hage hafter
      (isAfter_eq_false.mp hnow)
    exact verify_eq_ok_iff.mpr ⟨⟨hclaims, hproof.verified⟩, hfresh⟩

/-! ### The founders' tree -/

/-- A journal as bytes. -/
def journalCodec : Codec AttestationJournal :=
  (Codec.u16.pair <| (Codec.byteArray 32).pair <| (Codec.u32.array 8).pair <|
    (Codec.byteArray 32).pair <| Codec.u128.pair <| (Codec.byteArray 32).pair <|
    (Codec.byteArray 32).pair <| Codec.u64.pair Codec.u64.option).iso
  (fun j => (j.version, j.contextHash, j.tokenProgramOwner, j.tokenDefinitionId, j.threshold,
    j.commitmentRoot, j.presenterPublicKey, j.issuedAtUnixMs, j.expiresAtUnixMs))
  (fun (version, contextHash, tokenProgramOwner, tokenDefinitionId, threshold, commitmentRoot,
      presenterPublicKey, issuedAtUnixMs, expiresAtUnixMs) =>
    { version, contextHash, tokenProgramOwner, tokenDefinitionId, threshold, commitmentRoot,
      presenterPublicKey, issuedAtUnixMs, expiresAtUnixMs })
  (fun _ => rfl)

/-- Read a journal from bytes. -/
def readJournal (bytes : Bytes) : Except String AttestationJournal :=
  (journalCodec.decodeAll bytes).elim (.error "unexpected end of file") .ok

theorem readJournal_encode (journal : AttestationJournal) :
    readJournal (journalCodec.encode journal) = .ok journal := by
  rw [readJournal, journalCodec.decodeAll_encode]
  rfl

/-- A Risc0 whose receipts are the journals themselves. -/
def transparentRisc0 : Risc0 where
  Receipt := AttestationJournal
  deserialize := readJournal
  verify _ imageId :=
    if imageId = List.Vector.replicate 8 1 then .ok () else .error "image id mismatch"
  decodeJournal journal := .ok journal
  balanceAttestationId := List.Vector.replicate 8 1

/-- Its prover runs the guest program. -/
def transparentProver : Risc0Prover transparentRisc0 where
  Builder := BalanceAttestationWitness
  Env := BalanceAttestationWitness
  write := .ok
  build := .ok
  proveWithOpts witness :=
    match evaluate sha256 witness with
    | .ok journal => .ok journal
    | _ => .error "invalid private balance attestation witness"
  serialize journal := .ok (journalCodec.encode journal)

theorem transparentProver_roundTrips : transparentProver.RoundTrips := by
  intro journal bytes h
  obtain rfl := Except.ok.inj h
  exact readJournal_encode journal

theorem transparentProver_complete : transparentProver.Complete sha256 := by
  intro witness journal h
  refine ⟨witness, witness, journal, journalCodec.encode journal, rfl, rfl, ?_, rfl, rfl, rfl⟩
  show (match evaluate sha256 witness with
    | .ok journal => Except.ok journal
    | _ => .error "invalid private balance attestation witness") = _
  rw [h]
  rfl

/-- SHA-256 and Ed25519 as they are, with this Risc0. -/
def livePrimitives : Primitives := .standard transparentRisc0

/-- The tree of a holder and the default account. -/
def liveAccounts : List LezAccount := [foundersAccount 0x22 250, .default]

theorem liveAccounts_length : liveAccounts.length = 2 ^ 1 := rfl

/-- The paths that the tree gives for a commitment. -/
def livePath (digest : Digest32) : Option (Nat × List Digest32) :=
  if digest = ((foundersAccount 0x22 250).commitment sha256).digest then
    some (0, (servedPath sha256 liveAccounts liveAccounts_length 0).siblings)
  else if digest = (LezAccount.default.commitment sha256).digest then
    some (1, (servedPath sha256 liveAccounts liveAccounts_length 1).siblings)
  else none

/-- A sequencer with the current method. -/
def liveSequencer : Sequencer where
  build := .ok ()
  getProofsAndRoot digests :=
    .ok (digests.map livePath, commitmentTreeRoot sha256 liveAccounts liveAccounts_length)
  getProofForCommitment _ := .error "Method not found"

/-- A sequencer that has the legacy method only. -/
def legacySequencer : Sequencer where
  build := .ok ()
  getProofsAndRoot _ := .error "Method not found"
  getProofForCommitment digest := .ok (livePath digest)

theorem livePath_of_mem : ∀ account ∈ liveAccounts, ∃ index, liveAccounts[index]? = some account ∧
    livePath (account.commitment sha256).digest =
      some (index, (servedPath sha256 liveAccounts liveAccounts_length index).siblings) := by
  intro account hmem
  have hne : (LezAccount.default.commitment sha256).digest ≠
      ((foundersAccount 0x22 250).commitment sha256).digest := by
    decide +kernel
  rcases List.mem_pair.mp hmem with rfl | rfl
  · exact ⟨0, rfl, if_pos rfl⟩
  · refine ⟨1, rfl, ?_⟩
    rw [livePath, if_neg hne, if_pos rfl]

theorem liveSequencer_serves :
    liveSequencer.Serves sha256 liveAccounts liveAccounts_length where
  build := rfl
  answers := by
    intro account hmem
    obtain ⟨index, hget, hpath⟩ := livePath_of_mem account hmem
    refine ⟨index, hget, Or.inl ?_⟩
    simp [liveSequencer, hpath]

theorem legacySequencer_serves :
    legacySequencer.Serves sha256 liveAccounts liveAccounts_length where
  build := rfl
  answers := by
    intro account hmem
    obtain ⟨index, hget, hpath⟩ := livePath_of_mem account hmem
    exact ⟨index, hget, Or.inr ⟨⟨_, rfl⟩, congrArg Except.ok hpath⟩⟩

/-- The command of the holder. -/
def liveArgs : ProveArgs where
  gate := .holds foundersGate
  input := none
  accountSnapshot := some (.holds ⟨foundersAccount 0x22 250⟩)
  sequencerUrl := some legacySequencer
  presenterPublicKeyHex := digestToHex (Edwards25519.group.publicKey foundersSeed)
  issuedAtUnixMs := none
  clock := .ok 1000
  output := .ok ()

theorem holdsToken_founders : HoldsToken foundersGate (foundersAccount 0x22 250) :=
  ⟨rfl, 250, by decide, rfl⟩

/-- The journal of the holder. -/
def liveJournal : AttestationJournal :=
  { foundersJournal with
    commitmentRoot := commitmentTreeRoot sha256 liveAccounts liveAccounts_length }

theorem runProve_live : runProve sha256 transparentProver .notPresent liveArgs =
    .ok ⟨liveJournal, journalCodec.encode liveJournal⟩ := by
  decide +kernel

/-- The holder proves for an account with the token of the gate. -/
theorem runProve_sound_live : ∃ account, liveArgs.ProvesFor account ∧
    HoldsToken foundersGate account := by
  obtain ⟨-, gate, account, -, -, -, hgate, hfor, hholds, -⟩ :=
    runProve_sound (P := livePrimitives) transparentProver_roundTrips runProve_live
  obtain rfl := JsonFile.holds.inj hgate
  exact ⟨account, hfor, hholds⟩

/-- The root of the tree. -/
def liveRoot : Digest32 := commitmentTreeRoot sha256 liveAccounts liveAccounts_length

/-- A challenge for it. -/
def liveChallenge : VerificationChallenge :=
  VerificationChallenge.new foundersContextHash liveRoot "logos-chat:founders"
    (List.Vector.replicate 32 5) 1000 1500

theorem createChallenge_live :
    fetchSequencerCommitmentRoot sha256 liveSequencer = .ok liveRoot ∧
      createChallenge livePrimitives foundersGate liveRoot "logos-chat:founders" 1000 500
        (List.Vector.replicate 32 5) = .ok liveChallenge := by
  decide +kernel

theorem foundersSeed_signs_live :
    (presentationMessage sha256 liveChallenge (journalCodec.encode liveJournal)).map
      (fun message => decide (Edwards25519.group.ed25519.Accepts
        (Edwards25519.group.publicKey foundersSeed)
        (Edwards25519.group.sign foundersSeed message.toList).toList message.toList)) =
      some true := by
  decide +kernel

/-- The proof of the holder is accepted. -/
theorem live_proof_accepted_founders :
    ∃ envelope, present livePrimitives ⟨liveJournal, journalCodec.encode liveJournal⟩ liveChallenge
        foundersSeed .local = .ok envelope ∧
      (verify livePrimitives
        { envelope, expectedChallenge := liveChallenge, expectedGate := foundersGate
          expectedVerifierId := "logos-chat:founders", nowUnixMs := 1200 } ⟨∅⟩).1.isOk := by
  obtain ⟨hfetch, hcreate⟩ := createChallenge_live
  have hgate : liveArgs.gate = .holds foundersGate := rfl
  have hhex : digestFromHex liveArgs.presenterPublicKeyHex =
      .ok (livePrimitives.ed25519.publicKey foundersSeed) := digestFromHex_digestToHex _
  obtain ⟨root, proof, hfetch', hprove, haccepted⟩ := live_proof_accepted (P := livePrimitives)
    transparentProver_roundTrips transparentProver_complete
    (devModeStatus_eq_disabled.mpr (Or.inl rfl)) liveSequencer_serves (by simp [liveAccounts])
    legacySequencer_serves hgate rfl rfl rfl rfl (by simp [liveAccounts]) holdsToken_founders hhex
    (by decide +kernel) rfl rfl (by decide) rfl
  obtain rfl := Outcome.ok.inj (hfetch.symm.trans hfetch')
  obtain rfl := Outcome.ok.inj (runProve_live.symm.trans hprove)
  have hsign : ∀ message, presentationMessage sha256 liveChallenge
      (journalCodec.encode liveJournal) = some message →
      livePrimitives.ed25519.SignsOwn foundersSeed message.toList := by
    intro message hmessage
    have hsigned := foundersSeed_signs_live
    rw [hmessage, Option.map_some, Option.some.injEq, decide_eq_true_eq] at hsigned
    exact hsigned
  obtain ⟨envelope, hpresent, hverify⟩ := haccepted 1000 500 _ _ _ .local hcreate (Or.inl rfl) hsign
  exact ⟨envelope, hpresent, hverify 1200 ⟨∅⟩ (by decide) (by decide) (by decide) (by decide)
    (by decide) (by decide) (by simp)⟩

end TokenStudio
