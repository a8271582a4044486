import TokenStudio.AttestationVerifier.Basic
import TokenStudio.CodeLib.Run

/-!
# What an accepted presentation proves

Two results about `verify`.

* `verify_attests_account`.  An accepted presentation stands for an account of
  the committed list that holds the token of the gate, at or above the
  threshold.  The chain goes from the verifier's comparisons over the receipt
  to the witness of the circuit, and from there along the membership path to a
  leaf of the tree.
* `verify_run`.  Over any sequence of calls that share one replay cache, a
  failed call changes nothing, an accepted call adds the digest of its own
  challenge, and no digest is accepted twice.  The last part says exactly when
  a call is accepted in such a run.  What other calls did before matters only
  through the digests of the accepted ones.
-/

namespace TokenStudio

/-! ## Soundness -/

/-- The witness behind an accepted presentation: its context is the expected
one and its root is the expected one. -/
theorem witness_of_verify {P : Primitives}
    {witnessOf : Risc0AttestationProof → BalanceAttestationWitness}
    (hsound : ReceiptSound P witnessOf) {r : VerifyRequest} (hvalid : ClaimsValid P r)
    (hreceipt : verifyReceipt P.risc0 r.proof = .ok r.envelope.journal)
    (hfree : CollisionFree P.sha256 ((witnessOf r.proof).gateContext.canonicalBytes.toList ++
      r.expectedGate.context.canonicalBytes.toList)) :
    Attests P.sha256 (witnessOf r.proof) ∧
      (witnessOf r.proof).gateContext = r.expectedGate.context ∧
      (witnessOf r.proof).commitmentRoot = r.expectedChallenge.expectedCommitmentRoot := by
  obtain ⟨hattests, hnew⟩ := evaluate_eq_ok_iff.mp (hsound r.proof _ hreceipt)
  obtain ⟨hcontext, -, -, -, hroot, -⟩ := AttestationJournal.new_eq_some hnew
  refine ⟨hattests, ?_, ?_⟩
  · exact GateContext.eq_of_contextHash_eq hfree hcontext hvalid.journalContext
  · rw [← hroot, hvalid.root, hvalid.challenge]

/-- An accepted presentation for the root of the tree over a list of accounts
attests an account of the list. -/
theorem verify_attests_account {P : Primitives}
    {witnessOf : Risc0AttestationProof → BalanceAttestationWitness}
    (hsound : ReceiptSound P witnessOf) {d : Nat} {accounts : List LezAccount}
    (hlen : accounts.length = 2 ^ d) {r : VerifyRequest} {cache cache' : InMemoryReplayCache}
    {attestation : VerifiedAttestation} (hverify : verify P r cache = (.ok attestation, cache'))
    (hroot : r.expectedChallenge.expectedCommitmentRoot =
      commitmentTreeRoot P.sha256 accounts hlen)
    (hfree : CollisionFree P.sha256 (commitmentTreeHashed P.sha256 accounts hlen ++
      (witnessOf r.proof).hashed P.sha256 ++ r.expectedGate.context.canonicalBytes.toList)) :
    (∃ a ∈ accounts, a.programOwner = r.expectedGate.context.tokenProgramOwner ∧
      ∃ balance : U128, r.expectedGate.context.threshold ≤ balance ∧
        a.data = (FungibleTokenHolding.mk r.expectedGate.context.tokenDefinitionId
          balance).encode) ∧
      (witnessOf r.proof).gateContext = r.expectedGate.context := by
  rcases verify_cases P r cache with ⟨digest, ⟨hvalid, hreceipt⟩, -⟩ | ⟨⟨e, he⟩, -⟩
  · have hcontexts : CollisionFree P.sha256
        ((witnessOf r.proof).gateContext.canonicalBytes.toList ++
          r.expectedGate.context.canonicalBytes.toList) := by
      refine hfree.mono ?_
      intro m hm
      simp only [BalanceAttestationWitness.hashed, List.mem_append] at hm ⊢
      rcases hm with hm | hm
      · exact Or.inl (Or.inr (Or.inl hm))
      · exact Or.inr hm
    obtain ⟨hattests, hcontext, hwroot⟩ := witness_of_verify hsound hvalid hreceipt hcontexts
    have haccount := hattests.exists_account hlen (hwroot.trans hroot)
      (hfree.mono (List.subset_append_left _ _))
    rw [hcontext] at haccount
    exact ⟨haccount, hcontext⟩
  · rw [he] at hverify
    simp at hverify

/-- An account that holds the token of the test gate. -/
def foundersAccount (id : UInt8) (balance : U128) : LezAccount where
  accountId := List.Vector.replicate 32 id
  programOwner := List.Vector.replicate 8 7
  balance := 9
  nonce := 12
  data := (FungibleTokenHolding.mk (List.Vector.replicate 32 4) balance).encode

/-- A list of two accounts, of which the first reaches the threshold. -/
def foundersAccounts : List LezAccount := [foundersAccount 0x22 250, foundersAccount 0x23 5]

theorem foundersAccounts_length : foundersAccounts.length = 2 ^ 1 := rfl

/-- The root of the tree over the two accounts. -/
def foundersRoot : Digest32 :=
  digestOf 0x9217bce8ad83d0774a1ca6c9c610f5a05323d7f9ce3a7da2fce45c7947bf5c05

/-- The secret key of the first account. -/
def foundersSeed : List.Vector UInt8 32 := List.Vector.replicate 32 3

/-- Its public key. -/
def foundersKey : PublicKey32 :=
  digestOf 0xed4928c628d1c2c6eae90338905995612959273a5c63f93636c14614ac8737d1

/-- The context hash of the test gate. -/
def foundersContextHash : Digest32 :=
  digestOf 0xc0cabb98be65c55d1c56b43f3ac6dc81144e4dbc1413ccb53cf0d4d9f5c829ac

/-- The witness of the first account. -/
def foundersWitness : BalanceAttestationWitness where
  account := foundersAccount 0x22 250
  membershipProof :=
    { leafIndex := 0
      siblings :=
        [digestOf 0xa6dbd82e06f368b98a2e3abd157a0df6817c357f371e59113d8789e590bfd041] }
  commitmentRoot := foundersRoot
  gateContext := foundersGate.context
  presenterPublicKey := foundersKey
  issuedAtUnixMs := 1000

/-- Its journal. -/
def foundersJournal : AttestationJournal where
  version := attestationJournalVersion
  contextHash := foundersContextHash
  tokenProgramOwner := List.Vector.replicate 8 7
  tokenDefinitionId := List.Vector.replicate 32 4
  threshold := 100
  commitmentRoot := foundersRoot
  presenterPublicKey := foundersKey
  issuedAtUnixMs := 1000
  expiresAtUnixMs := some 2000000

/-- A presentation of the journal, signed by the key for one challenge. -/
def foundersEnvelope : AttestationEnvelope where
  journal := foundersJournal
  receipt := List.replicate 128 9
  challenge := VerificationChallenge.new foundersContextHash foundersRoot "logos-chat:founders"
    (List.Vector.replicate 32 5) 1000 1500
  presenterSignature := (leBytes 64 0xb442c18019efda299fcdb9fe9c8becc18d1e4dd8b806eeae6df990b368252c7d02a245af02d9425fe2ddd47f4af6a091e69dfc4304bbd18e832b98f198bf7707).reverse
  transport := .local

/-- The digest of its challenge. -/
def foundersChallengeDigest : Digest32 :=
  digestOf 0xbf6de295230132f3696d6e78e16d18cb9eb823f23aca1244c90d123188bdc30f

def foundersRequest : VerifyRequest where
  envelope := foundersEnvelope
  expectedChallenge := foundersEnvelope.challenge
  expectedGate := foundersGate
  expectedVerifierId := "logos-chat:founders"
  nowUnixMs := 1200

def foundersPrimitives : Primitives :=
  .standard (.ofReceipt (List.Vector.replicate 8 1) (List.replicate 128 9) foundersJournal)

theorem evaluate_foundersWitness : evaluate sha256 foundersWitness = .ok foundersJournal := by
  decide +kernel

theorem verify_foundersRequest :
    verify foundersPrimitives foundersRequest ⟨∅⟩ = (.ok foundersRequest.attestation,
      ⟨{foundersChallengeDigest}⟩) := by
  decide +kernel

theorem verify_foundersRequest_isOk : (verify foundersPrimitives foundersRequest ⟨∅⟩).1.isOk := by
  rw [verify_foundersRequest]
  rfl

theorem foundersRoot_eq :
    foundersRoot = commitmentTreeRoot sha256 foundersAccounts foundersAccounts_length := by
  decide +kernel

theorem founders_collisionFree : CollisionFree sha256
    (commitmentTreeHashed sha256 foundersAccounts foundersAccounts_length ++
      foundersWitness.hashed sha256 ++ foundersGate.context.canonicalBytes.toList) := by
  decide +kernel

theorem verify_attests_founder :
    (∃ a ∈ foundersAccounts, a.programOwner = foundersGate.context.tokenProgramOwner ∧
      ∃ balance : U128, foundersGate.context.threshold ≤ balance ∧
        a.data = (FungibleTokenHolding.mk foundersGate.context.tokenDefinitionId
          balance).encode) ∧
      foundersWitness.gateContext = foundersGate.context :=
  verify_attests_account (receiptSound_ofReceipt evaluate_foundersWitness)
    foundersAccounts_length verify_foundersRequest foundersRoot_eq
    founders_collisionFree

/-! ## What the signature covers -/

/-- The messages that the presenters of two requests have signed. -/
def signedMessages (P : Primitives) (r r' : VerifyRequest) : List Bytes :=
  ((presentationMessage P.sha256 r.envelope.challenge r.envelope.receipt).toList ++
    (presentationMessage P.sha256 r'.envelope.challenge r'.envelope.receipt).toList).map
      List.Vector.toList

/-- The byte strings that are hashed for these messages: the presentations and the
receipts in them. -/
def presentationHashed (P : Primitives) (r r' : VerifyRequest) : List Bytes :=
  (presentationBytes P.sha256 r.envelope.challenge r.envelope.receipt).toList ++
    (presentationBytes P.sha256 r'.envelope.challenge r'.envelope.receipt).toList ++
      [r.envelope.receipt, r'.envelope.receipt]

/-- `verify` does not read the transport. -/
theorem verify_withTransport (P : Primitives) (r : VerifyRequest) (transport : ProofTransport) :
    verify P { r with envelope := { r.envelope with transport } } = verify P r := rfl

/-- Accepted envelopes are not malleable.  Two accepted envelopes with the same
presenter and the same signature agree in everything but the transport.  The
signature covers the challenge and the hash of the receipt, and the receipt
determines the journal. -/
theorem accepted_envelopes_eq {P : Primitives} {r r' : VerifyRequest}
    {cache cache' : InMemoryReplayCache} (hok : (verify P r cache).1.isOk)
    (hok' : (verify P r' cache').1.isOk)
    (hkey : r.envelope.journal.presenterPublicKey = r'.envelope.journal.presenterPublicKey)
    (hsignature : r.envelope.presenterSignature = r'.envelope.presenterSignature)
    (hone : P.ed25519.SignsOne r.envelope.journal.presenterPublicKey
      r.envelope.presenterSignature (signedMessages P r r'))
    (hfree : CollisionFree P.sha256 (presentationHashed P r r')) :
    r.envelope.challenge = r'.envelope.challenge ∧ r.envelope.receipt = r'.envelope.receipt ∧
      r.envelope.journal = r'.envelope.journal ∧
      r'.envelope = { r.envelope with transport := r'.envelope.transport } := by
  obtain ⟨hpresentable, -⟩ := verify_eq_ok_iff.mp hok
  obtain ⟨hpresentable', -⟩ := verify_eq_ok_iff.mp hok'
  obtain ⟨message, hmessage, haccepts⟩ := hpresentable.claims.signature
  obtain ⟨message', hmessage', haccepts'⟩ := hpresentable'.claims.signature
  rw [← hkey, ← hsignature] at haccepts'
  -- one signature, one message
  have hmessages : message = message' := by
    refine List.Vector.eq _ _ (hone _ ?_ _ ?_ haccepts haccepts') <;>
      simp [signedMessages, hmessage, hmessage']
  unfold presentationMessage at hmessage hmessage'
  obtain ⟨b, hb, hdigest⟩ := Option.map_eq_some_iff.mp hmessage
  obtain ⟨b', hb', hdigest'⟩ := Option.map_eq_some_iff.mp hmessage'
  have hbytes : b = b' := by
    refine hfree b ?_ b' ?_ ((hdigest.trans hmessages).trans hdigest'.symm) <;>
      simp [presentationHashed, hb, hb']
  subst hbytes
  obtain ⟨hchallenge, hhash⟩ := presentationBytes_inj hb hb'
  have hreceipt : r.envelope.receipt = r'.envelope.receipt := by
    refine hfree _ ?_ _ ?_ hhash <;> simp [presentationHashed]
  have hjournal : r.envelope.journal = r'.envelope.journal :=
    verifyReceipt_journal_unique hpresentable.receipt hpresentable'.receipt hreceipt
  refine ⟨hchallenge, hreceipt, hjournal, ?_⟩
  show r'.envelope = ⟨r.envelope.journal, r.envelope.receipt, r.envelope.challenge,
    r.envelope.presenterSignature, r'.envelope.transport⟩
  rw [hchallenge, hreceipt, hjournal, hsignature]

/-- The founders' envelope over another transport is accepted as well, and the two
have the same challenge. -/
theorem accepted_envelopes_eq_founders :
    foundersRequest.envelope.challenge =
      ({ foundersRequest with
        envelope := { foundersEnvelope with transport := .onChain } } :
          VerifyRequest).envelope.challenge := by
  have hok := verify_foundersRequest_isOk
  have hok' : (verify foundersPrimitives { foundersRequest with
      envelope := { foundersEnvelope with transport := .onChain } } ⟨∅⟩).1.isOk := by
    rw [← hok]
    exact congrArg (fun v => (v ⟨∅⟩).1.isOk)
      (verify_withTransport foundersPrimitives foundersRequest .onChain)
  refine (accepted_envelopes_eq hok hok' rfl rfl ?_ ?_).1
  · intro m hm m' hm' _ _
    simp only [signedMessages, List.mem_map, List.mem_append, Option.mem_toList] at hm hm'
    obtain ⟨message, hmessage | hmessage, rfl⟩ := hm <;>
      obtain ⟨message', hmessage' | hmessage', rfl⟩ := hm' <;>
      exact congrArg List.Vector.toList (Option.some.inj (hmessage.symm.trans hmessage'))
  · decide +kernel

/-! ## Runs that share a replay cache -/

/-- The cache of a run holds the digests it started with and those of the
accepted calls. -/
theorem mem_consumed_final (P : Primitives) (cache : InMemoryReplayCache)
    (requests : List VerifyRequest) (digest : Digest32) :
    digest ∈ (Mutating.final (verify P) requests cache).consumed ↔
      digest ∈ cache.consumed ∨
        ∃ c ∈ Mutating.run (verify P) requests cache,
          c.result.isOk ∧ c.input.digest P = some digest := by
  refine Mutating.run_induction (verify P)
    (motive := fun calls s => digest ∈ s.consumed ↔ digest ∈ cache.consumed ∨
      ∃ c ∈ calls, c.result.isOk ∧ c.input.digest P = some digest) (by simp) ?_ requests
  intro calls s r ih
  rcases verify_cases P r s with ⟨d, -, hdigest, -, hv⟩ | ⟨⟨e, hv⟩, -⟩
  · simp only [Mutating.call, hv, Finset.mem_insert, ih, List.mem_append, List.mem_singleton]
    constructor
    · rintro (rfl | hmem | ⟨c, hc, hok⟩)
      · exact Or.inr ⟨_, Or.inr rfl, rfl, hdigest⟩
      · exact Or.inl hmem
      · exact Or.inr ⟨c, Or.inl hc, hok⟩
    · rintro (hmem | ⟨c, hc | rfl, hok⟩)
      · exact Or.inr (Or.inl hmem)
      · exact Or.inr (Or.inr ⟨c, hc, hok⟩)
      · exact Or.inl (Option.some.inj (hok.2.symm.trans hdigest))
  · simp [Mutating.call, hv, ih, or_and_right, exists_or, Outcome.isOk]

/-- Two accepted calls of a run have different digests. -/
theorem accepted_digests_pairwise (P : Primitives) (cache : InMemoryReplayCache)
    (requests : List VerifyRequest) :
    (Mutating.run (verify P) requests cache).Pairwise fun c c' =>
      c.result.isOk → c'.result.isOk → c.input.digest P ≠ c'.input.digest P := by
  refine Mutating.run_pairwise (verify P) ?_
  intro pre r post _ c hc hok hok' heq
  rcases verify_cases P r (Mutating.final (verify P) pre cache) with
    ⟨d, -, hdigest, hfresh, -⟩ | ⟨⟨e, hv⟩, -⟩
  · exact hfresh ((mem_consumed_final P cache pre d).mpr
      (Or.inr ⟨c, hc, hok, heq.trans hdigest⟩))
  · simp [Mutating.call, hv, Outcome.isOk] at hok'

/-- Runs of `verify` that share one replay cache.  A failed call leaves the
cache as it was.  An accepted call adds the digest of its own challenge, which
is the expected one.  No digest is accepted twice.  A call is accepted after a
run exactly when it is accepted by an empty cache and its digest was neither
there at the start nor accepted on the way. -/
theorem verify_run (P : Primitives) (cache : InMemoryReplayCache)
    (requests : List VerifyRequest) :
    (∀ c ∈ Mutating.run (verify P) requests cache,
      (∃ e, c.result = .err e ∧ c.after = c.before) ∨
        ∃ attestation digest, c.result = .ok attestation ∧
          c.input.envelope.challenge = c.input.expectedChallenge ∧
          c.input.envelope.challenge.digest P.sha256 = some digest ∧
          digest ∉ c.before.consumed ∧
          c.after.consumed = insert digest c.before.consumed) ∧
      ((Mutating.run (verify P) requests cache).Pairwise fun c c' =>
        c.result.isOk → c'.result.isOk →
          c.input.envelope.challenge.digest P.sha256 ≠
            c'.input.envelope.challenge.digest P.sha256) ∧
      ∀ r : VerifyRequest,
        (verify P r (Mutating.final (verify P) requests cache)).1.isOk ↔
          (verify P r ⟨∅⟩).1.isOk ∧
            ∀ digest, r.envelope.challenge.digest P.sha256 = some digest →
              digest ∉ cache.consumed ∧
                ∀ c ∈ Mutating.run (verify P) requests cache, c.result.isOk →
                  c.input.envelope.challenge.digest P.sha256 ≠ some digest := by
  refine ⟨?_, accepted_digests_pairwise P cache requests, ?_⟩
  · intro c hc
    obtain ⟨pre, post, -, hcall⟩ := Mutating.mem_run (verify P) hc
    rw [hcall]
    rcases verify_cases P c.input (Mutating.final (verify P) pre cache) with
      ⟨d, hp, hdigest, hfresh, hv⟩ | ⟨⟨e, hv⟩, -⟩
    · refine Or.inr ⟨c.input.attestation, d, ?_, hp.claims.challenge, hdigest, hfresh, ?_⟩ <;>
        simp [Mutating.call, hv]
    · exact Or.inl ⟨e, by simp [Mutating.call, hv]⟩
  · intro r
    rw [verify_eq_ok_iff, verify_eq_ok_iff]
    simp only [mem_consumed_final, not_or, not_exists, not_and, Finset.notMem_empty,
      not_false_eq_true, implies_true, and_true]
    rfl

end TokenStudio
