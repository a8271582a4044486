import TokenStudio.LezCompat

/-!
# The balance attestation statement

The model of the crate `attestation-circuit`: the witness, the checks of
`evaluate` in their order, and the journal it returns.  `evaluate` is the
statement that a Risc0 receipt attests.

`evaluate_eq_ok_iff` is the one lemma that later modules use.  It lists what an
accepted witness satisfies and says that the journal is the one built from the
public inputs.
-/

namespace TokenStudio

structure BalanceAttestationWitness where
  account : LezAccount
  membershipProof : MembershipProof
  commitmentRoot : Digest32
  gateContext : GateContext
  presenterPublicKey : PublicKey32
  issuedAtUnixMs : UInt64
  deriving DecidableEq

inductive CircuitError where
  | zeroThreshold
  | missingPresenterKey
  | issuedAfterExpiry
  | wrongProgramOwner
  | invalidTokenHolding
  | wrongTokenDefinition
  | insufficientBalance
  | invalidMembershipProof
  deriving DecidableEq, Repr

/-- `evaluate`.  The journal hashes the gate context, which panics on a context
with a string of `2 ^ 32` bytes or more. -/
def evaluate (sha256 : Bytes → Digest32) (witness : BalanceAttestationWitness) :
    Outcome CircuitError AttestationJournal := do
  Outcome.check (witness.gateContext.threshold = 0) .zeroThreshold
  Outcome.check (witness.presenterPublicKey = zeroDigest) .missingPresenterKey
  Outcome.check (isAfter witness.issuedAtUnixMs witness.gateContext.expiresAtUnixMs)
    .issuedAfterExpiry
  Outcome.check (witness.account.programOwner ≠ witness.gateContext.tokenProgramOwner)
    .wrongProgramOwner
  let holding ← (FungibleTokenHolding.decode witness.account.data).mapErr
    fun _ => .invalidTokenHolding
  Outcome.check (holding.definitionId ≠ witness.gateContext.tokenDefinitionId)
    .wrongTokenDefinition
  Outcome.check (holding.balance < witness.gateContext.threshold) .insufficientBalance
  let commitment := witness.account.commitment sha256
  Outcome.check (¬ witness.membershipProof.verifies sha256 commitment witness.commitmentRoot)
    .invalidMembershipProof
  AttestationJournal.new sha256 witness.gateContext witness.commitmentRoot
    witness.presenterPublicKey witness.issuedAtUnixMs

/-- What `evaluate` checks of a witness. -/
structure Attests (sha256 : Bytes → Digest32) (witness : BalanceAttestationWitness) : Prop where
  threshold : witness.gateContext.threshold ≠ 0
  presenter : witness.presenterPublicKey ≠ zeroDigest
  expiry : isAfter witness.issuedAtUnixMs witness.gateContext.expiresAtUnixMs = false
  owner : witness.account.programOwner = witness.gateContext.tokenProgramOwner
  holding : ∃ balance : U128, witness.gateContext.threshold ≤ balance ∧
    witness.account.data =
      (FungibleTokenHolding.mk witness.gateContext.tokenDefinitionId balance).encode
  member : witness.membershipProof.verifies sha256 (witness.account.commitment sha256)
    witness.commitmentRoot = true

/-- `evaluate` accepts exactly the witnesses that satisfy the statement, and
returns the journal of their public inputs. -/
theorem evaluate_eq_ok_iff {sha256 : Bytes → Digest32} {witness : BalanceAttestationWitness}
    {journal : AttestationJournal} :
    evaluate sha256 witness = .ok journal ↔
      Attests sha256 witness ∧
        AttestationJournal.new sha256 witness.gateContext witness.commitmentRoot
          witness.presenterPublicKey witness.issuedAtUnixMs = some journal := by
  simp only [evaluate, Outcome.bind_eq_ok, Outcome.check_eq_ok, Outcome.exists_unit,
    Outcome.mapErr_eq_ok, Outcome.liftM_eq, Outcome.ofOption_eq_ok, not_not, ne_eq,
    FungibleTokenHolding.decode_eq_ok_iff]
  constructor
  · rintro ⟨hthreshold, hkey, hexpiry, howner, holding, hdata, hid, hbalance, hmember, hjournal⟩
    refine ⟨⟨hthreshold, hkey, by simpa using hexpiry, howner, ?_, hmember⟩, hjournal⟩
    exact ⟨holding.balance, BitVec.not_lt.mp hbalance, by rw [← hid, hdata]⟩
  · rintro ⟨⟨hthreshold, hkey, hexpiry, howner, ⟨balance, hbalance, hdata⟩, hmember⟩, hjournal⟩
    exact ⟨hthreshold, hkey, by simp [hexpiry], howner, _, hdata, rfl,
      BitVec.not_lt.mpr hbalance, hmember, hjournal⟩

/-- The byte strings that `evaluate` hashes on an accepted witness. -/
def BalanceAttestationWitness.hashed (sha256 : Bytes → Digest32)
    (witness : BalanceAttestationWitness) : List Bytes :=
  witness.gateContext.canonicalBytes.toList ++
    (witness.account.hashed sha256 ++
      witness.membershipProof.hashed sha256 (witness.account.commitment sha256))

/-- Two contexts with the same hash are equal, unless their canonical bytes
collide. -/
theorem GateContext.eq_of_contextHash_eq {sha256 : Bytes → Digest32} {c c' : GateContext}
    {d : Digest32}
    (hfree : CollisionFree sha256 (c.canonicalBytes.toList ++ c'.canonicalBytes.toList))
    (h : c.contextHash sha256 = some d) (h' : c'.contextHash sha256 = some d) : c = c' := by
  obtain ⟨b, hb, hd⟩ := Option.map_eq_some_iff.mp h
  obtain ⟨b', hb', hd'⟩ := Option.map_eq_some_iff.mp h'
  have hbytes : b = b' :=
    hfree b (by simp [hb]) b' (by simp [hb']) (hd.trans hd'.symm)
  subst hbytes
  exact canonicalBytes_inj hb hb'

/-- The journal of an accepted witness carries its public inputs. -/
theorem AttestationJournal.new_eq_some {sha256 : Bytes → Digest32} {context : GateContext}
    {root : Digest32} {key : PublicKey32} {time : UInt64} {journal : AttestationJournal}
    (h : AttestationJournal.new sha256 context root key time = some journal) :
    context.contextHash sha256 = some journal.contextHash ∧
      journal.tokenProgramOwner = context.tokenProgramOwner ∧
      journal.tokenDefinitionId = context.tokenDefinitionId ∧
      journal.threshold = context.threshold ∧ journal.commitmentRoot = root ∧
      journal.presenterPublicKey = key ∧ journal.issuedAtUnixMs = time ∧
      journal.expiresAtUnixMs = context.expiresAtUnixMs := by
  simp only [AttestationJournal.new, Option.bind_eq_bind, Option.bind_eq_some_iff,
    Option.pure_def, Option.some.injEq] at h
  obtain ⟨hash, hhash, rfl⟩ := h
  exact ⟨hhash, rfl, rfl, rfl, rfl, rfl, rfl, rfl⟩

/-- A journal carries the current version. -/
theorem AttestationJournal.new_version {sha256 : Bytes → Digest32} {context : GateContext}
    {root : Digest32} {key : PublicKey32} {time : UInt64} {journal : AttestationJournal}
    (h : AttestationJournal.new sha256 context root key time = some journal) :
    journal.version = attestationJournalVersion := by
  simp only [AttestationJournal.new, Option.bind_eq_bind, Option.bind_eq_some_iff,
    Option.pure_def, Option.some.injEq] at h
  obtain ⟨hash, -, rfl⟩ := h
  rfl

/-- Every accepted witness for the root of a tree over a list of accounts
attests an account of the list. -/
theorem Attests.exists_account {sha256 : Bytes → Digest32} {d : Nat}
    {accounts : List LezAccount} (hlen : accounts.length = 2 ^ d)
    {witness : BalanceAttestationWitness} (h : Attests sha256 witness)
    (hroot : witness.commitmentRoot = commitmentTreeRoot sha256 accounts hlen)
    (hfree : CollisionFree sha256
      (commitmentTreeHashed sha256 accounts hlen ++ witness.hashed sha256)) :
    ∃ a ∈ accounts, a.programOwner = witness.gateContext.tokenProgramOwner ∧
      ∃ balance : U128, witness.gateContext.threshold ≤ balance ∧
        a.data = (FungibleTokenHolding.mk witness.gateContext.tokenDefinitionId
          balance).encode := by
  have hmember := h.member
  rw [hroot] at hmember
  refine ⟨witness.account, mem_of_verifies hlen (hfree.mono ?_) hmember, h.owner, h.holding⟩
  intro m hm
  simp only [BalanceAttestationWitness.hashed, List.mem_append] at hm ⊢
  rcases hm with hm | hm
  · exact Or.inl hm
  · exact Or.inr (Or.inr hm)

end TokenStudio
