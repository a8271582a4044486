import TokenStudio.AttestationVerifier.Soundness

/-!
# The published statement of the circuit

`PublishedStatement` is what the circuit is documented to prove, in numbers and byte
strings and without the decoder and the loop of the source.  `circuit_statement` says
that `evaluate` decides it, with one condition more: the strings of the gate context
are shorter than `2 ^ 32` bytes, since the journal hashes the context and the encoder
panics on a longer string.

The second half is the privacy of the journal.  Two accepted witnesses with the same
public inputs have one journal, whatever their accounts and their paths are.
-/

namespace TokenStudio

/-- What the circuit proves about a witness. -/
structure PublishedStatement (sha256 : Bytes → Digest32) (witness : BalanceAttestationWitness) :
    Prop where
  threshold : 0 < witness.gateContext.threshold.toNat
  presenter : witness.presenterPublicKey ≠ zeroDigest
  issued : ∀ expiry, witness.gateContext.expiresAtUnixMs = some expiry →
    witness.issuedAtUnixMs ≤ expiry
  owner : witness.account.programOwner = witness.gateContext.tokenProgramOwner
  holding : ∃ balance : Nat, witness.gateContext.threshold.toNat ≤ balance ∧ balance < 2 ^ 128 ∧
    witness.account.data = (FungibleTokenHolding.mk witness.gateContext.tokenDefinitionId
      (BitVec.ofNat 128 balance)).encode
  member : climb sha256 nodeBytes witness.membershipProof.leafIndex
    ((witness.account.commitment sha256).leafHash sha256) witness.membershipProof.siblings =
      witness.commitmentRoot

/-- The strings of a gate context are shorter than `2 ^ 32` bytes. -/
structure GateContext.StringsShort (c : GateContext) : Prop where
  applicationId : (asBytes c.applicationId).length < 2 ^ 32
  gateId : (asBytes c.gateId).length < 2 ^ 32
  verifierId : (asBytes c.verifierId).length < 2 ^ 32

/-- Exactly the contexts with short strings have a hash. -/
theorem GateContext.exists_contextHash_iff (sha256 : Bytes → Digest32) (c : GateContext) :
    (∃ d, c.contextHash sha256 = some d) ↔ c.StringsShort := by
  constructor
  · rintro ⟨d, hhash⟩
    obtain ⟨b, hb, -⟩ := Option.map_eq_some_iff.mp hhash
    simp only [canonicalBytes, Option.bind_eq_bind, Option.bind_eq_some_iff,
      writeString_eq_some] at hb
    obtain ⟨_, ⟨happ, -⟩, _, ⟨hgate, -⟩, _, ⟨hver, -⟩, -⟩ := hb
    exact ⟨happ, hgate, hver⟩
  · intro h
    exact GateContext.exists_contextHash sha256 h.applicationId h.gateId h.verifierId

/-- The checks of `evaluate` are the published statement. -/
theorem attests_iff_published {sha256 : Bytes → Digest32} {witness : BalanceAttestationWitness} :
    Attests sha256 witness ↔ PublishedStatement sha256 witness := by
  constructor
  · intro h
    obtain ⟨balance, hbalance, hdata⟩ := h.holding
    refine ⟨?_, h.presenter, isAfter_eq_false.mp h.expiry, h.owner, ?_, ?_⟩
    · refine Nat.pos_of_ne_zero fun hzero => h.threshold ?_
      exact BitVec.eq_of_toNat_eq hzero
    · refine ⟨balance.toNat, BitVec.le_def.mp hbalance, balance.isLt, ?_⟩
      rw [hdata, BitVec.ofNat_toNat, BitVec.setWidth_eq]
    · rw [← MembershipProof.computeRoot_eq_climb]
      simpa [MembershipProof.verifies] using h.member
  · intro h
    obtain ⟨balance, hbalance, hlt, hdata⟩ := h.holding
    refine ⟨?_, h.presenter, isAfter_eq_false.mpr h.issued, h.owner,
      ⟨BitVec.ofNat 128 balance, ?_, hdata⟩, ?_⟩
    · intro hzero
      have hpos := h.threshold
      rw [hzero] at hpos
      exact absurd hpos (by decide)
    · rw [BitVec.le_def, BitVec.toNat_ofNat, Nat.mod_eq_of_lt hlt]
      exact hbalance
    · rw [MembershipProof.verifies, decide_eq_true_eq, MembershipProof.computeRoot_eq_climb]
      exact h.member

/-- The circuit accepts exactly the witnesses of its published statement whose strings
can be encoded, and its journal depends on the public inputs only. -/
theorem circuit_statement (sha256 : Bytes → Digest32) :
    (∀ witness, (evaluate sha256 witness).isOk = true ↔
      PublishedStatement sha256 witness ∧ witness.gateContext.StringsShort) ∧
    ∀ witness witness' journal journal', evaluate sha256 witness = .ok journal →
      evaluate sha256 witness' = .ok journal' →
      witness.gateContext = witness'.gateContext →
      witness.commitmentRoot = witness'.commitmentRoot →
      witness.presenterPublicKey = witness'.presenterPublicKey →
      witness.issuedAtUnixMs = witness'.issuedAtUnixMs →
      journal = journal' ∧ journal.canonicalBytes = journal'.canonicalBytes := by
  refine ⟨?_, ?_⟩
  · intro witness
    rw [Outcome.isOk_iff, ← attests_iff_published,
      ← GateContext.exists_contextHash_iff sha256 witness.gateContext]
    simp only [evaluate_eq_ok_iff]
    constructor
    · rintro ⟨journal, hattests, hnew⟩
      exact ⟨hattests, journal.contextHash, (AttestationJournal.new_eq_some hnew).1⟩
    · rintro ⟨hattests, contextHash, hhash⟩
      rw [AttestationJournal.new, hhash]
      exact ⟨_, hattests, rfl⟩
  · intro witness witness' journal journal' h h' hcontext hroot hkey htime
    obtain ⟨-, hnew⟩ := evaluate_eq_ok_iff.mp h
    obtain ⟨-, hnew'⟩ := evaluate_eq_ok_iff.mp h'
    rw [hcontext, hroot, hkey, htime, hnew'] at hnew
    obtain rfl : journal' = journal := Option.some.inj hnew
    exact ⟨rfl, rfl⟩

/-- The first account with another index for the same path. -/
def movedWitness : BalanceAttestationWitness :=
  { foundersWitness with
    membershipProof := { foundersWitness.membershipProof with leafIndex := 2 } }

/-- Two paths of the first account. -/
theorem circuit_statement_founders :
    (PublishedStatement sha256 movedWitness ∧ movedWitness.gateContext.StringsShort) ∧
      ∀ journal, evaluate sha256 movedWitness = .ok journal → journal = foundersJournal := by
  have hmoved : (evaluate sha256 movedWitness).isOk = true := by decide +kernel
  obtain ⟨hdecides, hprivate⟩ := circuit_statement sha256
  refine ⟨(hdecides movedWitness).mp hmoved, ?_⟩
  intro journal h
  exact (hprivate movedWitness foundersWitness journal foundersJournal h evaluate_foundersWitness
    rfl rfl rfl rfl).1

/-! ### A long string -/

/-- The witness for a gate context with another application id. -/
def BalanceAttestationWitness.withApplicationId (witness : BalanceAttestationWitness)
    (applicationId : String) : BalanceAttestationWitness :=
  { witness with gateContext := { witness.gateContext with applicationId } }

/-- The published statement is not about the application id. -/
theorem PublishedStatement.withApplicationId {sha256 : Bytes → Digest32}
    {witness : BalanceAttestationWitness} (h : PublishedStatement sha256 witness)
    (applicationId : String) :
    PublishedStatement sha256 (witness.withApplicationId applicationId) :=
  ⟨h.threshold, h.presenter, h.issued, h.owner, h.holding, h.member⟩

theorem evaluate_of_long_applicationId {sha256 : Bytes → Digest32}
    {witness : BalanceAttestationWitness} {applicationId : String}
    (h : 2 ^ 32 ≤ (asBytes applicationId).length) :
    ¬ (evaluate sha256 (witness.withApplicationId applicationId)).isOk = true := by
  rw [Outcome.isOk_iff]
  rintro ⟨journal, hok⟩
  have hhash := (AttestationJournal.new_eq_some (evaluate_eq_ok_iff.mp hok).2).1
  have hshort := (GateContext.exists_contextHash_iff sha256 _).mp ⟨_, hhash⟩
  exact absurd hshort.applicationId (Nat.not_lt.mpr h)

/-- The witness of the first account with an application id of `2 ^ 32` bytes satisfies
the published statement, and the circuit does not accept it. -/
theorem circuit_refuses_long_string :
    PublishedStatement sha256
        (foundersWitness.withApplicationId (ofAscii (List.replicate (2 ^ 32) 0x61))) ∧
      ¬ (evaluate sha256 (foundersWitness.withApplicationId
        (ofAscii (List.replicate (2 ^ 32) 0x61)))).isOk = true := by
  have hfounders : PublishedStatement sha256 foundersWitness :=
    attests_iff_published.mp (evaluate_eq_ok_iff.mp evaluate_foundersWitness).1
  refine ⟨hfounders.withApplicationId _, evaluate_of_long_applicationId ?_⟩
  rw [asBytes_ofAscii, List.length_replicate]
  intro b hb
  rw [List.eq_of_mem_replicate hb]
  decide

end TokenStudio
