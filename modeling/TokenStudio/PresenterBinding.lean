import Mathlib.Logic.Equiv.Basic
import TokenStudio.BalanceGate.Soundness
import TokenStudio.CodeLib.Ed25519Laws

/-!
# Which presenter keys bind a signature to one message

Both verifiers accept a signature through the non-strict `Verifier::verify`,
and the circuit refuses only the all-zero encoding of a presenter key.  So a
holder can have a proof for a key of small order, such as the encoding of the
neutral element.  `authorizesOne_iff` says that these keys are the exact
exception: a key binds each of its signatures to one presentation message, off
the chain and on it, if and only if eight times its point is not zero.

`neutral_key_signs_twice` is the failure on the curve itself.  The circuit
admits the key, and one signature is accepted for two challenges by `verify`
and for two badge accounts by `evaluate_claim`.

The hash scalar enters with two assumptions.  `SeparatesScalars` is that two
different messages have different scalars, and it is part of the property.
`HasOctetPair` is that for some gate two claims have scalars that are multiples
of eight; about one message in eight has such a scalar.
-/

namespace TokenStudio

/-- The primitives with Ed25519 over a given group. -/
def Primitives.over (E : EdGroup) (sha256 : Bytes → Digest32) (risc0 : Risc0) : Primitives where
  sha256 := sha256
  ed25519 := E.ed25519
  risc0 := risc0

namespace EdGroup

variable (E : EdGroup)

/-- Under a key and a signature, the two messages have different scalars if they
are different. -/
def SeparatesScalars (key : PublicKey32) (signature : Signature) (m m' : Digest32) : Prop :=
  E.challengeScalar (signatureR signature) key m.toList ≡
    E.challengeScalar (signatureR signature) key m'.toList [MOD groupOrder] → m = m'

end EdGroup

section

variable (E : EdGroup) (sha256 : Bytes → Digest32) (risc0 : Risc0)

/-- A key and a signature authorize one message only: `verify` accepts them for
at most one presentation message, and `evaluate_claim` for at most one on-chain
presentation message. -/
structure AuthorizesOne (key : PublicKey32) (signature : Signature) : Prop where
  offChain : ∀ (r r' : VerifyRequest) (cache cache' : InMemoryReplayCache) (m m' : Digest32),
    r.envelope.journal.presenterPublicKey = key →
    r'.envelope.journal.presenterPublicKey = key →
    r.envelope.presenterSignature = signature.toList →
    r'.envelope.presenterSignature = signature.toList →
    presentationMessage sha256 r.envelope.challenge r.envelope.receipt = some m →
    presentationMessage sha256 r'.envelope.challenge r'.envelope.receipt = some m' →
    E.SeparatesScalars key signature m m' →
    (verify (.over E sha256 risc0) r cache).1.isOk →
    (verify (.over E sha256 risc0) r' cache').1.isOk → m = m'
  onChain : ∀ (state state' : GateState) (programId programId' : ProgramId)
      (claimAccountId claimAccountId' : Digest32) (access access' : ClaimAccess),
    access.journal.presenterPublicKey = key →
    access'.journal.presenterPublicKey = key →
    access.presenterSignature = signature.toList →
    access'.presenterSignature = signature.toList →
    E.SeparatesScalars key signature
      (onChainPresentationMessage sha256 (state.challenge programId claimAccountId)
        access.journal)
      (onChainPresentationMessage sha256 (state'.challenge programId' claimAccountId')
        access'.journal) →
    (evaluateClaim (.over E sha256 risc0) state programId claimAccountId access).isOk →
    (evaluateClaim (.over E sha256 risc0) state' programId' claimAccountId' access').isOk →
    onChainPresentationMessage sha256 (state.challenge programId claimAccountId)
        access.journal =
      onChainPresentationMessage sha256 (state'.challenge programId' claimAccountId')
        access'.journal

/-- A journal that a gate admits, as far as the signature is not concerned. -/
structure GateAdmits (state : GateState) (journal : OnChainAttestationJournal) : Prop where
  validState : state.validate = .ok ()
  version : journal.version = attestationJournalVersion
  context : journal.contextHash = state.contextHash
  expiry : journal.expiresAtUnixMs = state.expiresAtUnixMs
  owner : journal.tokenProgramOwner = state.tokenProgramOwner
  definition : journal.tokenDefinitionId = state.tokenDefinitionId
  threshold : journal.threshold = state.threshold
  root : journal.commitmentRoot = state.commitmentRoot
  counter : state.claimCounter = 0

/-- Some gate has two claims with the key whose scalars are different multiples
of eight. -/
def HasOctetPair (key : PublicKey32) : Prop :=
  ∃ (s : Nat) (state : GateState) (programId : ProgramId) (journal : OnChainAttestationJournal)
    (claimAccountId claimAccountId' : Digest32),
    let scalar id := E.challengeScalar (E.compress (E.smul s E.base)) key
      (onChainPresentationMessage sha256 (state.challenge programId id) journal).toList
    s < groupOrder ∧ GateAdmits state journal ∧ journal.presenterPublicKey = key ∧
      8 ∣ scalar claimAccountId ∧ 8 ∣ scalar claimAccountId' ∧
      ¬ scalar claimAccountId ≡ scalar claimAccountId' [MOD groupOrder]

end

section

variable {E : EdGroup} {sha256 : Bytes → Digest32} {risc0 : Risc0} {Γ : Type} [AddCommGroup Γ]

/-- The verification behind an accepted byte string. -/
theorem verify_of_accepts {key : PublicKey32} {A : E.Point} (hkey : E.decompress key = some A)
    {signature : Signature} {message : Bytes} :
    E.ed25519.Accepts key signature.toList message ↔
      E.verify ⟨key, A⟩ message signature = true := by
  have hfrom : E.ed25519.fromBytes key = some ⟨key, A⟩ := by
    show E.fromBytes key = some ⟨key, A⟩
    simp [EdGroup.fromBytes, hkey]
  have hslice : Signature.fromSlice signature.toList = some signature := by
    rw [Signature.fromSlice, dif_pos signature.toList_length]
    exact congrArg some (List.Vector.eq _ _ rfl)
  constructor
  · rintro ⟨verifyingKey, hverifyingKey, sig, hsig, hverify⟩
    rw [hfrom] at hverifyingKey
    rw [hslice] at hsig
    cases hverifyingKey
    cases hsig
    exact hverify
  · intro h
    exact ⟨_, hfrom, _, hslice, h⟩

/-- A key that is not of small order binds a signature to one of two messages
with different scalars. -/
theorem message_unique (L : E.GroupLaws Γ) {key : PublicKey32} {A : E.Point}
    (hkey : E.decompress key = some A) (hsmall : 8 • L.val A ≠ 0) {signature : Signature}
    {m m' : Digest32} (hseparates : E.SeparatesScalars key signature m m')
    (h : E.ed25519.Accepts key signature.toList m.toList)
    (h' : E.ed25519.Accepts key signature.toList m'.toList) : m = m' := by
  rw [verify_of_accepts hkey] at h h'
  refine hseparates (EdGroup.modEq_of_verify L ?_ ?_ h h')
  · exact L.decompress_valid hkey
  · exact hsmall

/-- Such a key authorizes one message with each of its signatures. -/
theorem authorizesOne_of_order (L : E.GroupLaws Γ) {key : PublicKey32} {A : E.Point}
    (hkey : E.decompress key = some A) (hsmall : 8 • L.val A ≠ 0) (signature : Signature) :
    AuthorizesOne E sha256 risc0 key signature := by
  constructor
  · intro r r' cache cache' m m' hk hk' hs hs' hm hm' hseparates hok hok'
    obtain ⟨message, hmessage, haccepts⟩ := (verify_eq_ok_iff.mp hok).1.claims.signature
    obtain ⟨message', hmessage', haccepts'⟩ := (verify_eq_ok_iff.mp hok').1.claims.signature
    obtain rfl : message = m := Option.some.inj (hmessage.symm.trans hm)
    obtain rfl : message' = m' := Option.some.inj (hmessage'.symm.trans hm')
    rw [hk, hs] at haccepts
    rw [hk', hs'] at haccepts'
    exact message_unique L hkey hsmall hseparates haccepts haccepts'
  · intro state state' programId programId' id id' access access' hk hk' hs hs' hseparates hok hok'
    obtain ⟨result, hresult⟩ := Outcome.isOk_iff.mp hok
    obtain ⟨result', hresult'⟩ := Outcome.isOk_iff.mp hok'
    have haccepts := (evaluateClaim_eq_ok_iff.mp hresult).1.signature
    have haccepts' := (evaluateClaim_eq_ok_iff.mp hresult').1.signature
    rw [hk, hs] at haccepts
    rw [hk', hs'] at haccepts'
    exact message_unique L hkey hsmall hseparates haccepts haccepts'

/-- A claim that a gate admits is accepted once its signature is. -/
theorem evaluateClaim_isOk_of_accepts {P : Primitives} {state : GateState}
    {programId : ProgramId} {claimAccountId : Digest32} {access : ClaimAccess}
    (hadmits : GateAdmits state access.journal)
    (haccepts : P.ed25519.Accepts access.journal.presenterPublicKey access.presenterSignature
      (onChainPresentationMessage P.sha256 (state.challenge programId claimAccountId)
        access.journal).toList) :
    (evaluateClaim P state programId claimAccountId access).isOk := by
  refine Outcome.isOk_iff.mpr ⟨_, evaluateClaim_eq_ok_iff.mpr ⟨?_, 1, ?_, rfl⟩⟩
  · exact ⟨hadmits.validState, hadmits.version, hadmits.context, hadmits.expiry, hadmits.owner,
      hadmits.definition, hadmits.threshold, hadmits.root, haccepts⟩
  · rw [hadmits.counter]
    rfl

/-- A key authorizes one message with each of its signatures exactly when it is
not of small order. -/
theorem authorizesOne_iff (L : E.GroupLaws Γ) {key : PublicKey32} {A : E.Point}
    (hkey : E.decompress key = some A) (hpair : HasOctetPair E sha256 key) :
    (∀ signature, AuthorizesOne E sha256 risc0 key signature) ↔ 8 • L.val A ≠ 0 := by
  constructor
  · intro hone hsmall
    obtain ⟨s, state, programId, journal, id, id', hs, hadmits, hpresenter, hdvd, hdvd', hne⟩ :=
      hpair
    -- The signature with the point `s * B` fits both messages of the pair.
    have haccepts : ∀ id, 8 ∣ E.challengeScalar (E.compress (E.smul s E.base)) key
        (onChainPresentationMessage sha256 (state.challenge programId id) journal).toList →
        (evaluateClaim (.over E sha256 risc0) state programId id
          ⟨journal, (EdGroup.signatureOf (E.compress (E.smul s E.base)) s).toList⟩).isOk := by
      intro id hdvd
      refine evaluateClaim_isOk_of_accepts hadmits ?_
      rw [hpresenter]
      refine (verify_of_accepts hkey).mpr (EdGroup.verify_of_small_order L ?_ ?_ hs hdvd)
      · exact L.decompress_valid hkey
      · exact hsmall
    have hsame := (hone (EdGroup.signatureOf (E.compress (E.smul s E.base)) s)).onChain state state
      programId programId id id' ⟨journal, _⟩ ⟨journal, _⟩ hpresenter hpresenter rfl rfl
      (by
        intro hmod
        rw [EdGroup.signatureR_signatureOf] at hmod
        exact absurd hmod hne)
      (haccepts id hdvd) (haccepts id' hdvd')
    have hscalar : ∀ m m' : Digest32, m = m' →
        E.challengeScalar (E.compress (E.smul s E.base)) key m.toList ≡
          E.challengeScalar (E.compress (E.smul s E.base)) key m'.toList [MOD groupOrder] := by
      rintro m _ rfl
      rfl
    exact hne (hscalar _ _ hsame)
  · intro hsmall signature
    exact authorizesOne_of_order L hkey hsmall signature

end

/-- The encoding of the base point. -/
def baseBytes : List.Vector UInt8 32 := 0x58 ::ᵥ List.Vector.replicate 31 0x66

/-- The scalar of the secret key `[3; 32]`. -/
def foundersScalar : Nat :=
  2593839893587812680884641869622193221572860796049126967112039198692059166474

/-- The encodings of the curve for the base point and for the presenter key of
the tests. -/
def foundersEncodings : Equiv.Perm (List.Vector UInt8 32) :=
  (Equiv.swap (EdGroup.residueBytes 8) baseBytes).trans
    (Equiv.swap (EdGroup.residueBytes (8 * foundersScalar)) foundersKey)

/-- The integers modulo `8 * l` with these encodings. -/
def foundersGroup : EdGroup := .cyclic foundersEncodings

theorem foundersKey_hasOctetPair : HasOctetPair foundersGroup sha256 foundersKey := by
  refine ⟨1, foundersInputs.state, foundersProgramId, .ofAttestationJournal foundersJournal,
    List.Vector.replicate 32 3, List.Vector.replicate 32 15, by decide +kernel, ?_,
    by decide +kernel, by decide +kernel, by decide +kernel, by decide +kernel⟩
  constructor <;> decide +kernel

theorem foundersKey_authorizesOne :
    8 * (8 * foundersScalar) % (8 * groupOrder) ≠ 0 ∧ ∀ signature : Signature,
      AuthorizesOne foundersGroup sha256 foundersPrimitives.risc0 foundersKey signature := by
  have hread : ofLeBytes (foundersEncodings.symm foundersKey).toList =
      8 * foundersScalar % (8 * groupOrder) := by
    decide +kernel
  refine ⟨by decide +kernel, (authorizesOne_iff (EdGroup.cyclicLaws foundersEncodings)
    (congrArg some hread) foundersKey_hasOctetPair).mpr ?_⟩
  show 8 • ((8 * foundersScalar % (8 * groupOrder) : Nat) : ZMod (8 * groupOrder)) ≠ 0
  rw [nsmul_eq_mul, ← Nat.cast_mul, Ne, ZMod.natCast_eq_zero_iff]
  decide +kernel

/-! ## The failure -/

/-- The encoding of the neutral element. -/
def neutralKey : PublicKey32 := 1 ::ᵥ List.Vector.replicate 31 0

/-- The witness of the tests with this presenter key. -/
def neutralWitness : BalanceAttestationWitness :=
  { foundersWitness with presenterPublicKey := neutralKey }

def neutralJournal : AttestationJournal :=
  { foundersJournal with presenterPublicKey := neutralKey }

/-- The signature with the base point and the scalar one. -/
def neutralSignature : Signature := EdGroup.signatureOf baseBytes 1

def neutralPrimitives : Primitives :=
  .standard (.ofReceipt (List.Vector.replicate 8 1) (List.replicate 128 9) neutralJournal)

/-- A presentation of the journal for the challenge with the given nonce. -/
def neutralRequest (nonce : Digest32) : VerifyRequest :=
  let challenge := VerificationChallenge.new foundersContextHash foundersRoot
    "logos-chat:founders" nonce 1000 1500
  { foundersRequest with
    envelope :=
      { journal := neutralJournal
        receipt := List.replicate 128 9
        challenge
        presenterSignature := neutralSignature.toList
        transport := .local }
    expectedChallenge := challenge }

/-- A claim with the journal and the same signature. -/
def neutralAccess : ClaimAccess where
  journal := .ofAttestationJournal neutralJournal
  presenterSignature := neutralSignature.toList

/-- The message of such a presentation. -/
def neutralMessage (nonce : Digest32) : Option Digest32 :=
  presentationMessage sha256 (neutralRequest nonce).envelope.challenge
    (neutralRequest nonce).envelope.receipt

/-- The message of such a claim for the given badge account. -/
def neutralClaimMessage (claimAccountId : Digest32) : Digest32 :=
  onChainPresentationMessage sha256
    (foundersInputs.state.challenge foundersProgramId claimAccountId) neutralAccess.journal

/-- The hash scalar of a message under the key and the signature. -/
def neutralScalar (message : Bytes) : Nat :=
  Edwards25519.group.challengeScalar (EdGroup.signatureR neutralSignature) neutralKey message

/-- The circuit admits the encoding of the neutral element as a presenter key.
With it, one signature is accepted by `verify` for two challenges and by
`evaluate_claim` for two badge accounts, although the scalars of the messages
are different. -/
theorem neutral_key_signs_twice :
    neutralKey ≠ zeroDigest ∧ evaluate sha256 neutralWitness = .ok neutralJournal ∧
    ((verify neutralPrimitives (neutralRequest (List.Vector.replicate 32 5)) ⟨∅⟩).1.isOk ∧
      (verify neutralPrimitives (neutralRequest (List.Vector.replicate 32 6)) ⟨∅⟩).1.isOk ∧
      ∃ m m', neutralMessage (List.Vector.replicate 32 5) = some m ∧
        neutralMessage (List.Vector.replicate 32 6) = some m' ∧ m ≠ m' ∧
        ¬ neutralScalar m.toList ≡ neutralScalar m'.toList [MOD groupOrder]) ∧
    (evaluateClaim neutralPrimitives foundersInputs.state foundersProgramId
        (List.Vector.replicate 32 6) neutralAccess).isOk ∧
      (evaluateClaim neutralPrimitives foundersInputs.state foundersProgramId
        (List.Vector.replicate 32 8) neutralAccess).isOk ∧
      neutralClaimMessage (List.Vector.replicate 32 6) ≠
        neutralClaimMessage (List.Vector.replicate 32 8) ∧
      ¬ neutralScalar (neutralClaimMessage (List.Vector.replicate 32 6)).toList ≡
        neutralScalar (neutralClaimMessage (List.Vector.replicate 32 8)).toList
          [MOD groupOrder] := by
  refine ⟨by decide +kernel, by decide +kernel,
    ⟨by decide +kernel, by decide +kernel, ?_⟩, by decide +kernel, by decide +kernel,
    by decide +kernel, by decide +kernel⟩
  refine ⟨(neutralMessage (List.Vector.replicate 32 5)).get (by decide +kernel),
    (neutralMessage (List.Vector.replicate 32 6)).get (by decide +kernel),
    (Option.some_get _).symm, (Option.some_get _).symm, by decide +kernel, by decide +kernel⟩

end TokenStudio
