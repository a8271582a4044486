import TokenStudio.AttestationVerifier.Soundness
import TokenStudio.ProofgateMessaging.Admission

/-!
# An honest presentation is accepted

The challenge factory, the circuit and the verifier have bounds of their own.
`honest_presentation_accepted` says that they fit together: a holder with an
accepted witness for the gate can present it for a challenge of the gate, and
`verify` accepts the envelope as long as the challenge is live, the proof is
fresh and nothing has expired.

The challenge may have been bound to an admission.  Binding replaces a part of the
nonce, and no check but the signature reads the nonce (`IssuedFor.bound`).
-/

namespace TokenStudio

/-- A bound challenge is issued for the same gate and root, for the same time. -/
theorem IssuedFor.bound {P : Primitives} {gate : GateConfig} {root : Digest32}
    {c bound : VerificationChallenge} (h : IssuedFor P gate root c) {group member : String}
    (hbound : bindAdmissionChallenge P.sha256 c group member = some bound) :
    IssuedFor P gate root bound ∧ bound.issuedAtUnixMs = c.issuedAtUnixMs ∧
      bound.expiresAtUnixMs = c.expiresAtUnixMs := by
  obtain ⟨binding, -, rfl⟩ := bindAdmissionChallenge_eq_some.mp hbound
  exact ⟨⟨h.version, h.context, h.root, h.verifier, h.window, h.ttl⟩, rfl, rfl⟩

/-- A challenge that a gate handed out: as it was created, or bound to an
admission. -/
def Handed (P : Primitives) (created challenge : VerificationChallenge) : Prop :=
  challenge = created ∨
    ∃ group member, bindAdmissionChallenge P.sha256 created group member = some challenge

/-- Both kinds are issued for the gate and the root, for the requested time. -/
theorem handed_of_createChallenge {P : Primitives} {gate : GateConfig} {root : Digest32}
    {verifierId : String} {createdAt ttlMs : UInt64} {nonce : Digest32}
    {created challenge : VerificationChallenge}
    (hcreate : createChallenge P gate root verifierId createdAt ttlMs nonce = .ok created)
    (hhanded : Handed P created challenge) :
    gate.validate = .ok () ∧ IssuedFor P gate root challenge ∧
      challenge.issuedAtUnixMs = createdAt ∧
      challenge.expiresAtUnixMs.toNat = createdAt.toNat + ttlMs.toNat := by
  obtain ⟨hgate, hissued, hbegin, hend⟩ := createChallenge_eq_ok hcreate
  rcases hhanded with rfl | ⟨group, member, hbound⟩
  · exact ⟨hgate, hissued, hbegin, hend⟩
  · obtain ⟨hissued', hbegin', hend'⟩ := hissued.bound hbound
    exact ⟨hgate, hissued', hbegin'.trans hbegin, by rw [hend', hend]⟩

/-- The envelope that an honest holder sends. -/
def honestEnvelope (P : Primitives) (journal : AttestationJournal) (receipt : Bytes)
    (challenge : VerificationChallenge) (signingKey : P.ed25519.SigningKey)
    (transport : ProofTransport) (message : Digest32) : AttestationEnvelope where
  journal := journal
  receipt := receipt
  challenge := challenge
  presenterSignature := (P.ed25519.sign signingKey message.toList).toList
  transport := transport

/-- An honest presentation passes every check of `validate_claims_and_signature`. -/
theorem claimsValid_honest {P : Primitives} {gate : GateConfig} (hgate : gate.validate = .ok ())
    {root : Digest32} {challenge : VerificationChallenge}
    (hissued : IssuedFor P gate root challenge) {witness : BalanceAttestationWitness}
    {journal : AttestationJournal} (hcontext : witness.gateContext = gate.context)
    (hroot : witness.commitmentRoot = root) (heval : evaluate P.sha256 witness = .ok journal)
    {receipt : Bytes} {signingKey : P.ed25519.SigningKey}
    (hkey : P.ed25519.publicKey signingKey = journal.presenterPublicKey) {message : Digest32}
    (hmessage : presentationMessage P.sha256 challenge receipt = some message)
    (hsign : P.ed25519.SignsOwn signingKey message.toList) (transport : ProofTransport)
    {nowUnixMs : UInt64} (hbegun : challenge.issuedAtUnixMs.toNat ≤ nowUnixMs.toNat + 30000)
    (hlive : nowUnixMs ≤ challenge.expiresAtUnixMs)
    (hproof : journal.issuedAtUnixMs.toNat ≤ nowUnixMs.toNat + 30000)
    (hage : nowUnixMs.toNat ≤ journal.issuedAtUnixMs.toNat + 600000)
    (hafter : challenge.issuedAtUnixMs.toNat ≤ journal.issuedAtUnixMs.toNat + 600000)
    (hexpiry : ∀ e, gate.context.expiresAtUnixMs = some e → nowUnixMs ≤ e) :
    ClaimsValid P
      { envelope := honestEnvelope P journal receipt challenge signingKey transport message
        expectedChallenge := challenge
        expectedGate := gate
        expectedVerifierId := gate.context.verifierId
        nowUnixMs } := by
  obtain ⟨-, hnew⟩ := evaluate_eq_ok_iff.mp heval
  have hversion := AttestationJournal.new_version hnew
  obtain ⟨hhash, howner, hdefinition, hthreshold, hjroot, -, -, hjexpiry⟩ :=
    AttestationJournal.new_eq_some hnew
  rw [hcontext] at hhash howner hdefinition hthreshold hjexpiry
  have hskew : maxClockSkewMs.toNat = 30000 := rfl
  have hmaxAge : maxProofAgeMs.toNat = 600000 := rfl
  exact
    { gate := hgate
      challenge := rfl
      journalVersion := hversion
      challengeVersion := hissued.version
      window := decide_eq_true hissued.window
      ttl := hissued.ttl
      live := decide_eq_false (UInt64.not_lt.mpr hlive)
      begun := by
        show challenge.issuedAtUnixMs ≤ saturatingAdd nowUnixMs maxClockSkewMs
        rw [le_saturatingAdd_iff, hskew]
        exact hbegun
      verifier := hissued.verifier
      gateVerifier := hissued.verifier
      challengeContext := hissued.context
      journalContext := hhash
      root := by
        show journal.commitmentRoot = challenge.expectedCommitmentRoot
        rw [hjroot, hroot, hissued.root]
      owner := howner
      definition := hdefinition
      threshold := hthreshold
      expiry := hjexpiry
      unexpired := by
        show isAfter nowUnixMs journal.expiresAtUnixMs = false
        rw [hjexpiry]
        exact isAfter_eq_false.mpr hexpiry
      issued := by
        show journal.issuedAtUnixMs ≤ saturatingAdd nowUnixMs maxClockSkewMs
        rw [le_saturatingAdd_iff, hskew]
        exact hproof
      age := by
        show saturatingSub nowUnixMs journal.issuedAtUnixMs ≤ maxProofAgeMs
        rw [saturatingSub_le_iff, hmaxAge]
        exact hage
      afterChallenge := by
        show challenge.issuedAtUnixMs ≤ saturatingAdd journal.issuedAtUnixMs maxProofAgeMs
        rw [le_saturatingAdd_iff, hmaxAge]
        exact hafter
      signature := by
        unfold Ed25519.SignsOwn at hsign
        rw [hkey] at hsign
        exact ⟨message, hmessage, hsign⟩ }

/-- Every challenge of a valid gate can be signed. -/
theorem IssuedFor.exists_message {P : Primitives} {gate : GateConfig} {root : Digest32}
    {challenge : VerificationChallenge} (h : IssuedFor P gate root challenge)
    (hgate : gate.validate = .ok ()) (receipt : Bytes) :
    ∃ message, presentationMessage P.sha256 challenge receipt = some message := by
  have hlength : (asBytes challenge.verifierId).length < 2 ^ 32 := by
    have hlabel := (GateConfig.label_lengths hgate).2.2
    rw [h.verifier]
    omega
  simp [presentationMessage, presentationBytes, VerificationChallenge.canonicalBytes,
    writeString_of_lt hlength]

/-- What `present` makes of the journal of an accepted witness. -/
theorem present_honest {P : Primitives} {gate : GateConfig} {root : Digest32}
    {challenge : VerificationChallenge} (hissued : IssuedFor P gate root challenge)
    {witness : BalanceAttestationWitness} {journal : AttestationJournal}
    (hcontext : witness.gateContext = gate.context) (hroot : witness.commitmentRoot = root)
    (heval : evaluate P.sha256 witness = .ok journal) {receipt : Bytes}
    {signingKey : P.ed25519.SigningKey}
    (hkey : P.ed25519.publicKey signingKey = journal.presenterPublicKey) {message : Digest32}
    (hmessage : presentationMessage P.sha256 challenge receipt = some message)
    (transport : ProofTransport) :
    present P ⟨journal, receipt⟩ challenge signingKey transport =
      .ok (honestEnvelope P journal receipt challenge signingKey transport message) := by
  obtain ⟨-, hnew⟩ := evaluate_eq_ok_iff.mp heval
  obtain ⟨hhash, -, -, -, hjroot, -⟩ := AttestationJournal.new_eq_some hnew
  have hjcontext : journal.contextHash = challenge.gateContextHash := by
    rw [hcontext] at hhash
    exact Option.some.inj (hhash.symm.trans hissued.context)
  have hjroot' : journal.commitmentRoot = challenge.expectedCommitmentRoot := by
    rw [hjroot, hroot, hissued.root]
  simp [present, hkey, hjroot', hjcontext, hmessage, honestEnvelope]

/-- Honest presentations are accepted.  For a challenge that the gate created, bound
to an admission or not, a holder with an accepted witness, its receipt and its key
can present, and `verify` accepts the envelope at every time in the stated bounds,
on every cache without the digest of the challenge. -/
theorem honest_presentation_accepted {P : Primitives} {gate : GateConfig} {root : Digest32}
    {createdAt ttlMs : UInt64} {nonce : Digest32} {created challenge : VerificationChallenge}
    (hcreate : createChallenge P gate root gate.context.verifierId createdAt ttlMs nonce =
      .ok created)
    (hhanded : Handed P created challenge) {witness : BalanceAttestationWitness}
    {journal : AttestationJournal} (hcontext : witness.gateContext = gate.context)
    (hroot : witness.commitmentRoot = root) (heval : evaluate P.sha256 witness = .ok journal)
    {receipt : Bytes} (hreceipt : verifyReceipt P.risc0 ⟨journal, receipt⟩ = .ok journal)
    {signingKey : P.ed25519.SigningKey}
    (hkey : P.ed25519.publicKey signingKey = journal.presenterPublicKey)
    (hsign : ∀ message, presentationMessage P.sha256 challenge receipt = some message →
      P.ed25519.SignsOwn signingKey message.toList)
    (transport : ProofTransport) :
    ∃ envelope, present P ⟨journal, receipt⟩ challenge signingKey transport = .ok envelope ∧
      ∀ (nowUnixMs : UInt64) (cache : InMemoryReplayCache),
        createdAt.toNat ≤ nowUnixMs.toNat + 30000 →
        nowUnixMs.toNat ≤ createdAt.toNat + ttlMs.toNat →
        journal.issuedAtUnixMs.toNat ≤ nowUnixMs.toNat + 30000 →
        nowUnixMs.toNat ≤ journal.issuedAtUnixMs.toNat + 600000 →
        createdAt.toNat ≤ journal.issuedAtUnixMs.toNat + 600000 →
        (∀ expiry, gate.context.expiresAtUnixMs = some expiry → nowUnixMs ≤ expiry) →
        (∀ digest, challenge.digest P.sha256 = some digest → digest ∉ cache.consumed) →
        (verify P
          { envelope, expectedChallenge := challenge, expectedGate := gate
            expectedVerifierId := gate.context.verifierId, nowUnixMs } cache).1.isOk := by
  obtain ⟨hgate, hissued, hbegin, hend⟩ := handed_of_createChallenge hcreate hhanded
  obtain ⟨message, hmessage⟩ := hissued.exists_message hgate receipt
  refine ⟨honestEnvelope P journal receipt challenge signingKey transport message,
    present_honest hissued hcontext hroot heval hkey hmessage transport, ?_⟩
  intro nowUnixMs cache hbegun hlive hproof hage hafter hexpiry hfresh
  rw [← hbegin] at hbegun hafter
  have hlive' : nowUnixMs ≤ challenge.expiresAtUnixMs := by
    rw [UInt64.le_iff_toNat_le, hend]
    exact hlive
  have hclaims := claimsValid_honest hgate hissued hcontext hroot heval hkey hmessage
    (hsign message hmessage) transport hbegun hlive' hproof hage hafter hexpiry
  exact verify_eq_ok_iff.mpr ⟨⟨hclaims, hreceipt⟩, hfresh⟩

/-- The challenge of the tests, and the signature of the first account for it. -/
theorem foundersSeed_signs_presentation :
    createChallenge foundersPrimitives foundersGate foundersRoot "logos-chat:founders" 1000 500
        (List.Vector.replicate 32 5) = .ok foundersEnvelope.challenge ∧
      Edwards25519.group.publicKey foundersSeed = foundersKey ∧
      (presentationMessage sha256 foundersEnvelope.challenge foundersEnvelope.receipt).map
          (fun message => (Edwards25519.group.sign foundersSeed message.toList).toList) =
        some foundersEnvelope.presenterSignature := by
  decide +kernel

theorem honest_presentation_accepted_founders :
    ∃ envelope, present foundersPrimitives ⟨foundersJournal, foundersEnvelope.receipt⟩
        foundersEnvelope.challenge foundersSeed .local = .ok envelope ∧
      (verify foundersPrimitives
        { envelope, expectedChallenge := foundersEnvelope.challenge, expectedGate := foundersGate
          expectedVerifierId := "logos-chat:founders", nowUnixMs := 1200 } ⟨∅⟩).1.isOk := by
  have hok := verify_foundersRequest_isOk
  have hpresentable := (verify_eq_ok_iff.mp hok).1
  obtain ⟨hcreate, hkey, hsigned⟩ := foundersSeed_signs_presentation
  have hsign : ∀ message, presentationMessage sha256 foundersEnvelope.challenge
      foundersEnvelope.receipt = some message →
      foundersPrimitives.ed25519.SignsOwn foundersSeed message.toList := by
    intro message hmessage
    obtain ⟨message', hmessage', haccepts⟩ := hpresentable.claims.signature
    obtain rfl : message = message' := Option.some.inj (hmessage.symm.trans hmessage')
    rw [hmessage, Option.map_some, Option.some.injEq] at hsigned
    show foundersPrimitives.ed25519.Accepts (Edwards25519.group.publicKey foundersSeed)
      (Edwards25519.group.sign foundersSeed message.toList).toList message.toList
    rw [hkey, hsigned]
    exact haccepts
  obtain ⟨envelope, hpresent, haccepted⟩ := honest_presentation_accepted
    (P := foundersPrimitives) hcreate (Or.inl rfl) rfl rfl evaluate_foundersWitness
    hpresentable.receipt hkey hsign .local
  refine ⟨envelope, hpresent, haccepted 1200 ⟨∅⟩ (by decide) (by decide) (by decide) (by decide)
    (by decide) ?_ (by simp)⟩
  intro expiry hexpiry
  obtain rfl : 2000000 = expiry := Option.some.inj hexpiry
  decide

end TokenStudio
