import TokenStudio.AttestationCli.ChatTransfer
import TokenStudio.AttestationCli.HolderChallenge
import TokenStudio.AttestationVerifier.Completeness

/-!
# An honest admission

The whole exchange, from the challenge to the group.  The verifier issues a challenge for
a group and a member and sends it.  The holder receives it, presents its proof for it,
and sends the envelope.  The verifier receives and verifies the envelope and asks for
the admission.

`HolderReady`, `PresentationReady` and `VerifierReady` are what the commands of the two
parties find.  `honest_admission` says that under these conditions every command
succeeds and the member is admitted: the checks of the commands fit together, and
so do the formats between them.
-/

namespace TokenStudio

/-! ## Sending the challenge -/

/-- `messaging send-challenge`, with the file that the command finds. -/
def messagingSendChallenge {σ : Type} (C : ClientFormats) (F : Formats) (core : LogosCore σ)
    (client : LogosCoreClient) (conversationId challengePath : String)
    (challenge : JsonFile VerificationChallenge) : Mutating σ String Unit := do
  let challenge ← readJson challengePath challenge
  (client.sendChallenge C F core conversationId challenge).mapErr ReceiveError.toText

/-- The command posts the text of the challenge once, if at all. -/
theorem messagingSendChallenge_emits {σ : Type} {C : ClientFormats} {F : Formats}
    {core : LogosCore σ} {client : LogosCoreClient} {posted : σ → List ChatPost}
    (h : SendsMessages C core client posted) {challenge : VerificationChallenge} {content : String}
    (hcontent : encodeChallenge F challenge = .ok content) (conversationId challengePath : String) :
    Emits posted (messagingSendChallenge C F core client conversationId challengePath
      (.holds challenge)) (postsOf conversationId [content]) :=
  (sendChallenge_emits h hcontent conversationId).mapErr _

/-! ## What the commands find -/

/-- The holder asks for the challenge that was issued, before it expires, and its polls
show this challenge and no other. -/
structure HolderReady (F : Formats) (issue : AdmissionIssue) (content : String)
    (holder : MessagingReceiveChallenge) : Prop where
  gate : holder.gate = some issue.gate
  group : holder.groupId = some issue.groupId
  member : holder.memberAddress = some issue.memberAddress
  poll : holder.pollMs ≠ 0
  shown : content ∈ shownContents holder.expectedSender holder.polls
  only : ∀ text ∈ shownContents holder.expectedSender holder.polls,
    text = content ∨ OffersNothing F text
  inTime : ∃ clock, holder.clock = .ok clock ∧
    (holder.nowUnixMs.getD clock).toNat ≤ issue.nowUnixMs.toNat + issue.ttlMs.toNat
  output : holder.output = .ok ()

/-- The proof is one for the gate and the root, and the key file is that of its
presenter. -/
structure PresentationReady (P : Primitives) (gate : GateConfig) (root : Digest32)
    (challenge : VerificationChallenge) (journal : AttestationJournal) (receipt : Bytes)
    (signingKey : P.ed25519.SigningKey) (args : Presentation P.ed25519) : Prop where
  proof : args.proof = .ok ⟨journal, receipt⟩
  attests : ∃ witness, witness.gateContext = gate.context ∧ witness.commitmentRoot = root ∧
    evaluate P.sha256 witness = .ok journal
  verified : verifyReceipt P.risc0 ⟨journal, receipt⟩ = .ok journal
  challengeFile : args.challenge = .holds challenge
  keyPrivate : args.keyPrivate = .ok ()
  key : args.key = .holds ⟨presenterKeyVersion, signingKey, P.ed25519.publicKey signingKey⟩
  presenter : P.ed25519.publicKey signingKey = journal.presenterPublicKey
  signs : ∀ message, presentationMessage P.sha256 challenge receipt = some message →
    P.ed25519.SignsOwn signingKey message.toList
  transport : args.transport = .logosMessaging
  output : args.output = .ok ()

/-- The verifier waits for the transfer of the member, its polls show the bundle and
nothing else of the transfer, and the time is in the bounds of the challenge and of the
proof. -/
structure VerifierReady (F : Formats) (issue : AdmissionIssue) (gate : GateConfig)
    (challenge : VerificationChallenge) (journal : AttestationJournal) (bundle : TransferBundle)
    (nowUnixMs : UInt64) (command : ReceiveVerify) : Prop where
  challengeFile : command.challenge = .holds challenge
  gateFile : command.gate = .holds gate
  verifierId : command.args.verifierId = none
  group : command.args.admitGroupId = some issue.groupId
  member : command.args.admitAddress = some issue.memberAddress
  sender : command.args.receive.expectedSender = none
  transfer : command.args.receive.transferId = some bundle.transferId
  poll : command.args.receive.pollMs ≠ 0
  shown : ∀ text ∈ bundle.messages, text ∈ shownContents (some issue.memberAddress) command.polls
  only : ∀ text ∈ shownContents (some issue.memberAddress) command.polls,
    text ∈ bundle.messages ∨ wantedMessage? F (some bundle.transferId) text = none
  now : ∃ clock, command.clock = .ok clock ∧ command.args.nowUnixMs.getD clock = nowUnixMs
  begun : issue.nowUnixMs.toNat ≤ nowUnixMs.toNat + 30000
  live : nowUnixMs.toNat ≤ issue.nowUnixMs.toNat + issue.ttlMs.toNat
  proofBegun : journal.issuedAtUnixMs.toNat ≤ nowUnixMs.toNat + 30000
  proofAge : nowUnixMs.toNat ≤ journal.issuedAtUnixMs.toNat + 600000
  unexpired : ∀ expiry, gate.context.expiresAtUnixMs = some expiry → nowUnixMs ≤ expiry
  lock : command.lock = .ok ()
  save : command.save = .ok ()
  output : command.output = .ok ()

/-! ## The commands -/

section

variable {P : Primitives} {F : Formats} {issue : AdmissionIssue} {gate : GateConfig}
  {challenge : VerificationChallenge}

/-- An issued challenge is one for the gate and the root, for the requested time. -/
theorem issuedFor_of_issue (hgate : issue.gate = .holds gate)
    (h : issueAdmissionChallenge P issue = .ok challenge) :
    gate.validate = .ok () ∧ IssuedFor P gate issue.expectedCommitmentRoot challenge ∧
      challenge.issuedAtUnixMs = issue.nowUnixMs ∧
      challenge.expiresAtUnixMs.toNat = issue.nowUnixMs.toNat + issue.ttlMs.toNat := by
  simp only [issueAdmissionChallenge, Outcome.bind_eq_ok, readGateConfig_eq_ok,
    Outcome.mapErr_eq_ok, Outcome.liftM_eq, Outcome.ofOption_eq_ok, Outcome.exists_unit,
    Outcome.pure_eq, Outcome.ok.injEq] at h
  obtain ⟨gate', ⟨hfile, -⟩, created, hcreate, bound, hbound, -, rfl⟩ := h
  obtain rfl : gate = gate' := JsonFile.holds.inj (hgate.symm.trans hfile)
  exact handed_of_createChallenge hcreate (Or.inr ⟨_, _, hbound⟩)

/-- The holder receives the challenge that was issued. -/
theorem messagingReceiveChallenge_honest (hread : F.ReadsChallenges)
    (hgate : issue.gate = .holds gate) (hissue : issueAdmissionChallenge P issue = .ok challenge)
    {content : String} (hcontent : encodeChallenge F challenge = .ok content)
    {holder : MessagingReceiveChallenge} (h : HolderReady F issue content holder) :
    messagingReceiveChallenge F P.sha256 holder = .ok challenge := by
  obtain ⟨hvalid, hissued, -, hend⟩ := issuedFor_of_issue hgate hissue
  have hparsed := readChallenge_encodeChallenge hread hcontent
  have hoffered := offeredChallenge?_encodeChallenge hread hcontent
    (decide_eq_true hissued.window)
  have hreceive := receiveChallenge_of_one (by rw [hparsed]; simp) hoffered h.only
  rw [if_pos h.shown] at hreceive
  obtain ⟨clock, hclock, hlive⟩ := h.inTime
  have hexpired : challenge.isExpired (holder.nowUnixMs.getD clock) = false := by
    refine decide_eq_false (UInt64.not_lt.mpr ?_)
    rw [UInt64.le_iff_toNat_le, hend]
    exact hlive
  rw [messagingReceiveChallenge_eq_ok_iff (by rw [h.gate]; rfl) h.group h.member]
  exact ⟨h.poll, h.output, gate, hreceive, by rw [h.gate, hgate], hvalid, hissued.context,
    hissued.verifier, admissionChallengeMatches_of_issue hissue, clock, hclock, hexpired⟩

/-- The holder presents its proof for the challenge. -/
theorem createPresentation_honest
    (hissued : IssuedFor P gate issue.expectedCommitmentRoot challenge)
    {journal : AttestationJournal} {receipt : Bytes} {signingKey : P.ed25519.SigningKey}
    {args : Presentation P.ed25519}
    (h : PresentationReady P gate issue.expectedCommitmentRoot challenge journal receipt
      signingKey args) {message : Digest32}
    (hmessage : presentationMessage P.sha256 challenge receipt = some message) :
    createPresentation P args =
      .ok (honestEnvelope P journal receipt challenge signingKey .logosMessaging message) := by
  obtain ⟨witness, hcontext, hroot, heval⟩ := h.attests
  have hpresent := present_honest hissued hcontext hroot heval h.presenter hmessage .logosMessaging
  have hkey : PresenterKeyFile.signingKey (E := P.ed25519)
      ⟨presenterKeyVersion, signingKey, P.ed25519.publicKey signingKey⟩ = .ok signingKey := by
    simp [PresenterKeyFile.signingKey]
  simp [createPresentation, h.proof, h.challengeFile, h.keyPrivate, h.key, h.transport, h.output,
    readJson, hkey, hpresent]

/-- The verifier comes to the verification with the envelope that was sent. -/
theorem receivePrefix_honest (hF : F.Lawful)
    (hissue : issueAdmissionChallenge P issue = .ok challenge) {journal : AttestationJournal}
    {envelope : AttestationEnvelope} (henvelope : envelope.challenge = challenge)
    {chunkBytes : Nat} {bundle : TransferBundle} {bytes : Bytes} {challengeDigest : Digest32}
    (hpacked : Packed F P.sha256 envelope chunkBytes bundle.transferId bundle bytes
      challengeDigest) {nowUnixMs : UInt64} {command : ReceiveVerify}
    (h : VerifierReady F issue gate challenge journal bundle nowUnixMs command) :
    receivePrefix F P.sha256 command = .ok
      { envelope
        admission := some (issue.groupId, issue.memberAddress)
        verifyArgs :=
          { gate := .holds gate
            envelope
            expectedChallenge := challenge
            expectedVerifierId := none
            nowUnixMs
            lock := .ok ()
            save := .ok () } } := by
  obtain ⟨clock, hclock, hnow⟩ := h.now
  have hreceive : receivePresentation F P.sha256
      { command.args.receive with expectedSender := some issue.memberAddress } command.polls =
        .ok (bundle.transferId, envelope) := by
    rw [receivePresentation, Outcome.check_of_not h.poll, Outcome.ok_bind, h.transfer,
      hpacked.receiveEnvelope_of_honest hF command.polls h.only, if_pos h.shown, Outcome.mapErr_ok]
  have hbound : requireBound P.sha256 envelope.challenge
      (some (issue.groupId, issue.memberAddress)) = .ok () := by
    rw [henvelope]
    exact requireBound_eq_ok.mpr (admissionChallengeMatches_of_issue hissue)
  have hresolve : resolveAdmission command.args = .ok
      ({ command.args.receive with expectedSender := some issue.memberAddress },
        some (issue.groupId, issue.memberAddress)) := by
    simp [resolveAdmission, h.group, h.member, h.sender]
  simp only [receivePrefix, h.challengeFile, readJson, Outcome.ok_bind, hresolve, hreceive, hbound,
    hclock, Outcome.pure_eq, h.gateFile, h.verifierId, hnow, h.lock, h.save]

/-- The verifier accepts the envelope of the holder on every file without the digest of
the challenge. -/
theorem verifyReceivedPresentation_honest (hgate : issue.gate = .holds gate)
    (hissue : issueAdmissionChallenge P issue = .ok challenge)
    {journal : AttestationJournal} {receipt : Bytes} {signingKey : P.ed25519.SigningKey}
    {args : Presentation P.ed25519}
    (hpresentation : PresentationReady P gate issue.expectedCommitmentRoot challenge journal
      receipt signingKey args) {message : Digest32}
    (hmessage : presentationMessage P.sha256 challenge receipt = some message)
    {bundle : TransferBundle} {nowUnixMs : UInt64} {command : ReceiveVerify}
    (h : VerifierReady F issue gate challenge journal bundle nowUnixMs command)
    (hafter : issue.nowUnixMs.toNat ≤ journal.issuedAtUnixMs.toNat + 600000) {path : String}
    {file : JsonFile ReplayCacheFile} {cache : InMemoryReplayCache}
    (hload : loadReplayCache path file = .ok cache)
    (hfresh : ∀ digest, challenge.digest P.sha256 = some digest → digest ∉ cache.consumed) :
    ∃ outcome file' digest, challenge.digest P.sha256 = some digest ∧
      digest ∈ storedDigests path file' ∧
      verifyReceivedPresentation P path
        { gate := .holds gate
          envelope := honestEnvelope P journal receipt challenge signingKey .logosMessaging message
          expectedChallenge := challenge
          expectedVerifierId := none
          nowUnixMs
          lock := .ok ()
          save := .ok () } file = (.ok outcome, file') := by
  obtain ⟨hvalid, hissued, hbegin, hend⟩ := issuedFor_of_issue hgate hissue
  obtain ⟨witness, hcontext, hroot, heval⟩ := hpresentation.attests
  have hlive : nowUnixMs ≤ challenge.expiresAtUnixMs := by
    rw [UInt64.le_iff_toNat_le, hend]
    exact h.live
  have hclaims := claimsValid_honest hvalid hissued hcontext hroot heval hpresentation.presenter
    hmessage (hpresentation.signs message hmessage) .logosMessaging (by rw [hbegin]; exact h.begun)
    hlive h.proofBegun h.proofAge (by rw [hbegin]; exact hafter) h.unexpired
  have hok := verify_eq_ok_iff.mpr ⟨⟨hclaims, hpresentation.verified⟩, hfresh⟩
  obtain ⟨attestation, hattestation⟩ := Outcome.isOk_iff.mp hok
  rcases verifyReceivedPresentation_cases P path
      { gate := .holds gate
        envelope := honestEnvelope P journal receipt challenge signingKey .logosMessaging message
        expectedChallenge := challenge
        expectedVerifierId := none
        nowUnixMs
        lock := .ok ()
        save := .ok () } file with
    ⟨outcome, file', gate', cache', digest, hverify, haccepted⟩ | ⟨hfail, -⟩
  · exact ⟨outcome, file', digest, haccepted.digest_eq, haccepted.mem_stored, hverify⟩
  · -- every step of the plan succeeds
    exfalso
    have hread : readGateConfig (.holds gate) = .ok gate := readGateConfig_eq_ok.mpr ⟨rfl, hvalid⟩
    rw [verifyReceivedPresentation_eq, Mutating.commit_fst] at hfail
    simp only [verifyPlan, hread, hload, Outcome.ok_bind, VerifyArgs.request, Option.getD_none,
      hattestation, Outcome.mapErr_ok, Outcome.pure_eq, Outcome.isOk] at hfail
    cases hfail

/-- An honest admission.  The verifier has issued a challenge for a group and a member.
Whatever calls fail, it sends the text of this challenge and nothing else.  The holder
receives the challenge, presents its proof for it, and sends the envelope, and the
verifier receives it, at any times in the stated bounds.  Then the holder has the
challenge and the envelope, and the command of the verifier has exactly three
effects: it consumes the challenge, keeps the envelope, and admits the member. -/
theorem honest_admission (hF : F.Lawful) (hread : F.ReadsChallenges)
    (hgate : issue.gate = .holds gate) (hissue : issueAdmissionChallenge P issue = .ok challenge)
    {content : String} (hcontent : encodeChallenge F challenge = .ok content)
    {holder : MessagingReceiveChallenge} (hholder : HolderReady F issue content holder)
    {journal : AttestationJournal} {receipt : Bytes} {signingKey : P.ed25519.SigningKey}
    {args : Presentation P.ed25519}
    (hpresentation : PresentationReady P gate issue.expectedCommitmentRoot challenge journal
      receipt signingKey args)
    (hafter : issue.nowUnixMs.toNat ≤ journal.issuedAtUnixMs.toNat + 600000) :
    (∀ {σ : Type} {C : ClientFormats} {core : LogosCore σ} {client : LogosCoreClient}
        {posted : σ → List ChatPost}, SendsMessages C core client posted →
        ∀ conversationId challengePath : String,
          Emits posted (messagingSendChallenge C F core client conversationId challengePath
            (.holds challenge)) (postsOf conversationId [content])) ∧
      messagingReceiveChallenge F P.sha256 holder = .ok challenge ∧
      ∃ envelope, createPresentation P args = .ok envelope ∧
        ∀ (send : MessagingSend) (bundle : TransferBundle) (nowUnixMs : UInt64)
          (command : ReceiveVerify) (path : String) (s : ChatVerifier)
          (cache : InMemoryReplayCache),
          send.envelope = .holds envelope → send.bundle F P.sha256 = .ok bundle →
          VerifierReady F issue gate challenge journal bundle nowUnixMs command →
          loadReplayCache path s.replayCache = .ok cache →
          (∀ digest, challenge.digest P.sha256 = some digest → digest ∉ cache.consumed) →
          ∃ file digest, challenge.digest P.sha256 = some digest ∧
            digest ∈ storedDigests path file ∧
            (receiveVerify P F path command s).2 =
              { replayCache := file
                effects := s.effects ++ [.saveReplayCache file, .writePresentation envelope,
                  .addGroupMember issue.groupId issue.memberAddress] } := by
  obtain ⟨hvalid, hissued, -, -⟩ := issuedFor_of_issue hgate hissue
  obtain ⟨message, hmessage⟩ := hissued.exists_message hvalid receipt
  refine ⟨fun hsends => messagingSendChallenge_emits hsends hcontent,
    messagingReceiveChallenge_honest hread hgate hissue hcontent hholder,
    honestEnvelope P journal receipt challenge signingKey .logosMessaging message,
    createPresentation_honest hissued hpresentation hmessage, ?_⟩
  intro send bundle nowUnixMs command path s cache henvelope hbundle hready hload hfresh
  obtain ⟨-, -, envelope, henvelope', bytes, challengeDigest, hpacked, -⟩ :=
    MessagingSend.bundle_eq_ok.mp hbundle
  obtain rfl := JsonFile.holds.inj (henvelope.symm.trans henvelope')
  obtain ⟨outcome, file, digest, hdigest, hstored, hverify⟩ :=
    verifyReceivedPresentation_honest hgate hissue hpresentation hmessage hready hafter hload hfresh
  have hprefix := receivePrefix_honest hF hissue rfl hpacked hready
  refine ⟨file, digest, hdigest, hstored, ?_⟩
  rw [receiveVerify_of_ok hprefix hverify, hready.output]
  rfl

end

/-! ### The admission of alice -/

/-- The files of alice when she presents. -/
def alicePresentation : Presentation foundersPrimitives.ed25519 where
  proof := .ok ⟨foundersJournal, foundersEnvelope.receipt⟩
  challengePath := "challenge.json"
  challenge := .holds aliceChallenge
  keyPath := "presenter.json"
  keyPrivate := .ok ()
  key := .holds ⟨presenterKeyVersion, foundersSeed, foundersKey⟩
  transport := .logosMessaging
  output := .ok ()

/-- The signature of the first account for the challenge. -/
theorem foundersSeed_signs_alice :
    (presentationMessage sha256 aliceChallenge foundersEnvelope.receipt).map
      (fun message => (Edwards25519.group.sign foundersSeed message.toList).toList) =
        some aliceEnvelope.presenterSignature := by
  decide +kernel

/-- The transfer of alice, with the formats that also know her challenge. -/
def aliceSend : MessagingSend where
  conversationId := "founders"
  envelopePath := "envelope.json"
  envelope := .holds aliceEnvelope
  chunkBytes := 2048
  copies := 1
  random := chatRandom

theorem admissionFormats_lawful : admissionFormats.Lawful := by
  have h := aliceFormats_lawful
  unfold admissionFormats
  generalize aliceFormats = F at *
  exact ⟨h.message, h.envelope, h.empty⟩

theorem packed_admissionFormats :
    Packed admissionFormats sha256 aliceEnvelope 2048 chatTransferId aliceBundle aliceBytes
      aliceDigest := by
  have h := aliceTransfer_packed
  unfold admissionFormats
  generalize aliceFormats = F at *
  exact ⟨h.transport, h.chunkBytes_pos, h.chunkBytes_le, h.transferId, h.serialized, h.bytes_le,
    h.chunks_le, h.digest, h.messages⟩

theorem bundle_aliceSend : aliceSend.bundle admissionFormats sha256 = .ok aliceBundle :=
  MessagingSend.bundle_eq_ok.mpr ⟨by decide, by decide, aliceEnvelope, rfl, aliceBytes,
    aliceDigest, packed_admissionFormats, by decide +kernel⟩

theorem presentable_alice :
    Presentable foundersPrimitives (aliceReceived.verifyArgs.request foundersGate) :=
  (verify_eq_ok_iff.mp (Outcome.isOk_iff.mpr ⟨_, congrArg Prod.fst verify_alice⟩)).1

theorem holderReady_alice :
    HolderReady admissionFormats aliceIssue aliceChallengeDoc.toJson aliceReceiveChallenge where
  gate := rfl
  group := rfl
  member := rfl
  poll := by decide
  shown := by
    show _ ∈ shownContents (some "logos:founders") challengeConversation.polls
    rw [shownContents_aliceReceiveChallenge]
    exact List.mem_singleton_self _
  only := by
    intro text htext
    have hmem : text ∈ shownContents (some "logos:founders") challengeConversation.polls := htext
    rw [shownContents_aliceReceiveChallenge] at hmem
    exact Or.inl (List.mem_singleton.mp hmem)
  inTime := ⟨1100, rfl, by decide⟩
  output := rfl

theorem presentationReady_alice : PresentationReady foundersPrimitives foundersGate foundersRoot
    aliceChallenge foundersJournal foundersEnvelope.receipt foundersSeed alicePresentation where
  proof := rfl
  attests := ⟨foundersWitness, rfl, rfl, evaluate_foundersWitness⟩
  verified := presentable_alice.receipt
  challengeFile := rfl
  keyPrivate := rfl
  key := by
    rw [show foundersPrimitives.ed25519.publicKey foundersSeed = foundersKey from
      foundersSeed_signs_presentation.2.1]
    rfl
  presenter := foundersSeed_signs_presentation.2.1
  signs := by
    intro message hmessage
    obtain ⟨message', hmessage', haccepts⟩ := presentable_alice.claims.signature
    obtain rfl : message = message' := Option.some.inj (hmessage.symm.trans hmessage')
    have hsigned := foundersSeed_signs_alice
    rw [show presentationMessage sha256 aliceChallenge foundersEnvelope.receipt = some message from
      hmessage, Option.map_some, Option.some.injEq] at hsigned
    show foundersPrimitives.ed25519.Accepts (Edwards25519.group.publicKey foundersSeed)
      (Edwards25519.group.sign foundersSeed message.toList).toList message.toList
    rw [foundersSeed_signs_presentation.2.1, hsigned]
    exact haccepts
  transport := rfl
  output := rfl

theorem shownContents_alice :
    shownContents (some "logos:alice") aliceCommand.polls = aliceBundle.messages := by
  simp [aliceCommand, shownContents, receivedContents, List.filter_map, Function.comp_def]

theorem verifierReady_alice : VerifierReady admissionFormats aliceIssue foundersGate aliceChallenge
    foundersJournal aliceBundle 1200 aliceCommand where
  challengeFile := rfl
  gateFile := rfl
  verifierId := rfl
  group := rfl
  member := rfl
  sender := rfl
  transfer := rfl
  poll := by decide
  shown := by
    intro text htext
    show text ∈ shownContents (some "logos:alice") aliceCommand.polls
    rw [shownContents_alice]
    exact htext
  only := by
    intro text htext
    have hmem : text ∈ shownContents (some "logos:alice") aliceCommand.polls := htext
    rw [shownContents_alice] at hmem
    exact Or.inl hmem
  now := ⟨1200, rfl, rfl⟩
  begun := by decide
  live := by decide
  proofBegun := by decide
  proofAge := by decide
  unexpired := by
    intro expiry hexpiry
    obtain rfl : 2000000 = expiry := Option.some.inj hexpiry
    decide
  lock := rfl
  save := rfl
  output := rfl

/-- The presentation of alice is the envelope that she sends. -/
theorem createPresentation_alice :
    createPresentation foundersPrimitives alicePresentation = .ok aliceEnvelope := by
  obtain ⟨message, hmessage, hsigned⟩ := Option.map_eq_some_iff.mp foundersSeed_signs_alice
  have hissued := (issuedFor_of_issue (show aliceIssue.gate = .holds foundersGate from rfl)
    issueAdmissionChallenge_alice).2.1
  rw [createPresentation_honest hissued presentationReady_alice hmessage]
  show Outcome.ok (AttestationEnvelope.mk _ _ _
    (Edwards25519.group.sign foundersSeed message.toList).toList _) = _
  rw [hsigned]
  rfl

/-- The three effects of the command of the verifier. -/
theorem honest_admission_alice : ∃ file,
    (receiveVerify foundersPrimitives admissionFormats "replay.json" aliceCommand
      ⟨.absent, []⟩).2.effects = [.saveReplayCache file, .writePresentation aliceEnvelope,
        .addGroupMember "founders" "logos:alice"] := by
  obtain ⟨-, -, envelope, henvelope, hadmits⟩ := honest_admission admissionFormats_lawful
    admissionFormats_readsChallenges rfl issueAdmissionChallenge_alice encodeChallenge_alice
    holderReady_alice presentationReady_alice (by decide)
  obtain rfl : aliceEnvelope = envelope :=
    Outcome.ok.inj (createPresentation_alice.symm.trans henvelope)
  obtain ⟨file, digest, -, -, hafter⟩ := hadmits aliceSend aliceBundle 1200 aliceCommand
    "replay.json" ⟨.absent, []⟩ ⟨∅⟩ rfl bundle_aliceSend verifierReady_alice rfl (by simp)
  exact ⟨file, by rw [hafter]; rfl⟩

end TokenStudio
