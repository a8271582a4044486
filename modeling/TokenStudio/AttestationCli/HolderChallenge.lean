import TokenStudio.AttestationCli.ChatAdmission
import TokenStudio.ProofgateMessaging.ChallengeOrder
import TokenStudio.ProofgateMessaging.Exchange

/-!
# The challenge at the holder

The function `receive_challenge` of the crate `proofgate-messaging`, and the commands
`messaging receive-challenge` and `present` of the crate `attestation-cli`.

The holder takes the latest challenge of the first poll that shows one
(`receiveChallenge_eq_ok_iff`).  With a gate, a group and a member on the command line it
writes the challenge only if it is for this gate and bound to this group and member
(`HolderAccepts`).  `holder_challenge_safe` says what this is for: whoever gets hold of a
presentation for such a challenge, and whatever a verifier is told to do with it, the
presentation admits no one but the member to the group.
-/

namespace TokenStudio

/-! ## Receiving a challenge -/

/-- `receive_challenge`, with the answers of its polls. -/
def receiveChallenge (F : Formats) (expectedSender : Option String) :
    List PollAnswer → Outcome ReceiveError VerificationChallenge
  | [] => .err .receiveTimeout
  | .error error :: _ => .err (.logosCore error)
  | .ok messages :: rest =>
    match latestChallenge F (receivedContents expectedSender messages) with
    | .ok challenge => .ok challenge
    | .err .noChallenge => receiveChallenge F expectedSender rest
    | .err error => .err (.messaging error)
    | .panic => .panic

/-- The poll shows no challenge. -/
def ShowsNoChallenge (F : Formats) (expectedSender : Option String) (answer : PollAnswer) : Prop :=
  ∃ messages, answer = .ok messages ∧
    latestChallenge F (receivedContents expectedSender messages) = .err .noChallenge

/-- The challenge is the latest one of the first poll that shows any. -/
theorem receiveChallenge_eq_ok_iff {F : Formats} {expectedSender : Option String}
    {polls : List PollAnswer} {challenge : VerificationChallenge} :
    receiveChallenge F expectedSender polls = .ok challenge ↔
      ∃ before messages rest, polls = before ++ .ok messages :: rest ∧
        (∀ answer ∈ before, ShowsNoChallenge F expectedSender answer) ∧
        latestChallenge F (receivedContents expectedSender messages) = .ok challenge := by
  induction polls with
  | nil => simp [receiveChallenge]
  | cons answer polls ih =>
    constructor
    · intro h
      cases answer with
      | error error => simp [receiveChallenge] at h
      | ok messages =>
        unfold receiveChallenge at h
        split at h
        · rename_i challenge' hlatest
          obtain rfl : challenge' = challenge := Outcome.ok.inj h
          exact ⟨[], messages, polls, rfl, by simp, hlatest⟩
        · rename_i hlatest
          obtain ⟨before, messages', rest, rfl, hbefore, hlatest'⟩ := ih.mp h
          refine ⟨.ok messages :: before, messages', rest, rfl, ?_, hlatest'⟩
          intro answer hanswer
          rcases List.mem_cons.mp hanswer with rfl | hanswer
          · exact ⟨messages, rfl, hlatest⟩
          · exact hbefore answer hanswer
        · simp at h
        · simp at h
    · rintro ⟨before, messages, rest, hsplit, hbefore, hlatest⟩
      cases before with
      | nil =>
        obtain ⟨rfl, rfl⟩ := List.cons.inj hsplit
        simp [receiveChallenge, hlatest]
      | cons first before =>
        obtain ⟨rfl, rfl⟩ := List.cons.inj hsplit
        obtain ⟨messages', rfl, hnone⟩ := hbefore _ List.mem_cons_self
        have hrest := ih.mpr ⟨before, messages, rest, rfl,
          fun answer hanswer => hbefore answer (List.mem_cons_of_mem _ hanswer), hlatest⟩
        simp only [receiveChallenge, hnone]
        exact hrest

/-- The latest challenge of a chat is one of its challenges. -/
theorem exists_of_latestChallenge {F : Formats} {contents : List String}
    {challenge : VerificationChallenge} (h : latestChallenge F contents = .ok challenge) :
    ∃ content ∈ contents, offeredChallenge? F content = some challenge := by
  have hsplits : ¬ ChallengeSplits F contents := by
    intro hsplits
    rw [(latestChallenge_eq_panic_iff F contents).mpr hsplits] at h
    cases h
  rcases latestChallenge_cases hsplits with ⟨-, hnone⟩ | ⟨latest, hlatest, hgreatest⟩
  · rw [hnone] at h
    cases h
  · obtain rfl : latest = challenge := Outcome.ok.inj (hlatest.symm.trans h)
    exact List.mem_filterMap.mp hgreatest.mem

/-- A received challenge stands in a content that passed the two filters. -/
theorem exists_of_receiveChallenge {F : Formats} {expectedSender : Option String}
    {polls : List PollAnswer} {challenge : VerificationChallenge}
    (h : receiveChallenge F expectedSender polls = .ok challenge) :
    ∃ content, IsReceived expectedSender polls content ∧
      offeredChallenge? F content = some challenge := by
  obtain ⟨before, messages, rest, rfl, -, hlatest⟩ := receiveChallenge_eq_ok_iff.mp h
  obtain ⟨content, hcontent, hoffered⟩ := exists_of_latestChallenge hlatest
  exact ⟨content, ⟨messages, by simp, mem_receivedContents.mp hcontent⟩, hoffered⟩

/-- A challenge of the protocol has a valid window. -/
theorem hasValidWindow_of_offered {F : Formats} {content : String}
    {challenge : VerificationChallenge} (h : offeredChallenge? F content = some challenge) :
    challenge.hasValidWindow = true := by
  unfold offeredChallenge? at h
  split at h
  · split at h
    · rename_i message _ hprotocol
      simp only [isProtocolChallenge, Bool.and_eq_true] at hprotocol
      rw [← Option.some.inj h]
      exact hprotocol.2
    · cases h
  · cases h

/-! ## A challenge that arrives -/

/-- `serde_json` reads back the challenge messages that it has written. -/
def Formats.ReadsChallenges (F : Formats) : Prop :=
  ∀ doc text, F.challengeToString doc = .ok text → F.challengeFromStr text = doc.read

/-- The content is not a challenge of the protocol, and the reader passes over it. -/
def OffersNothing (F : Formats) (content : String) : Prop :=
  readChallenge F content ≠ .panic ∧ offeredChallenge? F content = none

/-- The message of a challenge comes back from its serialized form. -/
theorem ChallengeWireDoc.result_read_serialize (challenge : VerificationChallenge) :
    ({ protocol := challengeProtocol, version := wireVersion, challenge := challenge.serialize } :
      ChallengeWireDoc).read.result =
        .ok { protocol := challengeProtocol, version := wireVersion, challenge } := by
  simp [Deserialized.result, ChallengeWireDoc.read]

section

variable {F : Formats} {challenge : VerificationChallenge} {content : String}

theorem readChallenge_encodeChallenge (hF : F.ReadsChallenges)
    (h : encodeChallenge F challenge = .ok content) :
    readChallenge F content =
      .ok (some { protocol := challengeProtocol, version := wireVersion, challenge }) := by
  rw [readChallenge, hF _ _ (encoded_eq_ok.mp h), ChallengeWireDoc.result_read_serialize]

/-- A challenge that was encoded is offered. -/
theorem offeredChallenge?_encodeChallenge (hF : F.ReadsChallenges)
    (h : encodeChallenge F challenge = .ok content) (hwindow : challenge.hasValidWindow = true) :
    offeredChallenge? F content = some challenge := by
  unfold offeredChallenge?
  rw [readChallenge_encodeChallenge hF h]
  simp [isProtocolChallenge, hwindow]

/-- A window with one challenge, however often it is shown. -/
theorem latestChallenge_of_one {contents : List String} (hread : readChallenge F content ≠ .panic)
    (hoffered : offeredChallenge? F content = some challenge)
    (hcontents : ∀ text ∈ contents, text = content ∨ OffersNothing F text) :
    latestChallenge F contents =
      if content ∈ contents then .ok challenge else .err .noChallenge := by
  have hsplits : ¬ ChallengeSplits F contents := by
    rintro ⟨text, htext, hsplits⟩
    have hpanic := readChallenge_eq_panic_iff.mpr hsplits
    rcases hcontents text htext with rfl | hnothing
    · exact hread hpanic
    · exact hnothing.1 hpanic
  have hmem : ∀ offered ∈ offeredChallenges F contents,
      content ∈ contents ∧ offered = challenge := by
    intro offered hmem
    obtain ⟨text, htext, hsome⟩ := List.mem_filterMap.mp hmem
    rcases hcontents text htext with rfl | hnothing
    · exact ⟨htext, Option.some.inj (hsome.symm.trans hoffered)⟩
    · rw [hnothing.2] at hsome
      cases hsome
  rcases latestChallenge_cases hsplits with ⟨hnil, hnone⟩ | ⟨latest, hlatest, hgreatest⟩
  · rw [hnone, if_neg]
    intro hin
    have hoffers : challenge ∈ offeredChallenges F contents :=
      List.mem_filterMap.mpr ⟨content, hin, hoffered⟩
    rw [hnil] at hoffers
    cases hoffers
  · obtain ⟨hin, rfl⟩ := hmem latest hgreatest.mem
    rw [hlatest, if_pos hin]

/-- A receiver whose polls show one challenge and nothing else that is one.  It has the
challenge when a poll before the first failed one shows it. -/
theorem receiveChallenge_of_one {expectedSender : Option String} {polls : List PollAnswer}
    (hread : readChallenge F content ≠ .panic)
    (hoffered : offeredChallenge? F content = some challenge)
    (hcontents : ∀ text ∈ shownContents expectedSender polls,
      text = content ∨ OffersNothing F text) :
    receiveChallenge F expectedSender polls =
      if content ∈ shownContents expectedSender polls then .ok challenge
      else .err (pollsEnd polls) := by
  induction polls with
  | nil => simp [receiveChallenge, shownContents, pollsEnd]
  | cons answer rest ih =>
    cases answer with
    | error error => simp [receiveChallenge, shownContents, pollsEnd]
    | ok messages =>
      simp only [shownContents, List.mem_append] at hcontents ⊢
      have hnow := latestChallenge_of_one hread hoffered
        fun text htext => hcontents text (Or.inl htext)
      have hrest := ih fun text htext => hcontents text (Or.inr htext)
      rw [receiveChallenge, hnow]
      by_cases hin : content ∈ receivedContents expectedSender messages
      · simp [hin]
      · simp [hin, hrest, pollsEnd]

end

/-! ## The command -/

/-- `MessagingReceiveChallengeArgs`, with what the command finds: the gate file, the
answers of the polls, the clock, and the result of writing the challenge. -/
structure MessagingReceiveChallenge where
  expectedSender : Option String
  pollMs : UInt64
  gate : Option (JsonFile GateConfig)
  groupId : Option String
  memberAddress : Option String
  nowUnixMs : Option UInt64
  polls : List PollAnswer
  clock : Outcome String UInt64
  output : Outcome String Unit

/-- The checks of a challenge against the gate, the group and the member. -/
def MessagingReceiveChallenge.check (sha256 : Bytes → Digest32) (args : MessagingReceiveChallenge)
    (challenge : VerificationChallenge) : Outcome String Unit :=
  match args.gate, args.groupId, args.memberAddress with
  | none, none, none => pure ()
  | some gateFile, some groupId, some memberAddress => do
    let gate ← readGateConfig gateFile
    let contextHash ← gate.contextHash sha256
    Outcome.check (challenge.gateContextHash ≠ contextHash)
      "verification denied [1006]: challenge is for a different gate"
    Outcome.check (challenge.verifierId ≠ gate.context.verifierId)
      "verification denied [1008]: challenge is from a different verifier"
    let bound ← admissionChallengeMatches sha256 challenge groupId memberAddress
    Outcome.check (¬ bound)
      "verification denied [1006]: challenge is not bound to the expected group and member"
    let clock ← args.clock
    Outcome.check (challenge.isExpired (args.nowUnixMs.getD clock))
      "verification denied [1007]: challenge has expired"
  | _, _, _ => .err "--gate, --group-id, and --member-address must be provided together"

/-- `messaging receive-challenge`: the challenge that it writes. -/
def messagingReceiveChallenge (F : Formats) (sha256 : Bytes → Digest32)
    (args : MessagingReceiveChallenge) : Outcome String VerificationChallenge := do
  Outcome.check (args.pollMs = 0) "--poll-ms must be greater than zero"
  let challenge ← (receiveChallenge F args.expectedSender args.polls).mapErr ReceiveError.toText
  args.check sha256 challenge
  args.output
  pure challenge

/-- What a holder has checked when it writes a challenge for a gate, a group and a
member. -/
structure HolderAccepts (F : Formats) (sha256 : Bytes → Digest32)
    (args : MessagingReceiveChallenge) (gate : GateConfig) (groupId memberAddress : String)
    (challenge : VerificationChallenge) : Prop where
  received : receiveChallenge F args.expectedSender args.polls = .ok challenge
  gateFile : args.gate = some (.holds gate)
  valid : gate.validate = .ok ()
  context : gate.contextHash sha256 = some challenge.gateContextHash
  verifier : challenge.verifierId = gate.context.verifierId
  bound : admissionChallengeMatches sha256 challenge groupId memberAddress = some true
  live : ∃ clock, args.clock = .ok clock ∧ challenge.isExpired (args.nowUnixMs.getD clock) = false

/-- A command with the three options writes exactly the challenges that the holder
accepts. -/
theorem messagingReceiveChallenge_eq_ok_iff {F : Formats} {sha256 : Bytes → Digest32}
    {args : MessagingReceiveChallenge} {groupId memberAddress : String}
    (hgate : args.gate.isSome) (hgroup : args.groupId = some groupId)
    (hmember : args.memberAddress = some memberAddress) {challenge : VerificationChallenge} :
    messagingReceiveChallenge F sha256 args = .ok challenge ↔
      args.pollMs ≠ 0 ∧ args.output = .ok () ∧
        ∃ gate, HolderAccepts F sha256 args gate groupId memberAddress challenge := by
  obtain ⟨gateFile, hgateFile⟩ := Option.isSome_iff_exists.mp hgate
  simp only [messagingReceiveChallenge, MessagingReceiveChallenge.check, hgateFile, hgroup,
    hmember, Outcome.bind_eq_ok, Outcome.exists_unit, Outcome.check_eq_ok, Outcome.mapErr_eq_ok,
    Outcome.liftM_eq, Outcome.ofOption_eq_ok, readGateConfig_eq_ok, Outcome.pure_eq,
    Outcome.ok.injEq, not_not, ne_eq]
  constructor
  · rintro ⟨hpoll, received, hreceived, ⟨gate, ⟨hfile, hvalid⟩, contextHash, hcontext, hhash,
      hverifier, bound, hbound, hmatches, clock, hclock, hlive⟩, houtput, rfl⟩
    refine ⟨hpoll, houtput, gate, hreceived, ?_, hvalid, ?_, hverifier, ?_, clock, hclock,
      Bool.eq_false_iff.mpr hlive⟩
    · rw [hgateFile, hfile]
    · rw [hcontext, hhash]
    · rw [hbound, hmatches]
  · rintro ⟨hpoll, houtput, gate, h⟩
    obtain ⟨clock, hclock, hlive⟩ := h.live
    have hfile : gateFile = .holds gate := Option.some.inj (hgateFile.symm.trans h.gateFile)
    exact ⟨hpoll, challenge, h.received, ⟨gate, ⟨hfile, h.valid⟩, _, h.context, rfl, h.verifier,
      true, h.bound, rfl, clock, hclock, Bool.eq_false_iff.mp hlive⟩, houtput, rfl⟩

/-! ## Presenting -/

/-- `PRESENTER_KEY_VERSION`. -/
def presenterKeyVersion : UInt16 := 1

/-- `PresenterKeyFile`.  A signing key stands for its bytes. -/
structure PresenterKeyFile (E : Ed25519) where
  version : UInt16
  secretKey : E.SigningKey
  publicKey : PublicKey32

/-- `PresenterKeyFile::signing_key`. -/
def PresenterKeyFile.signingKey {E : Ed25519} (self : PresenterKeyFile E) :
    Outcome String E.SigningKey := do
  Outcome.check (self.version ≠ presenterKeyVersion)
    ("unsupported presenter key version " ++ toString self.version ++ "; expected " ++
      toString presenterKeyVersion)
  Outcome.check (E.publicKey self.secretKey ≠ self.publicKey)
    "presenter key file has mismatched public and secret keys"
  pure self.secretKey

/-- The arguments of `create_presentation`, with what it finds: the result of `read_proof`,
the challenge file, the permissions and the content of the key file, and the result of
writing the envelope. -/
structure Presentation (E : Ed25519) where
  proof : Outcome String Risc0AttestationProof
  challengePath : String
  challenge : JsonFile VerificationChallenge
  keyPath : String
  keyPrivate : Outcome String Unit
  key : JsonFile (PresenterKeyFile E)
  transport : ProofTransport
  output : Outcome String Unit

/-- `create_presentation`. -/
def createPresentation (P : Primitives) (args : Presentation P.ed25519) :
    Outcome String AttestationEnvelope := do
  let proof ← args.proof
  let challenge ← readJson args.challengePath args.challenge
  args.keyPrivate
  let key ← readJson args.keyPath args.key
  let signingKey ← key.signingKey
  let envelope ← (present P proof challenge signingKey args.transport).mapErr verificationMessage
  args.output
  pure envelope

/-! ## What an accepted challenge is good for -/

/-- The holder is safe.  In every run of a conversation, a challenge that
`messaging receive-challenge` writes for a gate, a group and a member was posted by the
expected sender, and the holder has accepted it.  In every run of commands of a
verifier it admits this member to this group at most once, and nobody else. -/
theorem holder_challenge_safe {P : Primitives} {F : Formats} {c : Conversation}
    (hrun : Relation.ReflTransGen Conversation.Step .empty c) {args : MessagingReceiveChallenge}
    (hpolls : args.polls = c.polls) {verifier groupId memberAddress : String}
    (hsender : args.expectedSender = some verifier) (hgate : args.gate.isSome)
    (hgroup : args.groupId = some groupId) (hmember : args.memberAddress = some memberAddress)
    {challenge : VerificationChallenge}
    (h : messagingReceiveChallenge F P.sha256 args = .ok challenge) :
    (∃ content, ⟨verifier, content⟩ ∈ c.posts ∧ offeredChallenge? F content = some challenge) ∧
      challenge.hasValidWindow = true ∧
      (∃ gate, HolderAccepts F P.sha256 args gate groupId memberAddress challenge) ∧
      ∀ (F' : Formats) (path : String) (commands : List ReceiveVerify) (start : ChatVerifier),
        CollisionFree (fun bytes => (P.sha256 bytes).front) (admissionPreimages challenge
          ((groupId, memberAddress) :: commands.filterMap requestedAdmission)) →
        (Mutating.run (receiveVerify P F' path) commands start).filterMap
            (admissionOn challenge) = [] ∨
          (Mutating.run (receiveVerify P F' path) commands start).filterMap
            (admissionOn challenge) = [(groupId, memberAddress)] := by
  obtain ⟨-, -, gate, haccepts⟩ := (messagingReceiveChallenge_eq_ok_iff hgate hgroup hmember).mp h
  obtain ⟨content, hreceived, hoffered⟩ := exists_of_receiveChallenge haccepts.received
  rw [hsender, hpolls] at hreceived
  refine ⟨⟨content, Conversation.sound hrun verifier content hreceived, hoffered⟩,
    hasValidWindow_of_offered hoffered, ⟨gate, haccepts⟩, ?_⟩
  intro F' path commands start hfree
  exact admissionOn_of_bound haccepts.bound hfree

/-! ### The challenge of alice -/

/-- The message of the challenge as the format sees it. -/
def aliceChallengeDoc : ChallengeWireDoc where
  protocol := challengeProtocol
  version := wireVersion
  challenge := aliceChallenge.serialize

/-- The formats that know the transfer of alice and her challenge. -/
def admissionFormats : Formats :=
  { aliceFormats with
    challengeToString := fun doc =>
      if doc = aliceChallengeDoc then .ok aliceChallengeDoc.toJson else .error "unknown challenge"
    challengeFromStr := fun text =>
      if text = aliceChallengeDoc.toJson then aliceChallengeDoc.read else .fail }

theorem admissionFormats_readsChallenges : admissionFormats.ReadsChallenges := by
  intro doc text h
  simp only [admissionFormats] at h ⊢
  split at h
  · rename_i hdoc
    rw [hdoc, ← Except.ok.inj h, if_pos rfl]
  · cases h

theorem encodeChallenge_alice :
    encodeChallenge admissionFormats aliceChallenge = .ok aliceChallengeDoc.toJson := by
  rw [encodeChallenge, encoded_eq_ok]
  show admissionFormats.challengeToString aliceChallengeDoc = _
  simp only [admissionFormats, if_true]

/-- The verifier has posted the challenge, and one poll of alice shows it. -/
def challengeConversation : Conversation where
  posts := [⟨"logos:founders", aliceChallengeDoc.toJson⟩]
  polls := [.ok [⟨false, aliceChallengeDoc.toJson, some "logos:founders"⟩]]

theorem challengeConversation_run :
    Relation.ReflTransGen Conversation.Step .empty challengeConversation := by
  refine .tail (.single (.post .empty ⟨"logos:founders", aliceChallengeDoc.toJson⟩))
    (.poll _ [⟨false, aliceChallengeDoc.toJson, some "logos:founders"⟩] ?_)
  intro message hmessage _ sender hsender
  obtain rfl := List.mem_singleton.mp hmessage
  obtain rfl : "logos:founders" = sender := Option.some.inj hsender
  exact List.mem_singleton_self _

/-- The command of alice. -/
def aliceReceiveChallenge : MessagingReceiveChallenge where
  expectedSender := some "logos:founders"
  pollMs := 1000
  gate := some (.holds foundersGate)
  groupId := some "founders"
  memberAddress := some "logos:alice"
  nowUnixMs := some 1100
  polls := challengeConversation.polls
  clock := .ok 1100
  output := .ok ()

theorem shownContents_aliceReceiveChallenge :
    shownContents (some "logos:founders") challengeConversation.polls =
      [aliceChallengeDoc.toJson] := by
  simp [challengeConversation, shownContents, receivedContents]

theorem messagingReceiveChallenge_alice :
    messagingReceiveChallenge admissionFormats foundersPrimitives.sha256 aliceReceiveChallenge =
      .ok aliceChallenge := by
  rw [messagingReceiveChallenge_eq_ok_iff rfl rfl rfl]
  refine ⟨by decide, rfl, foundersGate, ?_, rfl, by decide +kernel, by decide +kernel, rfl,
    admissionChallengeMatches_of_issue issueAdmissionChallenge_alice, 1100, rfl, by decide⟩
  have hread := readChallenge_encodeChallenge admissionFormats_readsChallenges
    encodeChallenge_alice
  have hoffered := offeredChallenge?_encodeChallenge admissionFormats_readsChallenges
    encodeChallenge_alice (by decide)
  have hshown : ∀ text ∈ shownContents (some "logos:founders") challengeConversation.polls,
      text = aliceChallengeDoc.toJson ∨ OffersNothing admissionFormats text := by
    intro text htext
    rw [shownContents_aliceReceiveChallenge] at htext
    exact Or.inl (List.mem_singleton.mp htext)
  have hreceive := receiveChallenge_of_one (by rw [hread]; simp) hoffered hshown
  rw [shownContents_aliceReceiveChallenge, if_pos (List.mem_singleton_self _)] at hreceive
  exact hreceive

/-- The challenge that alice has accepted admits her once, and nobody else. -/
theorem holder_challenge_safe_alice :
    (Mutating.run (receiveVerify foundersPrimitives aliceFormats "replay.json")
        [aliceCommand, aliceCommand] ⟨.absent, []⟩).filterMap (admissionOn aliceChallenge) =
      [("founders", "logos:alice")] := by
  rcases (holder_challenge_safe challengeConversation_run rfl rfl rfl rfl rfl
    messagingReceiveChallenge_alice).2.2.2 aliceFormats "replay.json" [aliceCommand, aliceCommand]
    ⟨.absent, []⟩ alice_collisionFree with hnone | hone
  · rw [Mutating.run, List.filterMap_cons_some admissionOn_alice] at hnone
    cases hnone
  · exact hone

end TokenStudio
