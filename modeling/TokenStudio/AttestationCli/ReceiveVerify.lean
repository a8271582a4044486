import TokenStudio.AttestationCli.ReplayCache
import TokenStudio.ProofgateMessaging.Admission
import TokenStudio.ProofgateMessaging.Receive

/-!
# Chat admission

The command `messaging receive-verify` of the crate `attestation-cli` and the function
`issue_admission_challenge`.  The command receives an envelope from a chat, verifies
it against the challenge that the verifier has kept, and then asks the chat to add
a member to a group.

What the command finds is an argument of the model: the files, the answers of the
polls, the clock, and the results of the calls that can fail.  `ChatVerifier` holds
what the commands of one verifier share, the replay cache file, and the list of
their effects on the outside in the order in which they happen.  The file of the
envelope is not the replay cache file.

`receivePrefix` is the part of the command before the first effect, and
`receivePrefix_eq_ok` is its specification.  `receiveVerify_cases` says which effects
a command can have.  An admission is the last of three effects, after the new
replay cache and the envelope.
-/

namespace TokenStudio

/-! ## The challenge -/

/-- The arguments of `issue_admission_challenge`, with the gate file that it finds, the
random nonce and the result of writing the challenge. -/
structure AdmissionIssue where
  gate : JsonFile GateConfig
  expectedCommitmentRoot : Digest32
  groupId : String
  memberAddress : String
  nowUnixMs : UInt64
  ttlMs : UInt64
  nonce : Digest32
  output : Outcome String Unit

/-- `issue_admission_challenge`. -/
def issueAdmissionChallenge (P : Primitives) (issue : AdmissionIssue) :
    Outcome String VerificationChallenge := do
  let gate ← readGateConfig issue.gate
  let challenge ← (createChallenge P gate issue.expectedCommitmentRoot gate.context.verifierId
    issue.nowUnixMs issue.ttlMs issue.nonce).mapErr verificationMessage
  let challenge ← bindAdmissionChallenge P.sha256 challenge issue.groupId issue.memberAddress
  issue.output
  pure challenge

/-! ## The command -/

/-- `MessagingReceiveOptions`, without the connection.  The time limit is the length of
the list of polls. -/
structure MessagingReceiveOptions where
  transferId : Option String
  expectedSender : Option String
  pollMs : UInt64

/-- `MessagingReceiveVerifyArgs`, without the paths of the gate, the replay cache and the
envelope. -/
structure MessagingReceiveVerifyArgs where
  receive : MessagingReceiveOptions
  challenge : String
  verifierId : Option String
  nowUnixMs : Option UInt64
  admitGroupId : Option String
  admitAddress : Option String

/-- One `messaging receive-verify` and what it finds. -/
structure ReceiveVerify where
  args : MessagingReceiveVerifyArgs
  challenge : JsonFile VerificationChallenge
  gate : JsonFile GateConfig
  polls : List PollAnswer
  clock : Outcome String UInt64
  lock : Outcome String Unit
  save : Outcome String Unit
  output : Outcome String Unit
  addMember : Except LogosCoreError Unit

/-- What a command does to the outside. -/
inductive ChatEffect where
  | saveReplayCache (file : JsonFile ReplayCacheFile)
  | writePresentation (envelope : AttestationEnvelope)
  | addGroupMember (groupId memberAddress : String)
  deriving DecidableEq

/-- What the commands of one verifier share, and their effects so far. -/
structure ChatVerifier where
  replayCache : JsonFile ReplayCacheFile
  effects : List ChatEffect

/-- The receive options and the admission of a command. -/
def resolveAdmission (args : MessagingReceiveVerifyArgs) :
    Outcome String (MessagingReceiveOptions × Option (String × String)) :=
  match args.admitGroupId, args.admitAddress with
  | none, none => pure (args.receive, none)
  | some groupId, some memberAddress => do
    Outcome.check (args.receive.expectedSender.any fun sender => sender ≠ memberAddress)
      "--expected-sender must equal --admit-address for chat admission"
    pure ({ args.receive with expectedSender := some memberAddress },
      some (groupId, memberAddress))
  | _, _ => .err "--admit-group-id and --admit-address must be provided together"

/-- `receive_presentation`. -/
def receivePresentation (F : Formats) (sha256 : Bytes → Digest32)
    (options : MessagingReceiveOptions) (polls : List PollAnswer) :
    Outcome String (String × AttestationEnvelope) := do
  Outcome.check (options.pollMs = 0) "--poll-ms must be greater than zero"
  (receiveEnvelope F sha256 options.transferId options.expectedSender polls).mapErr
    ReceiveError.toText

/-- The check of the challenge against the admission. -/
def requireBound (sha256 : Bytes → Digest32) (challenge : VerificationChallenge) :
    Option (String × String) → Outcome String Unit
  | none => pure ()
  | some (groupId, memberAddress) => do
    let bound ← admissionChallengeMatches sha256 challenge groupId memberAddress
    Outcome.check (¬ bound)
      "verification denied [1006]: challenge is not bound to the requested group and member"

/-- What a command has when it comes to the verification. -/
structure ReceivedPresentation where
  envelope : AttestationEnvelope
  admission : Option (String × String)
  verifyArgs : VerifyArgs

/-- The command up to the verification. -/
def receivePrefix (F : Formats) (sha256 : Bytes → Digest32) (command : ReceiveVerify) :
    Outcome String ReceivedPresentation := do
  let expectedChallenge ← readJson command.args.challenge command.challenge
  let (receive, admission) ← resolveAdmission command.args
  let (_, envelope) ← receivePresentation F sha256 receive command.polls
  requireBound sha256 envelope.challenge admission
  let clock ← command.clock
  pure
    { envelope
      admission
      verifyArgs :=
        { gate := command.gate
          envelope
          expectedChallenge
          expectedVerifierId := command.args.verifierId
          nowUnixMs := command.args.nowUnixMs.getD clock
          lock := command.lock
          save := command.save } }

namespace ChatVerifier

/-- `verify_received_presentation` on the shared file. -/
def verifyAndSave (P : Primitives) (path : String) (args : VerifyArgs) :
    Mutating ChatVerifier String VerifyOutcome := fun s =>
  match verifyReceivedPresentation P path args s.replayCache with
  | (.ok outcome, file) =>
    (.ok outcome, { replayCache := file, effects := s.effects ++ [.saveReplayCache file] })
  | (.err error, file) => (.err error, { s with replayCache := file })
  | (.panic, file) => (.panic, { s with replayCache := file })

/-- `write_presentation`. -/
def writePresentation (output : Outcome String Unit) (envelope : AttestationEnvelope) :
    Mutating ChatVerifier String Unit := fun s =>
  match output with
  | .ok _ => (.ok (), { s with effects := s.effects ++ [.writePresentation envelope] })
  | .err error => (.err error, s)
  | .panic => (.panic, s)

/-- `add_group_member`, which is called whatever its answer is. -/
def addGroupMember (answer : Except LogosCoreError Unit) (groupId memberAddress : String) :
    Mutating ChatVerifier String Unit := fun s =>
  let s := { s with effects := s.effects ++ [.addGroupMember groupId memberAddress] }
  match answer with
  | .ok _ => (.ok (), s)
  | .error error => (.err error.toText, s)

end ChatVerifier

/-- `messaging receive-verify`. -/
def receiveVerify (P : Primitives) (F : Formats) (path : String) (command : ReceiveVerify) :
    Mutating ChatVerifier String Unit := do
  let received ← receivePrefix F P.sha256 command
  let _ ← ChatVerifier.verifyAndSave P path received.verifyArgs
  ChatVerifier.writePresentation command.output received.envelope
  match received.admission with
  | none => pure ()
  | some (groupId, memberAddress) =>
    ChatVerifier.addGroupMember command.addMember groupId memberAddress

/-! ## Before the first effect -/

/-- What a command with an admission has checked. -/
structure ReadyToAdmit (F : Formats) (sha256 : Bytes → Digest32) (command : ReceiveVerify)
    (envelope : AttestationEnvelope) (groupId memberAddress : String) : Prop where
  group : command.args.admitGroupId = some groupId
  member : command.args.admitAddress = some memberAddress
  /-- The envelope is unpacked from messages of the member. -/
  assembled : ∃ contents id, (∀ content ∈ contents,
      IsReceived (some memberAddress) command.polls content) ∧
    unpackEnvelope F sha256 contents command.args.receive.transferId = .ok (id, envelope)
  /-- Its challenge is bound to the group and the member. -/
  bound : admissionChallengeMatches sha256 envelope.challenge groupId memberAddress = some true

/-- An admission goes to the member whose messages are read. -/
theorem resolveAdmission_eq_ok {args : MessagingReceiveVerifyArgs}
    {receive : MessagingReceiveOptions} {groupId memberAddress : String}
    (h : resolveAdmission args = .ok (receive, some (groupId, memberAddress))) :
    args.admitGroupId = some groupId ∧ args.admitAddress = some memberAddress ∧
      receive = { args.receive with expectedSender := some memberAddress } := by
  unfold resolveAdmission at h
  split at h
  · simp at h
  · rename_i g m hg hm
    simp only [Outcome.bind_eq_ok, Outcome.check_eq_ok, Outcome.exists_unit, Outcome.pure_eq,
      Outcome.ok.injEq, Prod.mk.injEq, Option.some.injEq] at h
    obtain ⟨-, hreceive, rfl, rfl⟩ := h
    exact ⟨hg, hm, hreceive.symm⟩
  · simp at h

theorem requireBound_eq_ok {sha256 : Bytes → Digest32} {challenge : VerificationChallenge}
    {groupId memberAddress : String} {u : Unit} :
    requireBound sha256 challenge (some (groupId, memberAddress)) = .ok u ↔
      admissionChallengeMatches sha256 challenge groupId memberAddress = some true := by
  simp only [requireBound, Outcome.bind_eq_ok, Outcome.liftM_eq, Outcome.ofOption_eq_ok,
    Outcome.check_eq_ok, not_not]
  constructor
  · rintro ⟨bound, hbound, rfl⟩
    exact hbound
  · intro hbound
    exact ⟨true, hbound, rfl⟩

/-- What a command has checked when it comes to the verification. -/
theorem receivePrefix_eq_ok {F : Formats} {sha256 : Bytes → Digest32} {command : ReceiveVerify}
    {received : ReceivedPresentation}
    (h : receivePrefix F sha256 command = .ok received) :
    command.challenge = .holds received.verifyArgs.expectedChallenge ∧
      received.verifyArgs.envelope = received.envelope ∧
      received.verifyArgs.gate = command.gate ∧
      ∀ groupId memberAddress, received.admission = some (groupId, memberAddress) →
        ReadyToAdmit F sha256 command received.envelope groupId memberAddress := by
  simp only [receivePrefix, Outcome.bind_eq_ok, readJson_eq_ok, Outcome.exists_unit,
    Outcome.pure_eq, Outcome.ok.injEq, Prod.exists] at h
  obtain ⟨challenge, hchallenge, receive, admission, hresolve, id, envelope, hreceive, hbound,
    clock, -, rfl⟩ := h
  refine ⟨hchallenge, rfl, rfl, ?_⟩
  intro groupId memberAddress hadmission
  obtain rfl : admission = some (groupId, memberAddress) := hadmission
  obtain ⟨hgroup, hmember, rfl⟩ := resolveAdmission_eq_ok hresolve
  simp only [receivePresentation, Outcome.bind_eq_ok, Outcome.exists_unit,
    Outcome.mapErr_eq_ok] at hreceive
  obtain ⟨contents, hcontents, hunpack⟩ := receiveEnvelope_eq_ok hreceive.2
  exact ⟨hgroup, hmember, ⟨contents, id, hcontents, hunpack⟩,
    requireBound_eq_ok.mp hbound⟩

/-! ## The effects of a command -/

/-- The effects of a command that has verified an envelope: the new replay cache, then the
envelope if it could be written, then the admission if one was asked for. -/
def verifiedEffects (file : JsonFile ReplayCacheFile) (output : Outcome String Unit)
    (received : ReceivedPresentation) : List ChatEffect :=
  .saveReplayCache file :: match output with
    | .ok _ => .writePresentation received.envelope :: match received.admission with
      | some (groupId, memberAddress) => [.addGroupMember groupId memberAddress]
      | none => []
    | _ => []

/-- A command whose envelope is accepted. -/
theorem receiveVerify_of_ok {P : Primitives} {F : Formats} {path : String}
    {command : ReceiveVerify} {s : ChatVerifier} {received : ReceivedPresentation}
    {outcome : VerifyOutcome} {file : JsonFile ReplayCacheFile}
    (hreceived : receivePrefix F P.sha256 command = .ok received)
    (hverify : verifyReceivedPresentation P path received.verifyArgs s.replayCache =
      (.ok outcome, file)) :
    (receiveVerify P F path command s).2 =
      { replayCache := file
        effects := s.effects ++ verifiedEffects file command.output received } := by
  unfold receiveVerify
  rw [Mutating.bind_apply, Mutating.liftM_apply, hreceived]
  show ((_ >>= _ : Mutating ChatVerifier String Unit) s).2 = _
  have hsave : ChatVerifier.verifyAndSave P path received.verifyArgs s = (.ok outcome,
      { replayCache := file, effects := s.effects ++ [.saveReplayCache file] }) := by
    unfold ChatVerifier.verifyAndSave
    rw [hverify]
  rw [Mutating.bind_apply, hsave]
  show ((_ >>= _ : Mutating ChatVerifier String Unit) _).2 = _
  rw [Mutating.bind_apply]
  unfold ChatVerifier.writePresentation verifiedEffects
  cases command.output with
  | err error => rfl
  | panic => rfl
  | ok u =>
    cases received.admission with
    | none => simp
    | some admission =>
      cases command.addMember <;> simp [ChatVerifier.addGroupMember]

/-- What a command can do: it changes nothing, or it accepts an envelope. -/
theorem receiveVerify_cases (P : Primitives) (F : Formats) (path : String)
    (command : ReceiveVerify) (s : ChatVerifier) :
    (receiveVerify P F path command s).2 = s ∨
      ∃ received file gate cache digest, receivePrefix F P.sha256 command = .ok received ∧
        VerifyAccepted P path received.verifyArgs s.replayCache file gate cache digest ∧
        (receiveVerify P F path command s).2 =
          { replayCache := file
            effects := s.effects ++ verifiedEffects file command.output received } := by
  cases hreceived : receivePrefix F P.sha256 command with
  | err error =>
    refine Or.inl ?_
    unfold receiveVerify
    rw [Mutating.bind_apply, Mutating.liftM_apply, hreceived]
  | panic =>
    refine Or.inl ?_
    unfold receiveVerify
    rw [Mutating.bind_apply, Mutating.liftM_apply, hreceived]
  | ok received =>
    rcases verifyReceivedPresentation_cases P path received.verifyArgs s.replayCache with
      ⟨outcome, file, gate, cache, digest, hverify, haccepted⟩ | ⟨hfail, hsame⟩
    · exact Or.inr ⟨received, file, gate, cache, digest, rfl, haccepted,
        receiveVerify_of_ok hreceived hverify⟩
    · refine Or.inl ?_
      unfold receiveVerify
      rw [Mutating.bind_apply, Mutating.liftM_apply, hreceived]
      show ((_ >>= _ : Mutating ChatVerifier String Unit) s).2 = s
      rw [Mutating.bind_apply]
      unfold ChatVerifier.verifyAndSave
      cases hverify : verifyReceivedPresentation P path received.verifyArgs s.replayCache with
      | mk result file =>
        rw [hverify] at hfail hsame
        obtain rfl : file = s.replayCache := hsame
        cases result with
        | ok outcome => simp [Outcome.isOk] at hfail
        | err error => rfl
        | panic => rfl

end TokenStudio
