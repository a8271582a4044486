import TokenStudio.AttestationCli.ReceiveVerify
import TokenStudio.ProofgateMessaging.Transfer

/-!
# One admission for one admission challenge

A run of `messaging receive-verify` is any sequence of commands, with any arguments and
any chats, that share a replay cache file.

Behind every admission of a run stands an envelope that the command has put together
from messages of the member, for the challenge that the verifier kept, bound to the
group and the member, and newly consumed (`Admits`).  The digest of its challenge
is in the file from then on (`admitted_stored`), so no later command of the run
admits anyone on the same challenge.  The two halves of the nonce of an admission
challenge determine the group and the member, up to a collision of the binding
(`bound_unique`).  So a bound challenge admits its member once, if at all
(`admissionOn_of_bound`).
-/

namespace TokenStudio

/-- The calls of a run of commands. -/
abbrev ReceiveVerifyCall := Call ReceiveVerify ChatVerifier String Unit

/-- The effects of one command. -/
def newEffects (c : ReceiveVerifyCall) : List ChatEffect :=
  c.after.effects.drop c.before.effects.length

/-- What stands behind an admission: the command is ready to admit, its envelope
answers the challenge that the verifier kept, and `verify` has accepted the envelope and
consumed its challenge for the first time. -/
structure Admits (P : Primitives) (F : Formats) (path : String) (command : ReceiveVerify)
    (before after : JsonFile ReplayCacheFile) (envelope : AttestationEnvelope)
    (groupId memberAddress : String) : Prop where
  ready : ReadyToAdmit F P.sha256 command envelope groupId memberAddress
  retained : command.challenge = .holds envelope.challenge
  consumed : ∃ args gate cache digest, args.envelope = envelope ∧ args.gate = command.gate ∧
    VerifyAccepted P path args before after gate cache digest

/-- The group and the member of an admission on the strength of a challenge. -/
def admissionOn (challenge : VerificationChallenge) (c : ReceiveVerifyCall) :
    Option (String × String) :=
  match newEffects c with
  | [.saveReplayCache _, .writePresentation envelope, .addGroupMember groupId memberAddress] =>
    if envelope.challenge = challenge then some (groupId, memberAddress) else none
  | _ => none

/-- The admission that a command asks for. -/
def requestedAdmission (command : ReceiveVerify) : Option (String × String) := do
  let groupId ← command.args.admitGroupId
  let memberAddress ← command.args.admitAddress
  pure (groupId, memberAddress)

/-- The byte strings that bind a challenge to one of the listed admissions. -/
def admissionPreimages (challenge : VerificationChallenge) (admissions : List (String × String)) :
    List Bytes :=
  admissions.filterMap fun admission =>
    admissionBindingBytes challenge admission.1 admission.2 challenge.nonce.front

/-! ## One command -/

/-- What one command can do, as a call of a run. -/
theorem receiveVerify_call_cases (P : Primitives) (F : Formats) (path : String)
    (command : ReceiveVerify) (s : ChatVerifier) :
    (newEffects (Mutating.call (receiveVerify P F path) command s) = [] ∧
        (receiveVerify P F path command s).2 = s) ∨
      ∃ received file gate cache digest, receivePrefix F P.sha256 command = .ok received ∧
        VerifyAccepted P path received.verifyArgs s.replayCache file gate cache digest ∧
        (receiveVerify P F path command s).2.replayCache = file ∧
        newEffects (Mutating.call (receiveVerify P F path) command s) =
          verifiedEffects file command.output received := by
  rcases receiveVerify_cases P F path command s with hsame |
    ⟨received, file, gate, cache, digest, hreceived, haccepted, hafter⟩
  · refine Or.inl ⟨?_, hsame⟩
    unfold newEffects Mutating.call
    rw [hsame, List.drop_length]
  · refine Or.inr ⟨received, file, gate, cache, digest, hreceived, haccepted, ?_, ?_⟩
    · rw [hafter]
    · unfold newEffects Mutating.call
      rw [hafter, List.drop_left]

/-- An admission is the last of three effects. -/
theorem eq_of_addGroupMember_mem {file : JsonFile ReplayCacheFile} {output : Outcome String Unit}
    {received : ReceivedPresentation} {groupId memberAddress : String}
    (h : .addGroupMember groupId memberAddress ∈ verifiedEffects file output received) :
    received.admission = some (groupId, memberAddress) ∧
      verifiedEffects file output received = [.saveReplayCache file,
        .writePresentation received.envelope, .addGroupMember groupId memberAddress] := by
  unfold verifiedEffects at h ⊢
  cases output with
  | err error => simp at h
  | panic => simp at h
  | ok u =>
    cases hadmission : received.admission with
    | none => simp [hadmission] at h
    | some admission =>
      simp only [hadmission, List.mem_cons, reduceCtorEq, List.not_mem_nil, or_false,
        false_or, ChatEffect.addGroupMember.injEq] at h
      obtain ⟨rfl, rfl⟩ := h
      exact ⟨rfl, rfl⟩

/-- What stands behind an admission of one command. -/
theorem admits_of_mem {P : Primitives} {F : Formats} {path : String} {command : ReceiveVerify}
    {s : ChatVerifier} {groupId memberAddress : String}
    (h : .addGroupMember groupId memberAddress ∈
      newEffects (Mutating.call (receiveVerify P F path) command s)) :
    ∃ envelope, newEffects (Mutating.call (receiveVerify P F path) command s) =
        [.saveReplayCache (receiveVerify P F path command s).2.replayCache,
          .writePresentation envelope, .addGroupMember groupId memberAddress] ∧
      Admits P F path command s.replayCache (receiveVerify P F path command s).2.replayCache
        envelope groupId memberAddress := by
  rcases receiveVerify_call_cases P F path command s with ⟨hnone, -⟩ |
    ⟨received, file, gate, cache, digest, hreceived, haccepted, hfile, heffects⟩
  · rw [hnone] at h
    cases h
  · rw [heffects] at h
    obtain ⟨hadmission, hthree⟩ := eq_of_addGroupMember_mem h
    obtain ⟨hchallenge, henvelope, hgate, hready⟩ := receivePrefix_eq_ok hreceived
    have hretained : received.verifyArgs.expectedChallenge = received.envelope.challenge := by
      have hok := verify_eq_ok_iff.mp
        (Outcome.isOk_iff.mpr ⟨_, congrArg Prod.fst haccepted.verified⟩)
      rw [← henvelope]
      exact hok.1.claims.challenge.symm
    rw [hfile]
    refine ⟨received.envelope, heffects.trans hthree, hready _ _ hadmission, ?_, ?_⟩
    · rw [hchallenge, hretained]
    · exact ⟨received.verifyArgs, gate, cache, digest, henvelope, hgate, haccepted⟩

/-- An admission on the strength of a challenge. -/
theorem admissionOn_eq_some {challenge : VerificationChallenge} {c : ReceiveVerifyCall}
    {groupId memberAddress : String} :
    admissionOn challenge c = some (groupId, memberAddress) ↔
      ∃ file envelope, envelope.challenge = challenge ∧ newEffects c =
        [.saveReplayCache file, .writePresentation envelope,
          .addGroupMember groupId memberAddress] := by
  constructor
  · intro h
    unfold admissionOn at h
    split at h
    · rename_i file envelope g m heffects
      split at h
      · rename_i hchallenge
        simp only [Option.some.injEq, Prod.mk.injEq] at h
        obtain ⟨rfl, rfl⟩ := h
        exact ⟨file, envelope, hchallenge, heffects⟩
      · cases h
    · cases h
  · rintro ⟨file, envelope, hchallenge, heffects⟩
    unfold admissionOn
    rw [heffects]
    exact if_pos hchallenge

/-- A command that admits on the strength of a challenge consumes its digest. -/
theorem admitted_consumes {P : Primitives} {F : Formats} {path : String}
    {command : ReceiveVerify} {s : ChatVerifier} {challenge : VerificationChallenge}
    {groupId memberAddress : String}
    (h : admissionOn challenge (Mutating.call (receiveVerify P F path) command s) =
      some (groupId, memberAddress)) :
    ∃ digest, challenge.digest P.sha256 = some digest ∧
      digest ∉ storedDigests path s.replayCache ∧
      digest ∈ storedDigests path (receiveVerify P F path command s).2.replayCache := by
  obtain ⟨file, envelope, rfl, heffects⟩ := admissionOn_eq_some.mp h
  have hmem : .addGroupMember groupId memberAddress ∈
      newEffects (Mutating.call (receiveVerify P F path) command s) := by
    rw [heffects]
    simp
  obtain ⟨envelope', heffects', hadmits⟩ := admits_of_mem hmem
  rw [heffects] at heffects'
  simp only [List.cons.injEq, ChatEffect.writePresentation.injEq] at heffects'
  obtain ⟨-, rfl, -⟩ := heffects'
  obtain ⟨args, gate, cache, digest, rfl, -, haccepted⟩ := hadmits.consumed
  exact ⟨digest, haccepted.digest_eq, haccepted.fresh_stored, haccepted.mem_stored⟩

/-- No command takes a digest out of the file. -/
theorem stored_subset_receiveVerify (P : Primitives) (F : Formats) (path : String)
    (command : ReceiveVerify) (s : ChatVerifier) :
    storedDigests path s.replayCache ⊆
      storedDigests path (receiveVerify P F path command s).2.replayCache := by
  rcases receiveVerify_cases P F path command s with hsame |
    ⟨received, file, gate, cache, digest, -, haccepted, hafter⟩
  · rw [hsame]
  · rw [hafter]
    exact haccepted.stored_subset

/-! ## Runs -/

/-- The digest of an admission stays in the file to the end of the run. -/
theorem admitted_stored {P : Primitives} {F : Formats} {path : String}
    (challenge : VerificationChallenge) (commands : List ReceiveVerify) (start : ChatVerifier) :
    ∀ c ∈ Mutating.run (receiveVerify P F path) commands start,
      (admissionOn challenge c).isSome → ∃ digest, challenge.digest P.sha256 = some digest ∧
        digest ∈ storedDigests path
          (Mutating.final (receiveVerify P F path) commands start).replayCache := by
  refine Mutating.run_induction (receiveVerify P F path)
    (motive := fun calls s => ∀ c ∈ calls, (admissionOn challenge c).isSome →
      ∃ digest, challenge.digest P.sha256 = some digest ∧
        digest ∈ storedDigests path s.replayCache) (by simp) ?_ commands
  intro calls s command ih c hc hadmission
  rcases List.mem_append.mp hc with hc | hc
  · obtain ⟨digest, hdigest, hstored⟩ := ih c hc hadmission
    exact ⟨digest, hdigest, stored_subset_receiveVerify P F path command s hstored⟩
  · obtain rfl := List.mem_singleton.mp hc
    obtain ⟨⟨groupId, memberAddress⟩, hadmission⟩ := Option.isSome_iff_exists.mp hadmission
    obtain ⟨digest, hdigest, -, hstored⟩ := admitted_consumes hadmission
    exact ⟨digest, hdigest, hstored⟩

/-- Two commands of a run do not admit on the strength of the same challenge. -/
theorem admissionOn_pairwise (P : Primitives) (F : Formats) (path : String)
    (challenge : VerificationChallenge) (commands : List ReceiveVerify) (start : ChatVerifier) :
    ((Mutating.run (receiveVerify P F path) commands start).filterMap
      (admissionOn challenge)).Pairwise fun _ _ => False := by
  rw [List.pairwise_filterMap]
  refine Mutating.run_pairwise (receiveVerify P F path) ?_
  intro pre command post _ c hc admission hadmission admission' hadmission'
  obtain ⟨digest, hdigest, hstored⟩ := admitted_stored challenge pre start c hc
    (Option.isSome_iff_exists.mpr ⟨admission, hadmission⟩)
  obtain ⟨digest', hdigest', hfresh, -⟩ := admitted_consumes hadmission'
  obtain rfl : digest = digest' := Option.some.inj (hdigest.symm.trans hdigest')
  exact hfresh hstored

theorem eq_nil_or_singleton_of_pairwise_false {α : Type} {xs : List α}
    (h : xs.Pairwise fun _ _ => False) : xs = [] ∨ ∃ x, xs = [x] := by
  match xs, h with
  | [], _ => exact Or.inl rfl
  | [x], _ => exact Or.inr ⟨x, rfl⟩
  | x :: y :: rest, h => exact absurd ((List.pairwise_cons.mp h).1 y List.mem_cons_self) id

/-! ## The binding -/

/-- A challenge is bound to one of the listed admissions only. -/
theorem bound_unique {sha256 : Bytes → Digest32} {challenge : VerificationChallenge}
    {admissions : List (String × String)} {a a' : String × String}
    (hfree : CollisionFree (fun bytes => (sha256 bytes).front)
      (admissionPreimages challenge admissions))
    (hmem : a ∈ admissions) (hmem' : a' ∈ admissions)
    (h : admissionChallengeMatches sha256 challenge a.1 a.2 = some true)
    (h' : admissionChallengeMatches sha256 challenge a'.1 a'.2 = some true) : a = a' := by
  have hpreimages : (admissionBindingBytes challenge a.1 a.2 challenge.nonce.front).toList ++
      (admissionBindingBytes challenge a'.1 a'.2 challenge.nonce.front).toList ⊆
        admissionPreimages challenge admissions := by
    intro bytes hbytes
    rcases List.mem_append.mp hbytes with hbytes | hbytes
    · exact List.mem_filterMap.mpr ⟨a, hmem, Option.mem_toList.mp hbytes⟩
    · exact List.mem_filterMap.mpr ⟨a', hmem', Option.mem_toList.mp hbytes⟩
  have hinputs := admissionInputs_eq_of_match (hfree.mono hpreimages) rfl h h'
  simp only [admissionInputs, AdmissionInputs.mk.injEq, true_and] at hinputs
  exact Prod.ext hinputs.1 hinputs.2

/-- An issued challenge matches the group and the member it was issued for. -/
theorem admissionChallengeMatches_of_issue {P : Primitives} {issue : AdmissionIssue}
    {challenge : VerificationChallenge}
    (h : issueAdmissionChallenge P issue = .ok challenge) :
    admissionChallengeMatches P.sha256 challenge issue.groupId issue.memberAddress =
      some true := by
  simp only [issueAdmissionChallenge, Outcome.bind_eq_ok, Outcome.liftM_eq,
    Outcome.ofOption_eq_ok, Outcome.exists_unit, Outcome.pure_eq, Outcome.ok.injEq] at h
  obtain ⟨gate, -, created, -, bound, hbound, -, rfl⟩ := h
  exact admissionChallengeMatches_bindAdmissionChallenge hbound

/-- A challenge that is bound to a group and a member admits at most this member, and at
most once, in every run of commands that share a replay cache. -/
theorem admissionOn_of_bound {P : Primitives} {F : Formats} {path : String}
    {commands : List ReceiveVerify} {start : ChatVerifier} {challenge : VerificationChallenge}
    {groupId memberAddress : String}
    (hbound : admissionChallengeMatches P.sha256 challenge groupId memberAddress = some true)
    (hfree : CollisionFree (fun bytes => (P.sha256 bytes).front) (admissionPreimages challenge
      ((groupId, memberAddress) :: commands.filterMap requestedAdmission))) :
    (Mutating.run (receiveVerify P F path) commands start).filterMap
        (admissionOn challenge) = [] ∨
      (Mutating.run (receiveVerify P F path) commands start).filterMap
        (admissionOn challenge) = [(groupId, memberAddress)] := by
  refine (eq_nil_or_singleton_of_pairwise_false
    (admissionOn_pairwise P F path challenge commands start)).imp_right ?_
  rintro ⟨⟨admittedGroup, admitted⟩, hone⟩
  obtain ⟨call, hcall, hadmission⟩ := List.mem_filterMap.mp (hone ▸ List.mem_singleton_self _)
  obtain ⟨pre, post, hcommands, hcallEq⟩ := Mutating.mem_run _ hcall
  obtain ⟨file, envelope, hchallenge, heffects⟩ := admissionOn_eq_some.mp hadmission
  rw [hcallEq] at heffects
  have hlast : .addGroupMember admittedGroup admitted ∈ newEffects (Mutating.call
      (receiveVerify P F path) call.input (Mutating.final (receiveVerify P F path) pre start)) := by
    rw [heffects]
    simp
  obtain ⟨envelope', heffects', hadmits⟩ := admits_of_mem hlast
  rw [heffects] at heffects'
  simp only [List.cons.injEq, ChatEffect.writePresentation.injEq] at heffects'
  obtain ⟨-, rfl, -⟩ := heffects'
  -- the admission was asked for by a command of the run
  have hrequested : (admittedGroup, admitted) ∈ commands.filterMap requestedAdmission := by
    refine List.mem_filterMap.mpr ⟨call.input, by rw [hcommands]; simp, ?_⟩
    simp [requestedAdmission, hadmits.ready.group, hadmits.ready.member]
  have hadmitted := hadmits.ready.bound
  rw [hchallenge] at hadmitted
  rw [hone, bound_unique hfree (List.mem_cons_of_mem _ hrequested) List.mem_cons_self hadmitted
    hbound]

/-- Chat admission is safe.  In every run of commands that share a replay cache, an
admission is the last of the three effects of its command and has everything behind it
that `Admits` lists, and an admission challenge serves for one admission at most, the
one it was issued for. -/
theorem chat_admission_safe (P : Primitives) (F : Formats) (path : String)
    (commands : List ReceiveVerify) (start : ChatVerifier) :
    (∀ c ∈ Mutating.run (receiveVerify P F path) commands start, ∀ groupId memberAddress,
        .addGroupMember groupId memberAddress ∈ newEffects c →
        ∃ envelope, newEffects c = [.saveReplayCache c.after.replayCache,
            .writePresentation envelope, .addGroupMember groupId memberAddress] ∧
          Admits P F path c.input c.before.replayCache c.after.replayCache envelope groupId
            memberAddress) ∧
      ∀ issue challenge, issueAdmissionChallenge P issue = .ok challenge →
        CollisionFree (fun bytes => (P.sha256 bytes).front) (admissionPreimages challenge
          ((issue.groupId, issue.memberAddress) :: commands.filterMap requestedAdmission)) →
        (Mutating.run (receiveVerify P F path) commands start).filterMap
            (admissionOn challenge) = [] ∨
          (Mutating.run (receiveVerify P F path) commands start).filterMap
            (admissionOn challenge) = [(issue.groupId, issue.memberAddress)] := by
  refine ⟨?_, ?_⟩
  · intro c hc groupId memberAddress heffect
    obtain ⟨pre, post, -, hcall⟩ := Mutating.mem_run _ hc
    rw [hcall] at heffect ⊢
    exact admits_of_mem heffect
  · intro issue challenge hissue hfree
    exact admissionOn_of_bound (admissionChallengeMatches_of_issue hissue) hfree

/-! ## A run with one admission -/

/-- An admission challenge for the test gate. -/
def aliceIssue : AdmissionIssue where
  gate := .holds foundersGate
  expectedCommitmentRoot := foundersRoot
  groupId := "founders"
  memberAddress := "logos:alice"
  nowUnixMs := 1000
  ttlMs := 500
  nonce := List.Vector.replicate 32 5
  output := .ok ()

def aliceChallenge : VerificationChallenge :=
  VerificationChallenge.new foundersContextHash foundersRoot "logos-chat:founders"
    (digestOf 0x050505050505050505050505050505058cd97d323481f8f41298da3768199f2a) 1000 1500

def aliceDigest : Digest32 :=
  digestOf 0x148c0bde054be57f3bd0b01a432e7393a8cf691b8b639b0c4ed1937a748b0b5d

/-- The presentation of the first account for this challenge. -/
def aliceEnvelope : AttestationEnvelope :=
  { foundersEnvelope with
    challenge := aliceChallenge
    presenterSignature := (leBytes 64 0x17a9bd13b9a5e57a5a9503cd91b145935dba4156ca352654e31f3b76d7ca5b83be542580b335a1b495d6d745fe3bf6c67df328c528a54e25554822f61dac6409).reverse
    transport := .logosMessaging }

def aliceBytes : Bytes := asBytes (aliceEnvelope.serialize.toJson 2000000)

/-- The messages of a transfer in one chunk. -/
def aliceMessages : List WireMessage :=
  packedMessages sha256 aliceEnvelope 2048 chatTransferId aliceBytes aliceDigest

def aliceFormats : Formats := .ofTransfer aliceMessages aliceEnvelope.serialize aliceBytes

def aliceBundle : TransferBundle where
  transferId := chatTransferId
  messages := aliceMessages.map WireMessage.toJson

/-- The member sends the bundle, and the verifier receives it for an admission. -/
def aliceCommand : ReceiveVerify where
  args :=
    { receive := { transferId := some chatTransferId, expectedSender := none, pollMs := 1000 }
      challenge := "challenge.json"
      verifierId := none
      nowUnixMs := some 1200
      admitGroupId := some "founders"
      admitAddress := some "logos:alice" }
  challenge := .holds aliceChallenge
  gate := .holds foundersGate
  polls := [.ok (aliceBundle.messages.map fun text =>
    { fromSelf := false, content := text, sender := some "logos:alice" })]
  clock := .ok 1200
  lock := .ok ()
  save := .ok ()
  output := .ok ()
  addMember := .ok ()

theorem aliceBytes_length : aliceBytes.length = 1226 := by decide +kernel

theorem aliceChunks_length : (byteChunks 2048 aliceBytes).length = 1 := by
  rw [byteChunks, List.length_map, List.length_range, aliceBytes_length]

/-- One chunk and the manifest. -/
theorem aliceMessages_eq : ∃ c m, aliceMessages =
    [transferMessage chatTransferId (.chunk 0 c),
      transferMessage chatTransferId (.manifest m)] := by
  obtain ⟨part, hparts⟩ := List.length_eq_one_iff.mp aliceChunks_length
  unfold aliceMessages packedMessages packedBodies
  rw [hparts]
  exact ⟨_, _, rfl⟩

theorem aliceFormats_lawful : aliceFormats.Lawful := by
  refine Formats.ofTransfer_lawful ?_ ?_
  · obtain ⟨c, m, hmessages⟩ := aliceMessages_eq
    have hne := toJson_chunk_ne_manifest chatTransferId 0 c m
    rw [hmessages]
    simp [hne, hne.symm]
  · intro hnil
    have hlength := aliceBytes_length
    rw [hnil] at hlength
    simp at hlength

theorem aliceTransfer_packed :
    Packed aliceFormats sha256 aliceEnvelope 2048 chatTransferId aliceBundle aliceBytes
      aliceDigest := by
  refine Packed.ofTransfer rfl (by decide) (by decide) (by decide +kernel) ?_ ?_
    (by decide +kernel)
  · rw [aliceBytes_length]
    decide +kernel
  · rw [aliceChunks_length]
    decide

theorem issueAdmissionChallenge_alice :
    issueAdmissionChallenge foundersPrimitives aliceIssue = .ok aliceChallenge := by
  decide +kernel

/-- What the command has when it comes to the verification. -/
def aliceReceived : ReceivedPresentation where
  envelope := aliceEnvelope
  admission := some ("founders", "logos:alice")
  verifyArgs :=
    { gate := .holds foundersGate
      envelope := aliceEnvelope
      expectedChallenge := aliceChallenge
      expectedVerifierId := none
      nowUnixMs := 1200
      lock := .ok ()
      save := .ok () }

theorem receivePrefix_alice :
    receivePrefix aliceFormats sha256 aliceCommand = .ok aliceReceived := by
  have hcontents : receivedContents (some "logos:alice") (aliceBundle.messages.map fun text =>
      { fromSelf := false, content := text, sender := some "logos:alice" }) =
        aliceBundle.messages := by
    simp [receivedContents, List.filter_map, Function.comp_def]
  have hresolve : resolveAdmission aliceCommand.args = .ok
      ({ aliceCommand.args.receive with expectedSender := some "logos:alice" },
        some ("founders", "logos:alice")) := rfl
  have hreceive : receivePresentation aliceFormats sha256
      { aliceCommand.args.receive with expectedSender := some "logos:alice" }
      aliceCommand.polls = .ok (chatTransferId, aliceEnvelope) := by
    unfold receivePresentation
    rw [Outcome.check_of_not (by decide), Outcome.ok_bind, Outcome.mapErr_eq_ok]
    exact aliceTransfer_packed.receiveEnvelope_eq aliceFormats_lawful hcontents []
  have hbound : requireBound sha256 aliceEnvelope.challenge (some ("founders", "logos:alice")) =
      .ok () :=
    requireBound_eq_ok.mpr (admissionChallengeMatches_of_issue issueAdmissionChallenge_alice)
  have hread : readJson aliceCommand.args.challenge aliceCommand.challenge =
      .ok aliceChallenge := rfl
  unfold receivePrefix
  rw [hread, Outcome.ok_bind, hresolve, Outcome.ok_bind]
  show (receivePresentation _ _ _ _ >>= _) = _
  rw [hreceive, Outcome.ok_bind]
  show (requireBound _ _ _ >>= _) = _
  rw [hbound]
  rfl

theorem verify_alice :
    verify foundersPrimitives (aliceReceived.verifyArgs.request foundersGate) ⟨∅⟩ =
      (.ok (aliceReceived.verifyArgs.request foundersGate).attestation, ⟨{aliceDigest}⟩) := by
  decide +kernel

/-- The first command for the challenge admits the member. -/
theorem admissionOn_alice : admissionOn aliceChallenge
    (Mutating.call (receiveVerify foundersPrimitives aliceFormats "replay.json") aliceCommand
      ⟨.absent, []⟩) = some ("founders", "logos:alice") := by
  have hgate : readGateConfig aliceReceived.verifyArgs.gate = .ok foundersGate :=
    readGateConfig_eq_ok.mpr ⟨rfl, by decide +kernel⟩
  have hload : loadReplayCache "replay.json" .absent = .ok ⟨∅⟩ := rfl
  have hplan : verifyPlan foundersPrimitives "replay.json" aliceReceived.verifyArgs .absent =
      .ok (⟨(aliceReceived.verifyArgs.request foundersGate).attestation, 1⟩,
        .holds (saveReplayCache ⟨{aliceDigest}⟩)) := by
    unfold verifyPlan
    rw [hgate, Outcome.ok_bind, show aliceReceived.verifyArgs.lock = .ok () from rfl,
      Outcome.ok_bind, hload, Outcome.ok_bind, verify_alice]
    rfl
  have hverify : verifyReceivedPresentation foundersPrimitives "replay.json"
      aliceReceived.verifyArgs .absent =
        (.ok ⟨(aliceReceived.verifyArgs.request foundersGate).attestation, 1⟩,
          .holds (saveReplayCache ⟨{aliceDigest}⟩)) := by
    rw [verifyReceivedPresentation_eq]
    unfold Mutating.commit
    rw [hplan]
  have hreceived : receivePrefix aliceFormats foundersPrimitives.sha256 aliceCommand =
      .ok aliceReceived := receivePrefix_alice
  have hafter := receiveVerify_of_ok (s := ⟨.absent, []⟩) hreceived hverify
  rw [admissionOn_eq_some]
  refine ⟨.holds (saveReplayCache ⟨{aliceDigest}⟩), aliceEnvelope, rfl, ?_⟩
  unfold newEffects Mutating.call
  rw [hafter]
  rfl

/-- Both commands hash one binding, so nothing can collide. -/
theorem alice_collisionFree : CollisionFree (fun bytes => (foundersPrimitives.sha256 bytes).front)
    (admissionPreimages aliceChallenge (("founders", "logos:alice") ::
      [aliceCommand, aliceCommand].filterMap requestedAdmission)) := by
  have hlist : ("founders", "logos:alice") ::
      [aliceCommand, aliceCommand].filterMap requestedAdmission =
        List.replicate 3 ("founders", "logos:alice") := rfl
  rw [hlist]
  intro x hx y hy _
  obtain ⟨a, ha, hx⟩ := List.mem_filterMap.mp hx
  obtain ⟨b, hb, hy⟩ := List.mem_filterMap.mp hy
  rw [List.eq_of_mem_replicate ha] at hx
  rw [List.eq_of_mem_replicate hb] at hy
  exact Option.some.inj (hx.symm.trans hy)

theorem chat_admission_safe_alice :
    issueAdmissionChallenge foundersPrimitives aliceIssue = .ok aliceChallenge ∧
      (Mutating.run (receiveVerify foundersPrimitives aliceFormats "replay.json")
        [aliceCommand, aliceCommand] ⟨.absent, []⟩).filterMap (admissionOn aliceChallenge) =
          [("founders", "logos:alice")] := by
  refine ⟨issueAdmissionChallenge_alice, ?_⟩
  rcases (chat_admission_safe foundersPrimitives aliceFormats "replay.json"
    [aliceCommand, aliceCommand] ⟨.absent, []⟩).2 aliceIssue aliceChallenge
    issueAdmissionChallenge_alice alice_collisionFree with hnone | hone
  · rw [Mutating.run, List.filterMap_cons_some admissionOn_alice] at hnone
    cases hnone
  · exact hone

end TokenStudio
