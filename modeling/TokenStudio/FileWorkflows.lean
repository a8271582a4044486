import TokenStudio.AttestationCli.ReplayCache
import TokenStudio.CodeLib.LockedFile
import TokenStudio.ProofgateGovernance.Cli

/-!
# Files that several processes change

Any number of processes run `verify_received_presentation` on one replay cache file, or
the commands `challenge` and `cast` of the governance program on one state file.  The
steps of such processes interleave, and a process can stop between any two of them.
This is the setting of `LockedFile`, with `verifyPlan` and `GovernanceCommand.plan` as the
computations between loading and writing.

`cacheKept` and `governanceKept` carry the spec lemmas of the two computations over to
interleavings.  What a process has established stays in the file, and the next
process has found it there: a digest in the replay cache, a vote and a digest in the
governance state.  Nothing is said about the content that the processes start
from.
-/

namespace TokenStudio

open LockedFile

section

variable {π : Type} [DecidableEq π]

/-! ## The replay cache -/

/-- What processes that share a replay cache file keep, between a state `w` of the
processes and any later state `w'`. -/
structure CacheKept (P : Primitives) (path : String) (input : π → VerifyArgs)
    (w w' : World π (JsonFile ReplayCacheFile) VerifyOutcome) : Prop where
  /-- The digest of a presentation that was reported is in the file. -/
  stored : ∀ e ∈ w.reports, ∃ digest, (input e.1).digest P = some digest ∧
    digest ∈ storedDigests path w'.file
  /-- No digest is reported twice. -/
  once : (w.reports.map fun e => (input e.1).digest P).Nodup
  /-- The stored digests never shrink. -/
  grows : storedDigests path w.file ⊆ storedDigests path w'.file

/-- The digest of an accepted presentation stays in the file. -/
theorem verifyPlan_keeps_digest {P : Primitives} {path : String} {args args' : VerifyArgs}
    {file file' : JsonFile ReplayCacheFile} {outcome : VerifyOutcome}
    (h : verifyPlan P path args file = .ok (outcome, file'))
    (hstored : ∃ digest, args'.digest P = some digest ∧ digest ∈ storedDigests path file) :
    ∃ digest, args'.digest P = some digest ∧ digest ∈ storedDigests path file' := by
  obtain ⟨gate, cache, digest, haccepted⟩ := verifyPlan_eq_ok h
  obtain ⟨digest', hdigest', hmem⟩ := hstored
  exact ⟨digest', hdigest', haccepted.stored_subset hmem⟩

theorem verifyPlan_stores_digest {P : Primitives} {path : String} {args : VerifyArgs}
    {file file' : JsonFile ReplayCacheFile} {outcome : VerifyOutcome}
    (h : verifyPlan P path args file = .ok (outcome, file')) :
    ∃ digest, args.digest P = some digest ∧ digest ∈ storedDigests path file' := by
  obtain ⟨gate, cache, digest, haccepted⟩ := verifyPlan_eq_ok h
  exact ⟨digest, haccepted.digest_eq, haccepted.mem_stored⟩

/-- An accepted presentation has another digest than those in the file. -/
theorem verifyPlan_new_digest {P : Primitives} {path : String} {args args' : VerifyArgs}
    {file file' : JsonFile ReplayCacheFile} {outcome : VerifyOutcome}
    (h : verifyPlan P path args file = .ok (outcome, file'))
    (hstored : ∃ digest, args'.digest P = some digest ∧ digest ∈ storedDigests path file) :
    args'.digest P ≠ args.digest P := by
  obtain ⟨gate, cache, digest, haccepted⟩ := verifyPlan_eq_ok h
  obtain ⟨digest', hdigest', hmem⟩ := hstored
  intro heq
  rw [hdigest', haccepted.digest_eq] at heq
  obtain rfl : digest' = digest := Option.some.inj heq
  exact haccepted.fresh_stored hmem

theorem cacheKept {P : Primitives} {path : String} {input : π → VerifyArgs}
    {w₀ w w' : World π (JsonFile ReplayCacheFile) VerifyOutcome} (hfresh : w₀.Fresh)
    (hsteps : Steps (verifyPlan P path) input w₀ w)
    (hlater : Steps (verifyPlan P path) input w w') : CacheKept P path input w w' := by
  obtain ⟨log, hserial⟩ := (Serial.fresh hfresh rfl).steps hsteps
  rw [List.nil_append] at hserial
  obtain ⟨more, hserial'⟩ := hserial.steps hlater
  refine ⟨?_, ?_, ?_⟩
  · intro e he
    exact hserial'.establishes
      (K := fun args _ file => ∃ digest, args.digest P = some digest ∧
        digest ∈ storedDigests path file)
      (fun _ _ _ _ h => verifyPlan_stores_digest h)
      (fun _ _ _ _ _ _ h hstored => verifyPlan_keeps_digest h hstored)
      (List.mem_append_left _ (hserial.reported e he))
  · have hpairwise := hserial.pairwise
      (K := fun args _ file => ∃ digest, args.digest P = some digest ∧
        digest ∈ storedDigests path file)
      (R := fun args _ args' _ => args.digest P ≠ args'.digest P)
      (fun _ _ _ _ h => verifyPlan_stores_digest h)
      (fun _ _ _ _ _ _ h hstored => verifyPlan_keeps_digest h hstored)
      (fun _ _ _ _ _ _ h hstored => verifyPlan_new_digest h hstored)
    have hdigests : (log.map fun e => (input e.1).digest P).Nodup :=
      List.pairwise_map.mpr hpairwise
    -- the reports come in an order of their own
    refine hserial.reports_nodup.of_map.map_on ?_
    intro e he e' he' hdigest
    exact List.inj_on_of_nodup_map hdigests (hserial.reported e he) (hserial.reported e' he')
      hdigest
  · intro digest hmem
    refine hserial.keeps hlater (motive := fun file => digest ∈ storedDigests path file) ?_ hmem
    intro args file outcome file' h hmem
    obtain ⟨gate, cache, digest', haccepted⟩ := verifyPlan_eq_ok h
    exact haccepted.stored_subset hmem

/-! ## The governance state -/

/-- The votes that a reply counts for. -/
def GovernanceReply.votes : GovernanceReply → Nat
  | .challenge _ => 0
  | .vote _ => 1

/-- The digest of the challenge that a cast presents. -/
def GovernanceCommand.challengeDigest (P : Primitives) : GovernanceCommand → Option Digest32
  | .challenge _ => none
  | .cast args =>
    match args.presentation with
    | .holds envelope => envelope.challenge.digest P.sha256
    | _ => none

/-- A vote that was accepted is in the file, and so is the digest of its challenge. -/
structure VoteKept (P : Primitives) (command : GovernanceCommand) (outcome : CastOutcome)
    (file : JsonFile GovernanceState) : Prop where
  vote : ∃ record, record.choice = outcome.choice ∧
    (votesIn file)[digestToHex outcome.presenterPublicKey]? = some record
  digest : ∃ digest, command.challengeDigest P = some digest ∧ digest ∈ consumedIn file

/-- What processes that share a state file keep, between a state `w` of the processes and
any later state `w'`.  The lists name the processes that have changed the file. -/
structure GovernanceKept (P : Primitives) (path : String) (input : π → GovernanceCommand)
    (start : JsonFile GovernanceState)
    (w w' : World π (JsonFile GovernanceState) GovernanceReply)
    (log more : List (π × GovernanceReply)) : Prop where
  serialized : Serialized (GovernanceCommand.plan P path) input start w log
  later : Serialized (GovernanceCommand.plan P path) input start w' (log ++ more)
  /-- A vote that was reported is in every later file. -/
  votes : ∀ p outcome, (p, .vote outcome) ∈ w.reports → VoteKept P (input p) outcome w'.file
  /-- No presenter and no challenge has two votes. -/
  once : log.Pairwise fun e e' => ∀ outcome outcome', e.2 = .vote outcome →
    e'.2 = .vote outcome' → outcome.presenterPublicKey ≠ outcome'.presenterPublicKey ∧
      (input e.1).challengeDigest P ≠ (input e'.1).challengeDigest P
  /-- Each accepted vote is counted once. -/
  counted : (votesIn w.file).size = (votesIn start).size + (log.map fun e => e.2.votes).sum
  /-- Each of their challenges is consumed once. -/
  consumed : (consumedIn w.file).card =
    (consumedIn start).card + (log.map fun e => e.2.votes).sum

section

variable {P : Primitives} {path : String} {command command' : GovernanceCommand}
  {file file' : JsonFile GovernanceState} {reply : GovernanceReply} {outcome : CastOutcome}

/-- The digest of the challenge of a stored vote. -/
theorem VoteStored.challengeDigest_eq {before after : JsonFile GovernanceState}
    {envelope : AttestationEnvelope} {digest : Digest32} {record : VoteRecord}
    (h : VoteStored P command reply before after envelope digest record) :
    command.challengeDigest P = some digest := by
  obtain ⟨args, rfl, hpresentation, -⟩ := h.command_eq
  unfold GovernanceCommand.challengeDigest
  simp only [hpresentation]
  exact h.digest_eq

/-- An accepted vote is stored. -/
theorem voteKept_of_plan (h : command.plan P path file = .ok (.vote outcome, file')) :
    VoteKept P command outcome file' := by
  rcases GovernanceCommand.plan_cases h with ⟨⟨challenge, hreply⟩, -⟩ |
    ⟨envelope, digest, record, hstored⟩
  · cases hreply
  · obtain ⟨outcome', hreply, hpresenter, hchoice⟩ := hstored.reply_eq
    obtain rfl : outcome = outcome' := GovernanceReply.vote.inj hreply
    refine ⟨⟨record, hchoice.symm, ?_⟩, digest, hstored.challengeDigest_eq, ?_⟩
    · rw [hpresenter]
      exact hstored.getElem?_votes
    · rw [hstored.consumed]
      exact Finset.mem_insert_self _ _

/-- A stored vote stays. -/
theorem VoteKept.plan (hkept : VoteKept P command' outcome file)
    (h : command.plan P path file = .ok (reply, file')) : VoteKept P command' outcome file' := by
  obtain ⟨⟨record, hchoice, hvote⟩, digest, hdigest, hmem⟩ := hkept
  exact ⟨⟨record, hchoice, GovernanceCommand.plan_keeps_votes h hvote⟩, digest, hdigest,
    GovernanceCommand.plan_keeps_consumed h hmem⟩

/-- An accepted vote has another presenter and another challenge than a stored one. -/
theorem VoteKept.ne_of_plan {outcome' : CastOutcome} (hkept : VoteKept P command' outcome file)
    (h : command.plan P path file = .ok (.vote outcome', file')) :
    outcome.presenterPublicKey ≠ outcome'.presenterPublicKey ∧
      command'.challengeDigest P ≠ command.challengeDigest P := by
  obtain ⟨⟨record, -, hvote⟩, digest, hdigest, hmem⟩ := hkept
  rcases GovernanceCommand.plan_cases h with ⟨⟨challenge, hreply⟩, -⟩ |
    ⟨envelope, digest', record', hstored⟩
  · cases hreply
  · obtain ⟨outcome'', hreply, hpresenter, -⟩ := hstored.reply_eq
    obtain rfl : outcome' = outcome'' := GovernanceReply.vote.inj hreply
    refine ⟨?_, ?_⟩
    · intro heq
      refine hstored.newPresenter ?_
      unfold presenterText
      rw [← hpresenter, ← heq, Std.ExtTreeMap.mem_iff_isSome_getElem?, hvote]
      rfl
    · intro heq
      rw [hdigest, hstored.challengeDigest_eq] at heq
      obtain rfl : digest = digest' := Option.some.inj heq
      exact hstored.fresh hmem

/-- An accepted command raises both counts by the votes of its reply. -/
theorem plan_counts (h : command.plan P path file = .ok (reply, file')) :
    (votesIn file').size = (votesIn file).size + reply.votes ∧
      (consumedIn file').card = (consumedIn file).card + reply.votes := by
  rcases GovernanceCommand.plan_cases h with ⟨⟨challenge, rfl⟩, hvotes, hconsumed⟩ |
    ⟨envelope, digest, record, hstored⟩
  · rw [hvotes, hconsumed]
    exact ⟨rfl, rfl⟩
  · obtain ⟨outcome, rfl, -⟩ := hstored.reply_eq
    refine ⟨hstored.size_votes, ?_⟩
    rw [hstored.consumed, Finset.card_insert_of_notMem hstored.fresh]
    rfl

end

theorem governanceKept {P : Primitives} {path : String} {input : π → GovernanceCommand}
    {w₀ w w' : World π (JsonFile GovernanceState) GovernanceReply} (hfresh : w₀.Fresh)
    (hsteps : Steps (GovernanceCommand.plan P path) input w₀ w)
    (hlater : Steps (GovernanceCommand.plan P path) input w w') :
    ∃ log more, GovernanceKept P path input w₀.file w w' log more := by
  obtain ⟨log, hserial⟩ := (Serial.fresh hfresh rfl).steps hsteps
  rw [List.nil_append] at hserial
  obtain ⟨more, hserial'⟩ := hserial.steps hlater
  have hnew : ∀ command file reply file',
      GovernanceCommand.plan P path command file = .ok (reply, file') →
      ∀ outcome, reply = .vote outcome → VoteKept P command outcome file' := by
    rintro command file reply file' h outcome rfl
    exact voteKept_of_plan h
  have hkeep : ∀ command file reply file' command' (reply' : GovernanceReply),
      GovernanceCommand.plan P path command file = .ok (reply, file') →
      (∀ outcome, reply' = .vote outcome → VoteKept P command' outcome file) →
      ∀ outcome, reply' = .vote outcome → VoteKept P command' outcome file' :=
    fun _ _ _ _ _ _ h hkept outcome hreply => (hkept outcome hreply).plan h
  refine ⟨log, more, hserial.serialized, hserial'.serialized, ?_, ?_, ?_, ?_⟩
  · intro p outcome hreport
    exact hserial'.establishes
      (K := fun command reply file => ∀ outcome, reply = .vote outcome →
        VoteKept P command outcome file) hnew hkeep
      (List.mem_append_left _ (hserial.reported _ hreport)) outcome rfl
  · refine hserial.pairwise
      (K := fun command reply file => ∀ outcome, reply = .vote outcome →
        VoteKept P command outcome file)
      (R := fun command reply command' reply' => ∀ outcome outcome', reply = .vote outcome →
        reply' = .vote outcome' → outcome.presenterPublicKey ≠ outcome'.presenterPublicKey ∧
          command.challengeDigest P ≠ command'.challengeDigest P) hnew hkeep ?_
    rintro command file reply file' command' reply' h hkept outcome outcome' hreply rfl
    exact (hkept outcome hreply).ne_of_plan h
  · exact hserial.measure (f := fun file => (votesIn file).size) fun _ _ _ _ h => (plan_counts h).1
  · exact hserial.measure (f := fun file => (consumedIn file).card)
      fun _ _ _ _ h => (plan_counts h).2

end

/-- The locked files lose no update, whatever the steps of the processes and wherever they
stop, and a replay cache that was saved loads as the same set. -/
theorem file_workflows_safe (P : Primitives) (path : String) :
    (∀ (π : Type) [DecidableEq π] (input : π → VerifyArgs)
        (w₀ w w' : World π (JsonFile ReplayCacheFile) VerifyOutcome), w₀.Fresh →
        Steps (verifyPlan P path) input w₀ w → Steps (verifyPlan P path) input w w' →
        CacheKept P path input w w') ∧
      (∀ (π : Type) [DecidableEq π] (input : π → GovernanceCommand)
        (w₀ w w' : World π (JsonFile GovernanceState) GovernanceReply), w₀.Fresh →
        Steps (GovernanceCommand.plan P path) input w₀ w →
        Steps (GovernanceCommand.plan P path) input w w' →
        ∃ log more, GovernanceKept P path input w₀.file w w' log more) ∧
      ∀ cache, loadReplayCache path (.holds (saveReplayCache cache)) = .ok cache :=
  ⟨fun _ _ _ _ _ _ hfresh hsteps hlater => cacheKept hfresh hsteps hlater,
    fun _ _ _ _ _ _ hfresh hsteps hlater => governanceKept hfresh hsteps hlater,
    fun cache => loadReplayCache_saveReplayCache path cache⟩

/-- The processes before their first step, on a file that is not there. -/
def freshWorld (σ α : Type) : World Bool (JsonFile σ) α where
  file := .absent
  lock := none
  temporary _ := none
  phase _ := .ready
  reports := []

theorem freshWorld_fresh (σ α : Type) : (freshWorld σ α).Fresh := ⟨rfl, fun _ => rfl, rfl⟩

/-- The presentation of the test gate. -/
def foundersArgs : VerifyArgs where
  gate := .holds foundersGate
  envelope := foundersEnvelope
  expectedChallenge := foundersEnvelope.challenge
  expectedVerifierId := none
  nowUnixMs := 1200
  lock := .ok ()
  save := .ok ()

theorem verifyPlan_founders : verifyPlan foundersPrimitives "replay.json" foundersArgs .absent =
    .ok (⟨foundersRequest.attestation, 1⟩,
      .holds (saveReplayCache ⟨{foundersChallengeDigest}⟩)) := by
  have hgate : readGateConfig foundersArgs.gate = .ok foundersGate :=
    readGateConfig_eq_ok.mpr ⟨rfl, by decide +kernel⟩
  have hload : loadReplayCache "replay.json" .absent = .ok ⟨∅⟩ := rfl
  have hrequest : foundersArgs.request foundersGate = foundersRequest := rfl
  unfold verifyPlan
  rw [hgate, Outcome.ok_bind, show foundersArgs.lock = .ok () from rfl, Outcome.ok_bind, hload,
    Outcome.ok_bind, hrequest, verify_foundersRequest]
  rfl

/-- The first process issues a challenge for the test proposal, and the second one casts
the vote. -/
def treasuryCommand : Bool → GovernanceCommand
  | false => .challenge
    { gate := .holds treasuryGate
      proposalId := "treasury-7"
      commitmentRootHex := digestToHex foundersRoot
      ttlMs := 500
      nowUnixMs := some 1000
      clock := .ok 1000
      nonce := List.Vector.replicate 32 5
      lock := .ok ()
      save := .ok () }
  | true => .cast
    { gate := .holds treasuryGate
      proposalId := "treasury-7"
      presentationPath := "presentation.json"
      presentation := .holds treasuryEnvelope
      choice := .yes
      nowUnixMs := some 1200
      clock := .ok 1200
      lock := .ok ()
      save := .ok () }

/-- The state file after the challenge. -/
def treasuryFile : JsonFile GovernanceState :=
  (((treasuryCommand false).plan treasuryPrimitives "state.json" .absent).toOption.map
    Prod.snd).getD .absent

theorem treasuryCommand_isOk :
    ((treasuryCommand false).plan treasuryPrimitives "state.json" .absent).isOk = true ∧
      ((treasuryCommand true).plan treasuryPrimitives "state.json" treasuryFile).isOk = true := by
  decide +kernel

/-- A process reports the presentation, and the two commands report the challenge and the
vote. -/
theorem file_workflows_safe_founders :
    (∃ w, Steps (verifyPlan foundersPrimitives "replay.json") (fun _ : Bool => foundersArgs)
        (freshWorld _ _) w ∧ w.reports = [(true, ⟨foundersRequest.attestation, 1⟩)] ∧
        foundersChallengeDigest ∈ storedDigests "replay.json" w.file) ∧
      ∃ w outcome, Steps (GovernanceCommand.plan treasuryPrimitives "state.json") treasuryCommand
        (freshWorld _ _) w ∧ (true, .vote outcome) ∈ w.reports ∧
        VoteKept treasuryPrimitives (treasuryCommand true) outcome w.file := by
  refine ⟨?_, ?_⟩
  · obtain ⟨w, hsteps, -, -, hreports, -⟩ := exists_steps_of_plan (fun _ : Bool => foundersArgs)
      (w := freshWorld _ _) (p := true) rfl rfl verifyPlan_founders
    have hkept := (file_workflows_safe foundersPrimitives "replay.json").1 Bool _ _ w w
      (freshWorld_fresh _ _) hsteps .refl
    have hdigest : foundersArgs.digest foundersPrimitives = some foundersChallengeDigest := by
      obtain ⟨gate, cache, digest, haccepted⟩ := verifyPlan_eq_ok verifyPlan_founders
      have hmem := haccepted.mem_stored
      rw [storedDigests_saveReplayCache, Finset.mem_singleton] at hmem
      rw [haccepted.digest_eq, hmem]
    have hreport : (true, ⟨foundersRequest.attestation, 1⟩) ∈ w.reports := by
      rw [hreports]
      exact List.mem_singleton_self _
    obtain ⟨digest, hdigest', hmem⟩ := hkept.stored _ hreport
    obtain rfl : foundersChallengeDigest = digest := Option.some.inj (hdigest.symm.trans hdigest')
    exact ⟨w, hsteps, hreports, hmem⟩
  · obtain ⟨hissued, hcast⟩ := treasuryCommand_isOk
    obtain ⟨⟨challenge, next⟩, hissued⟩ := Outcome.isOk_iff.mp hissued
    obtain ⟨⟨reply, next'⟩, hcast⟩ := Outcome.isOk_iff.mp hcast
    have hfile : treasuryFile = next := by
      unfold treasuryFile
      rw [hissued]
      rfl
    rw [hfile] at hcast
    obtain ⟨outcome, rfl⟩ : ∃ outcome, reply = .vote outcome := by
      simp only [GovernanceCommand.plan, treasuryCommand, Outcome.bind_eq_ok, Outcome.pure_eq,
        Outcome.ok.injEq, Prod.mk.injEq] at hcast
      obtain ⟨⟨outcome, -⟩, -, rfl, -⟩ := hcast
      exact ⟨outcome, rfl⟩
    obtain ⟨w, hsteps, hlock, hfile', -, hphase⟩ := exists_steps_of_plan treasuryCommand
      (w := freshWorld _ _) (p := false) rfl rfl hissued
    rw [← hfile'] at hcast
    obtain ⟨w', hsteps', -, -, hreports, -⟩ := exists_steps_of_plan treasuryCommand (p := true)
      hlock (hphase true (by decide)) hcast
    have hall := hsteps.trans hsteps'
    have hreport : (true, .vote outcome) ∈ w'.reports := by
      rw [hreports]
      exact List.mem_append_right _ (List.mem_singleton_self _)
    obtain ⟨log, more, hkept⟩ := (file_workflows_safe treasuryPrimitives "state.json").2.1 Bool _ _
      w' w' (freshWorld_fresh _ _) hall .refl
    exact ⟨w', outcome, hall, hreport, hkept.votes true outcome hreport⟩

end TokenStudio
