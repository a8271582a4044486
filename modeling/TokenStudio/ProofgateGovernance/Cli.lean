import TokenStudio.JsonFile
import TokenStudio.ProofgateGovernance.Votes

/-!
# The governance command line

The commands `challenge` and `cast` of the program `proofgate-governance`.  Both take the
lock of the state file, read the state, change it with a call of the service, and put
the new state in the place of the old one.

`GovernanceCli.issueChallenge` and `GovernanceCli.castVote` are what the commands compute
from the content of the state file: the reply and the new content.  Taking the lock
and replacing the file happen around the computation, and their results are
arguments of the model, as is everything else that a command finds.  The command
`challenge` writes its challenge to a file of its own after that.

A file counts the votes `votesIn` and the consumed digests `consumedIn`.
`GovernanceCommand.plan_cases` is the spec lemma: a successful command leaves both as they
are, or it adds one vote of a new presenter and one new digest (`VoteStored`).
-/

namespace TokenStudio

/-- `parse_digest` of the command line. -/
def parseDigestArg (value label : String) : Outcome String Digest32 := do
  let decoded ← Outcome.okOr (hexDecode (asBytes value)) (label ++ " must be hexadecimal")
  if h : decoded.length = 32 then pure ⟨decoded, h⟩
  else .err (label ++ " must be 32 bytes; got " ++ toString decoded.length)

/-- `ChallengeArgs`, with the gate file that the command finds, the clock, the random
nonce and the results of `lock_state` and `write_private_json_atomic`. -/
structure ChallengeArgs where
  gate : JsonFile GateConfig
  proposalId : String
  commitmentRootHex : String
  ttlMs : UInt64
  nowUnixMs : Option UInt64
  clock : Outcome String UInt64
  nonce : Digest32
  lock : Outcome String Unit
  save : Outcome String Unit

/-- `CastArgs`, with the two files that the command finds, the clock and the results of
`lock_state` and `write_private_json_atomic`. -/
structure CastArgs where
  gate : JsonFile GateConfig
  proposalId : String
  presentationPath : String
  presentation : JsonFile AttestationEnvelope
  choice : VoteChoice
  nowUnixMs : Option UInt64
  clock : Outcome String UInt64
  lock : Outcome String Unit
  save : Outcome String Unit

namespace GovernanceCli

/-- The state that `issue_challenge` starts from: the stored one, or else a new one. -/
def openState (P : Primitives) (path : String) (gate : GateConfig) (proposalId : String)
    (file : JsonFile GovernanceState) : Outcome String GovernanceState :=
  if file.pathExists then readJson path file
  else (GovernanceState.new P gate proposalId).mapErr GovernanceError.toText

/-- `issue_challenge`. -/
def issueChallenge (P : Primitives) (path : String) (args : ChallengeArgs)
    (file : JsonFile GovernanceState) :
    Outcome String (VerificationChallenge × JsonFile GovernanceState) := do
  let gate ← readGateConfig args.gate
  let root ← parseDigestArg args.commitmentRootHex "commitment root"
  args.lock
  let state ← openState P path gate args.proposalId file
  (state.validate P gate args.proposalId).mapErr GovernanceError.toText
  let clock ← args.clock
  let issued := GovernanceState.issueChallenge P gate root (args.nowUnixMs.getD clock) args.ttlMs
    args.nonce state
  let challenge ← issued.1.mapErr GovernanceError.toText
  args.save
  pure (challenge, .holds issued.2)

/-- `cast_vote`. -/
def castVote (P : Primitives) (path : String) (args : CastArgs) (file : JsonFile GovernanceState) :
    Outcome String (CastOutcome × JsonFile GovernanceState) := do
  let gate ← readGateConfig args.gate
  let envelope ← readJson args.presentationPath args.presentation
  args.lock
  let state ← readJson path file
  (state.validate P gate args.proposalId).mapErr GovernanceError.toText
  let clock ← args.clock
  let cast := GovernanceState.castVote P gate envelope args.choice (args.nowUnixMs.getD clock)
    state
  let outcome ← cast.1.mapErr GovernanceError.toText
  args.save
  pure (outcome, .holds cast.2)

end GovernanceCli

/-- A command that changes the state file. -/
inductive GovernanceCommand where
  | challenge (args : ChallengeArgs)
  | cast (args : CastArgs)

/-- What a command computes from the content of the state file. -/
def GovernanceCommand.plan (P : Primitives) (path : String) :
    GovernanceCommand → JsonFile GovernanceState →
      Outcome String (GovernanceReply × JsonFile GovernanceState)
  | .challenge args, file => do
    let (issued, next) ← GovernanceCli.issueChallenge P path args file
    pure (.challenge issued, next)
  | .cast args, file => do
    let (outcome, next) ← GovernanceCli.castVote P path args file
    pure (.vote outcome, next)

/-! ## What a file counts -/

/-- The votes in a state file. -/
def votesIn : JsonFile GovernanceState → Std.ExtTreeMap String VoteRecord
  | .holds state => state.votes
  | _ => ∅

/-- The consumed digests in a state file. -/
def consumedIn : JsonFile GovernanceState → Finset Digest32
  | .holds state =>
    match state.consumedChallenges.mapM parseDigest with
    | .ok digests => digests.toFinset
    | _ => ∅
  | _ => ∅

theorem consumedIn_of_mapM {state : GovernanceState} {digests : List Digest32}
    (h : state.consumedChallenges.mapM parseDigest = .ok digests) :
    consumedIn (.holds state) = digests.toFinset := by
  unfold consumedIn
  simp only [h]

/-- A stored set of digests reads back. -/
theorem consumedIn_withVote (state : GovernanceState) (key : String)
    (cache : InMemoryReplayCache) (presenter : Digest32) (record : VoteRecord) :
    consumedIn (.holds (state.withVote key cache presenter record)) = cache.consumed := by
  obtain ⟨digests, hdigests, hset⟩ :=
    GovernanceState.mapM_consumedTexts parseDigest GovernanceState.parseDigest_digestToHex cache
  rw [← hset]
  exact consumedIn_of_mapM hdigests

/-! ## What a command does to the file -/

/-- A cast that is accepted: the presenter has no vote in the file and the digest of the
challenge is not consumed there, and afterwards they are. -/
structure VoteStored (P : Primitives) (command : GovernanceCommand) (reply : GovernanceReply)
    (before after : JsonFile GovernanceState) (envelope : AttestationEnvelope)
    (digest : Digest32) (record : VoteRecord) : Prop where
  command_eq : ∃ args, command = .cast args ∧ args.presentation = .holds envelope ∧
    record.choice = args.choice
  reply_eq : ∃ outcome, reply = .vote outcome ∧
    outcome.presenterPublicKey = envelope.journal.presenterPublicKey ∧
    outcome.choice = record.choice
  digest_eq : envelope.challenge.digest P.sha256 = some digest
  newPresenter : presenterText envelope ∉ votesIn before
  votes : votesIn after = (votesIn before).insert (presenterText envelope) record
  fresh : digest ∉ consumedIn before
  consumed : consumedIn after = insert digest (consumedIn before)

/-- The state that a challenge starts from counts what the file counts. -/
theorem GovernanceCli.openState_eq_ok {P : Primitives} {path : String} {gate : GateConfig}
    {proposalId : String} {file : JsonFile GovernanceState} {state : GovernanceState}
    (h : openState P path gate proposalId file = .ok state) :
    votesIn (.holds state) = votesIn file ∧ consumedIn (.holds state) = consumedIn file := by
  unfold openState at h
  split at h
  · rw [readJson_eq_ok] at h
    rw [h]
    exact ⟨rfl, rfl⟩
  · rename_i habsent
    have hfile : file = .absent := by
      cases file <;> simp_all [JsonFile.pathExists]
    rw [Outcome.mapErr_eq_ok] at h
    obtain ⟨-, contextHash, -, rfl⟩ := GovernanceState.new_eq_ok_iff.mp h
    rw [hfile]
    exact ⟨rfl, rfl⟩

/-- A challenge leaves the votes and the consumed digests alone. -/
theorem GovernanceCli.issueChallenge_eq_ok {P : Primitives} {path : String} {args : ChallengeArgs}
    {file file' : JsonFile GovernanceState} {challenge : VerificationChallenge}
    (h : issueChallenge P path args file = .ok (challenge, file')) :
    votesIn file' = votesIn file ∧ consumedIn file' = consumedIn file := by
  simp only [issueChallenge, Outcome.bind_eq_ok, Outcome.exists_unit, Outcome.mapErr_eq_ok,
    Outcome.pure_eq, Outcome.ok.injEq, Prod.mk.injEq] at h
  obtain ⟨gate, -, root, -, -, state, hstate, -, clock, -, challenge', hissued, -, -, rfl⟩ := h
  have hstart := openState_eq_ok hstate
  rcases GovernanceState.issueChallenge_cases P gate root (args.nowUnixMs.getD clock) args.ttlMs
    args.nonce state with ⟨challenge'', digest, -, hcall⟩ | ⟨hfail, -⟩
  · rw [hcall]
    exact ⟨hstart.1, hstart.2⟩
  · rw [hissued] at hfail
    simp [Outcome.isOk] at hfail

/-- A cast that succeeds stores a vote. -/
theorem GovernanceCli.castVote_eq_ok {P : Primitives} {path : String} {args : CastArgs}
    {file file' : JsonFile GovernanceState} {outcome : CastOutcome}
    (h : castVote P path args file = .ok (outcome, file')) :
    ∃ envelope digest record,
      VoteStored P (.cast args) (.vote outcome) file file' envelope digest record := by
  simp only [castVote, Outcome.bind_eq_ok, Outcome.exists_unit, Outcome.mapErr_eq_ok,
    readJson_eq_ok, Outcome.pure_eq, Outcome.ok.injEq, Prod.mk.injEq] at h
  obtain ⟨gate, -, envelope, hpresentation, -, state, rfl, -, clock, -, outcome', hcast, -, rfl,
    rfl⟩ := h
  rcases GovernanceState.castVote_cases P gate envelope args.choice (args.nowUnixMs.getD clock)
    state with ⟨outcome, digest, consumed, haccepted, hcall, hpresenter, hchoice⟩ | ⟨hfail, -⟩
  · rw [hcall] at hcast ⊢
    obtain rfl : outcome = outcome' := Outcome.ok.inj hcast
    have hbefore : consumedIn (.holds state) = consumed.toFinset :=
      consumedIn_of_mapM haccepted.consumed_eq
    refine ⟨envelope, digest, ⟨args.choice, args.nowUnixMs.getD clock⟩,
      { command_eq := ⟨args, rfl, hpresentation, rfl⟩
        reply_eq := ⟨outcome, rfl, hpresenter, hchoice⟩
        digest_eq := haccepted.digest_eq
        newPresenter := haccepted.newPresenter
        votes := rfl
        fresh := ?_
        consumed := ?_ }⟩
    · rw [hbefore, List.mem_toFinset]
      exact haccepted.fresh
    · rw [consumedIn_withVote, hbefore]
  · rw [hcast] at hfail
    simp [Outcome.isOk] at hfail

/-- What a successful command does: it counts nothing new, or it stores one vote. -/
theorem GovernanceCommand.plan_cases {P : Primitives} {path : String}
    {command : GovernanceCommand} {file file' : JsonFile GovernanceState}
    {reply : GovernanceReply} (h : command.plan P path file = .ok (reply, file')) :
    ((∃ challenge, reply = .challenge challenge) ∧ votesIn file' = votesIn file ∧
        consumedIn file' = consumedIn file) ∨
      ∃ envelope digest record,
        VoteStored P command reply file file' envelope digest record := by
  cases command with
  | challenge args =>
    simp only [plan, Outcome.bind_eq_ok, Outcome.pure_eq, Outcome.ok.injEq, Prod.mk.injEq,
      Prod.exists] at h
    obtain ⟨challenge, next, hissue, rfl, rfl⟩ := h
    exact Or.inl ⟨⟨challenge, rfl⟩, GovernanceCli.issueChallenge_eq_ok hissue⟩
  | cast args =>
    simp only [plan, Outcome.bind_eq_ok, Outcome.pure_eq, Outcome.ok.injEq, Prod.mk.injEq,
      Prod.exists] at h
    obtain ⟨outcome, next, hcast, rfl, rfl⟩ := h
    exact Or.inr (GovernanceCli.castVote_eq_ok hcast)

namespace VoteStored

variable {P : Primitives} {command : GovernanceCommand} {reply : GovernanceReply}
  {before after : JsonFile GovernanceState} {envelope : AttestationEnvelope} {digest : Digest32}
  {record : VoteRecord}

/-- The vote is in the new file. -/
theorem getElem?_votes (h : VoteStored P command reply before after envelope digest record) :
    (votesIn after)[presenterText envelope]? = some record := by
  rw [h.votes, Std.ExtTreeMap.getElem?_insert_self]

/-- Every other vote stays as it is. -/
theorem keeps_votes (h : VoteStored P command reply before after envelope digest record)
    {key : String} {record' : VoteRecord} (hkey : (votesIn before)[key]? = some record') :
    (votesIn after)[key]? = some record' := by
  rw [h.votes, Std.ExtTreeMap.getElem?_insert, if_neg, hkey]
  intro heq
  rw [Std.compare_eq_iff_eq] at heq
  refine h.newPresenter ?_
  rw [heq, Std.ExtTreeMap.mem_iff_isSome_getElem?, hkey]
  rfl

/-- There is one vote more. -/
theorem size_votes (h : VoteStored P command reply before after envelope digest record) :
    (votesIn after).size = (votesIn before).size + 1 := by
  have hnot : ¬ (votesIn before).contains (presenterText envelope) = true := by
    rw [← Std.ExtTreeMap.mem_iff_contains]
    exact h.newPresenter
  rw [h.votes, Std.ExtTreeMap.size_insert, if_neg hnot]

end VoteStored

/-- A successful command keeps every vote. -/
theorem GovernanceCommand.plan_keeps_votes {P : Primitives} {path : String}
    {command : GovernanceCommand} {file file' : JsonFile GovernanceState}
    {reply : GovernanceReply} (h : command.plan P path file = .ok (reply, file'))
    {key : String} {record : VoteRecord} (hkey : (votesIn file)[key]? = some record) :
    (votesIn file')[key]? = some record := by
  rcases plan_cases h with ⟨-, hvotes, -⟩ | ⟨envelope, digest, record', hstored⟩
  · rw [hvotes]
    exact hkey
  · exact hstored.keeps_votes hkey

/-- A successful command keeps every consumed digest. -/
theorem GovernanceCommand.plan_keeps_consumed {P : Primitives} {path : String}
    {command : GovernanceCommand} {file file' : JsonFile GovernanceState}
    {reply : GovernanceReply} (h : command.plan P path file = .ok (reply, file')) :
    consumedIn file ⊆ consumedIn file' := by
  rcases plan_cases h with ⟨-, -, hconsumed⟩ | ⟨envelope, digest, record, hstored⟩
  · rw [hconsumed]
  · rw [hstored.consumed]
    exact Finset.subset_insert _ _

end TokenStudio
