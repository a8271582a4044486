import Mathlib.Data.List.Perm.Lattice
import TokenStudio.FileBytes

/-!
# The status of a proposal

The command `status` takes the lock of the state file and prints how many votes there are
for each choice, and how many challenges are pending and consumed.

`status_tallies` says what these numbers are at any moment of a run of commands that share
the file: for each choice, the votes that the file had at the start and the accepted casts
with this choice, each of them once.  The commands are those of `FileBytes`, so they
can have stopped at any piece of a document.
-/

namespace TokenStudio

/-! ## The command -/

/-- What the command prints. -/
structure GovernanceStatus where
  proposalId : String
  yes : Nat
  no : Nat
  abstain : Nat
  pendingChallenges : Nat
  consumedChallenges : Nat
  deriving DecidableEq, Repr

/-- `votes.values().filter(|record| record.choice == choice).count()`. -/
def tally (choice : VoteChoice) (votes : Std.ExtTreeMap String VoteRecord) : Nat :=
  (votes.toList.filter fun vote => vote.2.choice = choice).length

/-- `show_status`, with the result of `lock_state`.  The subtraction never underflows
(`size_eq_sum_tally`). -/
def showStatus (path : String) (lock : Outcome String Unit) (file : JsonFile GovernanceState) :
    Outcome String GovernanceStatus := do
  lock
  let state ← readJson path file
  let yes := tally .yes state.votes
  let no := tally .no state.votes
  pure
    { proposalId := state.proposalId
      yes
      no
      abstain := state.votes.size - yes - no
      pendingChallenges := state.pendingChallenges.size
      consumedChallenges := state.consumedChallenges.length }

/-- The printed number of votes for a choice. -/
def GovernanceStatus.votesFor (self : GovernanceStatus) : VoteChoice → Nat
  | .yes => self.yes
  | .no => self.no
  | .abstain => self.abstain

/-! ## Counting votes -/

theorem size_eq_sum_tally (votes : Std.ExtTreeMap String VoteRecord) :
    votes.size = tally .yes votes + tally .no votes + tally .abstain votes := by
  rw [← Std.ExtTreeMap.length_toList]
  unfold tally
  induction votes.toList with
  | nil => rfl
  | cons vote rest ih =>
    cases hchoice : vote.2.choice <;>
      · simp only [List.filter_cons, hchoice, List.length_cons, ih]
        simp
        omega

/-- The entries of a map with a new key. -/
theorem toList_insert_perm {votes : Std.ExtTreeMap String VoteRecord} {key : String}
    (hkey : key ∉ votes) (record : VoteRecord) :
    (votes.insert key record).toList.Perm ((key, record) :: votes.toList) := by
  have hnodup : ∀ votes : Std.ExtTreeMap String VoteRecord, votes.toList.Nodup := by
    intro votes
    refine votes.distinct_keys_toList.imp ?_
    intro vote vote' hne heq
    rw [heq] at hne
    exact hne Std.ReflCmp.compare_self
  have hnot : (key, record) ∉ votes.toList := by
    intro hmem
    rw [Std.ExtTreeMap.mem_toList_iff_getElem?_eq_some] at hmem
    apply hkey
    rw [Std.ExtTreeMap.mem_iff_isSome_getElem?, hmem]
    rfl
  refine (List.perm_ext_iff_of_nodup (hnodup _) (List.nodup_cons.mpr ⟨hnot, hnodup _⟩)).mpr ?_
  intro vote
  obtain ⟨key', record'⟩ := vote
  rw [List.mem_cons, Std.ExtTreeMap.mem_toList_iff_getElem?_eq_some,
    Std.ExtTreeMap.mem_toList_iff_getElem?_eq_some, Std.ExtTreeMap.getElem?_insert, Prod.mk.injEq]
  by_cases hsame : key = key'
  · subst hsame
    rw [if_pos (by simp), Std.ExtTreeMap.getElem?_eq_none hkey]
    simp [eq_comm]
  · rw [if_neg (by rw [Std.compare_eq_iff_eq]; exact hsame)]
    simp [Ne.symm hsame]

/-- A new vote is counted for its choice. -/
theorem tally_insert {votes : Std.ExtTreeMap String VoteRecord} {key : String}
    (hkey : key ∉ votes) (record : VoteRecord) (choice : VoteChoice) :
    tally choice (votes.insert key record) =
      tally choice votes + if record.choice = choice then 1 else 0 := by
  unfold tally
  rw [((toList_insert_perm hkey record).filter _).length_eq, List.filter_cons]
  split
  · rename_i hchoice
    rw [if_pos (by simpa using hchoice), List.length_cons]
  · rename_i hchoice
    rw [if_neg (by simpa using hchoice), Nat.add_zero]

/-- The numbers of a status are those of the file. -/
theorem showStatus_eq_ok {path : String} {lock : Outcome String Unit}
    {file : JsonFile GovernanceState} {status : GovernanceStatus}
    (h : showStatus path lock file = .ok status) :
    (∀ choice, status.votesFor choice = tally choice (votesIn file)) ∧
      status.yes + status.no + status.abstain = (votesIn file).size ∧
      ∃ state, file = .holds state ∧ status.proposalId = state.proposalId ∧
        status.pendingChallenges = state.pendingChallenges.size ∧
        status.consumedChallenges = state.consumedChallenges.length := by
  simp only [showStatus, Outcome.bind_eq_ok, Outcome.exists_unit, readJson_eq_ok,
    Outcome.pure_eq, Outcome.ok.injEq] at h
  obtain ⟨-, state, rfl, rfl⟩ := h
  have hsize := size_eq_sum_tally state.votes
  refine ⟨?_, ?_, state, rfl, rfl, rfl, rfl⟩
  · intro choice
    cases choice with
    | yes => rfl
    | no => rfl
    | abstain =>
      show state.votes.size - tally .yes state.votes - tally .no state.votes =
        tally .abstain state.votes
      omega
  · show tally .yes state.votes + tally .no state.votes +
      (state.votes.size - tally .yes state.votes - tally .no state.votes) = state.votes.size
    omega

/-! ## The votes of a run -/

/-- Whether a reply is a vote for a choice. -/
def GovernanceReply.isVoteFor (choice : VoteChoice) : GovernanceReply → Bool
  | .challenge _ => false
  | .vote outcome => outcome.choice = choice

/-- An accepted command raises the tally of a choice by its votes for this choice. -/
theorem plan_tally {P : Primitives} {path : String} {command : GovernanceCommand}
    {file file' : JsonFile GovernanceState} {reply : GovernanceReply}
    (h : command.plan P path file = .ok (reply, file')) (choice : VoteChoice) :
    tally choice (votesIn file') =
      tally choice (votesIn file) + if reply.isVoteFor choice then 1 else 0 := by
  rcases GovernanceCommand.plan_cases h with ⟨⟨challenge, rfl⟩, hvotes, -⟩ |
    ⟨envelope, digest, record, hstored⟩
  · rw [hvotes]
    rfl
  · obtain ⟨outcome, rfl, -, hchoice⟩ := hstored.reply_eq
    rw [hstored.votes, tally_insert hstored.newPresenter]
    simp [GovernanceReply.isVoteFor, hchoice]

theorem sum_map_ite_eq_length_filter {γ : Type} (p : γ → Bool) (xs : List γ) :
    (xs.map fun x => if p x then 1 else 0).sum = (xs.filter p).length := by
  induction xs with
  | nil => rfl
  | cons x xs ih =>
    rw [List.map_cons, List.sum_cons, ih, List.filter_cons]
    split
    · rw [List.length_cons, Nat.add_comm]
    · rw [Nat.zero_add]

/-- A vote is counted for the choice of its command. -/
theorem choice_of_plan {P : Primitives} {path : String} {command : GovernanceCommand}
    {file file' : JsonFile GovernanceState} {outcome : CastOutcome}
    (h : command.plan P path file = .ok (.vote outcome, file')) :
    ∃ args, command = .cast args ∧ outcome.choice = args.choice := by
  rcases GovernanceCommand.plan_cases h with ⟨⟨challenge, hreply⟩, -⟩ |
    ⟨envelope, digest, record, hstored⟩
  · cases hreply
  · obtain ⟨outcome', hreply, -, hchoice⟩ := hstored.reply_eq
    obtain rfl := GovernanceReply.vote.inj hreply
    obtain ⟨args, hcommand, -, hargs⟩ := hstored.command_eq
    exact ⟨args, hcommand, hchoice.trans hargs⟩

section

open AtomicReplace

variable {π ρ : Type} [DecidableEq π] [DecidableEq ρ]

/-- What a status shows in a run: the votes of the start, and those of the processes of the
list, which have replaced the file one after the other. -/
structure StatusShows (G : JsonText GovernanceState) (P : Primitives) (path : String)
    (input : π → GovernanceCommand) (target : ρ)
    (start d : Disk π ρ (JsonFile GovernanceState) GovernanceReply)
    (log : List (π × GovernanceReply)) (status : GovernanceStatus) : Prop where
  tallies : ∀ choice, status.votesFor choice = tally choice (votesIn (G.content target start)) +
    (log.filter fun e => e.2.isVoteFor choice).length
  total : status.yes + status.no + status.abstain =
    (votesIn (G.content target start)).size + (log.map fun e => e.2.votes).sum
  serialized : LockedFile.Serialized (GovernanceCommand.plan P path) input
    (G.content target start) (G.world target d) log
  /-- A vote of the list is the one that its command asked for. -/
  asked : ∀ p outcome, (p, .vote outcome) ∈ log →
    ∃ args, input p = .cast args ∧ outcome.choice = args.choice

/-- The status counts every accepted vote once and for its choice.  In every run of
commands that share a state file, with steps in any order and stops at any piece of a
document, there is at every moment a list of commands that have taken effect, with all that have
reported, and `status` shows their votes and those of the start. -/
theorem status_tallies {G : JsonText GovernanceState} (hG : G.RoundTrips) (P : Primitives)
    (path : String) {input : π → GovernanceCommand} {target : ρ} {temporary : π → ρ}
    (hne : ∀ p, temporary p ≠ target)
    {start d : Disk π ρ (JsonFile GovernanceState) GovernanceReply} (hfresh : start.Fresh)
    (hsteps : Steps (GovernanceCommand.plan P path) input G.document target temporary start d) :
    ∃ log, ∀ (lock : Outcome String Unit) (status : GovernanceStatus),
      showStatus path lock (G.content target d) = .ok status →
        StatusShows G P path input target start d log status := by
  obtain ⟨-, w₀, w, -, hfresh', hstart, hworld, -, heq, -⟩ :=
    exists_worlds hG (fun _ _ _ _ => GovernanceCommand.plan_holds) hne hfresh hsteps .refl
  obtain ⟨log, hserial⟩ := (LockedFile.Serial.fresh hfresh' rfl).steps hworld
  rw [List.nil_append] at hserial
  have hfile : G.content target d = w.file := congrArg LockedFile.World.file heq
  refine ⟨log, ?_⟩
  intro lock status hstatus
  rw [hfile] at hstatus
  obtain ⟨htallies, htotal, -⟩ := showStatus_eq_ok hstatus
  refine
    { tallies := ?_
      total := ?_
      serialized := ?_
      asked := ?_ }
  · intro choice
    have hmeasure := hserial.measure (f := fun file => tally choice (votesIn file))
      (fun _ _ _ _ h => plan_tally h choice)
    rw [htallies, hmeasure, hstart, sum_map_ite_eq_length_filter]
  · have hmeasure := hserial.measure (f := fun file => (votesIn file).size)
      (fun _ _ _ _ h => (plan_counts h).1)
    rw [htotal, hmeasure, hstart]
  · have hserialized := hserial.serialized
    rw [heq, ← hstart]
    exact ⟨hserialized.nodup, hserialized.started, hserialized.reported, hserialized.results,
      hserialized.file⟩
  · intro p outcome hmem
    exact hserial.establishes
      (K := fun command reply _ => ∀ outcome, reply = .vote outcome →
        ∃ args, command = .cast args ∧ outcome.choice = args.choice)
      (fun _ _ _ _ h outcome hreply => choice_of_plan (hreply ▸ h))
      (fun _ _ _ _ _ _ _ hkept => hkept) hmem outcome rfl

end

/-- After the challenge and the vote of the test proposal, the status shows one vote for
it. -/
theorem status_tallies_treasury : ∃ (G : JsonText GovernanceState)
    (d : AtomicReplace.Disk Bool Nat (JsonFile GovernanceState) GovernanceReply)
    (status : GovernanceStatus) (log : List (Bool × GovernanceReply)),
    showStatus "state.json" (.ok ()) (G.content 0 d) = .ok status ∧
      StatusShows G treasuryPrimitives "state.json" treasuryCommand 0 (emptyDisk _ _) d log status ∧
      1 ≤ status.yes := by
  obtain ⟨G, hG⟩ := JsonText.exists_roundTrips GovernanceState
  obtain ⟨hissued, hcast⟩ := treasuryCommand_isOk
  obtain ⟨⟨challenge, next⟩, hissued⟩ := Outcome.isOk_iff.mp hissued
  obtain ⟨⟨reply, next'⟩, hcast⟩ := Outcome.isOk_iff.mp hcast
  have hfile : treasuryFile = next := by
    unfold treasuryFile
    rw [hissued]
    rfl
  rw [hfile] at hcast
  obtain ⟨stored, rfl⟩ := GovernanceCommand.plan_holds hissued
  obtain ⟨stored', rfl⟩ := GovernanceCommand.plan_holds hcast
  have hfresh : (emptyDisk GovernanceState GovernanceReply).Fresh := ⟨rfl, fun _ => rfl, rfl⟩
  have htext : ∀ value, G.document.write (.holds value) ≠ [] := fun value =>
    List.append_ne_nil_of_right_ne_nil _ (List.cons_ne_nil _ _)
  obtain ⟨d, hsteps, hlock, hfiles, -, hphase⟩ := AtomicReplace.exists_steps_of_plan
    treasuryCommand G.document 0 (fun _ => 1) (d := emptyDisk _ _) (p := false) rfl rfl hissued
    (htext stored)
  have hread : G.document.read (d.files 0) = .holds stored := by
    rw [hfiles]
    exact hG stored
  have hvote : ∃ outcome, reply = .vote outcome := by
    simp only [GovernanceCommand.plan, treasuryCommand, Outcome.bind_eq_ok, Outcome.pure_eq,
      Outcome.ok.injEq, Prod.mk.injEq] at hcast
    obtain ⟨⟨outcome, -⟩, -, rfl, -⟩ := hcast
    exact ⟨outcome, rfl⟩
  obtain ⟨outcome, rfl⟩ := hvote
  rw [← hread] at hcast
  obtain ⟨d', hsteps', -, hfiles', hreports', -⟩ := AtomicReplace.exists_steps_of_plan
    treasuryCommand G.document 0 (fun _ => 1) (p := true) hlock (hphase true (by decide)) hcast
    (htext stored')
  have hcontent : G.content 0 d' = .holds stored' := by
    unfold JsonText.content
    rw [hfiles']
    exact hG stored'
  obtain ⟨log, hshows⟩ := status_tallies hG treasuryPrimitives "state.json"
    (show ∀ p : Bool, (fun _ : Bool => 1) p ≠ 0 from fun _ => Nat.one_ne_zero) hfresh
    (hsteps.trans hsteps')
  have hstatus : ∃ status, showStatus "state.json" (.ok ()) (G.content 0 d') = .ok status := by
    rw [hcontent]
    exact ⟨_, rfl⟩
  obtain ⟨status, hstatus⟩ := hstatus
  have hshown := hshows (.ok ()) status hstatus
  refine ⟨G, d', status, log, hstatus, hshown, ?_⟩
  -- the cast has reported, so it is in the list
  obtain ⟨args, hargs, hchoice⟩ := choice_of_plan hcast
  have hyes : outcome.choice = .yes := by
    rw [hchoice]
    obtain rfl := GovernanceCommand.cast.inj hargs
    rfl
  have hmem : (true, .vote outcome) ∈ log := by
    refine hshown.serialized.reported _ ?_
    show _ ∈ d'.reports
    rw [hreports']
    exact List.mem_append_right _ (List.mem_singleton_self _)
  have hfilter : (true, .vote outcome) ∈ log.filter fun e => e.2.isVoteFor .yes :=
    List.mem_filter.mpr ⟨hmem, decide_eq_true hyes⟩
  have htally := hshown.tallies .yes
  have hpos := List.length_pos_of_mem hfilter
  show 1 ≤ status.votesFor .yes
  omega

end TokenStudio
