import TokenStudio.CodeLib.Commute
import TokenStudio.ProofgateGovernance.Consistency

/-!
# Votes can be cast in any order

`cast_vote` reads of the state what concerns its own challenge and its own
presenter, and it changes nothing else.  So votes for different challenges by
different presenters do not depend on each other, except for the running total in
their replies.

The stored list of consumed challenges is the only place where the order could
show.  It is sorted after every vote.
-/

namespace TokenStudio

/-- An attempt to vote. -/
structure VoteAttempt where
  gate : GateConfig
  envelope : AttestationEnvelope
  choice : VoteChoice
  nowUnixMs : UInt64
  deriving DecidableEq

/-- Cast it. -/
def VoteAttempt.cast (P : Primitives) (attempt : VoteAttempt) :
    Mutating GovernanceState GovernanceError CastOutcome :=
  GovernanceState.castVote P attempt.gate attempt.envelope attempt.choice attempt.nowUnixMs

/-- Different challenge digests and different presenters. -/
structure VoteAttempt.Apart (P : Primitives) (a b : VoteAttempt) : Prop where
  digests : ∀ digest, a.envelope.challenge.digest P.sha256 = some digest →
    b.envelope.challenge.digest P.sha256 ≠ some digest
  presenters : a.envelope.journal.presenterPublicKey ≠ b.envelope.journal.presenterPublicKey

theorem VoteAttempt.Apart.symm {P : Primitives} {a b : VoteAttempt} (h : a.Apart P b) :
    b.Apart P a :=
  ⟨fun digest hb ha => h.digests digest ha hb, h.presenters.symm⟩

/-- The reply to a vote without its running total. -/
def withoutTotal (result : Outcome GovernanceError CastOutcome) :
    Outcome GovernanceError (Digest32 × VoteChoice) := do
  let outcome ← result
  pure (outcome.presenterPublicKey, outcome.choice)

namespace GovernanceState

section

variable {P : Primitives} {s : GovernanceState}

/-- Reading the consumed challenges gives back the cache they were written from. -/
theorem exists_consumed {cache : InMemoryReplayCache}
    (hcache : s.consumedChallenges = consumedTexts cache) :
    ∃ digests, s.consumedChallenges.mapM parseDigest = .ok digests ∧
      InMemoryReplayCache.fromConsumed digests = cache := by
  obtain ⟨digests, hdigests, hset⟩ := mapM_consumedTexts parseDigest parseDigest_digestToHex cache
  refine ⟨digests, by rw [hcache, hdigests], ?_⟩
  rw [InMemoryReplayCache.fromConsumed, hset]

/-- What `cast_vote` looks at, in a state whose consumed challenges are the texts of a
cache. -/
theorem withoutTotal_castVote {cache : InMemoryReplayCache}
    (hcache : s.consumedChallenges = consumedTexts cache) (a : VoteAttempt) :
    withoutTotal (a.cast P s).1 = (do
      s.validate P a.gate s.proposalId
      let digest ← (Outcome.ofOption (a.envelope.challenge.digest P.sha256) :
        Outcome GovernanceError Digest32)
      let expected ← Outcome.okOr s.pendingChallenges[digestToHex digest]?
        GovernanceError.unknownChallenge
      Outcome.check (s.votes.contains (digestToHex a.envelope.journal.presenterPublicKey))
        GovernanceError.duplicateVote
      let verified ← (verify P (voteRequest a.gate a.envelope expected a.nowUnixMs) cache).1.mapErr
        verificationError
      pure (verified.presenterPublicKey, a.choice)) := by
  obtain ⟨digests, hdigests, hset⟩ := exists_consumed hcache
  simp only [VoteAttempt.cast, castVote, withoutTotal, Mutating.write_bind_pure,
    Mutating.lift_bind_commit, Mutating.read_bind_commit, Mutating.commit_fst, bind_assoc,
    hdigests, Outcome.ok_bind, Outcome.pure_eq, hset]
  rfl

/-- Votes of different presenters can be stored in either order. -/
theorem withVote_comm (cache : InMemoryReplayCache) {digest digest' : Digest32}
    {presenter presenter' : Digest32} (hne : presenter ≠ presenter')
    (record record' : VoteRecord) :
    (s.withVote (digestToHex digest) ⟨insert digest cache.consumed⟩ presenter record).withVote
        (digestToHex digest') ⟨insert digest' (insert digest cache.consumed)⟩ presenter'
        record' =
      (s.withVote (digestToHex digest') ⟨insert digest' cache.consumed⟩ presenter'
          record').withVote
        (digestToHex digest) ⟨insert digest (insert digest' cache.consumed)⟩ presenter
        record := by
  have hpending : (s.pendingChallenges.erase (digestToHex digest)).erase (digestToHex digest') =
      (s.pendingChallenges.erase (digestToHex digest')).erase (digestToHex digest) := by
    apply Std.ExtTreeMap.ext_getElem?
    intro key
    simp only [Std.ExtTreeMap.getElem?_erase]
    split <;> split <;> rfl
  have hkeys : digestToHex presenter ≠ digestToHex presenter' :=
    fun h => hne (digestToHex_injective h)
  have hvotes : (s.votes.insert (digestToHex presenter) record).insert (digestToHex presenter')
        record' =
      (s.votes.insert (digestToHex presenter') record').insert (digestToHex presenter)
        record := by
    apply Std.ExtTreeMap.ext_getElem?
    intro key
    simp only [Std.ExtTreeMap.getElem?_insert, Std.compare_eq_iff_eq]
    split
    · rename_i hkey
      rw [if_neg (fun h => hkeys (h.trans hkey.symm))]
    · rfl
  simp only [withVote, hpending, hvotes, Finset.insert_comm digest' digest]

end

end GovernanceState

/-! ## One vote after another -/

section

variable {P : Primitives} {s : GovernanceState} {a b : VoteAttempt}

theorem isOk_withoutTotal (result : Outcome GovernanceError CastOutcome) :
    (withoutTotal result).isOk = result.isOk := by
  cases result <;> rfl

/-- The state after an accepted attempt. -/
theorem VoteAttempt.cast_of_isOk {cache : InMemoryReplayCache}
    (hcache : s.consumedChallenges = GovernanceState.consumedTexts cache)
    (hok : (a.cast P s).1.isOk = true) :
    ∃ digest, a.envelope.challenge.digest P.sha256 = some digest ∧
      (a.cast P s).2 = s.withVote (digestToHex digest) ⟨insert digest cache.consumed⟩
        a.envelope.journal.presenterPublicKey ⟨a.choice, a.nowUnixMs⟩ := by
  rcases GovernanceState.castVote_cases P a.gate a.envelope a.choice a.nowUnixMs s with
    ⟨outcome, digest, consumed, haccepted, hcall, -⟩ | ⟨hfail, -⟩
  · obtain ⟨digests, hdigests, rfl⟩ := GovernanceState.exists_consumed hcache
    obtain rfl := Outcome.ok.inj (haccepted.consumed_eq.symm.trans hdigests)
    exact ⟨digest, haccepted.digest_eq, congrArg Prod.snd hcall⟩
  · rw [VoteAttempt.cast, hfail] at hok
    cases hok

/-- The state after a rejected one. -/
theorem VoteAttempt.cast_of_not_isOk (hok : (a.cast P s).1.isOk = false) :
    (a.cast P s).2 = s := by
  rcases GovernanceState.castVote_cases P a.gate a.envelope a.choice a.nowUnixMs s with
    ⟨_, _, _, -, hcall, -⟩ | ⟨-, hsame⟩
  · rw [VoteAttempt.cast, hcall] at hok
    cases hok
  · exact hsame

theorem VoteAttempt.cast_consistent (h : s.Consistent P) (a : VoteAttempt) :
    (a.cast P s).2.Consistent P := by
  obtain ⟨cache, hcache⟩ := h.consumed
  cases hok : (a.cast P s).1.isOk with
  | true =>
    obtain ⟨digest, -, hnext⟩ := cast_of_isOk hcache hok
    rw [hnext]
    exact h.withVote _ _ _ _
  | false =>
    rw [cast_of_not_isOk hok]
    exact h

/-- A vote does not change the reply to another one. -/
theorem VoteAttempt.Apart.result (h : a.Apart P b) (hs : s.Consistent P) :
    withoutTotal (b.cast P (a.cast P s).2).1 = withoutTotal (b.cast P s).1 := by
  obtain ⟨cache, hcache⟩ := hs.consumed
  cases hok : (a.cast P s).1.isOk with
  | false => rw [cast_of_not_isOk hok]
  | true =>
    obtain ⟨digest, hdigest, hnext⟩ := cast_of_isOk hcache hok
    have hnew := hs.withVote (digestToHex digest) ⟨insert digest cache.consumed⟩
      a.envelope.journal.presenterPublicKey ⟨a.choice, a.nowUnixMs⟩
    have hcache' : (s.withVote (digestToHex digest) ⟨insert digest cache.consumed⟩
        a.envelope.journal.presenterPublicKey ⟨a.choice, a.nowUnixMs⟩).consumedChallenges =
          GovernanceState.consumedTexts ⟨insert digest cache.consumed⟩ := rfl
    have hvoted : (s.votes.insert (digestToHex a.envelope.journal.presenterPublicKey)
        ⟨a.choice, a.nowUnixMs⟩).contains (digestToHex b.envelope.journal.presenterPublicKey) =
          s.votes.contains (digestToHex b.envelope.journal.presenterPublicKey) := by
      have hkeys : digestToHex a.envelope.journal.presenterPublicKey ≠
          digestToHex b.envelope.journal.presenterPublicKey :=
        fun heq => h.presenters (digestToHex_injective heq)
      simp [Std.ExtTreeMap.contains_insert, hkeys]
    rw [hnext, GovernanceState.withoutTotal_castVote hcache,
      GovernanceState.withoutTotal_castVote hcache', hnew.validate, hs.validate]
    refine bind_congr fun _ => ?_
    cases hdigest' : b.envelope.challenge.digest P.sha256 with
    | none => rfl
    | some digest' =>
      have hne : digest ≠ digest' := by
        rintro rfl
        exact h.digests digest hdigest hdigest'
      have hkeys : digestToHex digest ≠ digestToHex digest' :=
        fun heq => hne (digestToHex_injective heq)
      have hget : (s.pendingChallenges.erase (digestToHex digest))[digestToHex digest']? =
          s.pendingChallenges[digestToHex digest']? := by
        simp [Std.ExtTreeMap.getElem?_erase, hkeys]
      simp only [Outcome.ofOption_some, Outcome.ok_bind, GovernanceState.withVote_votes,
        GovernanceState.withVote_pendingChallenges, hvoted, hget]
      refine bind_congr fun expected => bind_congr fun _ => ?_
      have hverify : (verify P (GovernanceState.voteRequest b.gate b.envelope expected b.nowUnixMs)
          ⟨insert digest cache.consumed⟩).1 =
            (verify P (GovernanceState.voteRequest b.gate b.envelope expected b.nowUnixMs)
              cache).1 := by
        refine verify_congr fun d hd => ?_
        obtain rfl : digest' = d := Option.some.inj (hdigest'.symm.trans hd)
        simp [hne.symm]
      rw [hverify]

/-- Two votes can be cast in either order. -/
theorem VoteAttempt.Apart.comm (h : a.Apart P b) (hs : s.Consistent P) :
    (b.cast P (a.cast P s).2).2 = (a.cast P (b.cast P s).2).2 := by
  have hresultb : (b.cast P (a.cast P s).2).1.isOk = (b.cast P s).1.isOk := by
    rw [← isOk_withoutTotal, h.result hs, isOk_withoutTotal]
  have hresulta : (a.cast P (b.cast P s).2).1.isOk = (a.cast P s).1.isOk := by
    rw [← isOk_withoutTotal, h.symm.result hs, isOk_withoutTotal]
  cases hoka : (a.cast P s).1.isOk with
  | false =>
    rw [cast_of_not_isOk hoka, cast_of_not_isOk (hresulta.trans hoka)]
  | true =>
    cases hokb : (b.cast P s).1.isOk with
    | false => rw [cast_of_not_isOk hokb, cast_of_not_isOk (hresultb.trans hokb)]
    | true =>
      obtain ⟨cache, hcache⟩ := hs.consumed
      obtain ⟨digest, hdigest, hnexta⟩ := cast_of_isOk hcache hoka
      obtain ⟨digest', hdigest', hnextb⟩ := cast_of_isOk hcache hokb
      rw [hoka, hnextb] at hresulta
      rw [hokb, hnexta] at hresultb
      obtain ⟨d', hd', hab⟩ := cast_of_isOk rfl hresultb
      obtain ⟨d, hd, hba⟩ := cast_of_isOk rfl hresulta
      obtain rfl := Option.some.inj (hdigest.symm.trans hd)
      obtain rfl := Option.some.inj (hdigest'.symm.trans hd')
      rw [hnexta, hnextb, hab, hba]
      exact GovernanceState.withVote_comm cache h.presenters _ _

/-- Votes that stand apart do not depend on each other. -/
theorem independent_votes (P : Primitives) :
    Mutating.Independent (VoteAttempt.cast P) (GovernanceState.Consistent P) withoutTotal
      (VoteAttempt.Apart P) where
  symm _ _ h := h.symm
  keeps a _ hs := VoteAttempt.cast_consistent hs a
  result _ _ _ hs h := h.result hs
  comm _ _ _ hs h := h.comm hs

end

/-! ## Any number of votes -/

/-- Votes for different challenges by different presenters reach the same state in
every order, and each of them gets the reply that it gets on its own. -/
theorem votes_commute {P : Primitives} {gate : GateConfig} {proposalId : String}
    {start : GovernanceState} (hnew : GovernanceState.new P gate proposalId = .ok start)
    (calls : List GovernanceCall) {attempts order : List VoteAttempt}
    (hapart : attempts.Pairwise (VoteAttempt.Apart P)) (horder : attempts.Perm order) :
    Mutating.final (VoteAttempt.cast P) order
          (Mutating.final (GovernanceCall.step P) calls start) =
        Mutating.final (VoteAttempt.cast P) attempts
          (Mutating.final (GovernanceCall.step P) calls start) ∧
      (Mutating.run (VoteAttempt.cast P) order
          (Mutating.final (GovernanceCall.step P) calls start)).map
            (fun c => (c.input, withoutTotal c.result)) =
        order.map fun a => (a, withoutTotal (a.cast P
          (Mutating.final (GovernanceCall.step P) calls start)).1) := by
  have hs := (service_reaches hnew calls).1
  have h := independent_votes P
  exact ⟨(h.final_perm horder hapart hs).symm,
    h.run_view ((horder.pairwise_iff (h.symm _ _)).mp hapart) hs⟩

/-- The accepted vote of the test proposal. -/
def treasuryAttempt : VoteAttempt where
  gate := treasuryGate
  envelope := treasuryEnvelope
  choice := .yes
  nowUnixMs := 1200

/-- An attempt by another presenter, for a challenge that was not issued. -/
def strangerAttempt : VoteAttempt :=
  { treasuryAttempt with
    envelope :=
      { treasuryEnvelope with
        journal := { treasuryJournal with presenterPublicKey := List.Vector.replicate 32 7 }
        challenge := { treasuryEnvelope.challenge with nonce := List.Vector.replicate 32 6 } } }

theorem votes_commute_treasury :
    (Mutating.run (VoteAttempt.cast treasuryPrimitives) [strangerAttempt, treasuryAttempt]
        (Mutating.final (GovernanceCall.step treasuryPrimitives) (treasuryCalls.take 1)
          treasuryState)).map (fun c => withoutTotal c.result) =
      [.err .unknownChallenge, .ok (foundersKey, .yes)] := by
  have hapart : [treasuryAttempt, strangerAttempt].Pairwise
      (VoteAttempt.Apart treasuryPrimitives) := by
    have hdigests : treasuryAttempt.envelope.challenge.digest treasuryPrimitives.sha256 ≠
        strangerAttempt.envelope.challenge.digest treasuryPrimitives.sha256 := by
      decide +kernel
    refine List.pairwise_pair.mpr ⟨fun digest h h' => hdigests (h.trans h'.symm), ?_⟩
    decide +kernel
  have hreplies : [strangerAttempt, treasuryAttempt].map (fun a => withoutTotal
      (a.cast treasuryPrimitives (Mutating.final (GovernanceCall.step treasuryPrimitives)
        (treasuryCalls.take 1) treasuryState)).1) =
          [.err .unknownChallenge, .ok (foundersKey, .yes)] := by
    decide +kernel
  have hrun := (votes_commute new_treasury (treasuryCalls.take 1) hapart
    (List.Perm.swap strangerAttempt treasuryAttempt [])).2
  have hresults := congrArg (List.map Prod.snd) hrun
  rw [List.map_map, List.map_map] at hresults
  exact hresults.trans hreplies

end TokenStudio
