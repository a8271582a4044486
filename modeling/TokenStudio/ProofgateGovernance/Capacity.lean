import TokenStudio.ProofgateGovernance.Consistency

/-!
# Room for challenges

`issue_challenge` counts every pending challenge, whether it has expired or not, and
only an accepted vote takes one away.  `issue_challenge_needs_room` says that this
count is all that its success depends on once the arguments are in order.

So challenges that nobody answers fill a service for good.  `expired_challenges_block`
is such a run: 4096 challenges with one millisecond to live, one after the other, and
no challenge afterwards.  The challenges of the run have different encodings, and the
run needs a hash function that keeps them apart.  It takes SHA-256 if SHA-256 does.
-/

namespace TokenStudio

/-- The gate of a proposal is valid. -/
theorem gate_of_validateBinding {gate : GateConfig} {proposalId : String} {u : Unit}
    (h : validateBinding gate proposalId = .ok u) : gate.validate = .ok () := by
  simp only [validateBinding, Outcome.bind_eq_ok, Outcome.mapErr_eq_ok,
    Outcome.exists_unit] at h
  exact h.1

namespace GovernanceState

/-- A full service refuses every challenge. -/
theorem issueChallenge_of_full {P : Primitives} {s : GovernanceState} {gate : GateConfig}
    (hvalid : s.Valid P gate s.proposalId)
    (hfull : maxPendingChallenges ≤ s.pendingChallenges.size) (root : Digest32)
    (nowUnixMs ttlMs : UInt64) (nonce : Digest32) :
    (issueChallenge P gate root nowUnixMs ttlMs nonce s).1 = .err .tooManyPendingChallenges := by
  have hok := validate_eq_ok_iff.mpr hvalid
  simp only [issueChallenge, Mutating.write_bind_pure, Mutating.lift_bind_commit,
    Mutating.read_bind_commit, Mutating.commit_fst]
  rw [hok, Outcome.ok_bind, Outcome.check_of hfull]
  rfl

end GovernanceState

/-- Every state that a service reaches is valid for its own proposal. -/
theorem service_valid {P : Primitives} {gate : GateConfig} {proposalId : String}
    {start : GovernanceState} (hnew : GovernanceState.new P gate proposalId = .ok start)
    (calls : List GovernanceCall) :
    (Mutating.final (GovernanceCall.step P) calls start).Valid P gate
      (Mutating.final (GovernanceCall.step P) calls start).proposalId := by
  obtain ⟨-, -, hproposal, -⟩ := consistent_of_new hnew
  obtain ⟨-, hservice⟩ := service_reaches hnew calls
  rw [hservice.proposal, hproposal]
  exact GovernanceState.validate_eq_ok_iff.mp hservice.valid

/-- On every state of a service the arguments of `issue_challenge` being in order, it
succeeds exactly when there is room for one more pending challenge, expired ones
included. -/
theorem issue_challenge_needs_room {P : Primitives} {gate : GateConfig} {proposalId : String}
    {start : GovernanceState} (hnew : GovernanceState.new P gate proposalId = .ok start)
    (calls : List GovernanceCall) {root : Digest32} {nowUnixMs ttlMs : UInt64} (nonce : Digest32)
    (hroot : root ≠ zeroDigest) (httl : 1 ≤ ttlMs) (hmax : ttlMs ≤ maxChallengeTtlMs)
    (hfits : nowUnixMs.toNat + ttlMs.toNat ≤ u64Max) :
    ((Mutating.final (GovernanceCall.step P) calls start).pendingChallenges.size <
        maxPendingChallenges →
      (GovernanceState.issueChallenge P gate root nowUnixMs ttlMs nonce
        (Mutating.final (GovernanceCall.step P) calls start)).1.isOk = true) ∧
    (maxPendingChallenges ≤
        (Mutating.final (GovernanceCall.step P) calls start).pendingChallenges.size →
      (GovernanceState.issueChallenge P gate root nowUnixMs ttlMs nonce
        (Mutating.final (GovernanceCall.step P) calls start)).1 =
          .err .tooManyPendingChallenges) := by
  obtain ⟨-, hbinding, -, contextHash, hhash, -⟩ := consistent_of_new hnew
  have hvalid := service_valid hnew calls
  constructor
  · intro hroom
    have hgate : gate.validate = .ok () := gate_of_validateBinding hbinding
    have hexpires : (UInt64.ofNat (nowUnixMs.toNat + ttlMs.toNat)).toNat =
        nowUnixMs.toNat + ttlMs.toNat := by
      exact UInt64.toNat_ofNat_of_lt' (Nat.lt_succ_of_le hfits)
    have hcreate := createChallenge_of nonce hgate hhash hroot httl hmax hexpires
    obtain ⟨digest, hdigest⟩ := VerificationChallenge.exists_digest P.sha256
      (c := VerificationChallenge.new contextHash root gate.context.verifierId nonce nowUnixMs _)
      (by
        have hlabel := (GateConfig.label_lengths hgate).2.2
        show (asBytes gate.context.verifierId).length < 2 ^ 32
        omega)
    rw [Outcome.isOk_iff]
    exact ⟨_, GovernanceState.issueChallenge_eq_ok_iff.mpr
      ⟨hvalid, hroom, hcreate, digest, hdigest⟩⟩
  · intro hfull
    exact GovernanceState.issueChallenge_of_full hvalid hfull root nowUnixMs ttlMs nonce

/-- The service of the test proposal, with one challenge that is never answered. -/
theorem issue_challenge_needs_room_treasury :
    (GovernanceState.issueChallenge treasuryPrimitives treasuryGate foundersRoot 5000 500
      (List.Vector.replicate 32 6)
      (Mutating.final (GovernanceCall.step treasuryPrimitives) (treasuryCalls.take 1)
        treasuryState)).1.isOk = true := by
  have hcalls : (Mutating.final (GovernanceCall.step treasuryPrimitives) (treasuryCalls.take 1)
      treasuryState).pendingChallenges.size = 1 := by decide +kernel
  exact (issue_challenge_needs_room new_treasury (treasuryCalls.take 1)
    (List.Vector.replicate 32 6) (by decide) (by decide) (by decide) (by decide)).1
      (by rw [hcalls]; decide)

/-! ## A flood of challenges -/

/-- Issue the challenge of millisecond `n`, with one millisecond to live. -/
def floodCall (n : Nat) : GovernanceCall :=
  .issueChallenge treasuryGate foundersRoot (UInt64.ofNat n) 1 (List.Vector.replicate 32 5)

/-- The challenge that it returns. -/
def floodChallenge (contextHash : Digest32) (n : Nat) : VerificationChallenge :=
  VerificationChallenge.new contextHash foundersRoot treasuryGate.context.verifierId
    (List.Vector.replicate 32 5) (UInt64.ofNat n) (UInt64.ofNat (n + 1))

/-- The byte strings that are hashed for the first `k` of them. -/
def floodBytes (contextHash : Digest32) (k : Nat) : List Bytes :=
  (List.range k).flatMap fun n => (floodChallenge contextHash n).canonicalBytes.toList

/-- The challenges of the flood have different times. -/
theorem floodTime_inj {n m : Nat} (hn : n < maxPendingChallenges)
    (hm : m < maxPendingChallenges) (h : UInt64.ofNat n = UInt64.ofNat m) : n = m := by
  have hnat := congrArg UInt64.toNat h
  unfold maxPendingChallenges at hn hm
  rw [UInt64.toNat_ofNat_of_lt' (hn.trans (by decide)),
    UInt64.toNat_ofNat_of_lt' (hm.trans (by decide))] at hnat
  exact hnat

section

variable {P : Primitives} {start : GovernanceState} {contextHash : Digest32}

/-- One call of the flood, on a service with room. -/
theorem flood_issued (hnew : GovernanceState.new P treasuryGate "treasury-7" = .ok start)
    (hhash : treasuryGate.contextHash P.sha256 = some contextHash) (calls : List GovernanceCall)
    (hroom : (Mutating.final (GovernanceCall.step P) calls start).pendingChallenges.size <
      maxPendingChallenges) {n : Nat} (hn : n < maxPendingChallenges) :
    ∃ digest, (floodChallenge contextHash n).digest P.sha256 = some digest ∧
      ((floodCall n).step P (Mutating.final (GovernanceCall.step P) calls start)).2 =
        { Mutating.final (GovernanceCall.step P) calls start with
          pendingChallenges :=
            (Mutating.final (GovernanceCall.step P) calls start).pendingChallenges.insert
              (digestToHex digest) (floodChallenge contextHash n) } := by
  obtain ⟨-, hbinding, -⟩ := consistent_of_new hnew
  have hvalid := service_valid hnew calls
  have htime : (UInt64.ofNat (n + 1)).toNat = (UInt64.ofNat n).toNat + (1 : UInt64).toNat := by
    unfold maxPendingChallenges at hn
    rw [UInt64.toNat_ofNat_of_lt' (Nat.lt_of_le_of_lt hn (by decide)),
      UInt64.toNat_ofNat_of_lt' (hn.trans (by decide))]
    rfl
  have hroot : foundersRoot ≠ zeroDigest := by decide
  have hcreate := createChallenge_of (List.Vector.replicate 32 5)
    (gate_of_validateBinding hbinding) hhash hroot (by decide) (by decide) htime
  obtain ⟨digest', hdigest'⟩ := VerificationChallenge.exists_digest P.sha256
    (c := floodChallenge contextHash n)
    (by
      show (asBytes treasuryGate.context.verifierId).length < 2 ^ 32
      decide)
  have hissue := GovernanceState.issueChallenge_eq_ok_iff.mpr
    ⟨hvalid, hroom, hcreate, digest', hdigest'⟩
  rcases GovernanceState.issueChallenge_cases P treasuryGate foundersRoot (UInt64.ofNat n) 1
      (List.Vector.replicate 32 5) (Mutating.final (GovernanceCall.step P) calls start) with
    ⟨challenge, digest, hdigest, hcall⟩ | ⟨hfail, -⟩
  · rw [hcall] at hissue
    obtain rfl := Outcome.ok.inj hissue
    refine ⟨digest, hdigest, ?_⟩
    rw [floodCall, GovernanceCall.step, Mutating.bind_pure_apply, hcall]
    rfl
  · rw [hissue] at hfail
    cases hfail

/-- Challenge `k` of the flood is not pending as long as only earlier ones are. -/
theorem flood_fresh {s : GovernanceState} {k : Nat} {digest : Digest32}
    (hfree : CollisionFree P.sha256 (floodBytes contextHash maxPendingChallenges))
    (hk : k < maxPendingChallenges) (hconsistent : s.Consistent P)
    (hflood : ∀ (key : String) challenge, s.pendingChallenges[key]? = some challenge →
      ∃ n < k, challenge = floodChallenge contextHash n)
    (hdigest : (floodChallenge contextHash k).digest P.sha256 = some digest) :
    digestToHex digest ∉ s.pendingChallenges := by
  intro hmem
  rw [Std.ExtTreeMap.mem_iff_isSome_getElem?, Option.isSome_iff_exists] at hmem
  obtain ⟨challenge, hget⟩ := hmem
  obtain ⟨digest', hdigest', hkey⟩ := hconsistent.pending _ challenge hget
  obtain rfl := digestToHex_injective hkey
  obtain ⟨n, hn, rfl⟩ := hflood _ challenge hget
  have hbytes : ∀ b ∈ (floodChallenge contextHash n).canonicalBytes.toList ++
      (floodChallenge contextHash k).canonicalBytes.toList,
      b ∈ floodBytes contextHash maxPendingChallenges := by
    intro b hb
    rw [floodBytes, List.mem_flatMap]
    rcases List.mem_append.mp hb with hb | hb
    · exact ⟨n, List.mem_range.mpr (hn.trans hk), hb⟩
    · exact ⟨k, List.mem_range.mpr hk, hb⟩
  -- the digest of a pending one would make the two challenges equal, and so their times
  have hsame := VerificationChallenge.eq_of_digest_eq (hfree.mono hbytes) hdigest' hdigest
  have htime := congrArg VerificationChallenge.issuedAtUnixMs hsame
  exact hn.ne (floodTime_inj (hn.trans hk) hk htime)

/-- After `k` calls there are `k` pending challenges, all of them of the flood. -/
theorem flood_pending (hnew : GovernanceState.new P treasuryGate "treasury-7" = .ok start)
    (hhash : treasuryGate.contextHash P.sha256 = some contextHash)
    (hfree : CollisionFree P.sha256 (floodBytes contextHash maxPendingChallenges)) {k : Nat}
    (hk : k ≤ maxPendingChallenges) :
    (Mutating.final (GovernanceCall.step P) ((List.range k).map floodCall)
        start).pendingChallenges.size = k ∧
      ∀ (key : String) challenge,
        (Mutating.final (GovernanceCall.step P) ((List.range k).map floodCall)
          start).pendingChallenges[key]? = some challenge →
        ∃ n < k, challenge = floodChallenge contextHash n := by
  induction k with
  | zero =>
    obtain ⟨-, _, -, rfl⟩ := GovernanceState.new_eq_ok_iff.mp hnew
    refine ⟨rfl, ?_⟩
    intro key challenge hget
    simp at hget
  | succ k ih =>
    obtain ⟨hsize, hflood⟩ := ih (Nat.le_of_succ_le hk)
    obtain ⟨hconsistent, -⟩ := service_reaches hnew ((List.range k).map floodCall)
    obtain ⟨digest, hdigest, hnext⟩ := flood_issued hnew hhash ((List.range k).map floodCall)
      (by rw [hsize]; exact hk) hk
    have hfinal : Mutating.final (GovernanceCall.step P) ((List.range (k + 1)).map floodCall)
        start = ((floodCall k).step P (Mutating.final (GovernanceCall.step P)
          ((List.range k).map floodCall) start)).2 := by
      rw [List.range_succ, List.map_append, Mutating.final_append]
      rfl
    rw [hfinal, hnext]
    generalize Mutating.final (GovernanceCall.step P) ((List.range k).map floodCall) start = s
      at *
    have hfresh := flood_fresh hfree hk hconsistent hflood hdigest
    constructor
    · rw [Std.ExtTreeMap.size_insert, if_neg (mt Std.ExtTreeMap.mem_iff_contains.mpr hfresh),
        hsize]
    · intro key challenge hget
      rw [Std.ExtTreeMap.getElem?_insert] at hget
      split at hget
      · exact ⟨k, Nat.lt_succ_self k, (Option.some.inj hget).symm⟩
      · obtain ⟨n, hn, heq⟩ := hflood key challenge hget
        exact ⟨n, hn.trans (Nat.lt_succ_self k), heq⟩

end

/-- The last 32 bytes of a byte string. -/
def lastBytes (b : Bytes) : Digest32 :=
  ⟨(List.replicate 32 0 ++ b).drop b.length, by
    rw [List.length_drop, List.length_append, List.length_replicate, Nat.add_sub_cancel]⟩

theorem lastBytes_append (front : Bytes) {tail : Bytes} (h : tail.length = 32) :
    (lastBytes (front ++ tail)).toList = tail := by
  show (List.replicate 32 0 ++ (front ++ tail)).drop (front ++ tail).length = tail
  rw [← List.append_assoc]
  refine List.drop_left' ?_
  rw [List.length_append, List.length_append, List.length_replicate, h, Nat.add_comm]

/-- The times of a challenge of the flood are in the last 32 bytes of its encoding. -/
theorem floodChallenge_canonicalBytes (contextHash : Digest32) (n : Nat) :
    ∃ front, (floodChallenge contextHash n).canonicalBytes = some (front ++
      (List.replicate 16 5 ++ (Codec.u64.encode (UInt64.ofNat n) ++
        Codec.u64.encode (UInt64.ofNat (n + 1))))) := by
  obtain ⟨verifier, hverifier⟩ : ∃ b, writeString treasuryGate.context.verifierId = some b :=
    ⟨_, writeString_of_lt (by decide)⟩
  have hnonce : (List.Vector.replicate 32 5 : Digest32).toList =
      List.replicate 16 5 ++ List.replicate 16 5 := rfl
  have hsame : (floodChallenge contextHash n).verifierId = treasuryGate.context.verifierId := rfl
  refine ⟨verificationChallengeDomain ++ Codec.u16.encode verificationChallengeVersion ++
    contextHash.toList ++ foundersRoot.toList ++ verifier ++ List.replicate 16 5, ?_⟩
  simp only [VerificationChallenge.canonicalBytes, hsame, hverifier, Option.bind_eq_bind,
    Option.bind_some, Option.pure_def]
  simp only [floodChallenge, VerificationChallenge.new, hnonce, List.append_assoc]

/-- The last 32 bytes keep the challenges of the flood apart. -/
theorem lastBytes_collisionFree (contextHash : Digest32) :
    CollisionFree lastBytes (floodBytes contextHash maxPendingChallenges) := by
  intro x hx y hy heq
  obtain ⟨n, hn, hx⟩ := List.mem_flatMap.mp hx
  obtain ⟨m, hm, hy⟩ := List.mem_flatMap.mp hy
  rw [Option.mem_toList] at hx hy
  obtain ⟨front, hfront⟩ := floodChallenge_canonicalBytes contextHash n
  obtain ⟨front', hfront'⟩ := floodChallenge_canonicalBytes contextHash m
  obtain rfl := Option.some.inj (hfront.symm.trans hx)
  obtain rfl := Option.some.inj (hfront'.symm.trans hy)
  have htails := congrArg List.Vector.toList heq
  rw [lastBytes_append _ rfl, lastBytes_append _ rfl] at htails
  have htimes := List.append_cancel_left htails
  have htime : UInt64.ofNat n = UInt64.ofNat m := (Codec.u64.peel htimes).1
  obtain rfl : n = m := floodTime_inj (List.mem_range.mp hn) (List.mem_range.mp hm) htime
  exact Option.some.inj (hx.symm.trans hy)

/-- SHA-256 where it keeps the challenges of the flood apart. -/
def floodPrimitives : Primitives :=
  { treasuryPrimitives with
    sha256 :=
      if CollisionFree sha256 (floodBytes treasuryContextHash maxPendingChallenges) then sha256
      else lastBytes }

theorem floodPrimitives_of_free
    (h : CollisionFree sha256 (floodBytes treasuryContextHash maxPendingChallenges)) :
    floodPrimitives.sha256 = sha256 := by
  simp only [floodPrimitives, if_pos h]

theorem new_of_contextHash {P : Primitives} {contextHash : Digest32}
    (hhash : treasuryGate.contextHash P.sha256 = some contextHash) :
    GovernanceState.new P treasuryGate "treasury-7" =
      .ok { treasuryState with gateContextHash := digestToHex contextHash } := by
  have hbinding : validateBinding treasuryGate "treasury-7" = .ok () := by decide +kernel
  exact GovernanceState.new_eq_ok_iff.mpr ⟨hbinding, contextHash, hhash, rfl⟩

/-- A new service whose hash function keeps the challenges of the flood apart. -/
theorem new_flood : ∃ start contextHash,
    GovernanceState.new floodPrimitives treasuryGate "treasury-7" = .ok start ∧
      treasuryGate.contextHash floodPrimitives.sha256 = some contextHash ∧
      CollisionFree floodPrimitives.sha256 (floodBytes contextHash maxPendingChallenges) := by
  by_cases hfree : CollisionFree sha256 (floodBytes treasuryContextHash maxPendingChallenges)
  · have hhash : treasuryGate.contextHash floodPrimitives.sha256 = some treasuryContextHash := by
      rw [floodPrimitives_of_free hfree]
      decide +kernel
    refine ⟨_, treasuryContextHash, new_of_contextHash hhash, hhash, ?_⟩
    rw [floodPrimitives_of_free hfree]
    exact hfree
  · have hsha : floodPrimitives.sha256 = lastBytes := by
      simp only [floodPrimitives, if_neg hfree]
    have hgate : treasuryGate.validate = .ok () := by decide +kernel
    obtain ⟨contextHash, hhash⟩ :=
      GateConfig.exists_contextHash floodPrimitives.sha256 hgate
    refine ⟨_, contextHash, new_of_contextHash hhash, hhash, ?_⟩
    rw [hsha]
    exact lastBytes_collisionFree contextHash

/-- A service with 4096 challenges that have all expired issues no other one. -/
theorem expired_challenges_block :
    (CollisionFree sha256 (floodBytes treasuryContextHash maxPendingChallenges) →
      floodPrimitives.sha256 = sha256) ∧
    ∃ start s, GovernanceState.new floodPrimitives treasuryGate "treasury-7" = .ok start ∧
      s = Mutating.final (GovernanceCall.step floodPrimitives)
        ((List.range maxPendingChallenges).map floodCall) start ∧
      (∀ (key : String) challenge, s.pendingChallenges[key]? = some challenge →
        challenge.isExpired 5000 = true) ∧
      foundersRoot ≠ zeroDigest ∧ (5000 : UInt64).toNat + (1 : UInt64).toNat ≤ u64Max ∧
      (GovernanceState.issueChallenge floodPrimitives treasuryGate foundersRoot 5000 1
        (List.Vector.replicate 32 6) s).1 = .err .tooManyPendingChallenges := by
  refine ⟨floodPrimitives_of_free, ?_⟩
  obtain ⟨start, contextHash, hnew, hhash, hfree⟩ := new_flood
  obtain ⟨hsize, hflood⟩ := flood_pending hnew hhash hfree (Nat.le_refl _)
  have hvalid := service_valid hnew ((List.range maxPendingChallenges).map floodCall)
  refine ⟨start, _, hnew, rfl, ?_, by decide, by decide,
    GovernanceState.issueChallenge_of_full hvalid (Nat.le_of_eq hsize.symm) _ _ _ _⟩
  intro key challenge hget
  obtain ⟨n, hn, rfl⟩ := hflood key challenge hget
  have hlate : UInt64.ofNat (n + 1) < 5000 := by
    unfold maxPendingChallenges at hn
    rw [UInt64.lt_iff_toNat_lt, UInt64.toNat_ofNat_of_lt' (Nat.lt_of_le_of_lt hn (by decide))]
    show n + 1 < 5000
    omega
  exact decide_eq_true hlate

end TokenStudio
