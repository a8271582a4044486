import TokenStudio.ProofgateMessaging.Panics

/-!
# The order of a chat and its latest challenge

`latest_challenge` takes the challenge with the greatest `issued_at_unix_ms`.  Among
challenges of one millisecond it takes the last one, since `max_by_key` does.  So the
order of the chat decides when two different challenges were issued in the latest
millisecond, and `challenge_order_iff` says that it decides nothing else.  (A content
that makes the reader panic is the other exception, in every order.)
-/

namespace TokenStudio

/-! ## The last greatest element -/

section

variable {α : Type} (key : α → UInt64)

/-- An element with the greatest key. -/
structure IsGreatestBy (xs : List α) (x : α) : Prop where
  mem : x ∈ xs
  ge : ∀ y ∈ xs, key y ≤ key x

variable {key} {xs : List α} {x : α}

/-- `max_by_key` compares its last element with the result for the others. -/
theorem maxByKey_concat (xs : List α) (x : α) :
    maxByKey key (xs ++ [x]) =
      match maxByKey key xs with
      | none => some x
      | some y => if key y > key x then some y else some x := by
  rw [maxByKey, List.foldl_append]
  rfl

/-- What `max_by_key` returns has the greatest key, and it returns something for every
list but the empty one. -/
theorem maxByKey_cases (key : α → UInt64) (xs : List α) :
    (xs = [] ∧ maxByKey key xs = none) ∨
      ∃ x, maxByKey key xs = some x ∧ IsGreatestBy key xs x := by
  induction xs using List.reverseRecOn with
  | nil => exact Or.inl ⟨rfl, rfl⟩
  | append_singleton xs x ih =>
    rw [maxByKey_concat]
    refine Or.inr ?_
    rcases ih with ⟨rfl, hnone⟩ | ⟨y, hy, hgreatest⟩
    · rw [hnone]
      exact ⟨x, rfl, by simp, by simp⟩
    · rw [hy]
      by_cases hlt : key y > key x
      · refine ⟨y, if_pos hlt, by simp [hgreatest.mem], ?_⟩
        intro z hz
        rcases List.mem_append.mp hz with hz | hz
        · exact hgreatest.ge z hz
        · rw [List.mem_singleton.mp hz]
          exact UInt64.le_of_lt hlt
      · refine ⟨x, if_neg hlt, by simp, ?_⟩
        intro z hz
        rcases List.mem_append.mp hz with hz | hz
        · exact UInt64.le_trans (hgreatest.ge z hz) (UInt64.not_lt.mp hlt)
        · rw [List.mem_singleton.mp hz]
          exact UInt64.le_refl _

/-- A last element with the greatest key is the one that is returned. -/
theorem maxByKey_of_last (h : ∀ y ∈ xs, key y ≤ key x) :
    maxByKey key (xs ++ [x]) = some x := by
  rw [maxByKey_concat]
  rcases maxByKey_cases key xs with ⟨rfl, hnone⟩ | ⟨y, hy, hgreatest⟩
  · rw [hnone]
  · rw [hy]
    exact if_neg (UInt64.not_lt.mpr (h y hgreatest.mem))

theorem IsGreatestBy.perm {ys : List α} (h : IsGreatestBy key xs x) (hperm : xs.Perm ys) :
    IsGreatestBy key ys x where
  mem := hperm.mem_iff.mp h.mem
  ge := fun y hy => h.ge y (hperm.mem_iff.mpr hy)

end

/-! ## The challenges of a chat -/

/-- The challenge in a content, if it is one of the protocol with a valid window. -/
def offeredChallenge? (F : Formats) (content : String) : Option VerificationChallenge :=
  match readChallenge F content with
  | .ok (some message) => if isProtocolChallenge message then some message.challenge else none
  | _ => none

def offeredChallenges (F : Formats) (contents : List String) : List VerificationChallenge :=
  contents.filterMap (offeredChallenge? F)

theorem offeredChallenges_cons (F : Formats) (content : String) (rest : List String) :
    offeredChallenges F (content :: rest) =
      (offeredChallenge? F content).toList ++ offeredChallenges F rest := by
  cases h : offeredChallenge? F content <;> simp [offeredChallenges, h]

section

variable {F : Formats} {contents contents' : List String}

theorem ChallengeSplits.perm (h : ChallengeSplits F contents) (hperm : contents.Perm contents') :
    ChallengeSplits F contents' := by
  obtain ⟨content, hcontent, hsplits⟩ := h
  exact ⟨content, hperm.mem_iff.mp hcontent, hsplits⟩

/-- Without a panic the challenges are read one by one. -/
theorem readChallenges_of_not_splits (h : ¬ ChallengeSplits F contents) :
    ∃ messages, contents.mapM (readChallenge F) = .ok messages ∧
      ((messages.filterMap id).filter isProtocolChallenge).map ChallengeWireMessage.challenge =
        offeredChallenges F contents := by
  induction contents with
  | nil => exact ⟨[], rfl, rfl⟩
  | cons content rest ih =>
    obtain ⟨messages, hmessages, hoffered⟩ := ih fun ⟨c, hc, hsplits⟩ =>
      h ⟨c, List.mem_cons_of_mem _ hc, hsplits⟩
    cases hread : readChallenge F content with
    | panic =>
      exact absurd ⟨content, List.mem_cons_self, readChallenge_eq_panic_iff.mp hread⟩ h
    | err e => exact absurd hread (readChallenge_ne_err F content e)
    | ok message =>
      refine ⟨message :: messages, by simp [List.mapM_cons, hread, hmessages], ?_⟩
      rw [offeredChallenges_cons, ← hoffered]
      cases message with
      | none => simp [offeredChallenge?, hread]
      | some m =>
        by_cases hm : isProtocolChallenge m = true
        · simp [offeredChallenge?, hread, hm]
        · simp [offeredChallenge?, hread, hm]

theorem latestChallenge_of_not_splits (h : ¬ ChallengeSplits F contents) :
    latestChallenge F contents =
      Outcome.okOr (maxByKey VerificationChallenge.issuedAtUnixMs (offeredChallenges F contents))
        MessagingError.noChallenge := by
  obtain ⟨messages, hmessages, hoffered⟩ := readChallenges_of_not_splits h
  rw [latestChallenge, hmessages, Outcome.ok_bind, hoffered]

/-- A challenge of the latest millisecond of the chat. -/
abbrev IsLatest (F : Formats) (contents : List String) (challenge : VerificationChallenge) : Prop :=
  IsGreatestBy VerificationChallenge.issuedAtUnixMs (offeredChallenges F contents) challenge

/-- A chat without a challenge, or with one of its latest ones. -/
theorem latestChallenge_cases (h : ¬ ChallengeSplits F contents) :
    (offeredChallenges F contents = [] ∧ latestChallenge F contents = .err .noChallenge) ∨
      ∃ challenge, latestChallenge F contents = .ok challenge ∧
        IsLatest F contents challenge := by
  rw [latestChallenge_of_not_splits h]
  rcases maxByKey_cases VerificationChallenge.issuedAtUnixMs (offeredChallenges F contents) with
    ⟨hnil, hnone⟩ | ⟨challenge, hsome, hlatest⟩
  · exact Or.inl ⟨hnil, by rw [hnone, Outcome.okOr_none]⟩
  · exact Or.inr ⟨challenge, by rw [hsome, Outcome.okOr_some], hlatest⟩

/-- Every latest challenge of a chat is the one that some order of the chat gives. -/
theorem exists_order_of_latest (h : ¬ ChallengeSplits F contents)
    {challenge : VerificationChallenge} (hlatest : IsLatest F contents challenge) :
    ∃ contents', contents.Perm contents' ∧ latestChallenge F contents' = .ok challenge := by
  obtain ⟨content, hcontent, hoffered⟩ := List.mem_filterMap.mp hlatest.mem
  obtain ⟨before, after, rfl⟩ := List.append_of_mem hcontent
  -- the content goes to the end
  have hperm : (before ++ content :: after).Perm (before ++ after ++ [content]) := by
    rw [List.append_assoc]
    exact (List.perm_append_singleton content after).symm.append_left before
  refine ⟨_, hperm, ?_⟩
  have hlist : offeredChallenges F (before ++ after ++ [content]) =
      offeredChallenges F (before ++ after) ++ [challenge] := by
    simp [offeredChallenges, hoffered]
  rw [latestChallenge_of_not_splits fun hsplits => h (hsplits.perm hperm.symm), hlist,
    maxByKey_of_last, Outcome.okOr_some]
  intro y hy
  refine hlatest.ge y ((hperm.filterMap _).mem_iff.mpr ?_)
  show y ∈ offeredChallenges F (before ++ after ++ [content])
  rw [hlist]
  exact List.mem_append_left _ hy

end

/-- The chats give no challenge, or the same one, and it is a latest one. -/
def SameChallenge (F : Formats) (contents contents' : List String) : Prop :=
  (latestChallenge F contents = .err .noChallenge ∧
      latestChallenge F contents' = .err .noChallenge) ∨
    ∃ challenge, latestChallenge F contents = .ok challenge ∧
      latestChallenge F contents' = .ok challenge ∧ IsLatest F contents challenge

/-- Every order of a chat gives the same challenge exactly when no content makes the
reader panic and the chat has no two different challenges in its latest
millisecond. -/
theorem challenge_order_iff (F : Formats) (contents : List String) :
    (∀ contents', contents.Perm contents' → SameChallenge F contents contents') ↔
      ¬ ChallengeSplits F contents ∧
        ∀ challenge challenge', IsLatest F contents challenge →
          IsLatest F contents challenge' → challenge = challenge' := by
  constructor
  · intro hsame
    have hsplits : ¬ ChallengeSplits F contents := by
      intro hsplits
      have hpanic := (latestChallenge_eq_panic_iff F contents).mpr hsplits
      rcases hsame contents (List.Perm.refl _) with ⟨hnone, -⟩ | ⟨c, hc, -⟩
      · rw [hpanic] at hnone
        cases hnone
      · rw [hpanic] at hc
        cases hc
    -- the order that gives a latest challenge gives the challenge of the chat
    have hgives : ∀ challenge, IsLatest F contents challenge →
        latestChallenge F contents = .ok challenge := by
      intro challenge hlatest
      obtain ⟨contents', hperm, horder⟩ := exists_order_of_latest hsplits hlatest
      rcases hsame contents' hperm with ⟨-, hnone⟩ | ⟨c, hc, hc', -⟩
      · rw [horder] at hnone
        cases hnone
      · rw [horder] at hc'
        rw [hc, ← hc']
    refine ⟨hsplits, ?_⟩
    intro challenge challenge' hlatest hlatest'
    exact Outcome.ok.inj ((hgives challenge hlatest).symm.trans (hgives challenge' hlatest'))
  · rintro ⟨hsplits, hunique⟩ contents' hperm
    have hsplits' : ¬ ChallengeSplits F contents' := fun h => hsplits (h.perm hperm.symm)
    have hoffered : (offeredChallenges F contents).Perm (offeredChallenges F contents') :=
      hperm.filterMap _
    rcases latestChallenge_cases hsplits with ⟨hnil, hnone⟩ | ⟨c, hc, hlatest⟩
    · refine Or.inl ⟨hnone, ?_⟩
      have hnil' := hoffered.symm
      rw [hnil, List.perm_nil] at hnil'
      rw [latestChallenge_of_not_splits hsplits', hnil']
      rfl
    · rcases latestChallenge_cases hsplits' with ⟨hnil', -⟩ | ⟨c', hc', hlatest'⟩
      · have hmem := hoffered.mem_iff.mp hlatest.mem
        rw [hnil'] at hmem
        cases hmem
      · have heq : c' = c := hunique c' c (hlatest'.perm hoffered.symm) hlatest
        rw [heq] at hc'
        exact Or.inr ⟨c, hc, hc', hlatest⟩

/-! ### Two challenges of one millisecond -/

/-- A challenge of the founders' gate with a nonce of its own. -/
def tiedChallenge (nonce : UInt8) : VerificationChallenge :=
  { foundersEnvelope.challenge with nonce := List.Vector.replicate 32 nonce }

def tiedDoc (nonce : UInt8) : ChallengeWireDoc where
  protocol := challengeProtocol
  version := wireVersion
  challenge := (tiedChallenge nonce).serialize

def tiedFormats : Formats :=
  .ofTexts [] [] [(tiedDoc 5, (tiedDoc 5).toJson), (tiedDoc 6, (tiedDoc 6).toJson)]

/-- The two orders of a chat with two challenges give two challenges. -/
theorem tied_challenges_differ :
    [(tiedDoc 5).toJson, (tiedDoc 6).toJson].Perm [(tiedDoc 6).toJson, (tiedDoc 5).toJson] ∧
      latestChallenge tiedFormats [(tiedDoc 5).toJson, (tiedDoc 6).toJson] =
        .ok (tiedChallenge 6) ∧
      latestChallenge tiedFormats [(tiedDoc 6).toJson, (tiedDoc 5).toJson] =
        .ok (tiedChallenge 5) ∧
      ¬ SameChallenge tiedFormats [(tiedDoc 5).toJson, (tiedDoc 6).toJson]
        [(tiedDoc 6).toJson, (tiedDoc 5).toJson] := by
  have hfirst : latestChallenge tiedFormats [(tiedDoc 5).toJson, (tiedDoc 6).toJson] =
      .ok (tiedChallenge 6) := by decide +kernel
  have hsecond : latestChallenge tiedFormats [(tiedDoc 6).toJson, (tiedDoc 5).toJson] =
      .ok (tiedChallenge 5) := by decide +kernel
  refine ⟨List.Perm.swap _ _ _, hfirst, hsecond, ?_⟩
  rintro (⟨hnone, -⟩ | ⟨challenge, hc, hc', -⟩)
  · rw [hfirst] at hnone
    cases hnone
  · have heq := Outcome.ok.inj ((hfirst.symm.trans hc).trans (hc'.symm.trans hsecond))
    exact absurd heq (by decide)

end TokenStudio
