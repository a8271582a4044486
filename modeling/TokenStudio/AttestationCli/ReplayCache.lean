import TokenStudio.CodeLib.Run
import TokenStudio.JsonFile
import TokenStudio.ProofgateGovernance.Basic

/-!
# The replay cache file

The part of the crate `attestation-cli` that keeps the replay cache in a file.  The
file holds a version and the texts of the digests in ascending order.
`loadReplayCache_saveReplayCache` says that loading what was saved gives the same
set: a digest reads back from its text, and neither the order nor copies matter.

`verify_received_presentation` loads the file, runs `verify` on the set and saves
the set that `verify` leaves.  It saves only what was accepted, so the call has
the form `Mutating.commit` and `verifyPlan` is what it computes
(`verifyReceivedPresentation_eq`).  `verifyPlan_eq_ok` is the spec lemma: an
accepted presentation adds its digest to a set without it.  From there
`storedDigests` never shrinks and no digest is accepted twice.

Whether the lock can be taken and whether the new file can be written and renamed
are arguments of the model.
-/

namespace TokenStudio

/-- `REPLAY_CACHE_VERSION`. -/
def replayCacheVersion : UInt16 := 1

structure ReplayCacheFile where
  version : UInt16
  consumedChallenges : List String
  deriving DecidableEq

structure VerifyOutcome where
  verified : VerifiedAttestation
  consumedChallenges : Nat
  deriving DecidableEq

/-- `verification_message`. -/
def verificationMessage (error : VerificationError) : String :=
  "verification denied [" ++ toString error.code ++ "]: " ++ error.toText

/-! ## The functions -/

/-- `load_replay_cache`. -/
def loadReplayCache (path : String) (file : JsonFile ReplayCacheFile) :
    Outcome String InMemoryReplayCache :=
  if ¬ file.pathExists then pure ⟨∅⟩
  else do
    let stored ← readJson path file
    Outcome.check (stored.version ≠ replayCacheVersion)
      ("unsupported replay cache version " ++ toString stored.version ++ "; expected " ++
        toString replayCacheVersion)
    let consumed ← stored.consumedChallenges.mapM fun digest =>
      (digestFromHex digest).mapErr ParseHexError.message
    pure (.fromConsumed consumed)

/-- The document that `save_replay_cache` writes. -/
def saveReplayCache (cache : InMemoryReplayCache) : ReplayCacheFile where
  version := replayCacheVersion
  consumedChallenges := GovernanceState.consumedTexts cache

/-- The arguments of `verify_received_presentation`, with the gate file that it finds
and the results of `lock_replay_cache` and `write_json_atomic`. -/
structure VerifyArgs where
  gate : JsonFile GateConfig
  envelope : AttestationEnvelope
  expectedChallenge : VerificationChallenge
  expectedVerifierId : Option String
  nowUnixMs : UInt64
  lock : Outcome String Unit
  save : Outcome String Unit

/-- The request that it hands to `verify`. -/
def VerifyArgs.request (args : VerifyArgs) (gate : GateConfig) : VerifyRequest where
  envelope := args.envelope
  expectedChallenge := args.expectedChallenge
  expectedGate := gate
  expectedVerifierId := args.expectedVerifierId.getD gate.context.verifierId
  nowUnixMs := args.nowUnixMs

/-- `verify_received_presentation`. -/
def verifyReceivedPresentation (P : Primitives) (path : String) (args : VerifyArgs) :
    Mutating (JsonFile ReplayCacheFile) String VerifyOutcome := do
  let gate ← readGateConfig args.gate
  args.lock
  let file ← Mutating.read
  let replayCache ← loadReplayCache path file
  let verification := verify P (args.request gate) replayCache
  let verified ← verification.1.mapErr verificationMessage
  args.save
  Mutating.write (.holds (saveReplayCache verification.2))
  pure { verified, consumedChallenges := verification.2.consumed.card }

/-- What it computes from the content of the file: the result and the new content. -/
def verifyPlan (P : Primitives) (path : String) (args : VerifyArgs)
    (file : JsonFile ReplayCacheFile) :
    Outcome String (VerifyOutcome × JsonFile ReplayCacheFile) := do
  let gate ← readGateConfig args.gate
  args.lock
  let replayCache ← loadReplayCache path file
  let verification := verify P (args.request gate) replayCache
  let verified ← verification.1.mapErr verificationMessage
  args.save
  pure ({ verified, consumedChallenges := verification.2.consumed.card },
    .holds (saveReplayCache verification.2))

/-- The file changes at the end of the call and only after an acceptance. -/
theorem verifyReceivedPresentation_eq (P : Primitives) (path : String) (args : VerifyArgs) :
    verifyReceivedPresentation P path args = Mutating.commit (verifyPlan P path args) := by
  simp only [verifyReceivedPresentation, Mutating.write_bind_pure, Mutating.lift_bind_commit,
    Mutating.read_bind_commit]
  rfl

/-! ## Loading what was saved -/

theorem loadReplayCache_holds {path : String} {stored : ReplayCacheFile}
    {cache : InMemoryReplayCache} :
    loadReplayCache path (.holds stored) = .ok cache ↔
      stored.version = replayCacheVersion ∧ ∃ consumed,
        stored.consumedChallenges.mapM (fun digest =>
          (digestFromHex digest).mapErr ParseHexError.message) = .ok consumed ∧
        InMemoryReplayCache.fromConsumed consumed = cache := by
  simp [loadReplayCache, JsonFile.pathExists, readJson, Outcome.bind_eq_ok]

/-- The saved set reads back. -/
theorem loadReplayCache_saveReplayCache (path : String) (cache : InMemoryReplayCache) :
    loadReplayCache path (.holds (saveReplayCache cache)) = .ok cache := by
  have hparse : ∀ digest, (digestFromHex (digestToHex digest)).mapErr ParseHexError.message =
      .ok digest := by
    intro digest
    rw [digestFromHex_digestToHex, Outcome.mapErr_ok]
  obtain ⟨digests, hdigests, hset⟩ := GovernanceState.mapM_consumedTexts
    (fun text => (digestFromHex text).mapErr ParseHexError.message) hparse cache
  rw [loadReplayCache_holds]
  refine ⟨rfl, digests, hdigests, ?_⟩
  unfold InMemoryReplayCache.fromConsumed
  rw [hset]

/-- The digests that the program finds in the file. -/
def storedDigests (path : String) (file : JsonFile ReplayCacheFile) : Finset Digest32 :=
  match loadReplayCache path file with
  | .ok cache => cache.consumed
  | _ => ∅

theorem storedDigests_of_load {path : String} {file : JsonFile ReplayCacheFile}
    {cache : InMemoryReplayCache} (h : loadReplayCache path file = .ok cache) :
    storedDigests path file = cache.consumed := by
  unfold storedDigests
  rw [h]

@[simp] theorem storedDigests_saveReplayCache (path : String) (cache : InMemoryReplayCache) :
    storedDigests path (.holds (saveReplayCache cache)) = cache.consumed :=
  storedDigests_of_load (loadReplayCache_saveReplayCache path cache)

/-! ## One call -/

/-- The digest of the presented challenge. -/
def VerifyArgs.digest (P : Primitives) (args : VerifyArgs) : Option Digest32 :=
  args.envelope.challenge.digest P.sha256

/-- A call that accepts: `verify` accepts on the set in the file, and the file then
holds the set with one more digest. -/
structure VerifyAccepted (P : Primitives) (path : String) (args : VerifyArgs)
    (before after : JsonFile ReplayCacheFile) (gate : GateConfig) (cache : InMemoryReplayCache)
    (digest : Digest32) : Prop where
  gate_eq : readGateConfig args.gate = .ok gate
  loaded : loadReplayCache path before = .ok cache
  digest_eq : args.digest P = some digest
  fresh : digest ∉ cache.consumed
  verified : verify P (args.request gate) cache =
    (.ok (args.request gate).attestation, ⟨insert digest cache.consumed⟩)
  saved : after = .holds (saveReplayCache ⟨insert digest cache.consumed⟩)

namespace VerifyAccepted

variable {P : Primitives} {path : String} {args : VerifyArgs}
  {before after : JsonFile ReplayCacheFile} {gate : GateConfig} {cache : InMemoryReplayCache}
  {digest : Digest32}

theorem stored (h : VerifyAccepted P path args before after gate cache digest) :
    storedDigests path after = insert digest (storedDigests path before) := by
  rw [h.saved, storedDigests_saveReplayCache, storedDigests_of_load h.loaded]

theorem fresh_stored (h : VerifyAccepted P path args before after gate cache digest) :
    digest ∉ storedDigests path before := by
  rw [storedDigests_of_load h.loaded]
  exact h.fresh

theorem mem_stored (h : VerifyAccepted P path args before after gate cache digest) :
    digest ∈ storedDigests path after := by
  rw [h.stored]
  exact Finset.mem_insert_self _ _

theorem stored_subset (h : VerifyAccepted P path args before after gate cache digest) :
    storedDigests path before ⊆ storedDigests path after := by
  rw [h.stored]
  exact Finset.subset_insert _ _

end VerifyAccepted

/-- What an accepted call has done. -/
theorem verifyPlan_eq_ok {P : Primitives} {path : String} {args : VerifyArgs}
    {file file' : JsonFile ReplayCacheFile} {outcome : VerifyOutcome}
    (h : verifyPlan P path args file = .ok (outcome, file')) :
    ∃ gate cache digest, VerifyAccepted P path args file file' gate cache digest := by
  simp only [verifyPlan, Outcome.bind_eq_ok, Outcome.exists_unit, Outcome.mapErr_eq_ok,
    Outcome.pure_eq, Outcome.ok.injEq, Prod.mk.injEq] at h
  obtain ⟨gate, hgate, -, cache, hcache, verified, hverified, -, -, rfl⟩ := h
  rcases verify_cases P (args.request gate) cache with
    ⟨digest, -, hdigest, hfresh, hverify⟩ | ⟨⟨e, hverify⟩, -⟩
  · refine ⟨gate, cache, digest, hgate, hcache, hdigest, hfresh, hverify, ?_⟩
    rw [hverify]
  · rw [hverify] at hverified
    cases hverified

/-- A call that succeeds has done what it planned, and any other call leaves the file
as it was. -/
theorem verifyReceivedPresentation_cases (P : Primitives) (path : String) (args : VerifyArgs)
    (file : JsonFile ReplayCacheFile) :
    (∃ outcome file' gate cache digest,
        verifyReceivedPresentation P path args file = (.ok outcome, file') ∧
        VerifyAccepted P path args file file' gate cache digest) ∨
      ((verifyReceivedPresentation P path args file).1.isOk = false ∧
        (verifyReceivedPresentation P path args file).2 = file) := by
  rw [verifyReceivedPresentation_eq]
  refine Or.imp ?_ id (Mutating.commit_cases _ file)
  rintro ⟨outcome, file', hplan, hcommit⟩
  obtain ⟨gate, cache, digest, haccepted⟩ := verifyPlan_eq_ok hplan
  exact ⟨outcome, file', gate, cache, digest, hcommit, haccepted⟩

end TokenStudio
