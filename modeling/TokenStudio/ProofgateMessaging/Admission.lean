import TokenStudio.AttestationTypes.Basic
import TokenStudio.CodeLib.Merkle

/-!
# Challenges bound to an admission

The part of the crate `proofgate-messaging` that ties a challenge to one group and
one member.  The first half of the nonce stays random.  The second half becomes
the first half of a hash over the fields of the challenge, the random half, the
group and the member.  `admission_challenge_matches` computes the same hash
again, so a verifier needs no table of admissions.

A bound challenge differs from the original in its nonce only, and the hash
does not read the half that is replaced.  This is why `admission_challenge_matches`
holds of what `bind_admission_challenge` returns
(`admissionChallengeMatches_bindAdmissionChallenge`).

`append_string` panics on an identifier of `2 ^ 32` bytes or more, so the functions
are `Option`-valued.
-/

namespace TokenStudio

/-- `ADMISSION_CHALLENGE_DOMAIN`. -/
def admissionChallengeDomain : Bytes := asBytes "LEZ-TokenStudio/LogosChatAdmission/v1"

/-- `[u8; 16]`. -/
abbrev HalfDigest := List.Vector UInt8 16

namespace Digest32

/-- `digest[..16]`. -/
def front (digest : Digest32) : HalfDigest := ⟨digest.toList.take 16, by simp⟩

/-- `digest[16..]`. -/
def back (digest : Digest32) : HalfDigest := ⟨digest.toList.drop 16, by simp⟩

/-- The digest with two given halves. -/
def ofHalves (lower upper : HalfDigest) : Digest32 :=
  ⟨lower.toList ++ upper.toList, by simp⟩

@[simp] theorem front_ofHalves (lower upper : HalfDigest) :
    front (ofHalves lower upper) = lower := by
  apply List.Vector.eq
  show (lower.toList ++ upper.toList).take 16 = lower.toList
  exact List.take_left' lower.toList_length

@[simp] theorem back_ofHalves (lower upper : HalfDigest) :
    back (ofHalves lower upper) = upper := by
  apply List.Vector.eq
  show (lower.toList ++ upper.toList).drop 16 = upper.toList
  exact List.drop_left' lower.toList_length

end Digest32

/-! ## The binding -/

/-- The bytes that `admission_binding` hashes. -/
def admissionBindingBytes (challenge : VerificationChallenge) (groupId memberAddress : String)
    (randomPrefix : HalfDigest) : Option Bytes := do
  let verifierId ← writeString challenge.verifierId
  let group ← writeString groupId
  let member ← writeString memberAddress
  pure (admissionChallengeDomain ++
    Codec.u16.encode challenge.version ++
    challenge.gateContextHash.toList ++
    verifierId ++
    Codec.u64.encode challenge.issuedAtUnixMs ++
    Codec.u64.encode challenge.expiresAtUnixMs ++
    randomPrefix.toList ++
    group ++
    member)

/-- `admission_binding`. -/
def admissionBinding (sha256 : Bytes → Digest32) (challenge : VerificationChallenge)
    (groupId memberAddress : String) (randomPrefix : HalfDigest) : Option Digest32 :=
  (admissionBindingBytes challenge groupId memberAddress randomPrefix).map sha256

/-- `bind_admission_challenge`. -/
def bindAdmissionChallenge (sha256 : Bytes → Digest32) (challenge : VerificationChallenge)
    (groupId memberAddress : String) : Option VerificationChallenge := do
  let randomPrefix := challenge.nonce.front
  let binding ← admissionBinding sha256 challenge groupId memberAddress randomPrefix
  pure { challenge with nonce := Digest32.ofHalves randomPrefix binding.front }

/-- `admission_challenge_matches`. -/
def admissionChallengeMatches (sha256 : Bytes → Digest32) (challenge : VerificationChallenge)
    (groupId memberAddress : String) : Option Bool := do
  let randomPrefix := challenge.nonce.front
  let binding ← admissionBinding sha256 challenge groupId memberAddress randomPrefix
  pure (challenge.nonce.back = binding.front)

/-! ## What the binding determines -/

/-- The values that go into an admission binding. -/
structure AdmissionInputs where
  version : UInt16
  gateContextHash : Digest32
  verifierId : String
  issuedAtUnixMs : UInt64
  expiresAtUnixMs : UInt64
  randomPrefix : HalfDigest
  groupId : String
  memberAddress : String
  deriving DecidableEq

/-- The inputs of the binding of a challenge to a group and a member. -/
def admissionInputs (challenge : VerificationChallenge) (groupId memberAddress : String)
    (randomPrefix : HalfDigest) : AdmissionInputs where
  version := challenge.version
  gateContextHash := challenge.gateContextHash
  verifierId := challenge.verifierId
  issuedAtUnixMs := challenge.issuedAtUnixMs
  expiresAtUnixMs := challenge.expiresAtUnixMs
  randomPrefix := randomPrefix
  groupId := groupId
  memberAddress := memberAddress

/-- The hashed byte string determines the inputs. -/
theorem admissionBindingBytes_inj {c c' : VerificationChallenge} {g g' m m' : String}
    {p p' : HalfDigest} {b : Bytes} (h : admissionBindingBytes c g m p = some b)
    (h' : admissionBindingBytes c' g' m' p' = some b) :
    admissionInputs c g m p = admissionInputs c' g' m' p' := by
  simp only [admissionBindingBytes, Option.bind_eq_bind, Option.bind_eq_some_iff,
    Option.pure_def, Option.some.injEq] at h h'
  obtain ⟨ver, hver, group, hgroup, member, hmember, rfl⟩ := h
  obtain ⟨ver', hver', group', hgroup', member', hmember', heq⟩ := h'
  simp only [List.append_assoc] at heq
  have heq := List.append_cancel_left heq
  obtain ⟨h1, heq⟩ := Codec.u16.peel heq
  obtain ⟨h2, heq⟩ := (Codec.byteArray 32).peel heq
  obtain ⟨h3, heq⟩ := writeString_peel hver' hver heq
  obtain ⟨h4, heq⟩ := Codec.u64.peel heq
  obtain ⟨h5, heq⟩ := Codec.u64.peel heq
  obtain ⟨h6, heq⟩ := (Codec.byteArray 16).peel heq
  obtain ⟨h7, heq⟩ := writeString_peel hgroup' hgroup heq
  -- the member address ends the byte string
  obtain ⟨h8, -⟩ := writeString_peel hmember' hmember (congrArg (· ++ []) heq)
  simp [admissionInputs, h1, h2, h3, h4, h5, h6, h7, h8]

/-- Equal inputs give the same binding. -/
theorem admissionBindingBytes_congr {c c' : VerificationChallenge} {g g' m m' : String}
    {p p' : HalfDigest} (h : admissionInputs c g m p = admissionInputs c' g' m' p') :
    admissionBindingBytes c g m p = admissionBindingBytes c' g' m' p' := by
  simp only [admissionInputs, AdmissionInputs.mk.injEq] at h
  obtain ⟨h1, h2, h3, h4, h5, h6, h7, h8⟩ := h
  simp [admissionBindingBytes, h1, h2, h3, h4, h5, h6, h7, h8]

/-- Only an identifier of `2 ^ 32` bytes or more makes the binding panic. -/
theorem exists_admissionBindingBytes {c : VerificationChallenge} {g m : String} (p : HalfDigest)
    (hver : (asBytes c.verifierId).length < 2 ^ 32) (hgroup : (asBytes g).length < 2 ^ 32)
    (hmember : (asBytes m).length < 2 ^ 32) :
    ∃ b, admissionBindingBytes c g m p = some b := by
  simp [admissionBindingBytes, writeString_of_lt hver, writeString_of_lt hgroup,
    writeString_of_lt hmember]

/-! ## Bound challenges -/

/-- What `bind_admission_challenge` returns: the same challenge with the second
half of its nonce replaced. -/
theorem bindAdmissionChallenge_eq_some {sha256 : Bytes → Digest32}
    {c bound : VerificationChallenge} {g m : String} :
    bindAdmissionChallenge sha256 c g m = some bound ↔
      ∃ binding, admissionBinding sha256 c g m c.nonce.front = some binding ∧
        bound = { c with nonce := Digest32.ofHalves c.nonce.front binding.front } := by
  simp only [bindAdmissionChallenge, Option.bind_eq_bind, Option.bind_eq_some_iff,
    Option.pure_def, Option.some.injEq]
  exact exists_congr fun _ => and_congr_right fun _ => eq_comm

/-- When a challenge matches a group and a member. -/
theorem admissionChallengeMatches_eq_true {sha256 : Bytes → Digest32}
    {c : VerificationChallenge} {g m : String} :
    admissionChallengeMatches sha256 c g m = some true ↔
      ∃ binding, admissionBinding sha256 c g m c.nonce.front = some binding ∧
        c.nonce.back = binding.front := by
  simp only [admissionChallengeMatches, Option.bind_eq_bind, Option.bind_eq_some_iff,
    Option.pure_def, Option.some.injEq, decide_eq_true_eq]

/-- Two matching challenges with the same second half of the nonce have the same
inputs, unless the first halves of the hashes of their preimages collide. -/
theorem admissionInputs_eq_of_match {sha256 : Bytes → Digest32} {c c' : VerificationChallenge}
    {g g' m m' : String}
    (hfree : CollisionFree (fun bytes => (sha256 bytes).front)
      ((admissionBindingBytes c g m c.nonce.front).toList ++
        (admissionBindingBytes c' g' m' c'.nonce.front).toList))
    (hback : c.nonce.back = c'.nonce.back)
    (h : admissionChallengeMatches sha256 c g m = some true)
    (h' : admissionChallengeMatches sha256 c' g' m' = some true) :
    admissionInputs c g m c.nonce.front = admissionInputs c' g' m' c'.nonce.front := by
  obtain ⟨binding, hbinding, hfront⟩ := admissionChallengeMatches_eq_true.mp h
  obtain ⟨binding', hbinding', hfront'⟩ := admissionChallengeMatches_eq_true.mp h'
  obtain ⟨bytes, hbytes, rfl⟩ := Option.map_eq_some_iff.mp hbinding
  obtain ⟨bytes', hbytes', rfl⟩ := Option.map_eq_some_iff.mp hbinding'
  have hsame : bytes = bytes' := by
    refine hfree bytes ?_ bytes' ?_ (hfront.symm.trans (hback.trans hfront'))
    · simp [hbytes]
    · simp [hbytes']
  subst hsame
  exact admissionBindingBytes_inj hbytes hbytes'

/-- A bound challenge matches the group and the member it was bound to. -/
theorem admissionChallengeMatches_bindAdmissionChallenge {sha256 : Bytes → Digest32}
    {c bound : VerificationChallenge} {g m : String}
    (h : bindAdmissionChallenge sha256 c g m = some bound) :
    admissionChallengeMatches sha256 bound g m = some true := by
  obtain ⟨binding, hbinding, rfl⟩ := bindAdmissionChallenge_eq_some.mp h
  rw [admissionChallengeMatches_eq_true]
  refine ⟨binding, ?_, Digest32.back_ofHalves _ _⟩
  -- the binding does not read the half of the nonce that was replaced
  rw [← hbinding]
  unfold admissionBinding
  rw [Digest32.front_ofHalves]
  exact congrArg (Option.map sha256) (admissionBindingBytes_congr rfl)

end TokenStudio
