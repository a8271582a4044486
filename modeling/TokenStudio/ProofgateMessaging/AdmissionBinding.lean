import TokenStudio.AttestationVerifier.Soundness
import TokenStudio.ProofgateMessaging.Admission

/-!
# What an admission binding fixes

`AdmissionBound` is what holds of a challenge that `bind_admission_challenge` has
returned.  It differs from the original in the second half of the nonce only, binding it
again changes nothing, it matches the group and the member it was bound to and no others,
and with any other value in a bound field it matches them no more.  The root that the
challenge expects is no bound field: it is the gate that fixes it.

The hash is cut to 16 bytes, so the assumption is about its first halves, and only about
the two preimages that are compared.
-/

namespace TokenStudio

/-- A change of one of the fields that the binding covers. -/
def ChangesBinding (c c' : VerificationChallenge) : Prop :=
  c'.version ≠ c.version ∨ c'.gateContextHash ≠ c.gateContextHash ∨
    c'.verifierId ≠ c.verifierId ∨ c'.issuedAtUnixMs ≠ c.issuedAtUnixMs ∨
    c'.expiresAtUnixMs ≠ c.expiresAtUnixMs ∨ c'.nonce.front ≠ c.nonce.front

/-- What holds of the challenge `bound` that `c` has become for a group and a member. -/
structure AdmissionBound (sha256 : Bytes → Digest32) (c bound : VerificationChallenge)
    (groupId memberAddress : String) : Prop where
  fields : bound = { c with nonce := bound.nonce }
  front : bound.nonce.front = c.nonce.front
  stable : bindAdmissionChallenge sha256 bound groupId memberAddress = some bound
  matched : admissionChallengeMatches sha256 bound groupId memberAddress = some true
  /-- No other group and member. -/
  exact : ∀ groupId' memberAddress', CollisionFree (fun bytes => (sha256 bytes).front)
      ((admissionBindingBytes bound groupId memberAddress bound.nonce.front).toList ++
        (admissionBindingBytes bound groupId' memberAddress' bound.nonce.front).toList) →
    admissionChallengeMatches sha256 bound groupId' memberAddress' = some true →
    groupId' = groupId ∧ memberAddress' = memberAddress
  /-- No other challenge with the second half of the nonce. -/
  changed : ∀ c' : VerificationChallenge, c'.nonce.back = bound.nonce.back →
    ChangesBinding bound c' → (asBytes c'.verifierId).length < 2 ^ 32 →
    CollisionFree (fun bytes => (sha256 bytes).front)
      ((admissionBindingBytes bound groupId memberAddress bound.nonce.front).toList ++
        (admissionBindingBytes c' groupId memberAddress c'.nonce.front).toList) →
    admissionChallengeMatches sha256 c' groupId memberAddress = some false

section

variable {sha256 : Bytes → Digest32} {c bound : VerificationChallenge} {g m : String}

/-- A binding returns exactly for identifiers of less than `2 ^ 32` bytes. -/
theorem exists_bindAdmissionChallenge_iff (hgroup : (asBytes g).length < 2 ^ 32)
    (hmember : (asBytes m).length < 2 ^ 32) :
    (∃ bound, bindAdmissionChallenge sha256 c g m = some bound) ↔
      (asBytes c.verifierId).length < 2 ^ 32 := by
  constructor
  · rintro ⟨bound, hbound⟩
    obtain ⟨binding, hbinding, -⟩ := bindAdmissionChallenge_eq_some.mp hbound
    obtain ⟨bytes, hbytes, -⟩ := Option.map_eq_some_iff.mp hbinding
    simp only [admissionBindingBytes, Option.bind_eq_bind, Option.bind_eq_some_iff,
      writeString_eq_some] at hbytes
    obtain ⟨_, ⟨hverifier, -⟩, -⟩ := hbytes
    exact hverifier
  · intro hverifier
    obtain ⟨bytes, hbytes⟩ :=
      exists_admissionBindingBytes c.nonce.front hverifier hgroup hmember
    exact ⟨_, bindAdmissionChallenge_eq_some.mpr
      ⟨sha256 bytes, Option.map_eq_some_iff.mpr ⟨bytes, hbytes, rfl⟩, rfl⟩⟩

theorem bindAdmissionChallenge_of_long (hgroup : (asBytes g).length < 2 ^ 32)
    (hmember : (asBytes m).length < 2 ^ 32) (h : 2 ^ 32 ≤ (asBytes c.verifierId).length) :
    bindAdmissionChallenge sha256 c g m = none := by
  rw [Option.eq_none_iff_forall_ne_some]
  intro bound hbound
  exact absurd ((exists_bindAdmissionChallenge_iff hgroup hmember).mp ⟨bound, hbound⟩)
    (Nat.not_lt.mpr h)

/-- The check returns for identifiers of less than `2 ^ 32` bytes. -/
theorem exists_admissionChallengeMatches (hverifier : (asBytes c.verifierId).length < 2 ^ 32)
    (hgroup : (asBytes g).length < 2 ^ 32) (hmember : (asBytes m).length < 2 ^ 32) :
    ∃ result, admissionChallengeMatches sha256 c g m = some result := by
  obtain ⟨bytes, hbytes⟩ := exists_admissionBindingBytes c.nonce.front hverifier hgroup hmember
  simp [admissionChallengeMatches, admissionBinding, hbytes]

/-- Binding a bound challenge again replaces the second half by itself. -/
theorem bindAdmissionChallenge_stable (h : bindAdmissionChallenge sha256 c g m = some bound) :
    bindAdmissionChallenge sha256 bound g m = some bound := by
  obtain ⟨binding, hbinding, rfl⟩ := bindAdmissionChallenge_eq_some.mp h
  refine bindAdmissionChallenge_eq_some.mpr ⟨binding, ?_, ?_⟩
  · rw [← hbinding]
    unfold admissionBinding
    rw [Digest32.front_ofHalves]
    exact congrArg (Option.map sha256) (admissionBindingBytes_congr rfl)
  · rw [Digest32.front_ofHalves]

/-- Changed fields are other inputs of the binding. -/
theorem ChangesBinding.inputs_ne {c' : VerificationChallenge} (h : ChangesBinding c c') :
    admissionInputs c g m c.nonce.front ≠ admissionInputs c' g m c'.nonce.front := by
  intro heq
  simp only [admissionInputs, AdmissionInputs.mk.injEq] at heq
  obtain ⟨h1, h2, h3, h4, h5, h6, -, -⟩ := heq
  rcases h with h | h | h | h | h | h
  · exact h h1.symm
  · exact h h2.symm
  · exact h h3.symm
  · exact h h4.symm
  · exact h h5.symm
  · exact h h6.symm

theorem admissionBound_of_bind (hgroup : (asBytes g).length < 2 ^ 32)
    (hmember : (asBytes m).length < 2 ^ 32)
    (h : bindAdmissionChallenge sha256 c g m = some bound) : AdmissionBound sha256 c bound g m := by
  have hmatched := admissionChallengeMatches_bindAdmissionChallenge h
  refine ⟨?_, ?_, bindAdmissionChallenge_stable h, hmatched, ?_, ?_⟩
  · obtain ⟨binding, -, rfl⟩ := bindAdmissionChallenge_eq_some.mp h
    rfl
  · obtain ⟨binding, -, rfl⟩ := bindAdmissionChallenge_eq_some.mp h
    exact Digest32.front_ofHalves _ _
  · intro g' m' hfree hmatches
    have hinputs := admissionInputs_eq_of_match hfree rfl hmatched hmatches
    simp only [admissionInputs, AdmissionInputs.mk.injEq, true_and] at hinputs
    exact ⟨hinputs.1.symm, hinputs.2.symm⟩
  · intro c' hback hchanges hverifier hfree
    obtain ⟨result, hresult⟩ : ∃ result, admissionChallengeMatches sha256 c' g m = some result :=
      exists_admissionChallengeMatches hverifier hgroup hmember
    cases result with
    | false => exact hresult
    | true =>
      exact absurd (admissionInputs_eq_of_match hfree hback.symm hmatched hresult)
        hchanges.inputs_ne

/-- A binding does not read the half of the nonce that it replaces. -/
theorem AdmissionBound.preimage (h : AdmissionBound sha256 c bound g m) (g' m' : String) :
    admissionBindingBytes bound g' m' bound.nonce.front =
      admissionBindingBytes c g' m' c.nonce.front := by
  rw [h.front, h.fields]
  exact admissionBindingBytes_congr rfl

end

/-- Binding returns for verifier ids of less than `2 ^ 32` bytes, and what it returns is
bound to the group and the member. -/
theorem admission_binding_exact (sha256 : Bytes → Digest32) (c : VerificationChallenge)
    {groupId memberAddress : String} (hgroup : (asBytes groupId).length < 2 ^ 32)
    (hmember : (asBytes memberAddress).length < 2 ^ 32) :
    ((∃ bound, bindAdmissionChallenge sha256 c groupId memberAddress = some bound) ↔
        (asBytes c.verifierId).length < 2 ^ 32) ∧
      ∀ bound, bindAdmissionChallenge sha256 c groupId memberAddress = some bound →
        AdmissionBound sha256 c bound groupId memberAddress :=
  ⟨exists_bindAdmissionChallenge_iff hgroup hmember,
    fun _ => admissionBound_of_bind hgroup hmember⟩

/-- The challenge of the crate's test, for one member of the group and not for another. -/
theorem admission_binding_exact_founders :
    ∃ bound, bindAdmissionChallenge sha256 foundersEnvelope.challenge "founders" "logos:alice" =
        some bound ∧
      admissionChallengeMatches sha256 bound "founders" "logos:alice" = some true ∧
      admissionChallengeMatches sha256 bound "founders" "logos:bob" ≠ some true := by
  have hgroup : (asBytes "founders").length < 2 ^ 32 := by decide +kernel
  have hmember : (asBytes "logos:alice").length < 2 ^ 32 := by decide +kernel
  obtain ⟨hreturns, hbinds⟩ :=
    admission_binding_exact sha256 foundersEnvelope.challenge hgroup hmember
  obtain ⟨bound, hbound⟩ := hreturns.mpr (by decide +kernel)
  have h := hbinds bound hbound
  refine ⟨bound, hbound, h.matched, ?_⟩
  intro hbob
  have hfree : CollisionFree (fun bytes => Digest32.front (sha256 bytes))
      ((admissionBindingBytes foundersEnvelope.challenge "founders" "logos:alice"
          foundersEnvelope.challenge.nonce.front).toList ++
        (admissionBindingBytes foundersEnvelope.challenge "founders" "logos:bob"
          foundersEnvelope.challenge.nonce.front).toList) := by
    decide +kernel
  rw [← h.preimage, ← h.preimage] at hfree
  exact absurd (h.exact _ _ hfree hbob).2 (by decide)

/-- The challenge with a verifier id of `2 ^ 32` bytes cannot be bound. -/
theorem long_verifier_not_bound :
    (asBytes "founders").length < 2 ^ 32 ∧ (asBytes "logos:alice").length < 2 ^ 32 ∧
      bindAdmissionChallenge sha256
        { foundersEnvelope.challenge with verifierId := ofAscii (List.replicate (2 ^ 32) 0x61) }
        "founders" "logos:alice" = none := by
  have hgroup : (asBytes "founders").length < 2 ^ 32 := by decide +kernel
  have hmember : (asBytes "logos:alice").length < 2 ^ 32 := by decide +kernel
  refine ⟨hgroup, hmember, bindAdmissionChallenge_of_long hgroup hmember ?_⟩
  rw [asBytes_ofAscii, List.length_replicate]
  intro b hb
  rw [List.eq_of_mem_replicate hb]
  decide

end TokenStudio
