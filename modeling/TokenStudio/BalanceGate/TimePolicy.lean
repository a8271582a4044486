import TokenStudio.BalanceGate.Soundness
import TokenStudio.BalanceGate.Window

/-!
# The time policy of the guest

A proof is accepted from 30 seconds before it was issued until its maximal age or its
expiry, whichever comes first, and both ends are included.  The guest represents this
with a half-open window of `u64` timestamps.  It saturates at the start of time, it
fails when the end does not fit, and an expiry at the last timestamp drops out of the
computation.

`claim_time_policy` says that the window is the policy, in natural numbers and for all
times.  `TimeRefused` is when there is no window.
-/

namespace TokenStudio

/-- The end of the fresh period does not fit, or the proof expired more than 30 seconds
before it was issued. -/
def TimeRefused (journal : OnChainAttestationJournal) (maxProofAgeMs : UInt64) : Prop :=
  u64Max < journal.issuedAtUnixMs.toNat + maxProofAgeMs.toNat + 1 ∨
    ∃ expiry, journal.expiresAtUnixMs = some expiry ∧
      expiry.toNat + 30000 < journal.issuedAtUnixMs.toNat

/-- The window of a claim is the time policy. -/
structure TimePolicy (G : GuestRuntime) (journal : OnChainAttestationJournal)
    (maxProofAgeMs : UInt64) : Prop where
  /-- When the computation fails with 1005. -/
  fails : (∃ message, claimWindow G journal maxProofAgeMs = .err ⟨1005, message⟩) ↔
    TimeRefused journal maxProofAgeMs
  /-- Otherwise the times of the window. -/
  times : ¬ TimeRefused journal maxProofAgeMs → ∃ validFrom validUntil,
    claimWindow G journal maxProofAgeMs = .ok (validFrom, validUntil) ∧
      ∀ time : UInt64, validFrom ≤ time ∧ time < validUntil ↔
        journal.issuedAtUnixMs.toNat ≤ time.toNat + 30000 ∧
          time.toNat ≤ journal.issuedAtUnixMs.toNat + maxProofAgeMs.toNat ∧
          ∀ expiry, journal.expiresAtUnixMs = some expiry → time ≤ expiry
  /-- There is no other failure. -/
  code : ∀ failure, claimWindow G journal maxProofAgeMs = .err failure → failure.code = 1005
  returns : (claimWindow G journal maxProofAgeMs).Returns

section

variable {G : GuestRuntime} {journal : OnChainAttestationJournal} {age : UInt64}

/-- The end of the fresh period does not fit. -/
theorem freshnessEnd_eq_none {issued age : UInt64} :
    ((checkedAdd issued age).bind fun value => checkedAdd value 1) = none ↔
      u64Max < issued.toNat + age.toNat + 1 := by
  constructor
  · intro hnone
    by_contra hle
    have hfits : (UInt64.ofNat (issued.toNat + age.toNat + 1)).toNat =
        issued.toNat + age.toNat + 1 := by
      apply UInt64.toNat_ofNat_of_lt'
      show issued.toNat + age.toNat + 1 < 2 ^ 64
      unfold u64Max at hle
      omega
    rw [freshnessEnd_eq_some.mpr hfits] at hnone
    cases hnone
  · intro hlt
    cases hsome : (checkedAdd issued age).bind fun value => checkedAdd value 1 with
    | none => rfl
    | some stop =>
      have hstop := freshnessEnd_eq_some.mp hsome
      have hmax : stop.toNat < 2 ^ 64 := stop.toNat_lt
      unfold u64Max at hlt
      omega

/-- The start of the window is before its end unless the proof expired before it. -/
theorem validFrom_lt_validUntil_iff {stop : UInt64}
    (hstop : stop.toNat = journal.issuedAtUnixMs.toNat + age.toNat + 1) :
    saturatingSub journal.issuedAtUnixMs maxOnChainClockSkewMs <
        validUntil journal.expiresAtUnixMs stop ↔
      ∀ expiry, journal.expiresAtUnixMs = some expiry →
        journal.issuedAtUnixMs.toNat ≤ expiry.toNat + 30000 := by
  have hskew : maxOnChainClockSkewMs.toNat = 30000 := rfl
  have hfrom := saturatingSub_toNat journal.issuedAtUnixMs maxOnChainClockSkewMs
  rw [hskew] at hfrom
  rw [lt_validUntil_iff, isAfter_eq_false]
  constructor
  · rintro ⟨-, hexpiry⟩ expiry hsome
    have hle := hexpiry expiry hsome
    rw [UInt64.le_iff_toNat_le] at hle
    omega
  · intro hexpiry
    refine ⟨?_, ?_⟩
    · rw [UInt64.lt_iff_toNat_lt]
      omega
    · intro expiry hsome
      have hle := hexpiry expiry hsome
      rw [UInt64.le_iff_toNat_le]
      omega

/-- Without a refusal the end of the fresh period fits, and the window is not empty. -/
theorem not_timeRefused_iff :
    ¬ TimeRefused journal age ↔
      ∃ stop : UInt64, stop.toNat = journal.issuedAtUnixMs.toNat + age.toNat + 1 ∧
        saturatingSub journal.issuedAtUnixMs maxOnChainClockSkewMs <
          validUntil journal.expiresAtUnixMs stop := by
  have hexpiry : (¬ ∃ expiry, journal.expiresAtUnixMs = some expiry ∧
      expiry.toNat + 30000 < journal.issuedAtUnixMs.toNat) ↔
        ∀ expiry, journal.expiresAtUnixMs = some expiry →
          journal.issuedAtUnixMs.toNat ≤ expiry.toNat + 30000 := by
    simp only [not_exists, not_and, Nat.not_lt]
  rw [TimeRefused, not_or, hexpiry]
  constructor
  · rintro ⟨hmax, hlate⟩
    have hsome := mt freshnessEnd_eq_none.mp hmax
    obtain ⟨stop, hstop⟩ := Option.ne_none_iff_exists'.mp hsome
    rw [freshnessEnd_eq_some] at hstop
    exact ⟨stop, hstop, (validFrom_lt_validUntil_iff hstop).mpr hlate⟩
  · rintro ⟨stop, hstop, hwindow⟩
    have hlt : stop.toNat < 2 ^ 64 := stop.toNat_lt
    refine ⟨?_, (validFrom_lt_validUntil_iff hstop).mp hwindow⟩
    unfold u64Max
    omega

/-- A refused claim has no window. -/
theorem claimWindow_of_refused (h : TimeRefused journal age) :
    ∃ message, claimWindow G journal age = .err ⟨1005, message⟩ := by
  unfold claimWindow
  cases hend : (checkedAdd journal.issuedAtUnixMs age).bind fun value => checkedAdd value 1 with
  | none => exact ⟨_, rfl⟩
  | some stop =>
    have hempty : saturatingSub journal.issuedAtUnixMs maxOnChainClockSkewMs ≥
        validUntil journal.expiresAtUnixMs stop := by
      rw [ge_iff_le, ← UInt64.not_lt]
      intro hwindow
      exact not_timeRefused_iff.mpr ⟨stop, freshnessEnd_eq_some.mp hend, hwindow⟩ h
    refine ⟨"proof validity window is empty", ?_⟩
    simp only [Outcome.okOr_some, Outcome.ok_bind, Outcome.check_of hempty, Outcome.err_bind]

/-- Any other claim has one. -/
theorem claimWindow_of_not_refused (hG : G.TakesWindows) (h : ¬ TimeRefused journal age) :
    ∃ stop : UInt64, stop.toNat = journal.issuedAtUnixMs.toNat + age.toNat + 1 ∧
      claimWindow G journal age =
        .ok (saturatingSub journal.issuedAtUnixMs maxOnChainClockSkewMs,
          validUntil journal.expiresAtUnixMs stop) := by
  obtain ⟨stop, hstop, hwindow⟩ := not_timeRefused_iff.mp h
  refine ⟨stop, hstop, ?_⟩
  have hnot : ¬ saturatingSub journal.issuedAtUnixMs maxOnChainClockSkewMs ≥
      validUntil journal.expiresAtUnixMs stop := UInt64.not_le.mpr hwindow
  have htaken := not_not.mpr (hG _ _ hwindow)
  unfold claimWindow
  simp only [freshnessEnd_eq_some.mpr hstop, Outcome.okOr_some, Outcome.ok_bind,
    Outcome.check_of_not hnot, Outcome.check_of_not htaken, Outcome.pure_eq]

/-- The window of a claim is the time policy, whatever the times are. -/
theorem timePolicy (hG : G.TakesWindows) (journal : OnChainAttestationJournal) (age : UInt64) :
    TimePolicy G journal age := by
  by_cases hrefused : TimeRefused journal age
  · obtain ⟨message, herr⟩ := claimWindow_of_refused (G := G) hrefused
    refine ⟨⟨fun _ => hrefused, fun _ => ⟨message, herr⟩⟩, absurd hrefused, ?_, ?_⟩
    · intro failure hfailure
      rw [herr] at hfailure
      exact (congrArg GuestFailure.code (Outcome.err.inj hfailure)).symm
    · rw [herr]
      exact fun h => nomatch h
  · obtain ⟨stop, hstop, hok⟩ := claimWindow_of_not_refused hG hrefused
    refine ⟨⟨?_, fun h => absurd h hrefused⟩, fun _ => ⟨_, _, hok, ?_⟩, ?_, ?_⟩
    · rintro ⟨message, herr⟩
      rw [hok] at herr
      cases herr
    · intro time
      have hskew : maxOnChainClockSkewMs.toNat = 30000 := rfl
      have hfrom := saturatingSub_toNat journal.issuedAtUnixMs maxOnChainClockSkewMs
      rw [hskew] at hfrom
      rw [lt_validUntil_iff, isAfter_eq_false, UInt64.le_iff_toNat_le, UInt64.lt_iff_toNat_lt,
        hfrom, hstop, ← and_assoc, ← and_assoc]
      refine and_congr_left fun _ => ?_
      omega
    · intro failure hfailure
      rw [hok] at hfailure
      cases hfailure
    · rw [hok]
      exact fun h => nomatch h

end

/-- A claim that `evaluate_claim` accepts ends with the computation of a window, and
the window is the time policy for its journal and the age that the gate allows. -/
theorem claim_time_policy {P : Primitives} {G : GuestRuntime} (hG : G.TakesWindows)
    (envVerify : ProgramOwner → List UInt32 → Bool) {programId : ProgramId} {gate badge : Account}
    {access : ClaimAccess} {state : GateState} {result : ClaimResult}
    (hstate : decodeGateState gate.data = some state)
    (hclaim : evaluateClaim P state programId badge.accountId access = .ok result) :
    claim P G envVerify programId gate badge access = (do
        let journalWords ← Outcome.okOr (G.toVec access.journal.toAttestationJournal)
          ⟨1011, "cannot encode attestation journal"⟩
        Outcome.expect (envVerify balanceAttestationImageId journalWords)
        let gateData ← G.toData (encodeGateState result.nextGateState) "gate state is too large"
        let badgeData ← G.toData (encodeAccessBadge result.badge) "access badge is too large"
        let window ← claimWindow G access.journal state.maxProofAgeMs
        pure
          { gate := gate.withData gateData
            badge := badge.withData badgeData
            validFrom := window.1
            validUntil := window.2 }) ∧
      TimePolicy G access.journal state.maxProofAgeMs := by
  refine ⟨?_, timePolicy hG access.journal state.maxProofAgeMs⟩
  rw [claim_eq_claimWindow, hstate, Outcome.okOr_some, Outcome.ok_bind, hclaim,
    Outcome.mapErr_ok, Outcome.ok_bind]

/-- The claim of the first account: it has a window, and the window holds the time at
which the proof was issued. -/
theorem claim_time_policy_founders :
    ¬ TimeRefused foundersAccess.journal foundersInputs.state.maxProofAgeMs ∧
      TimePolicy foundersRuntime foundersAccess.journal
        foundersInputs.state.maxProofAgeMs := by
  have hG : foundersRuntime.TakesWindows := by
    intro start stop hlt
    exact decide_eq_true hlt
  obtain ⟨state, claimNumber, haccepted⟩ := claim_eq_ok claim_founders
  obtain rfl : state = foundersInputs.state := haccepted.state_eq rfl
  have hpolicy := (claim_time_policy hG foundersCall.envVerify haccepted.decoded
    (evaluateClaim_eq_ok_iff.mpr ⟨haccepted.valid, claimNumber, haccepted.number, rfl⟩)).2
  refine ⟨?_, hpolicy⟩
  rintro (hmax | ⟨expiry, hexpiry, hlate⟩)
  · exact absurd hmax (by decide)
  · obtain rfl : 2000000 = expiry := Option.some.inj hexpiry
    exact absurd hlate (by decide)

end TokenStudio
