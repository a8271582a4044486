import TokenStudio.BalanceGate.Guest

/-!
# The validity window of a claim

The guest does not know the time.  It computes the window in which the ledger may
include a claim, and it fails when the window is empty or its end does not fit
into a `u64`.  `claimWindow` is that part of `claim` on its own, and
`claim_eq_claimWindow` says where it stands in `claim`.  `claim_eq_ok_iff` lists what
`claim` checks on an account with a state.

`mem_claimWindow_iff` is the spec lemma.  It says in natural numbers which times
lie in the window: the proof is not issued more than the allowed skew later, it
is not older than the maximal age, and it has not expired.
-/

namespace TokenStudio

/-- The window computation of `claim`: the first timestamp at which the claim is
valid, and the first after it at which it no longer is. -/
def claimWindow (G : GuestRuntime) (journal : OnChainAttestationJournal)
    (maxProofAgeMs : UInt64) : Outcome GuestFailure (UInt64 × UInt64) := do
  let validFrom := saturatingSub journal.issuedAtUnixMs maxOnChainClockSkewMs
  let freshnessEnd ← Outcome.okOr
    ((checkedAdd journal.issuedAtUnixMs maxProofAgeMs).bind fun value => checkedAdd value 1)
    ⟨1005, "proof validity overflows"⟩
  let validUntil := validUntil journal.expiresAtUnixMs freshnessEnd
  Outcome.check (validFrom ≥ validUntil) ⟨1005, "proof validity window is empty"⟩
  Outcome.check (¬ G.isValidityWindow validFrom validUntil)
    ⟨1005, "proof validity window is invalid"⟩
  pure (validFrom, validUntil)

/-- `claim` ends with the computation of its window. -/
theorem claim_eq_claimWindow (P : Primitives) (G : GuestRuntime)
    (envVerify : ProgramOwner → List UInt32 → Bool) (programId : ProgramId)
    (gate badge : Account) (access : ClaimAccess) :
    claim P G envVerify programId gate badge access = (do
      let state ← Outcome.okOr (decodeGateState gate.data) ⟨2005, "cannot decode gate state"⟩
      let result ← (evaluateClaim P state programId badge.accountId access).mapErr
        GuestFailure.ofClaimError
      let journalWords ← Outcome.okOr (G.toVec access.journal.toAttestationJournal)
        ⟨1011, "cannot encode attestation journal"⟩
      Outcome.expect (envVerify balanceAttestationImageId journalWords)
      let gateData ← G.toData (encodeGateState result.nextGateState) "gate state is too large"
      let badgeData ← G.toData (encodeAccessBadge result.badge) "access badge is too large"
      let window ← claimWindow G access.journal state.maxProofAgeMs
      pure
        { gate := gate.withData gateData
          badge := badge.withData badgeData
          validFrom := window.1
          validUntil := window.2 }) := by
  simp [claim, claimWindow]

/-- What the guest computes for a claim on a state, apart from the receipt. -/
structure ClaimPasses (P : Primitives) (G : GuestRuntime) (programId : ProgramId)
    (state : GateState) (badgeAccountId : Digest32) (access : ClaimAccess) (result : ClaimResult)
    (window : UInt64 × UInt64) : Prop where
  evaluated : evaluateClaim P state programId badgeAccountId access = .ok result
  gateFits : (encodeGateState result.nextGateState).length ≤ G.dataMaxLength
  badgeFits : (encodeAccessBadge result.badge).length ≤ G.dataMaxLength
  window : claimWindow G access.journal state.maxProofAgeMs = .ok window

/-- The output of the guest for a claim that it gets through. -/
def ClaimResult.output (result : ClaimResult) (window : UInt64 × UInt64) (gate badge : Account) :
    ClaimOutput where
  gate := gate.withData (encodeGateState result.nextGateState)
  badge := badge.withData (encodeAccessBadge result.badge)
  validFrom := window.1
  validUntil := window.2

/-- The journal of a claim has a receipt, as far as `env::verify` tells. -/
def ReceiptVerifies (G : GuestRuntime) (envVerify : ProgramOwner → List UInt32 → Bool)
    (access : ClaimAccess) : Prop :=
  ∃ words, G.toVec access.journal.toAttestationJournal = some words ∧
    envVerify balanceAttestationImageId words = true

/-- When `claim` succeeds on an account with a state. -/
theorem claim_eq_ok_iff {P : Primitives} {G : GuestRuntime} {programId : ProgramId}
    {state : GateState} {gate badge : Account} {access : ClaimAccess}
    (hgate : decodeGateState gate.data = some state)
    {envVerify : ProgramOwner → List UInt32 → Bool} {output : ClaimOutput} :
    claim P G envVerify programId gate badge access = .ok output ↔
      ReceiptVerifies G envVerify access ∧ ∃ result window,
        ClaimPasses P G programId state badge.accountId access result window ∧
          output = result.output window gate badge := by
  simp only [claim_eq_claimWindow, Outcome.bind_eq_ok, Outcome.okOr_eq_ok, Outcome.mapErr_eq_ok,
    Outcome.expect_eq_ok, GuestRuntime.toData_eq_ok, Outcome.exists_unit, Outcome.pure_eq,
    Outcome.ok.injEq]
  constructor
  · rintro ⟨state', hdecoded, result, heval, words, hwords, hverify, _, ⟨hgateFits, rfl⟩, _,
      ⟨hbadgeFits, rfl⟩, window, hwindow, rfl⟩
    rw [hgate] at hdecoded
    obtain rfl := Option.some.inj hdecoded
    exact ⟨⟨words, hwords, hverify⟩, result, window, ⟨heval, hgateFits, hbadgeFits, hwindow⟩, rfl⟩
  · rintro ⟨⟨words, hwords, hverify⟩, result, window, h, rfl⟩
    exact ⟨state, hgate, result, h.evaluated, words, hwords, hverify, _, ⟨h.gateFits, rfl⟩, _,
      ⟨h.badgeFits, rfl⟩, window, h.window, rfl⟩

/-- With a receipt and room for the two accounts, the windows of `claim` are the computed
ones for the claims that `evaluate_claim` accepts. -/
theorem claim_window_iff {P : Primitives} {G : GuestRuntime} (hdata : 203 ≤ G.dataMaxLength)
    {programId : ProgramId} {state : GateState} {gate badge : Account} {access : ClaimAccess}
    (hgate : decodeGateState gate.data = some state)
    {envVerify : ProgramOwner → List UInt32 → Bool} (hreceipt : ReceiptVerifies G envVerify access)
    {window : UInt64 × UInt64} :
    (∃ output, claim P G envVerify programId gate badge access = .ok output ∧
        (output.validFrom, output.validUntil) = window) ↔
      (evaluateClaim P state programId badge.accountId access).isOk ∧
        claimWindow G access.journal state.maxProofAgeMs = .ok window := by
  simp only [claim_eq_ok_iff hgate, hreceipt, true_and]
  constructor
  · rintro ⟨_, ⟨result, window, hpasses, rfl⟩, rfl⟩
    exact ⟨Outcome.isOk_iff.mpr ⟨result, hpasses.evaluated⟩, hpasses.window⟩
  · rintro ⟨hok, hwindow⟩
    obtain ⟨result, hresult⟩ := Outcome.isOk_iff.mp hok
    refine ⟨_, ⟨result, window, ⟨hresult, ?_, ?_, hwindow⟩, rfl⟩, rfl⟩
    · exact (encodeGateState_length_le _).trans hdata
    · rw [encodeAccessBadge_length]
      omega

/-- A runtime that takes every nonempty range of timestamps as a validity
window. -/
def GuestRuntime.TakesWindows (G : GuestRuntime) : Prop :=
  ∀ start stop : UInt64, start < stop → G.isValidityWindow start stop = true

/-! ## The times in a window -/

/-- A time is before the end of the window when the proof is fresh and has not
expired.  An expiry at the last timestamp has no successor, and it never
passes. -/
theorem lt_validUntil_iff {time freshnessEnd : UInt64} {expiry : Option UInt64} :
    time < validUntil expiry freshnessEnd ↔
      time < freshnessEnd ∧ isAfter time expiry = false := by
  rw [isAfter_eq_false]
  cases expiry with
  | none => simp [validUntil]
  | some e =>
    have ht : time.toNat < 2 ^ 64 := time.toNat_lt
    cases hnext : checkedAdd e 1 with
    | none =>
      have hmax : u64Max < e.toNat + 1 := by
        by_contra hle
        have hfits : e.toNat + (1 : UInt64).toNat ≤ u64Max := by
          show e.toNat + 1 ≤ u64Max
          omega
        rw [checkedAdd, if_pos hfits] at hnext
        cases hnext
      have hle : time ≤ e := by
        rw [UInt64.le_iff_toNat_le]
        unfold u64Max at hmax
        omega
      simp [validUntil, hnext, hle]
    | some next =>
      have hvalue : next.toNat = e.toNat + 1 := checkedAdd_eq_some.mp hnext
      simp only [validUntil, Option.bind_some, hnext, Option.some.injEq, forall_eq']
      rw [UInt64.lt_iff_toNat_lt, UInt64.lt_iff_toNat_lt, UInt64.le_iff_toNat_le]
      have hmin : (min next freshnessEnd).toNat = min next.toNat freshnessEnd.toNat := by
        show (if next ≤ freshnessEnd then next else freshnessEnd).toNat = _
        split
        · rename_i hle
          rw [UInt64.le_iff_toNat_le] at hle
          omega
        · rename_i hnot
          rw [UInt64.le_iff_toNat_le] at hnot
          omega
      omega

/-- The end of the fresh period, when it fits. -/
theorem freshnessEnd_eq_some {issued age stop : UInt64} :
    ((checkedAdd issued age).bind fun value => checkedAdd value 1) = some stop ↔
      stop.toNat = issued.toNat + age.toNat + 1 := by
  have hstop : stop.toNat < 2 ^ 64 := stop.toNat_lt
  simp only [Option.bind_eq_some_iff, checkedAdd_eq_some]
  constructor
  · rintro ⟨value, hvalue, hsum⟩
    have hone : (1 : UInt64).toNat = 1 := rfl
    omega
  · intro hsum
    refine ⟨UInt64.ofNat (issued.toNat + age.toNat), ?_, ?_⟩ <;>
      rw [UInt64.toNat_ofNat_of_lt' (show issued.toNat + age.toNat < 2 ^ 64 by omega)]
    exact hsum

/-- The times in the window of a claim. -/
theorem mem_claimWindow_iff {G : GuestRuntime} (hG : G.TakesWindows)
    {journal : OnChainAttestationJournal} {age time : UInt64} :
    (∃ window, claimWindow G journal age = .ok window ∧ window.1 ≤ time ∧ time < window.2) ↔
      journal.issuedAtUnixMs.toNat + age.toNat + 1 ≤ u64Max ∧
        journal.issuedAtUnixMs.toNat ≤ time.toNat + 30000 ∧
        time.toNat ≤ journal.issuedAtUnixMs.toNat + age.toNat ∧
        isAfter time journal.expiresAtUnixMs = false := by
  have hskew : maxOnChainClockSkewMs.toNat = 30000 := rfl
  have hfrom := saturatingSub_toNat journal.issuedAtUnixMs maxOnChainClockSkewMs
  rw [hskew] at hfrom
  simp only [claimWindow, Outcome.bind_eq_ok, Outcome.okOr_eq_ok, Outcome.check_eq_ok,
    Outcome.exists_unit, freshnessEnd_eq_some, not_not]
  constructor
  · rintro ⟨window, ⟨stop, hstop, -, -, hpure⟩, hle, hlt⟩
    obtain rfl := Outcome.ok.inj hpure
    obtain ⟨hfresh, hexpiry⟩ := lt_validUntil_iff.mp hlt
    rw [UInt64.le_iff_toNat_le, hfrom] at hle
    rw [UInt64.lt_iff_toNat_lt] at hfresh
    have hmax : stop.toNat < 2 ^ 64 := stop.toNat_lt
    unfold u64Max
    exact ⟨by omega, by omega, by omega, hexpiry⟩
  · rintro ⟨hmax, hissued, hage, hexpiry⟩
    unfold u64Max at hmax
    have hstop : (UInt64.ofNat (journal.issuedAtUnixMs.toNat + age.toNat + 1)).toNat =
        journal.issuedAtUnixMs.toNat + age.toNat + 1 :=
      UInt64.toNat_ofNat_of_lt' (by
        show journal.issuedAtUnixMs.toNat + age.toNat + 1 < 2 ^ 64
        omega)
    have hle : saturatingSub journal.issuedAtUnixMs maxOnChainClockSkewMs ≤ time := by
      rw [UInt64.le_iff_toNat_le]
      omega
    have hlt : time < validUntil journal.expiresAtUnixMs
        (UInt64.ofNat (journal.issuedAtUnixMs.toNat + age.toNat + 1)) := by
      refine lt_validUntil_iff.mpr ⟨?_, hexpiry⟩
      rw [UInt64.lt_iff_toNat_lt, hstop]
      omega
    -- the time itself shows that the window is not empty
    have hwindow := UInt64.lt_of_le_of_lt hle hlt
    exact ⟨_, ⟨_, hstop, UInt64.not_le.mpr hwindow, hG _ _ hwindow, rfl⟩, hle, hlt⟩

end TokenStudio
