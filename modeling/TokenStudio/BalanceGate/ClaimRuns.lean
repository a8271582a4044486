import TokenStudio.BalanceGate.Soundness

/-!
# Whole runs of a gate

A run here is any sequence of `evaluate_claim` attempts on one gate, each with its
own program, badge account and claim.  `ClaimLedger` relates the attempts of a
run to the state it reaches: the policy is the first one, the counter is the
number of badges, and the badges are numbered from one.

A gate could still lock itself out, by reaching a nonce that its own validation
refuses.  `final_validate` says that this takes a nonce preimage with the hash
zero.
-/

namespace TokenStudio

/-- One attempt to claim. -/
structure ClaimAttempt where
  programId : ProgramId
  claimAccountId : Digest32
  access : ClaimAccess
  deriving DecidableEq

/-- The attempt on a gate state.  A failed one leaves it unchanged. -/
def attemptClaim (P : Primitives) (attempt : ClaimAttempt) :
    Mutating GateState ClaimError ClaimResult :=
  stepClaim P attempt.programId ⟨attempt.claimAccountId, attempt.access⟩

/-- The attempts of a run. -/
abbrev ClaimAttempts := List (Call ClaimAttempt GateState ClaimError ClaimResult)

/-- The badges that a run issued, in the order of the attempts. -/
def issuedBadges (calls : ClaimAttempts) : List AccessBadge :=
  calls.filterMap fun c => c.result.toOption.map ClaimResult.badge

theorem issuedBadges_length (calls : ClaimAttempts) :
    (issuedBadges calls).length = calls.countP fun c => c.result.isOk := by
  unfold issuedBadges
  induction calls with
  | nil => rfl
  | cons c calls ih =>
    rw [List.countP_cons, List.filterMap_cons, ← ih]
    cases c.result <;> rfl

/-! ## One attempt -/

/-- What one attempt can do. -/
theorem attemptClaim_cases (P : Primitives) (attempt : ClaimAttempt) (state : GateState) :
    (∃ claimNumber : UInt64, claimNumber.toNat = state.claimCounter.toNat + 1 ∧
        ClaimValid P state attempt.programId attempt.claimAccountId attempt.access ∧
        attemptClaim P attempt state =
          (.ok (claimResult P state attempt.programId attempt.claimAccountId attempt.access
              claimNumber),
            (claimResult P state attempt.programId attempt.claimAccountId attempt.access
              claimNumber).nextGateState)) ∨
      ((attemptClaim P attempt state).1.isOk = false ∧ (attemptClaim P attempt state).2 = state) :=
  stepClaim_cases P attempt.programId ⟨attempt.claimAccountId, attempt.access⟩ state

/-- An attempt succeeds exactly when `evaluate_claim` does. -/
theorem attemptClaim_isOk (P : Primitives) (attempt : ClaimAttempt) (state : GateState) :
    (attemptClaim P attempt state).1.isOk =
      (evaluateClaim P state attempt.programId attempt.claimAccountId attempt.access).isOk := by
  unfold attemptClaim stepClaim Mutating.commit
  cases heval : evaluateClaim P state attempt.programId attempt.claimAccountId attempt.access <;>
    simp [heval, Outcome.isOk]

/-- A gate at the last counter value accepts nothing. -/
theorem evaluateClaim_at_max {P : Primitives} {state : GateState}
    (h : state.claimCounter.toNat = u64Max) (programId : ProgramId) (claimAccountId : Digest32)
    (access : ClaimAccess) :
    (evaluateClaim P state programId claimAccountId access).isOk = false := by
  by_contra hok
  rw [Bool.not_eq_false] at hok
  obtain ⟨result, hresult⟩ := Outcome.isOk_iff.mp hok
  obtain ⟨-, claimNumber, hnumber, -⟩ := evaluateClaim_eq_ok_iff.mp hresult
  have hlt : claimNumber.toNat < 2 ^ 64 := claimNumber.toNat_lt
  unfold u64Max at h
  omega

/-- The next state passes validation unless its nonce is zero. -/
theorem claimResult_validate {P : Primitives} {state : GateState}
    (h : state.validate = .ok ()) (programId : ProgramId) (claimAccountId : Digest32)
    {access : ClaimAccess} (hnonce : P.sha256 (nonceInput state access) ≠ zeroDigest)
    (claimNumber : UInt64) :
    (claimResult P state programId claimAccountId access
      claimNumber).nextGateState.validate = .ok () := by
  obtain ⟨hversion, hthreshold, hroot, -, hage⟩ := GateState.validate_eq_ok.mp h
  exact GateState.validate_eq_ok.mpr ⟨hversion, hthreshold, hroot, hnonce, hage⟩

/-! ## The ledger of a run -/

/-- The state of a gate and the attempts that led to it. -/
structure ClaimLedger (start : GateState) (calls : ClaimAttempts) (s : GateState) : Prop where
  /-- The policy never changes. -/
  policy : s.policy = start.policy
  /-- The counter counts the badges. -/
  counter : s.claimCounter.toNat = (issuedBadges calls).length
  /-- The badges are numbered one after the other. -/
  numbers : (issuedBadges calls).map (fun badge => badge.claimNumber.toNat) =
    List.range' 1 (issuedBadges calls).length

/-- One attempt keeps the ledger. -/
theorem ClaimLedger.append {P : Primitives} {start s : GateState} {calls : ClaimAttempts}
    (h : ClaimLedger start calls s) (attempt : ClaimAttempt) :
    ClaimLedger start (calls ++ [Mutating.call (attemptClaim P) attempt s])
      (attemptClaim P attempt s).2 := by
  rcases attemptClaim_cases P attempt s with ⟨claimNumber, hnumber, -, hcall⟩ | ⟨hfail, hsame⟩
  · have hbadges : issuedBadges (calls ++ [Mutating.call (attemptClaim P) attempt s]) =
        issuedBadges calls ++ [(claimResult P s attempt.programId attempt.claimAccountId
          attempt.access claimNumber).badge] := by
      simp [issuedBadges, Mutating.call, hcall, Outcome.toOption]
    have hlength : claimNumber.toNat = (issuedBadges calls).length + 1 := by
      rw [hnumber, h.counter]
    rw [hcall]
    refine ⟨h.policy, ?_, ?_⟩
    · rw [hbadges, List.length_append, List.length_singleton]
      exact hlength
    · rw [hbadges, List.map_append, h.numbers, List.length_append, List.length_singleton,
        List.range'_concat]
      show _ ++ [claimNumber.toNat] = _
      rw [hlength, Nat.one_mul, Nat.add_comm]
  · have hbadges : issuedBadges (calls ++ [Mutating.call (attemptClaim P) attempt s]) =
        issuedBadges calls := by
      unfold issuedBadges
      rw [List.filterMap_append]
      cases hresult : (attemptClaim P attempt s).1 with
      | ok result => simp [hresult, Outcome.isOk] at hfail
      | err e => simp [Mutating.call, hresult, Outcome.toOption]
      | panic => simp [Mutating.call, hresult, Outcome.toOption]
    rw [hsame]
    exact ⟨h.policy, by rw [hbadges]; exact h.counter, by rw [hbadges]; exact h.numbers⟩

/-- Every run of a gate that has issued no badge keeps the ledger. -/
theorem claimLedger_run (P : Primitives) {start : GateState} (hzero : start.claimCounter = 0)
    (attempts : List ClaimAttempt) :
    ClaimLedger start (Mutating.run (attemptClaim P) attempts start)
      (Mutating.final (attemptClaim P) attempts start) := by
  refine Mutating.run_induction (attemptClaim P)
    (motive := fun calls s => ClaimLedger start calls s) ?_
    (fun _ _ attempt h => h.append attempt) attempts
  exact ⟨rfl, by rw [hzero]; rfl, rfl⟩

/-- No accepted attempt of a run had a nonce preimage with the hash zero. -/
def NoncesNonzero (P : Primitives) (calls : ClaimAttempts) : Prop :=
  ∀ c ∈ calls, c.result.isOk → P.sha256 (nonceInput c.before c.input.access) ≠ zeroDigest

/-- Every state of a run passes validation. -/
theorem final_validate {P : Primitives} {start : GateState} (hstart : start.validate = .ok ())
    (attempts : List ClaimAttempt)
    (hnonce : NoncesNonzero P (Mutating.run (attemptClaim P) attempts start)) :
    (Mutating.final (attemptClaim P) attempts start).validate = .ok () := by
  refine Mutating.run_induction (attemptClaim P)
    (motive := fun calls s => NoncesNonzero P calls → s.validate = .ok ())
    (fun _ => hstart) ?_ attempts hnonce
  intro calls s attempt ih hnonce
  have hs := ih fun c hc => hnonce c (List.mem_append_left _ hc)
  rcases attemptClaim_cases P attempt s with ⟨claimNumber, -, -, hcall⟩ | ⟨-, hsame⟩
  · have hlast := hnonce (Mutating.call (attemptClaim P) attempt s) (by simp)
      (by simp [Mutating.call, hcall, Outcome.isOk])
    rw [hcall]
    exact claimResult_validate hs attempt.programId attempt.claimAccountId hlast claimNumber
  · rw [hsame]
    exact hs

/-! ## The invariants of a gate -/

/-- What holds after any run of a gate that was valid and had issued no badge.
The policy is unchanged.  The counter is the number of accepted claims, and at its
last value nothing is accepted.  The badges carry the numbers from one on.  The
state passes validation.  A rejected claim can be taken out of the run: all other
attempts keep their results, and the run reaches the same state. -/
theorem claim_run_invariants {P : Primitives} {start : GateState}
    (hstart : start.validate = .ok ()) (hzero : start.claimCounter = 0)
    (attempts : List ClaimAttempt) :
    let calls := Mutating.run (attemptClaim P) attempts start
    let reached := Mutating.final (attemptClaim P) attempts start
    reached.policy = start.policy ∧
      reached.claimCounter.toNat = (calls.countP fun c => c.result.isOk) ∧
      (reached.claimCounter.toNat = u64Max → ∀ programId claimAccountId access,
        (evaluateClaim P reached programId claimAccountId access).isOk = false) ∧
      (issuedBadges calls).map (fun badge => badge.claimNumber.toNat) =
        List.range' 1 (calls.countP fun c => c.result.isOk) ∧
      (NoncesNonzero P calls → reached.validate = .ok ()) ∧
      ∀ pre attempt post, attempts = pre ++ attempt :: post →
        (evaluateClaim P (Mutating.final (attemptClaim P) pre start) attempt.programId
          attempt.claimAccountId attempt.access).isOk = false →
        Mutating.run (attemptClaim P) (pre ++ post) start = calls.eraseIdx pre.length ∧
          Mutating.final (attemptClaim P) (pre ++ post) start = reached := by
  intro calls reached
  have hledger := claimLedger_run P hzero attempts
  have hcount := issuedBadges_length calls
  refine ⟨hledger.policy, ?_, ?_, ?_, final_validate hstart attempts, ?_⟩
  · rw [← hcount]
    exact hledger.counter
  · intro hmax programId claimAccountId access
    exact evaluateClaim_at_max hmax programId claimAccountId access
  · rw [← hcount]
    exact hledger.numbers
  · intro pre attempt post hattempts hrejected
    have hidle : (attemptClaim P attempt (Mutating.final (attemptClaim P) pre start)).2 =
        Mutating.final (attemptClaim P) pre start := by
      rw [← attemptClaim_isOk] at hrejected
      rcases attemptClaim_cases P attempt (Mutating.final (attemptClaim P) pre start) with
        ⟨claimNumber, -, -, hcall⟩ | ⟨-, hsame⟩
      · rw [hcall] at hrejected
        cases hrejected
      · exact hsame
    have herase := Mutating.run_eraseIdx (attemptClaim P) hidle post
    rw [← hattempts] at herase
    exact herase

/-- The claim of the first account, presented for two badge accounts. -/
def foundersAttempts : List ClaimAttempt :=
  [⟨foundersProgramId, List.Vector.replicate 32 6, foundersAccess⟩,
    ⟨foundersProgramId, List.Vector.replicate 32 8, foundersAccess⟩]

theorem claim_run_invariants_founders :
    foundersInputs.state.validate = .ok () ∧ foundersInputs.state.claimCounter = 0 ∧
      (Mutating.final (attemptClaim foundersPrimitives) foundersAttempts
        foundersInputs.state).policy = foundersInputs.state.policy ∧
      (Mutating.final (attemptClaim foundersPrimitives) foundersAttempts
        foundersInputs.state).claimCounter.toNat =
          (Mutating.run (attemptClaim foundersPrimitives) foundersAttempts
            foundersInputs.state).countP fun c => c.result.isOk := by
  have hvalid := (initializeGate_eq_ok initializeGate_founders).1
  have hinvariants := claim_run_invariants (P := foundersPrimitives) hvalid rfl foundersAttempts
  exact ⟨hvalid, rfl, hinvariants.1, hinvariants.2.1⟩

end TokenStudio
