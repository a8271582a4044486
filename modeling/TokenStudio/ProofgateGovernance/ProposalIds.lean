import TokenStudio.GateIsolation

/-!
# Proposal ids

The service declares ids of 1 to 128 visible ASCII characters as valid.  The gate of a
proposal carries the id twice, behind `proposal:` and behind `proofgate-governance:`,
and the validator of the gate has limits of its own: 128 bytes for the gate id and 256
bytes for the verifier id.  The prefix of the gate id has nine bytes, so an id of more
than 119 characters has no valid gate.

`proposal_usable_iff` says that this is the only obstacle.
-/

namespace TokenStudio

/-- What the service declares as a valid proposal id. -/
structure DeclaredProposalId (proposalId : String) : Prop where
  nonempty : 1 ≤ (asBytes proposalId).length
  short : (asBytes proposalId).length ≤ 128
  visible : ∀ byte ∈ asBytes proposalId, isAsciiGraphic byte = true

/-- The context that the service wants for a proposal. -/
def governanceContext (token : TokenConfig) (proposalId : String) (threshold : U128)
    (expiresAtUnixMs : Option UInt64) : GateContext where
  applicationId := governanceApplicationId
  gateId := "proposal:" ++ proposalId
  tokenProgramOwner := token.tokenProgramOwner
  tokenDefinitionId := token.definitionAccountId
  threshold
  verifierId := "proofgate-governance:" ++ proposalId
  expiresAtUnixMs

/-- The context has a gate, and the gate has a service. -/
def ProposalUsable (P : Primitives) (token : TokenConfig) (proposalId : String)
    (threshold : U128) (expiresAtUnixMs : Option UInt64) : Prop :=
  ∃ gate, GateConfig.new token (governanceContext token proposalId threshold expiresAtUnixMs) =
      .ok gate ∧ (GovernanceState.new P gate proposalId).isOk = true

/-- A text behind a prefix is not blank. -/
theorem isBlank_append {front text : String} (h : isBlank front = false) :
    isBlank (front ++ text) = false := by
  rw [isBlank] at h ⊢
  rw [String.toList_append, List.all_append, h, Bool.false_and]

theorem GateConfig.new_eq_ok_iff {token : TokenConfig} {context : GateContext}
    {gate : GateConfig} :
    GateConfig.new token context = .ok gate ↔
      gate = ⟨gateConfigVersion, token, context⟩ ∧ gate.validate = .ok () := by
  simp only [GateConfig.new, Outcome.bind_eq_ok, Outcome.exists_unit, Outcome.pure_eq,
    Outcome.ok.injEq]
  constructor
  · rintro ⟨hvalid, rfl⟩
    exact ⟨rfl, hvalid⟩
  · rintro ⟨rfl, hvalid⟩
    exact ⟨hvalid, rfl⟩

section

variable {token : TokenConfig} {proposalId : String} {threshold : U128}
  {expiresAtUnixMs : Option UInt64}

/-- The labels of the context fit exactly when the gate id does. -/
theorem validate_governanceContext (htoken : token.validate = .ok ())
    (hshort : (asBytes proposalId).length ≤ 128) (hthreshold : threshold ≠ 0) :
    (GateConfig.mk gateConfigVersion token
        (governanceContext token proposalId threshold expiresAtUnixMs)).validate = .ok () ↔
      (asBytes proposalId).length ≤ 119 := by
  have happlication : isBlank governanceApplicationId = false ∧
      (asBytes governanceApplicationId).length ≤ 128 := by decide +kernel
  have hgate : (asBytes ("proposal:" ++ proposalId)).length = 9 + (asBytes proposalId).length := by
    rw [asBytes_append, List.length_append]
    rfl
  have hverifier : (asBytes ("proofgate-governance:" ++ proposalId)).length =
      21 + (asBytes proposalId).length := by
    rw [asBytes_append, List.length_append]
    rfl
  have hgateBlank : isBlank ("proposal:" ++ proposalId) = false :=
    isBlank_append (by decide +kernel)
  have hverifierBlank : isBlank ("proofgate-governance:" ++ proposalId) = false :=
    isBlank_append (by decide +kernel)
  simp only [GateConfig.validate, governanceContext, Outcome.bind_eq_ok, Outcome.check_eq_ok,
    Outcome.exists_unit, validateLabel_eq_ok, htoken, happlication, hgateBlank, hverifierBlank,
    hgate, hverifier, hthreshold, ne_eq, not_true_eq_false, not_false_eq_true, true_and, and_true]
  omega

/-- A declared id whose gate is valid has a service. -/
theorem validateBinding_governanceContext (hid : DeclaredProposalId proposalId)
    (hvalid : (GateConfig.mk gateConfigVersion token
      (governanceContext token proposalId threshold expiresAtUnixMs)).validate = .ok ()) :
    validateBinding ⟨gateConfigVersion, token,
      governanceContext token proposalId threshold expiresAtUnixMs⟩ proposalId = .ok () := by
  have hnonempty : asBytes proposalId ≠ [] := List.length_pos_iff.mp hid.nonempty
  have hform : ¬ (asBytes proposalId = [] ∨ (asBytes proposalId).length > 128 ∨
      ¬ (asBytes proposalId).all isAsciiGraphic = true) := by
    simp only [hnonempty, Nat.not_lt.mpr hid.short, false_or, not_not, List.all_eq_true]
    exact hid.visible
  rw [validateBinding, hvalid, Outcome.mapErr_ok, Outcome.ok_bind, Outcome.check_of_not hform,
    Outcome.ok_bind]
  apply Outcome.check_of_not
  rintro (h | h | h)
  · exact h rfl
  · exact h rfl
  · exact h rfl

/-- A declared id is usable exactly when its gate id fits. -/
theorem proposalUsable_iff {P : Primitives} (htoken : token.validate = .ok ())
    (hid : DeclaredProposalId proposalId) (hthreshold : threshold ≠ 0) :
    ProposalUsable P token proposalId threshold expiresAtUnixMs ↔
      (asBytes proposalId).length ≤ 119 := by
  rw [← validate_governanceContext htoken hid.short hthreshold]
  constructor
  · rintro ⟨gate, hgate, -⟩
    obtain ⟨rfl, hvalid⟩ := GateConfig.new_eq_ok_iff.mp hgate
    exact hvalid
  · intro hvalid
    obtain ⟨contextHash, hhash⟩ := GateConfig.exists_contextHash P.sha256 hvalid
    refine ⟨_, GateConfig.new_eq_ok_iff.mpr ⟨rfl, hvalid⟩, ?_⟩
    rw [Outcome.isOk_iff]
    exact ⟨_, GovernanceState.new_eq_ok_iff.mpr
      ⟨validateBinding_governanceContext hid hvalid, contextHash, hhash, rfl⟩⟩

end

/-- Of the ids that the service declares valid, those of at most 119 characters can be
used, with every valid token, threshold and expiry.  A gate is for one proposal. -/
theorem proposal_usable_iff (P : Primitives) :
    (∀ token proposalId threshold expiresAtUnixMs, token.validate = .ok () →
        DeclaredProposalId proposalId → threshold ≠ 0 →
        (ProposalUsable P token proposalId threshold expiresAtUnixMs ↔
          (asBytes proposalId).length ≤ 119)) ∧
      ∀ gate proposalId proposalId' start start',
        GovernanceState.new P gate proposalId = .ok start →
        GovernanceState.new P gate proposalId' = .ok start' → proposalId = proposalId' := by
  refine ⟨fun _ _ _ _ => proposalUsable_iff, ?_⟩
  intro gate proposalId proposalId' start start' h h'
  exact validateBinding_inj (GovernanceState.new_eq_ok_iff.mp h).1
    (GovernanceState.new_eq_ok_iff.mp h').1 rfl

/-- The id of the test proposal. -/
theorem proposal_usable_treasury :
    ProposalUsable treasuryPrimitives foundersToken "treasury-7" 100 (some 2000000) := by
  have hid : DeclaredProposalId "treasury-7" := ⟨by decide +kernel, by decide +kernel,
    by decide +kernel⟩
  exact ((proposal_usable_iff treasuryPrimitives).1 foundersToken "treasury-7" 100 (some 2000000)
    (by decide +kernel) hid (by decide)).mpr (by decide +kernel)

/-- An id of 120 letters. -/
def longProposalId : String := ofAscii (List.replicate 120 0x61)

/-- It is declared valid, and its gate is refused. -/
theorem long_proposal_refused :
    DeclaredProposalId longProposalId ∧ foundersToken.validate = .ok () ∧
      GateConfig.new foundersToken (governanceContext foundersToken longProposalId 100 none) =
        .err (.invalid "gate id cannot exceed 128 bytes") ∧
      ¬ ProposalUsable treasuryPrimitives foundersToken longProposalId 100 none := by
  have hrefused : GateConfig.new foundersToken
      (governanceContext foundersToken longProposalId 100 none) =
        .err (.invalid "gate id cannot exceed 128 bytes") := by
    decide +kernel
  refine ⟨⟨by decide +kernel, by decide +kernel, by decide +kernel⟩, by decide +kernel, hrefused,
    ?_⟩
  rintro ⟨gate, hgate, -⟩
  rw [hrefused] at hgate
  cases hgate

end TokenStudio
