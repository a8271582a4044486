import TokenStudio.ProofgateMessaging.Assembly

/-!
# Unpacking without a transfer id

Without a requested id, `unpack_envelope` looks at the messages of all transfers and puts
the one together whose first manifest came last.  `LatestTransfer` says which one that is
by the places of the contents, and `OthersInOrder` that no message of another transfer
stops the loop.

`implicit_selection_iff` says that the two modes agree.  The deliveries for one id
are those of the whole list that belong to it, so the two loops differ in the
deliveries of other transfers only.
-/

namespace TokenStudio

/-- The transfer whose manifest a content is. -/
def manifestId? (F : Formats) (content : String) : Option String :=
  (wantedMessage? F none content).bind fun message =>
    match message.body with
    | .manifest _ => some message.transferId
    | .chunk _ _ => none

/-- Among all transfers with a manifest it is the one whose first manifest comes
last. -/
def LatestTransfer (F : Formats) (contents : List String) (id : String) : Prop :=
  ∃ k, FirstAt (manifestId? F) contents id k ∧
    ∀ id' j, FirstAt (manifestId? F) contents id' j → j ≤ k

/-- No message of another transfer is out of bounds or in conflict with one of the
same transfer. -/
structure OthersInOrder (F : Formats) (contents : List String) (id : String) : Prop where
  valid : ∀ d ∈ deliveries F none contents, d.1 ≠ id → validateWireBody d.2 = .ok ()
  agrees : ∀ d ∈ deliveries F none contents, d.1 ≠ id →
    ∀ d' ∈ deliveries F none contents, Agrees d d'

section

variable {F : Formats} {contents : List String} {id : String}

/-- The transfers with a manifest, content by content. -/
theorem manifestIds_deliveries :
    manifestIds (deliveries F none contents) = contents.filterMap (manifestId? F) := by
  rw [manifestIds, deliveries, List.filterMap_filterMap]
  refine List.filterMap_congr fun content _ => ?_
  unfold manifestId?
  cases wantedMessage? F none content with
  | none => rfl
  | some message =>
    rcases message with ⟨protocol, version, id, body⟩
    cases body <;> rfl

/-- Without a requested id the latest transfer is selected. -/
theorem selectedTransfer_none_iff :
    selectedTransfer F contents none = some id ↔ LatestTransfer F contents id := by
  rw [selectedTransfer, Option.none_or, manifestIds_deliveries]
  exact getLast?_eraseDups_filterMap

/-- The deliveries for one id are those of the whole list that belong to it. -/
theorem mem_deliveries_some_iff {d : Delivery} :
    d ∈ deliveries F (some id) contents ↔ d ∈ deliveries F none contents ∧ d.1 = id := by
  rcases d with ⟨id', body⟩
  rw [mem_deliveries, mem_deliveries]
  simp only [Option.some.injEq, reduceCtorEq, false_implies, implies_true, and_true,
    forall_eq', and_assoc, eq_comm]

/-- All deliveries are clean when those of the transfer are and the others are in
order. -/
theorem clean_none_iff (F : Formats) (contents : List String) (id : String) :
    Clean (deliveries F none contents) ↔
      Clean (deliveries F (some id) contents) ∧ OthersInOrder F contents id := by
  constructor
  · intro h
    refine ⟨h.mono fun d hd => (mem_deliveries_some_iff.mp hd).1, ?_, ?_⟩
    · exact fun d hd _ => h.valid d hd
    · exact fun d hd _ => h.agrees d hd
  · rintro ⟨h, hothers⟩
    constructor
    · intro d hd
      by_cases hid : d.1 = id
      · exact h.valid d (mem_deliveries_some_iff.mpr ⟨hd, hid⟩)
      · exact hothers.valid d hd hid
    · intro d hd d' hd'
      by_cases hid : d.1 = id
      · by_cases hid' : d'.1 = id
        · exact h.agrees d (mem_deliveries_some_iff.mpr ⟨hd, hid⟩) d'
            (mem_deliveries_some_iff.mpr ⟨hd', hid'⟩)
        · exact (hothers.agrees d' hd' hid' d hd).symm
      · exact hothers.agrees d hd hid d' hd'

end

/-- Unpacking without a transfer id returns an envelope exactly when unpacking with the
id of the latest transfer does and the messages of the other transfers are in
order. -/
theorem implicit_selection_iff (F : Formats) (sha256 : Bytes → Digest32)
    (contents : List String) (id : String) (envelope : AttestationEnvelope) :
    unpackEnvelope F sha256 contents none = .ok (id, envelope) ↔
      unpackEnvelope F sha256 contents (some id) = .ok (id, envelope) ∧
        LatestTransfer F contents id ∧ OthersInOrder F contents id := by
  have hsame : ∀ body, (id, body) ∈ deliveries F (some id) contents ↔
      (id, body) ∈ deliveries F none contents := by
    intro body
    rw [mem_deliveries_some_iff]
    exact and_iff_left rfl
  rw [unpackEnvelope_eq_ok_iff, unpackEnvelope_eq_ok_iff, selectedTransfer_none_iff,
    clean_none_iff F contents id]
  simp only [hsame]
  constructor
  · rintro ⟨-, ⟨hclean, hothers⟩, hlatest, m, bytes, hspells, hopens⟩
    -- the manifest has passed the filter, so the id is one
    have hvalid : validateTransferId id = .ok () :=
      (mem_deliveries.mp ((hspells.manifest m).mpr rfl)).2.1
    have hrequested : (some id).forM validateTransferId = .ok () :=
      forM_validateTransferId.1.mpr fun r hr => by rw [← Option.some.inj hr, hvalid]
    exact ⟨⟨hrequested, hclean, rfl, m, bytes, hspells, hopens⟩, hlatest, hothers⟩
  · rintro ⟨⟨-, hclean, -, m, bytes, hspells, hopens⟩, hlatest, hothers⟩
    exact ⟨rfl, ⟨hclean, hothers⟩, hlatest, m, bytes, hspells, hopens⟩

end TokenStudio
