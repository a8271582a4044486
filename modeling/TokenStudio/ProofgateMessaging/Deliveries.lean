import TokenStudio.CodeLib.FirstSeen
import TokenStudio.ProofgateMessaging.Basic

/-!
# What the receiving loop collects

A *delivery* is a transfer id with a message body, and `deliveries` lists those
that a list of contents holds for a receiver.  The loop of `unpack_envelope`
builds a map from transfers to manifests and chunks out of them.

The two results are about whole runs of the loop.

* The loop comes to its end exactly on deliveries that are `Clean`: every body
  is within the bounds of the protocol, and no two of them disagree about a
  manifest or about a chunk.  Then the map holds what was delivered and nothing
  else (`collect_cases`).
* Otherwise it returns an error, or it panics on a body that makes
  `validate_wire_body` panic (`collect_eq_panic_iff`).

What the map holds depends on the deliveries as a set only, except for the order
of the manifests.
-/

namespace TokenStudio

/-- A transfer id and a message body. -/
abbrev Delivery := String × WireBody

/-- The delivery in a message. -/
def WireMessage.delivery (message : WireMessage) : Delivery := (message.transferId, message.body)

/-- What a list of contents delivers to a receiver. -/
def deliveries (F : Formats) (requested : Option String) (contents : List String) :
    List Delivery :=
  contents.filterMap fun content => (wantedMessage? F requested content).map WireMessage.delivery

/-! ## Clean deliveries -/

/-- Two deliveries are not two manifests of one transfer that differ, nor two
chunks of one transfer with one index that differ. -/
def Agrees (d d' : Delivery) : Prop :=
  d.1 = d'.1 →
    match d.2, d'.2 with
    | .manifest m, .manifest m' => m = m'
    | .chunk i c, .chunk i' c' => i = i' → c = c'
    | _, _ => True

theorem Agrees.refl (d : Delivery) : Agrees d d := by
  intro _
  cases d.2 <;> simp

theorem Agrees.symm {d d' : Delivery} (h : Agrees d d') : Agrees d' d := by
  intro hid
  have h := h hid.symm
  rcases d with ⟨id, body⟩
  rcases d' with ⟨id', body'⟩
  cases body <;> cases body' <;> simp_all

/-- Bodies within bounds, and no disagreement. -/
structure Clean (ds : List Delivery) : Prop where
  valid : ∀ d ∈ ds, validateWireBody d.2 = .ok ()
  agrees : ∀ d ∈ ds, ∀ d' ∈ ds, Agrees d d'

theorem Clean.nil : Clean [] := ⟨by simp, by simp⟩

theorem Clean.mono {ds ds' : List Delivery} (h : Clean ds) (hsub : ds' ⊆ ds) : Clean ds' :=
  ⟨fun d hd => h.valid d (hsub hd), fun d hd d' hd' => h.agrees d (hsub hd) d' (hsub hd')⟩

/-- One more delivery keeps the list clean when it is valid and agrees with the
others. -/
theorem Clean.snoc_iff {ds : List Delivery} (h : Clean ds) (d : Delivery) :
    Clean (ds ++ [d]) ↔ validateWireBody d.2 = .ok () ∧ ∀ d' ∈ ds, Agrees d' d := by
  constructor
  · intro hall
    exact ⟨hall.valid d (by simp), fun d' hd' => hall.agrees d' (by simp [hd']) d (by simp)⟩
  · rintro ⟨hvalid, hagrees⟩
    refine ⟨?_, ?_⟩
    · intro x hx
      rcases List.mem_append.mp hx with hx | hx
      · exact h.valid x hx
      · rw [List.mem_singleton.mp hx]
        exact hvalid
    · intro x hx y hy
      rcases List.mem_append.mp hx with hx | hx <;> rcases List.mem_append.mp hy with hy | hy
      · exact h.agrees x hx y hy
      · rw [List.mem_singleton.mp hy]
        exact hagrees x hx
      · rw [List.mem_singleton.mp hx]
        exact (hagrees y hy).symm
      · rw [List.mem_singleton.mp hx, List.mem_singleton.mp hy]
        exact Agrees.refl d

/-- A transfer has one manifest. -/
theorem Clean.manifest_unique {ds : List Delivery} (h : Clean ds) {id : String} {m m' : Manifest}
    (hm : (id, .manifest m) ∈ ds) (hm' : (id, .manifest m') ∈ ds) : m = m' :=
  h.agrees _ hm _ hm' rfl

/-- The transfers with a manifest, in the order of the messages. -/
def manifestIds (ds : List Delivery) : List String :=
  ds.filterMap fun d =>
    match d.2 with
    | .manifest _ => some d.1
    | .chunk _ _ => none

theorem mem_manifestIds {ds : List Delivery} {id : String} :
    id ∈ manifestIds ds ↔ ∃ m, (id, .manifest m) ∈ ds := by
  simp only [manifestIds, List.mem_filterMap]
  constructor
  · rintro ⟨⟨id', body⟩, hd, hid⟩
    cases body with
    | manifest m =>
      obtain rfl : id' = id := Option.some.inj hid
      exact ⟨m, hd⟩
    | chunk i c => simp at hid
  · rintro ⟨m, hm⟩
    exact ⟨_, hm, rfl⟩

/-! ## The map of the loop -/

namespace Transfers

/-- The map holds the deliveries and nothing else. -/
structure Holds (table : Transfers) (ds : List Delivery) : Prop where
  manifest : ∀ id m, (table.entry id).manifest = some m ↔ (id, .manifest m) ∈ ds
  chunk : ∀ id i c, (table.entry id).chunks[i]? = some c ↔ (id, .chunk i c) ∈ ds
  present : ∀ id, id ∈ table.transfers ↔ ∃ body, (id, body) ∈ ds
  order : table.manifestOrder = (manifestIds ds).eraseDups

theorem entry_empty (id : String) : empty.entry id = .empty := by
  simp [entry, empty]

theorem Holds.empty : Transfers.empty.Holds [] where
  manifest := by simp [entry_empty, PartialTransfer.empty]
  chunk := by simp [entry_empty, PartialTransfer.empty]
  present := by simp [Transfers.empty]
  order := rfl

section

variable (self : Transfers) (id id' : String)

@[simp] theorem entry_withManifest (m : Manifest) :
    (self.withManifest id m).entry id' =
      if id = id' then { self.entry id with manifest := some m } else self.entry id' := by
  simp only [entry, withManifest, Std.ExtTreeMap.getElem?_insert,
    Std.LawfulEqCmp.compare_eq_iff_eq]
  split <;> simp

@[simp] theorem entry_withChunk (i : UInt32) (c : EncodedChunk) :
    (self.withChunk id i c).entry id' =
      if id = id' then { self.entry id with chunks := (self.entry id).chunks.insert i c }
      else self.entry id' := by
  simp only [entry, withChunk, Std.ExtTreeMap.getElem?_insert,
    Std.LawfulEqCmp.compare_eq_iff_eq]
  split <;> simp

end

/-- An entry that is written for a delivery. -/
theorem Holds.mem_insert {self : Transfers} {ds : List Delivery} (h : self.Holds ds)
    (id : String) (entry : PartialTransfer) (body : WireBody) (id' : String) :
    id' ∈ self.transfers.insert id entry ↔ ∃ body', (id', body') ∈ ds ++ [(id, body)] := by
  rw [Std.ExtTreeMap.mem_insert, Std.LawfulEqCmp.compare_eq_iff_eq, h.present id']
  simp only [List.mem_append, List.mem_singleton, Prod.mk.injEq]
  constructor
  · rintro (rfl | ⟨body', hbody⟩)
    · exact ⟨body, Or.inr ⟨rfl, rfl⟩⟩
    · exact ⟨body', Or.inl hbody⟩
  · rintro ⟨body', hbody | ⟨rfl, -⟩⟩
    · exact Or.inr ⟨body', hbody⟩
    · exact Or.inl rfl

/-- A manifest of a transfer without one. -/
theorem Holds.withManifest {self : Transfers} {ds : List Delivery} (h : self.Holds ds)
    {id : String} (m : Manifest) (hnone : (self.entry id).manifest = none) :
    (self.withManifest id m).Holds (ds ++ [(id, .manifest m)]) where
  manifest := by
    intro id' m'
    have hold := h.manifest id' m'
    simp only [entry_withManifest, List.mem_append, List.mem_singleton, Prod.mk.injEq,
      WireBody.manifest.injEq]
    by_cases hid : id = id'
    · subst hid
      have hnot : (id, WireBody.manifest m') ∉ ds := by
        rw [← hold, hnone]
        simp
      rw [if_pos rfl, Option.some.injEq]
      simp [hnot, eq_comm]
    · rw [if_neg hid, hold]
      simp [Ne.symm hid]
  chunk := by
    intro id' i c
    have hold := h.chunk id' i c
    simp only [entry_withManifest, List.mem_append, List.mem_singleton, Prod.mk.injEq,
      reduceCtorEq, and_false, or_false]
    by_cases hid : id = id'
    · subst hid
      rw [if_pos rfl, ← hold]
    · rw [if_neg hid, hold]
  present := h.mem_insert id _ _
  order := by
    have hnew : id ∉ manifestIds ds := by
      rw [mem_manifestIds]
      rintro ⟨m', hm'⟩
      rw [← h.manifest, hnone] at hm'
      simp at hm'
    have hids : manifestIds (ds ++ [(id, .manifest m)]) = manifestIds ds ++ [id] := by
      simp [manifestIds]
    show self.manifestOrder ++ [id] = _
    rw [h.order, hids, eraseDups_concat, if_neg hnew]

/-- A delivery that the map has already. -/
theorem Holds.again {self : Transfers} {ds : List Delivery} (h : self.Holds ds) {d : Delivery}
    (hd : d ∈ ds) : self.Holds (ds ++ [d]) := by
  have hmem : ∀ x, x ∈ ds ++ [d] ↔ x ∈ ds := by
    intro x
    simp only [List.mem_append, List.mem_singleton, or_iff_left_iff_imp]
    rintro rfl
    exact hd
  refine ⟨?_, ?_, ?_, ?_⟩
  · intro id m
    rw [h.manifest, hmem]
  · intro id i c
    rw [h.chunk, hmem]
  · intro id
    simp only [h.present, hmem]
  · rw [h.order]
    rcases d with ⟨id, body⟩
    cases body with
    | manifest m =>
      have hold : id ∈ manifestIds ds := mem_manifestIds.mpr ⟨m, hd⟩
      have hids : manifestIds (ds ++ [(id, .manifest m)]) = manifestIds ds ++ [id] := by
        simp [manifestIds]
      rw [hids, eraseDups_concat, if_pos hold]
    | chunk i c =>
      have hids : manifestIds (ds ++ [(id, .chunk i c)]) = manifestIds ds := by
        simp [manifestIds]
      rw [hids]

/-- A chunk that agrees with the map. -/
theorem Holds.withChunk {self : Transfers} {ds : List Delivery} (h : self.Holds ds)
    {id : String} (i : UInt32) (c : EncodedChunk)
    (hsame : ∀ c', (self.entry id).chunks[i]? = some c' → c' = c) :
    (self.withChunk id i c).Holds (ds ++ [(id, .chunk i c)]) where
  manifest := by
    intro id' m
    have hold := h.manifest id' m
    simp only [entry_withChunk, List.mem_append, List.mem_singleton, Prod.mk.injEq,
      reduceCtorEq, and_false, or_false]
    by_cases hid : id = id'
    · subst hid
      rw [if_pos rfl, ← hold]
    · rw [if_neg hid, hold]
  chunk := by
    intro id' i' c'
    have hold := h.chunk id' i' c'
    simp only [entry_withChunk, List.mem_append, List.mem_singleton, Prod.mk.injEq,
      WireBody.chunk.injEq]
    by_cases hid : id = id'
    · subst hid
      rw [if_pos rfl, ← hold]
      simp only [Std.ExtTreeMap.getElem?_insert, Std.LawfulEqCmp.compare_eq_iff_eq, true_and]
      by_cases hi : i = i'
      · subst hi
        rw [if_pos rfl, Option.some.injEq]
        constructor
        · rintro rfl
          exact Or.inr ⟨rfl, rfl⟩
        · rintro (hc | ⟨-, rfl⟩)
          · exact (hsame c' hc).symm
          · rfl
      · rw [if_neg hi]
        simp [Ne.symm hi]
    · rw [if_neg hid, hold]
      simp [Ne.symm hid]
  present := h.mem_insert id _ _
  order := by
    have hids : manifestIds (ds ++ [(id, .chunk i c)]) = manifestIds ds := by
      simp [manifestIds]
    rw [hids]
    exact h.order

/-- The manifest that the map has does not stop another one of the transfer
exactly when it is the same. -/
theorem Holds.manifest_any {self : Transfers} {ds : List Delivery} (h : self.Holds ds)
    (id : String) (m : Manifest) :
    (self.entry id).manifest.any (· ≠ m) = false ↔ ∀ d ∈ ds, Agrees d (id, .manifest m) := by
  have hold := h.manifest id
  cases hentry : (self.entry id).manifest with
  | none =>
    rw [hentry] at hold
    simp only [Option.any_none, true_iff]
    rintro ⟨id', body⟩ hd (rfl : id' = id)
    cases body with
    | manifest m' => exact absurd ((hold m').mpr hd) (by simp)
    | chunk i c => exact True.intro
  | some m' =>
    rw [hentry] at hold
    have hm' : (id, WireBody.manifest m') ∈ ds := (hold m').mp rfl
    simp only [Option.any_some, decide_eq_false_iff_not, not_not]
    constructor
    · rintro rfl ⟨id', body⟩ hd (rfl : id' = id)
      cases body with
      | manifest m'' => exact (Option.some.inj ((hold m'').mpr hd)).symm
      | chunk i c => exact True.intro
    · intro hagrees
      exact hagrees _ hm' rfl

/-- The chunk that the map has does not stop another one with its index exactly
when it is the same. -/
theorem Holds.chunk_any {self : Transfers} {ds : List Delivery} (h : self.Holds ds)
    (id : String) (i : UInt32) (c : EncodedChunk) :
    (self.entry id).chunks[i]?.any (· ≠ c) = false ↔ ∀ d ∈ ds, Agrees d (id, .chunk i c) := by
  have hold := h.chunk id i
  cases hentry : (self.entry id).chunks[i]? with
  | none =>
    rw [hentry] at hold
    simp only [Option.any_none, true_iff]
    rintro ⟨id', body⟩ hd (rfl : id' = id)
    cases body with
    | manifest m => exact True.intro
    | chunk i' c' =>
      rintro rfl
      exact absurd ((hold c').mpr hd) (by simp)
  | some c' =>
    rw [hentry] at hold
    have hc' : (id, WireBody.chunk i c') ∈ ds := (hold c').mp rfl
    simp only [Option.any_some, decide_eq_false_iff_not, not_not]
    constructor
    · rintro rfl ⟨id', body⟩ hd (rfl : id' = id)
      cases body with
      | manifest m => exact True.intro
      | chunk i' c'' =>
        rintro rfl
        exact (Option.some.inj ((hold c'').mpr hd)).symm
    · intro hagrees
      exact hagrees _ hc' rfl rfl

/-- One round of the loop on a message that passed the filter. -/
theorem absorb_cases {self : Transfers} {ds : List Delivery} (hclean : Clean ds)
    (h : self.Holds ds) (message : WireMessage) :
    (Clean (ds ++ [message.delivery]) ∧
        ∃ self', self.absorb message = .ok self' ∧ self'.Holds (ds ++ [message.delivery])) ∨
      (¬ Clean (ds ++ [message.delivery]) ∧ ∀ self', self.absorb message ≠ .ok self') := by
  rw [hclean.snoc_iff]
  rcases message with ⟨protocol, version, id, body⟩
  simp only [WireMessage.delivery, absorb]
  cases hvalid : validateWireBody body with
  | panic => exact Or.inr ⟨by simp, by simp⟩
  | err e => exact Or.inr ⟨by simp, by simp⟩
  | ok u =>
    simp only [Outcome.ok_bind, true_and]
    cases body with
    | manifest m =>
      have hany := h.manifest_any id m
      by_cases hagrees : ∀ d ∈ ds, Agrees d (id, .manifest m)
      · refine Or.inl ⟨hagrees, ?_⟩
        have hcheck := hany.mpr hagrees
        simp only [hcheck, Bool.false_eq_true, not_false_eq_true, Outcome.check_of_not,
          Outcome.ok_bind]
        cases hentry : (self.entry id).manifest with
        | none => exact ⟨_, rfl, h.withManifest m hentry⟩
        | some m' =>
          have hm' := (h.manifest id m').mp hentry
          have heq : m' = m := hagrees _ hm' rfl
          subst heq
          exact ⟨self, rfl, h.again hm'⟩
      · refine Or.inr ⟨hagrees, ?_⟩
        have hcheck : (self.entry id).manifest.any (· ≠ m) = true := by
          rw [← Bool.not_eq_false, hany]
          exact hagrees
        simp only [hcheck, Outcome.check_of, Outcome.err_bind]
        simp
    | chunk i c =>
      have hany := h.chunk_any id i c
      by_cases hagrees : ∀ d ∈ ds, Agrees d (id, .chunk i c)
      · refine Or.inl ⟨hagrees, _, ?_, h.withChunk i c ?_⟩
        · have hcheck := hany.mpr hagrees
          simp only [hcheck, Bool.false_eq_true, not_false_eq_true, Outcome.check_of_not,
            Outcome.ok_bind, Outcome.pure_eq]
        · intro c' hc'
          exact hagrees _ ((h.chunk id i c').mp hc') rfl rfl
      · refine Or.inr ⟨hagrees, ?_⟩
        have hcheck : (self.entry id).chunks[i]?.any (· ≠ c) = true := by
          rw [← Bool.not_eq_false, hany]
          exact hagrees
        simp only [hcheck, Outcome.check_of, Outcome.err_bind]
        simp

/-- One round panics exactly when the check of the body does. -/
theorem absorb_eq_panic_iff (self : Transfers) (message : WireMessage) :
    self.absorb message = .panic ↔ validateWireBody message.body = .panic := by
  rw [absorb, Outcome.bind_eq_panic]
  refine or_iff_left ?_
  rintro ⟨-, -, hrest⟩
  cases hbody : message.body with
  | manifest m =>
    simp only [hbody, Outcome.bind_eq_panic, Outcome.check_ne_panic, false_or] at hrest
    obtain ⟨-, -, hrest⟩ := hrest
    split at hrest <;> simp at hrest
  | chunk i c =>
    simp [hbody, Outcome.bind_eq_panic] at hrest

end Transfers

/-! ## Runs of the loop -/

/-- A run of the loop over further contents, after the deliveries `ds`. -/
theorem foldlM_collectOne_cases (F : Formats) (requested : Option String) (contents : List String)
    {self : Transfers} {ds : List Delivery} (hclean : Clean ds) (h : self.Holds ds) :
    (Clean (ds ++ deliveries F requested contents) ∧
        ∃ self', contents.foldlM (collectOne F requested) self = .ok self' ∧
          self'.Holds (ds ++ deliveries F requested contents)) ∨
      (¬ Clean (ds ++ deliveries F requested contents) ∧
        ∀ self', contents.foldlM (collectOne F requested) self ≠ .ok self') := by
  induction contents generalizing self ds with
  | nil => exact Or.inl ⟨by simpa [deliveries] using hclean, self, rfl, by simpa [deliveries]⟩
  | cons content rest ih =>
    rw [List.foldlM_cons]
    cases hwanted : wantedMessage? F requested content with
    | none =>
      have hsame : deliveries F requested (content :: rest) = deliveries F requested rest := by
        simp [deliveries, hwanted]
      have hstep : collectOne F requested self content = .ok self := by
        rw [collectOne, hwanted]
      rw [hsame, hstep, Outcome.ok_bind]
      exact ih hclean h
    | some message =>
      have hcons : ds ++ deliveries F requested (content :: rest) =
          (ds ++ [message.delivery]) ++ deliveries F requested rest := by
        simp [deliveries, hwanted]
      have hstep : collectOne F requested self content = self.absorb message := by
        rw [collectOne, hwanted]
      rw [hcons, hstep]
      rcases Transfers.absorb_cases hclean h message with
        ⟨hnext, self', habsorb, hholds⟩ | ⟨hnot, habsorb⟩
      · rw [habsorb, Outcome.ok_bind]
        exact ih hnext hholds
      · -- A list with an unclean beginning is not clean.
        refine Or.inr ⟨fun hc => hnot (hc.mono (List.subset_append_left _ _)), ?_⟩
        intro self' hrun
        obtain ⟨next, hnext, -⟩ := Outcome.bind_eq_ok.mp hrun
        exact habsorb next hnext

/-- The loop comes to its end exactly on clean deliveries, and then the map holds
them. -/
theorem collect_cases (F : Formats) (requested : Option String) (contents : List String) :
    (Clean (deliveries F requested contents) ∧
        ∃ table, collect F requested contents = .ok table ∧
          table.Holds (deliveries F requested contents)) ∨
      (¬ Clean (deliveries F requested contents) ∧
        ∀ table, collect F requested contents ≠ .ok table) := by
  have h := foldlM_collectOne_cases F requested contents Clean.nil Transfers.Holds.empty
  simp only [List.nil_append] at h
  exact h

/-- The loop panics exactly when it gets through some contents and meets a body
whose check panics in the next one. -/
theorem collect_eq_panic_iff (F : Formats) (requested : Option String) (contents : List String) :
    collect F requested contents = .panic ↔
      ∃ before content after message, contents = before ++ content :: after ∧
        Clean (deliveries F requested before) ∧
        wantedMessage? F requested content = some message ∧
        validateWireBody message.body = .panic := by
  rw [collect, Outcome.foldlM_eq_panic_iff]
  have hround : ∀ (self : Transfers) content, collectOne F requested self content = .panic ↔
      ∃ message, wantedMessage? F requested content = some message ∧
        validateWireBody message.body = .panic := by
    intro self content
    unfold collectOne
    cases wantedMessage? F requested content <;> simp [Transfers.absorb_eq_panic_iff]
  constructor
  · rintro ⟨before, content, after, table, hsplit, hbefore, hpanic⟩
    obtain ⟨message, hwanted, hpanic⟩ := (hround table content).mp hpanic
    rcases collect_cases F requested before with ⟨hclean, -⟩ | ⟨-, hnot⟩
    · exact ⟨before, content, after, message, hsplit, hclean, hwanted, hpanic⟩
    · exact absurd hbefore (hnot table)
  · rintro ⟨before, content, after, message, hsplit, hclean, hwanted, hpanic⟩
    rcases collect_cases F requested before with ⟨-, table, hbefore, -⟩ | ⟨hnot, -⟩
    · exact ⟨before, content, after, table, hsplit, hbefore,
        (hround table content).mpr ⟨message, hwanted, hpanic⟩⟩
    · exact absurd hclean hnot

end TokenStudio
