import TokenStudio.ProofgateMessaging.Receive

/-!
# The history of a chat

A receiver polls a chat and sees a window of it each time.  `observe` keeps the
wanted contents of the windows and forgets the rest, and so `unpack` works on less
than the whole history.  `polling_equals_history` says that nothing is lost: as long
as every `observe` succeeds, the result is the one of `unpack_envelope` on all
windows together, down to the error.  A second copy of a content changes nothing in
the loop of `unpack_envelope` (`Holds.absorb_again`), so the fold over the kept
contents is the fold over the history (`collect_kept`).

`unpackEnvelope_of_same_contents` is about the order.  With a transfer id given, an
envelope depends on the contents as a set.
-/

namespace TokenStudio

/-! ## A second copy of a content -/

/-- A map does not change when it gets a value that it has. -/
theorem insert_eq_self {κ β : Type} {cmp : κ → κ → Ordering} [Std.TransCmp cmp]
    [Std.LawfulEqCmp cmp] {t : Std.ExtTreeMap κ β cmp} {k : κ} {v : β} (h : t[k]? = some v) :
    t.insert k v = t := by
  apply Std.ExtTreeMap.ext_getElem?
  intro k'
  rw [Std.ExtTreeMap.getElem?_insert]
  split
  · rename_i hk
    obtain rfl := Std.LawfulEqCmp.compare_eq_iff_eq.mp hk
    exact h.symm
  · rfl

namespace Transfers

variable {self : Transfers} {ds : List Delivery}

/-- The map has the chunk already. -/
theorem withChunk_eq_self {id : String} {i : UInt32} {c : EncodedChunk}
    (h : (self.entry id).chunks[i]? = some c) : self.withChunk id i c = self := by
  have hentry : self.transfers[id]? = some (self.entry id) := by
    cases hget : self.transfers[id]? with
    | none => simp [entry, hget, PartialTransfer.empty] at h
    | some transfer => simp [entry, hget]
  simp only [withChunk, insert_eq_self h]
  rw [insert_eq_self hentry]

/-- A round of the loop on a delivery that the map holds changes nothing. -/
theorem Holds.absorb_again (h : self.Holds ds) (hclean : Clean ds) {message : WireMessage}
    (hmem : message.delivery ∈ ds) : self.absorb message = .ok self := by
  have hvalid : validateWireBody message.body = .ok () := hclean.valid _ hmem
  rw [absorb, hvalid, Outcome.ok_bind]
  rcases message with ⟨protocol, version, id, body⟩
  cases body with
  | manifest m =>
    have hget := (h.manifest id m).mpr hmem
    simp [hget]
  | chunk i c =>
    have hget := (h.chunk id i c).mpr hmem
    simp [hget, withChunk_eq_self hget]

end Transfers

/-- The loop over the first copies of the wanted contents is the loop over all
contents. -/
theorem collect_kept (F : Formats) (requested : Option String) (contents : List String) :
    collect F requested (wantedContents F requested contents).eraseDups =
      collect F requested contents := by
  induction contents using List.reverseRecOn with
  | nil => rfl
  | append_singleton contents content ih =>
    have hsnoc : ∀ xs, collect F requested (xs ++ [content]) =
        collect F requested xs >>= fun table => collectOne F requested table content := by
      intro xs
      rw [collect, List.foldlM_append]
      simp only [List.foldlM_cons, List.foldlM_nil, bind_pure, collect]
    rw [hsnoc contents]
    cases hwanted : wantedMessage? F requested content with
    | none =>
      have hsame : wantedContents F requested (contents ++ [content]) =
          wantedContents F requested contents := by
        simp [wantedContents, hwanted]
      have hskip : ∀ table, collectOne F requested table content = .ok table := by
        intro table
        rw [collectOne, hwanted]
      rw [hsame, ih]
      simp only [hskip]
      cases collect F requested contents <;> rfl
    | some message =>
      have hcons : wantedContents F requested (contents ++ [content]) =
          wantedContents F requested contents ++ [content] := by
        simp [wantedContents, hwanted]
      rw [hcons, eraseDups_concat]
      by_cases hseen : content ∈ wantedContents F requested contents
      · rw [if_pos hseen, ih]
        -- the message has been delivered before
        have hmem : message.delivery ∈ deliveries F requested contents := by
          refine List.mem_filterMap.mpr ⟨content, (List.mem_filter.mp hseen).1, ?_⟩
          rw [hwanted]
          rfl
        rcases collect_cases F requested contents with ⟨hclean, table, hcollect, hholds⟩ | ⟨-, hnot⟩
        · rw [hcollect, Outcome.ok_bind, collectOne, hwanted]
          exact (hholds.absorb_again hclean hmem).symm
        · cases hcollect : collect F requested contents with
          | ok table => exact absurd hcollect (hnot table)
          | err e => rfl
          | panic => rfl
      · rw [if_neg hseen, hsnoc, ih]

/-- The receiver of a whole history needs the first copies of the wanted contents
only. -/
theorem unpackEnvelope_kept (F : Formats) (sha256 : Bytes → Digest32) (requested : Option String)
    (contents : List String) :
    unpackEnvelope F sha256 (wantedContents F requested contents).eraseDups requested =
      unpackEnvelope F sha256 contents requested := by
  rw [unpackEnvelope, unpackEnvelope, collect_kept]

/-! ## Calls of `observe` -/

namespace PendingWireMessages

section

variable {F : Formats} {requested : Option String}

/-- A round that fails keeps nothing. -/
theorem observeOne_of_failed {content : String} {self : PendingWireMessages}
    (h : (observeOne F requested content self).1 ≠ .ok ()) :
    (observeOne F requested content self).2 = self := by
  cases hwanted : wantedMessage? F requested content with
  | none => rw [observeOne_of_none hwanted]
  | some message =>
    by_cases hvalid : validateWireBody message.body = .ok ()
    · rw [observeOne_of_valid hwanted hvalid] at h ⊢
      by_cases hseen : content ∈ self.seen
      · rw [dif_pos hseen]
      · by_cases hfull : self.contents.length ≥ maxPendingWireMessages
        · rw [dif_neg hseen, dif_pos hfull]
        · rw [dif_neg hseen, dif_neg hfull] at h
          exact absurd rfl h
    · rw [observeOne_of_invalid hwanted hvalid]

variable (F requested)

/-- The part of a window that a call of `observe` gets through: all of it, or the
contents before the one that makes the call fail. -/
def ReadsPart (c : Call (List String) PendingWireMessages MessagingError Unit)
    (part : List String) : Prop :=
  (c.result = .ok () ∧ part = c.input) ∨
    c.result ≠ .ok () ∧ ∃ content after, c.input = part ++ content :: after ∧
      observeOne F requested content c.after = (c.result, c.after)

/-- What a receiver keeps of the contents that it has read. -/
structure Remembers (pending : PendingWireMessages) (read : List String) : Prop where
  contents : pending.contents = (wantedContents F requested read).eraseDups
  valid : ∀ content ∈ read, ∀ message, wantedMessage? F requested content = some message →
    validateWireBody message.body = .ok ()

variable {F requested}

/-- A window that is read to its end. -/
theorem Remembers.append {pending next : PendingWireMessages} {read window : List String}
    (h : Remembers F requested pending read)
    (hok : observe F requested window pending = (.ok (), next)) :
    Remembers F requested next (read ++ window) := by
  rcases observe_cases F requested window pending with ⟨htakes, next', hnext, hcontents⟩ | ⟨-, hnot⟩
  · rw [hok] at hnext
    obtain rfl : next = next' := congrArg Prod.snd hnext
    refine ⟨?_, ?_⟩
    · rw [hcontents, h.contents, eraseDups_eraseDups_append, wantedContents, wantedContents,
        wantedContents, List.filter_append]
    · intro content hcontent
      rcases List.mem_append.mp hcontent with hcontent | hcontent
      · exact h.valid content hcontent
      · exact htakes.valid content hcontent
  · rw [hok] at hnot
    exact absurd rfl hnot

/-- One call reads a part of its window. -/
theorem Remembers.call {pending : PendingWireMessages} {read : List String}
    (h : Remembers F requested pending read) (window : List String) :
    ∃ part, ReadsPart F requested (Mutating.call (observe F requested) window pending) part ∧
      Remembers F requested (observe F requested window pending).2 (read ++ part) := by
  rcases Mutating.forM_cases (observeOne F requested) window pending with
    ⟨next, hall⟩ | ⟨part, content, after, next, hsplit, hpart, hfail, hsame⟩
  · have hobserve : observe F requested window pending = (.ok (), next) := hall
    refine ⟨window, Or.inl ⟨?_, rfl⟩, ?_⟩
    · show (observe F requested window pending).1 = .ok ()
      rw [hobserve]
    · rw [hobserve]
      exact h.append hobserve
  · have hobserve : observe F requested window pending =
        observeOne F requested content next := hsame
    have hkept := observeOne_of_failed hfail
    refine ⟨part, Or.inr ⟨?_, content, after, hsplit, ?_⟩, ?_⟩
    · show (observe F requested window pending).1 ≠ .ok ()
      rw [hobserve]
      exact hfail
    · show observeOne F requested content (observe F requested window pending).2 = _
      rw [Mutating.call, hobserve, hkept]
      exact Prod.ext rfl hkept
    · rw [hobserve, hkept]
      exact h.append hpart

/-- A run of calls reads a part of each window. -/
theorem observe_run (F : Formats) (requested : Option String) (windows : List (List String)) :
    ∃ parts, List.Forall₂ (ReadsPart F requested)
        (Mutating.run (observe F requested) windows .empty) parts ∧
      Remembers F requested (Mutating.final (observe F requested) windows .empty)
        parts.flatten := by
  refine Mutating.run_induction (observe F requested)
    (motive := fun calls pending => ∃ parts, List.Forall₂ (ReadsPart F requested) calls parts ∧
      Remembers F requested pending parts.flatten) ⟨[], .nil, rfl, by simp⟩ ?_ windows
  rintro calls pending window ⟨parts, hparts, hremembers⟩
  obtain ⟨part, hpart, hnext⟩ := hremembers.call window
  refine ⟨parts ++ [part], List.rel_append hparts (.cons hpart .nil), ?_⟩
  rw [List.flatten_append]
  simpa using hnext

/-- Calls that succeed read their windows. -/
theorem parts_of_ok {calls : List (Call (List String) PendingWireMessages MessagingError Unit)}
    {parts : List (List String)} (h : List.Forall₂ (ReadsPart F requested) calls parts)
    (hok : ∀ c ∈ calls, c.result = .ok ()) : parts = calls.map Call.input := by
  induction h with
  | nil => rfl
  | @cons c part calls parts hpart _ ih =>
    have hfirst := hok c List.mem_cons_self
    rcases hpart with ⟨-, rfl⟩ | ⟨hnot, -⟩
    · rw [List.map_cons, ih fun c' hc' => hok c' (List.mem_cons_of_mem _ hc')]
    · exact absurd hfirst hnot

/-- A receiver gets through windows that show a few valid contents. -/
theorem run_ok_of_length {windows : List (List String)} {pending : PendingWireMessages}
    (hvalid : ∀ window ∈ windows, ∀ content ∈ window, ∀ message,
      wantedMessage? F requested content = some message → validateWireBody message.body = .ok ())
    (hroom : pending.contents.length + windows.flatten.length ≤ maxPendingWireMessages) :
    ∀ c ∈ Mutating.run (observe F requested) windows pending, c.result = .ok () := by
  induction windows generalizing pending with
  | nil => simp
  | cons window rest ih =>
    rw [List.flatten_cons, List.length_append] at hroom
    have htakes : Takes F requested pending window :=
      takes_of_length (hvalid window List.mem_cons_self) (by omega)
    rcases observe_cases F requested window pending with ⟨-, next, hok, hcontents⟩ | ⟨hnot, -⟩
    · have hlength : next.contents.length ≤ pending.contents.length + window.length := by
        have hdups :=
          (eraseDups_sublist (pending.contents ++ wantedContents F requested window)).length_le
        have hwanted : (wantedContents F requested window).length ≤ window.length :=
          List.length_filter_le _ _
        rw [hcontents]
        rw [List.length_append] at hdups
        omega
      intro c hc
      rw [Mutating.run, hok] at hc
      rcases List.mem_cons.mp hc with rfl | hc
      · show (observe F requested window pending).1 = .ok ()
        rw [hok]
      · refine ih (fun w hw => hvalid w (List.mem_cons_of_mem _ hw)) ?_ c hc
        show next.contents.length + rest.flatten.length ≤ maxPendingWireMessages
        omega
    · exact absurd htakes hnot

end

end PendingWireMessages

/-- A content that passes the checks of `observe`, with its message. -/
structure ContentChecked (F : Formats) (requested : Option String) (content : String)
    (message : WireMessage) : Prop where
  parsed : F.messageFromStr content = some message
  protocol : message.protocol = transferProtocol
  version : message.version = wireVersion
  transferId : validateTransferId message.transferId = .ok ()
  requested : ∀ r, requested = some r → r = message.transferId
  body : validateWireBody message.body = .ok ()

/-- What holds of a receiver that has read some contents. -/
structure HistoryKept (F : Formats) (requested : Option String) (pending : PendingWireMessages)
    (read : List String) : Prop where
  /-- The wanted contents, in the order of their first copies. -/
  firstSeen : pending.contents = (wantedContents F requested read).eraseDups
  different : pending.contents.Pairwise (· ≠ ·)
  bounded : pending.contents.length ≤ (maxChunks + 1) * 4
  seen : ∀ content, content ∈ pending.seen ↔ content ∈ pending.contents
  checked : ∀ content ∈ pending.contents, ∃ message, ContentChecked F requested content message

theorem PendingWireMessages.Remembers.kept {F : Formats} {requested : Option String}
    {pending : PendingWireMessages} {read : List String}
    (h : pending.Remembers F requested read) : HistoryKept F requested pending read where
  firstSeen := h.contents
  different := pending.nodup
  bounded := pending.bounded
  seen := pending.mem_seen
  checked := by
    intro content hcontent
    rw [h.contents, List.mem_eraseDups] at hcontent
    obtain ⟨hread, hwanted⟩ := List.mem_filter.mp hcontent
    obtain ⟨message, hmessage⟩ := Option.isSome_iff_exists.mp hwanted
    obtain ⟨hparsed, hform, hid, hrequested⟩ := wantedMessage?_eq_some_iff.mp hmessage
    exact ⟨message, hparsed, congrArg WireMessage.protocol hform,
      congrArg WireMessage.version hform, hid, hrequested, h.valid content hread message hmessage⟩

/-- Polling with a bounded memory is unpacking the whole history.  When every call of
`observe` succeeds, `unpack` returns what `unpack_envelope` returns on all windows.
In any case the memory holds the first copies of the wanted contents that were read,
and they have passed the checks. -/
theorem polling_equals_history (F : Formats) (sha256 : Bytes → Digest32)
    (requested : Option String) (windows : List (List String)) :
    ((∀ c ∈ Mutating.run (PendingWireMessages.observe F requested) windows .empty,
        c.result = .ok ()) →
      (Mutating.final (PendingWireMessages.observe F requested) windows .empty).unpack F sha256
          requested = unpackEnvelope F sha256 windows.flatten requested) ∧
    ∃ parts, List.Forall₂ (PendingWireMessages.ReadsPart F requested)
        (Mutating.run (PendingWireMessages.observe F requested) windows .empty) parts ∧
      HistoryKept F requested
        (Mutating.final (PendingWireMessages.observe F requested) windows .empty)
        parts.flatten := by
  obtain ⟨parts, hparts, hremembers⟩ :=
    PendingWireMessages.observe_run F requested windows
  refine ⟨?_, parts, hparts, hremembers.kept⟩
  intro hok
  have hwindows : parts = windows := by
    rw [PendingWireMessages.parts_of_ok hparts hok, Mutating.run_inputs]
  rw [PendingWireMessages.unpack, hremembers.contents, hwindows, unpackEnvelope_kept]

/-- A receiver that sees the first two messages of the bundle and then the last two. -/
theorem polling_equals_history_chatBundle :
    (Mutating.final (PendingWireMessages.observe chatFormats (some chatTransferId))
        [chatBundle.messages.take 2, chatBundle.messages.drop 1] .empty).unpack chatFormats sha256
          (some chatTransferId) =
      unpackEnvelope chatFormats sha256
        [chatBundle.messages.take 2, chatBundle.messages.drop 1].flatten
        (some chatTransferId) := by
  refine (polling_equals_history chatFormats sha256 (some chatTransferId) _).1 ?_
  obtain ⟨a, b, commit, hmessages, -⟩ := chatBundle_messages
  refine PendingWireMessages.run_ok_of_length ?_ ?_
  · intro window hwindow content hcontent message hwanted
    have hmem : content ∈ chatBundle.messages := by
      rcases List.mem_pair.mp hwindow with heq | heq
      · rw [heq] at hcontent
        exact List.mem_of_mem_take hcontent
      · rw [heq] at hcontent
        exact List.mem_of_mem_drop hcontent
    exact chatTransfer_packed.valid_of_wanted chatFormats_lawful hmem hwanted
  · rw [hmessages]
    show 4 ≤ maxPendingWireMessages
    decide

/-! ## The order of the contents -/

/-- With a transfer id given, the envelope that is unpacked depends on the contents as
a set: not on their order, and not on further copies. -/
theorem unpackEnvelope_of_same_contents {F : Formats} {sha256 : Bytes → Digest32}
    {contents contents' : List String}
    (hsame : ∀ content, content ∈ contents ↔ content ∈ contents') (id : String)
    (result : String × AttestationEnvelope) :
    unpackEnvelope F sha256 contents (some id) = .ok result ↔
      unpackEnvelope F sha256 contents' (some id) = .ok result := by
  have hcarries : ∀ id' body, Carries F contents id' body ↔ Carries F contents' id' body := by
    intro id' body
    simp only [Carries, hsame]
  have hdelivered : ∀ d, d ∈ deliveries F (some id) contents ↔
      d ∈ deliveries F (some id) contents' := by
    rintro ⟨id', body⟩
    rw [mem_deliveries, mem_deliveries, hcarries]
  have hclean : Clean (deliveries F (some id) contents) ↔
      Clean (deliveries F (some id) contents') :=
    ⟨fun h => h.mono fun d hd => (hdelivered d).mpr hd,
      fun h => h.mono fun d hd => (hdelivered d).mp hd⟩
  rcases result with ⟨id', envelope⟩
  rw [unpackEnvelope_eq_ok_iff, unpackEnvelope_eq_ok_iff, hclean]
  -- the transfer is the given one in both
  simp only [selectedTransfer, Option.some_or, hdelivered]

/-- The bundle in the order of the sender, and twice in other orders. -/
theorem unpackEnvelope_of_same_contents_chatBundle :
    unpackEnvelope chatFormats sha256 chatBundle.messages (some chatTransferId) =
        .ok (chatTransferId, chatEnvelope) ↔
      unpackEnvelope chatFormats sha256 (chatBundle.messages.reverse ++ chatBundle.messages)
        (some chatTransferId) = .ok (chatTransferId, chatEnvelope) :=
  unpackEnvelope_of_same_contents (by simp) chatTransferId (chatTransferId, chatEnvelope)

end TokenStudio
