import TokenStudio.ProofgateMessaging.Deliveries

/-!
# What the receiver puts together

`Spells` is the purpose of a transfer: one manifest, the chunks that it counts and
no others, and the bytes that they spell together, with the length and the hash of
the manifest.  It is about the bodies that a receiver has for one transfer, given
as a predicate.

`assembleBytes_eq_ok_iff` says that the first half of `assemble` succeeds exactly
on deliveries that spell bytes, and `unpackEnvelope_eq_ok_iff` is the result for
`unpack_envelope`.
-/

namespace TokenStudio

/-- The bodies spell the bytes that the manifest describes. -/
structure Spells (sha256 : Bytes → Digest32) (has : WireBody → Prop) (m : Manifest)
    (bytes : Bytes) : Prop where
  manifest : ∀ m', has (.manifest m') ↔ m' = m
  chunks : ∃ (texts : List String) (parts : List Bytes), texts.length = m.chunkCount.toNat ∧
    (∀ i c, has (.chunk i c) ↔
      ∃ text, texts[i.toNat]? = some text ∧
        c = { chunkCount := m.chunkCount, dataBase64 := text }) ∧
    texts.mapM base64Decode = some parts ∧ (∀ part ∈ parts, part.length ≤ maxChunkBytes) ∧
    parts.flatten = bytes
  length : bytes.length = m.envelopeBytes.toNat
  hash : digestToHex (sha256 bytes) = m.envelopeSha256

/-! ## Maps from indexes -/

section

variable {β : Type} {t : Std.ExtTreeMap UInt32 β}

/-- The keys as numbers. -/
theorem nodup_keys_toNat : (t.keys.map UInt32.toNat).Nodup :=
  t.nodup_keys.map fun _ _ h => UInt32.toNat_inj.mp h

theorem length_keys_toNat : (t.keys.map UInt32.toNat).length = t.size := by
  rw [List.length_map, Std.ExtTreeMap.length_keys]

theorem mem_keys_toNat {i : UInt32} : i.toNat ∈ t.keys.map UInt32.toNat ↔ i ∈ t := by
  rw [List.mem_map_of_injective fun _ _ h => UInt32.toNat_inj.mp h, Std.ExtTreeMap.mem_keys]

/-- A map with the keys below `n` has `n` entries. -/
theorem size_eq_of_mem_iff {n : Nat} (hn : n ≤ 2 ^ 32) (h : ∀ i, i ∈ t ↔ i.toNat < n) :
    t.size = n := by
  have hperm : (t.keys.map UInt32.toNat).Perm (List.range n) := by
    rw [List.perm_ext_iff_of_nodup nodup_keys_toNat List.nodup_range]
    intro k
    rw [List.mem_range]
    constructor
    · intro hk
      obtain ⟨i, hi, rfl⟩ := List.mem_map.mp hk
      exact (h i).mp (Std.ExtTreeMap.mem_keys.mp hi)
    · intro hk
      have hto : (UInt32.ofNat k).toNat = k := UInt32.toNat_ofNat_of_lt' (by show k < 2 ^ 32; omega)
      rw [← hto]
      exact mem_keys_toNat.mpr ((h _).mpr (by rw [hto]; exact hk))
  rw [← length_keys_toNat, hperm.length_eq, List.length_range]

/-- A map with `n` entries and all keys below `n` has no other key. -/
theorem lt_of_mem_of_size {n : Nat} (hn : n ≤ 2 ^ 32) (hsize : t.size = n)
    (hall : ∀ k < n, UInt32.ofNat k ∈ t) {i : UInt32} (hi : i ∈ t) : i.toNat < n := by
  have hsub : List.range n ⊆ t.keys.map UInt32.toNat := by
    intro k hk
    have hk : k < n := List.mem_range.mp hk
    have hto : (UInt32.ofNat k).toNat = k := UInt32.toNat_ofNat_of_lt' (by show k < 2 ^ 32; omega)
    rw [← hto]
    exact mem_keys_toNat.mpr (hall k hk)
  have hperm : (List.range n).Perm (t.keys.map UInt32.toNat) := by
    apply (List.subperm_of_subset List.nodup_range hsub).perm_of_length_le
    rw [length_keys_toNat, List.length_range, hsize]
  exact List.mem_range.mp (hperm.mem_iff.mpr (mem_keys_toNat.mpr hi))

/-- A map with keys below `n` that misses one of them has not `n` entries. -/
theorem size_ne_of_notMem {n k : Nat} (hlt : ∀ i ∈ t, i.toNat < n) (hk : k < n)
    (hnot : UInt32.ofNat k ∉ t) (hn : n ≤ 2 ^ 32) : t.size ≠ n := by
  have hsub : t.keys.map UInt32.toNat ⊆ List.range n := by
    intro x hx
    obtain ⟨i, hi, rfl⟩ := List.mem_map.mp hx
    exact List.mem_range.mpr (hlt i (Std.ExtTreeMap.mem_keys.mp hi))
  intro hsize
  have hperm : (t.keys.map UInt32.toNat).Perm (List.range n) := by
    apply (List.subperm_of_subset nodup_keys_toNat hsub).perm_of_length_le
    rw [length_keys_toNat, List.length_range, hsize]
  have hto : (UInt32.ofNat k).toNat = k := UInt32.toNat_ofNat_of_lt' (by show k < 2 ^ 32; omega)
  have hmem := hperm.mem_iff.mpr (List.mem_range.mpr hk)
  rw [← hto] at hmem
  exact hnot (mem_keys_toNat.mp hmem)

end

/-! ## The bytes of a transfer -/

namespace PartialTransfer

variable {F : Formats} {sha256 : Bytes → Digest32} {self : PartialTransfer} {id : String}
  {m : Manifest}

/-- The loop of `assemble` joins the parts that the chunks spell. -/
theorem joinChunks_eq_ok_iff {indexes : List UInt32} {acc bytes : Bytes} :
    self.joinChunks F id m indexes acc = .ok bytes ↔
      ∃ (texts : List String) (parts : List Bytes),
        List.Forall₂ (fun i text => self.chunks[i]? =
          some { chunkCount := m.chunkCount, dataBase64 := text }) indexes texts ∧
        texts.mapM base64Decode = some parts ∧ (∀ part ∈ parts, part.length ≤ maxChunkBytes) ∧
        acc ++ parts.flatten = bytes := by
  induction indexes generalizing acc with
  | nil =>
    simp only [joinChunks, Outcome.ok.injEq, List.forall₂_nil_left_iff]
    constructor
    · rintro rfl
      exact ⟨[], [], rfl, rfl, by simp, by simp⟩
    · rintro ⟨texts, parts, rfl, hparts, -, rfl⟩
      obtain rfl : [] = parts := Option.some.inj hparts
      simp
  | cons i rest ih =>
    simp only [joinChunks, Outcome.bind_eq_ok, Outcome.okOr_eq_ok, Outcome.check_eq_ok,
      Outcome.exists_unit, not_not, Nat.not_lt, ih]
    constructor
    · rintro ⟨⟨count, text⟩, hchunk, rfl, part, hpart, hle, texts, parts, htexts, hparts, hles, rfl⟩
      refine ⟨text :: texts, part :: parts, .cons hchunk htexts, ?_, ?_, by simp⟩
      · rw [List.mapM_cons, hpart, hparts]
        rfl
      · intro x hx
        rcases List.mem_cons.mp hx with rfl | hx
        · exact hle
        · exact hles x hx
    · rintro ⟨texts, parts, htexts, hparts, hles, rfl⟩
      obtain ⟨text, texts, hchunk, hrest, rfl⟩ := List.forall₂_cons_left_iff.mp htexts
      rw [List.mapM_cons, Option.bind_eq_bind, Option.bind_eq_some_iff] at hparts
      obtain ⟨part, hpart, hparts⟩ := hparts
      obtain ⟨parts, hmap, hcons⟩ := Option.bind_eq_some_iff.mp hparts
      obtain rfl : part :: parts = _ := Option.some.inj hcons
      exact ⟨_, hchunk, rfl, part, hpart, hles part (by simp), texts, parts, hrest, hmap,
        fun x hx => hles x (by simp [hx]), by simp⟩

theorem joinChunks_ne_panic {indexes : List UInt32} {acc : Bytes} :
    self.joinChunks F id m indexes acc ≠ .panic := by
  induction indexes generalizing acc with
  | nil => simp [joinChunks]
  | cons i rest ih => simp [joinChunks, Outcome.bind_eq_panic, ih]

theorem assembleBytes_ne_panic : self.assembleBytes F sha256 id m ≠ .panic := by
  simp [assembleBytes, Outcome.bind_eq_panic, joinChunks_ne_panic]

/-- The texts at the indexes below a count. -/
theorem forall₂_indexes_iff {texts : List String} :
    List.Forall₂ (fun i text => self.chunks[i]? =
        some { chunkCount := m.chunkCount, dataBase64 := text }) (indexes m) texts ↔
      texts.length = m.chunkCount.toNat ∧ ∀ (i : UInt32) text, texts[i.toNat]? = some text →
        self.chunks[i]? = some { chunkCount := m.chunkCount, dataBase64 := text } := by
  have hcount : m.chunkCount.toNat < 2 ^ 32 := m.chunkCount.toNat_lt
  rw [List.forall₂_iff_get]
  simp only [indexes, List.length_map, List.length_range, List.get_eq_getElem, List.getElem_map,
    List.getElem_range]
  constructor
  · rintro ⟨hlen, hall⟩
    refine ⟨hlen.symm, ?_⟩
    intro i text htext
    obtain ⟨hi, rfl⟩ := List.getElem?_eq_some_iff.mp htext
    have hchunk := hall i.toNat (by omega) hi
    rwa [UInt32.ofNat_toNat] at hchunk
  · rintro ⟨hlen, hall⟩
    refine ⟨hlen.symm, ?_⟩
    intro k hk hk'
    have hto : (UInt32.ofNat k).toNat = k := UInt32.toNat_ofNat_of_lt' (by show k < 2 ^ 32; omega)
    apply hall
    rw [hto]
    exact List.getElem?_eq_getElem hk'

end PartialTransfer

/-- A valid manifest counts some chunks, and not too many. -/
theorem chunkCount_of_valid {m : Manifest} (h : validateWireBody (.manifest m) = .ok ()) :
    m.chunkCount.toNat ≠ 0 ∧ m.chunkCount.toNat ≤ maxChunks ∧
      m.envelopeBytes.toNat ≤ maxTransferBytes := by
  simp only [validateWireBody, Outcome.bind_eq_ok, Outcome.check_eq_ok, Outcome.exists_unit,
    not_or, Nat.not_lt] at h
  obtain ⟨⟨hzero, hcount, hbytes⟩, -⟩ := h
  refine ⟨?_, hcount, hbytes⟩
  intro h0
  exact hzero (UInt32.toNat_inj.mp h0)

/-- The first half of `assemble` succeeds on a clean transfer exactly when it
spells bytes. -/
theorem assembleBytes_eq_ok_iff {F : Formats} {sha256 : Bytes → Digest32} {table : Transfers}
    {ds : List Delivery} (hclean : Clean ds) (h : table.Holds ds) {id : String} {m : Manifest}
    (hm : (id, .manifest m) ∈ ds) {bytes : Bytes} :
    (table.entry id).assembleBytes F sha256 id m = .ok bytes ↔
      Spells sha256 (fun body => (id, body) ∈ ds) m bytes := by
  obtain ⟨hzero, hmax, hbytes⟩ := chunkCount_of_valid (hclean.valid _ hm)
  have hcount : m.chunkCount.toNat < 2 ^ 32 := m.chunkCount.toNat_lt
  have hmanifest : ∀ m', (id, WireBody.manifest m') ∈ ds ↔ m' = m := by
    intro m'
    exact ⟨fun hm' => hclean.manifest_unique hm' hm, fun heq => heq ▸ hm⟩
  have hbounds : ¬ (m.chunkCount.toNat = 0 ∨ m.chunkCount.toNat > maxChunks) := by omega
  have hlength : ¬ m.envelopeBytes.toNat > maxTransferBytes := by omega
  simp only [PartialTransfer.assembleBytes, Outcome.bind_eq_ok, Outcome.check_eq_ok,
    Outcome.exists_unit, hbounds, hlength, not_false_eq_true, true_and, ne_eq, not_not, not_or,
    PartialTransfer.joinChunks_eq_ok_iff, PartialTransfer.forall₂_indexes_iff, List.nil_append,
    Outcome.pure_eq, Outcome.ok.injEq]
  constructor
  · rintro ⟨hsize, _, ⟨texts, parts, ⟨hlen, hall⟩, hparts, hles, rfl⟩, ⟨hbl, hhash⟩, rfl⟩
    refine ⟨hmanifest, ⟨texts, parts, hlen, ?_, hparts, hles, rfl⟩, hbl, hhash⟩
    intro i c
    rw [← h.chunk]
    constructor
    · intro hc
      -- The keys are the indexes below the count, because there are as many of them.
      have hkeys : ∀ k < m.chunkCount.toNat, UInt32.ofNat k ∈ (table.entry id).chunks := by
        intro k hk
        have hto : (UInt32.ofNat k).toNat = k :=
          UInt32.toNat_ofNat_of_lt' (by show k < 2 ^ 32; omega)
        have hget : texts[(UInt32.ofNat k).toNat]? = some (texts[k]) := by
          rw [hto]
          exact List.getElem?_eq_getElem (by omega)
        rw [Std.ExtTreeMap.mem_iff_isSome_getElem?, hall _ _ hget]
        rfl
      have hmem : i ∈ (table.entry id).chunks := by
        rw [Std.ExtTreeMap.mem_iff_isSome_getElem?, hc]
        rfl
      have hi := lt_of_mem_of_size (by omega) hsize hkeys hmem
      have hget : texts[i.toNat]? = some (texts[i.toNat]) := List.getElem?_eq_getElem (by omega)
      refine ⟨_, hget, ?_⟩
      have hc' := hall i _ hget
      rw [hc] at hc'
      exact Option.some.inj hc'
    · rintro ⟨text, htext, rfl⟩
      exact hall i text htext
  · rintro ⟨-, ⟨texts, parts, hlen, hall, hparts, hles, rfl⟩, hbl, hhash⟩
    simp only [← h.chunk] at hall
    refine ⟨?_, _, ⟨texts, parts, ⟨hlen, ?_⟩, hparts, hles, rfl⟩, ⟨hbl, hhash⟩, rfl⟩
    · apply size_eq_of_mem_iff (by omega)
      intro i
      rw [Std.ExtTreeMap.mem_iff_isSome_getElem?, Option.isSome_iff_exists]
      constructor
      · rintro ⟨c, hc⟩
        obtain ⟨text, htext, -⟩ := (hall i c).mp hc
        have hi := (List.getElem?_eq_some_iff.mp htext).1
        omega
      · intro hi
        have hget : texts[i.toNat]? = some (texts[i.toNat]) := List.getElem?_eq_getElem (by omega)
        exact ⟨_, (hall i _).mpr ⟨_, hget, rfl⟩⟩
    · intro i text htext
      exact (hall i _).mpr ⟨text, htext, rfl⟩

/-- The first half of `assemble` when the number of chunks is not the one of the
manifest. -/
theorem assembleBytes_of_size_ne (F : Formats) (sha256 : Bytes → Digest32)
    (transfer : PartialTransfer) (id : String) {m : Manifest}
    (hvalid : validateWireBody (.manifest m) = .ok ())
    (hsize : transfer.chunks.size ≠ m.chunkCount.toNat) :
    transfer.assembleBytes F sha256 id m =
      .err (.incompleteTransfer id transfer.chunks.size m.chunkCount.toNat) := by
  obtain ⟨hzero, hmax, -⟩ := chunkCount_of_valid hvalid
  have hbounds : ¬ (m.chunkCount.toNat = 0 ∨ m.chunkCount.toNat > maxChunks) := by omega
  rw [PartialTransfer.assembleBytes, Outcome.check_of_not hbounds, Outcome.ok_bind,
    Outcome.check_of hsize, Outcome.err_bind]

/-! ## The envelope in the bytes -/

/-- The bytes hold the envelope that the manifest describes. -/
structure Opens (F : Formats) (sha256 : Bytes → Digest32) (m : Manifest) (bytes : Bytes)
    (envelope : AttestationEnvelope) : Prop where
  parsed : (F.envelopeFromSlice bytes).result = .ok envelope
  transport : envelope.transport = .logosMessaging
  context : digestToHex envelope.contextHash = m.contextHash
  challenge : ∃ digest, envelope.challenge.digest sha256 = some digest ∧
    digestToHex digest = m.challengeDigest

theorem anyDigestInvalid_eq_false_iff {texts : List String} :
    anyDigestInvalid texts = .ok false ↔ ∀ text ∈ texts, ∃ d, digestFromHex text = .ok d := by
  induction texts with
  | nil => simp [anyDigestInvalid]
  | cons text rest ih =>
    rw [anyDigestInvalid]
    cases h : digestFromHex text <;> simp [h, ih]

/-- The digests of a valid manifest are the texts of digests. -/
theorem digests_of_valid {m : Manifest} (h : validateWireBody (.manifest m) = .ok ()) :
    (∃ d, digestFromHex m.contextHash = .ok d) ∧ ∃ d, digestFromHex m.challengeDigest = .ok d := by
  simp only [validateWireBody, Outcome.bind_eq_ok, Outcome.check_eq_ok, Outcome.exists_unit,
    Bool.not_eq_true] at h
  obtain ⟨-, invalid, hany, rfl⟩ := h
  have hall := anyDigestInvalid_eq_false_iff.mp hany
  exact ⟨hall _ (by simp), hall _ (by simp)⟩

/-- The second half of `assemble` for a valid manifest. -/
theorem openEnvelope_of_valid (F : Formats) (sha256 : Bytes → Digest32) {m : Manifest}
    (h : validateWireBody (.manifest m) = .ok ()) (bytes : Bytes) :
    PartialTransfer.openEnvelope F sha256 m bytes = (do
      let envelope ← (F.envelopeFromSlice bytes).result.mapErr fun _ =>
        MessagingError.invalidWireMessage (F.envelopeError bytes)
      Outcome.check (envelope.transport ≠ .logosMessaging) MessagingError.wrongTransport
      Outcome.check (digestToHex envelope.contextHash ≠ m.contextHash)
        MessagingError.integrityFailure
      let challengeDigest ← envelope.challenge.digest sha256
      Outcome.check (digestToHex challengeDigest ≠ m.challengeDigest)
        MessagingError.integrityFailure
      pure envelope) := by
  obtain ⟨⟨d, hd⟩, d', hd'⟩ := digests_of_valid h
  rw [PartialTransfer.openEnvelope, hd, hd']
  rfl

theorem openEnvelope_eq_ok_iff {F : Formats} {sha256 : Bytes → Digest32} {m : Manifest}
    (h : validateWireBody (.manifest m) = .ok ()) {bytes : Bytes}
    {envelope : AttestationEnvelope} :
    PartialTransfer.openEnvelope F sha256 m bytes = .ok envelope ↔
      Opens F sha256 m bytes envelope := by
  rw [openEnvelope_of_valid F sha256 h]
  simp only [Outcome.bind_eq_ok, Outcome.mapErr_eq_ok, Outcome.check_eq_ok, Outcome.exists_unit,
    ne_eq, not_not, Outcome.liftM_eq, Outcome.ofOption_eq_ok, Outcome.pure_eq, Outcome.ok.injEq]
  constructor
  · rintro ⟨e, hparsed, htransport, hcontext, d, hd, hdigest, rfl⟩
    exact ⟨hparsed, htransport, hcontext, d, hd, hdigest⟩
  · rintro ⟨hparsed, htransport, hcontext, d, hd, hdigest⟩
    exact ⟨envelope, hparsed, htransport, hcontext, d, hd, hdigest, rfl⟩

/-! ## The whole receiver -/

/-- Some content is a message of the transfer with this body. -/
def Carries (F : Formats) (contents : List String) (id : String) (body : WireBody) : Prop :=
  ∃ content ∈ contents, F.messageFromStr content = some (transferMessage id body)

theorem validateTransferId_isOk {id : String} :
    (validateTransferId id).isOk = true ↔ validateTransferId id = .ok () := by
  rw [Outcome.isOk_iff, Outcome.exists_unit]

/-- The filter lets the messages of the protocol through whose transfer is valid
and asked for. -/
theorem wantedMessage?_eq_some_iff {F : Formats} {requested : Option String} {content : String}
    {message : WireMessage} :
    wantedMessage? F requested content = some message ↔
      F.messageFromStr content = some message ∧
        message = transferMessage message.transferId message.body ∧
        validateTransferId message.transferId = .ok () ∧
        ∀ r, requested = some r → r = message.transferId := by
  unfold wantedMessage?
  rw [Option.bind_eq_bind, Option.bind_eq_some_iff]
  have hprotocol : ∀ x : WireMessage, x = transferMessage x.transferId x.body ↔
      x.protocol = transferProtocol ∧ x.version = wireVersion := by
    rintro ⟨protocol, version, id, body⟩
    simp [transferMessage]
  have hany : ∀ x : WireMessage, requested.any (· ≠ x.transferId) = false ↔
      ∀ r, requested = some r → r = x.transferId := by
    intro x
    cases requested <;> simp
  constructor
  · rintro ⟨x, hx, hsome⟩
    by_cases h1 : x.protocol ≠ transferProtocol ∨ x.version ≠ wireVersion
    · simp [h1] at hsome
    · by_cases h2 : (validateTransferId x.transferId).isOk = true
      · by_cases h3 : requested.any (· ≠ x.transferId) = true
        · rw [if_neg h1, if_neg (not_not.mpr h2), if_pos h3] at hsome
          simp at hsome
        · rw [if_neg h1, if_neg (not_not.mpr h2), if_neg h3, Option.some.injEq] at hsome
          subst hsome
          simp only [not_or, ne_eq, not_not] at h1
          exact ⟨hx, (hprotocol x).mpr h1, validateTransferId_isOk.mp h2,
            (hany x).mp (by simpa using h3)⟩
      · rw [if_neg h1, if_pos h2] at hsome
        simp at hsome
  · rintro ⟨hx, hform, hvalid, hrequested⟩
    refine ⟨message, hx, ?_⟩
    have h1 := (hprotocol message).mp hform
    rw [if_neg (by simp [h1]), if_neg (not_not.mpr (validateTransferId_isOk.mpr hvalid)),
      if_neg (by rw [(hany message).mpr hrequested]; simp)]

/-- What the contents deliver is what they carry for transfers that are valid and
asked for. -/
theorem mem_deliveries {F : Formats} {requested : Option String} {contents : List String}
    {id : String} {body : WireBody} :
    (id, body) ∈ deliveries F requested contents ↔
      Carries F contents id body ∧ validateTransferId id = .ok () ∧
        ∀ r, requested = some r → r = id := by
  simp only [deliveries, List.mem_filterMap, Option.map_eq_some_iff, wantedMessage?_eq_some_iff]
  constructor
  · rintro ⟨content, hcontent, message, ⟨hparsed, hform, hvalid, hrequested⟩, hdelivery⟩
    obtain ⟨rfl, rfl⟩ := Prod.mk.inj hdelivery
    exact ⟨⟨content, hcontent, hparsed.trans (congrArg some hform)⟩, hvalid, hrequested⟩
  · rintro ⟨⟨content, hcontent, hparsed⟩, hvalid, hrequested⟩
    exact ⟨content, hcontent, transferMessage id body, ⟨hparsed, rfl, hvalid, hrequested⟩, rfl⟩

/-- The transfer that is put together. -/
def selectedTransfer (F : Formats) (contents : List String) (requested : Option String) :
    Option String :=
  requested.or (manifestIds (deliveries F requested contents)).eraseDups.getLast?

/-- The optional id at the start. -/
theorem forM_validateTransferId {requested : Option String} :
    (requested.forM validateTransferId = .ok () ↔
        ∀ r, requested = some r → validateTransferId r = .ok ()) ∧
      requested.forM validateTransferId ≠ .panic := by
  cases requested with
  | none => exact ⟨iff_of_true rfl (by simp), by simp [Option.forM]⟩
  | some r => exact ⟨by simp [Option.forM], by simp [Option.forM, validateTransferId]⟩

/-- After a loop that came to its end, the transfer that is asked for is looked up
and put together. -/
theorem unpackEnvelope_of_clean (F : Formats) (sha256 : Bytes → Digest32) {contents : List String}
    {requested : Option String} (hrequested : requested.forM validateTransferId = .ok ())
    (hclean : Clean (deliveries F requested contents)) :
    ∃ table : Transfers, table.Holds (deliveries F requested contents) ∧
      unpackEnvelope F sha256 contents requested = (do
        let id ← Outcome.okOr (selectedTransfer F contents requested) MessagingError.noTransfer
        let envelope ← (table.entry id).assemble F sha256 id
        pure (id, envelope)) := by
  rcases collect_cases F requested contents with ⟨-, table, hcollect, hholds⟩ | ⟨hnot, -⟩
  · refine ⟨table, hholds, ?_⟩
    rw [unpackEnvelope, hrequested, Outcome.ok_bind, hcollect, Outcome.ok_bind,
      Transfers.selected, hholds.order, ← selectedTransfer]
    congr 1
    funext id
    -- A transfer that is not in the map has no manifest either.
    cases hget : table.transfers[id]? with
    | none => simp [Transfers.entry, hget, PartialTransfer.assemble, PartialTransfer.empty]
    | some transfer => simp [Transfers.entry, hget]
  · exact absurd hclean hnot

/-- A transfer without a manifest. -/
theorem assemble_of_no_manifest (F : Formats) (sha256 : Bytes → Digest32) {table : Transfers}
    {ds : List Delivery} (h : table.Holds ds) {id : String}
    (hno : ∀ m, (id, .manifest m) ∉ ds) :
    (table.entry id).assemble F sha256 id = .err .noTransfer := by
  have hnone : (table.entry id).manifest = none := by
    rw [Option.eq_none_iff_forall_ne_some]
    intro m hm
    exact hno m ((h.manifest id m).mp hm)
  rw [PartialTransfer.assemble, hnone, Outcome.okOr_none, Outcome.err_bind]

/-- A transfer with a manifest. -/
theorem assemble_of_manifest (F : Formats) (sha256 : Bytes → Digest32) {table : Transfers}
    {ds : List Delivery} (h : table.Holds ds) {id : String} {m : Manifest}
    (hm : (id, .manifest m) ∈ ds) :
    (table.entry id).assemble F sha256 id = (do
      let bytes ← (table.entry id).assembleBytes F sha256 id m
      PartialTransfer.openEnvelope F sha256 m bytes) := by
  rw [PartialTransfer.assemble, (h.manifest id m).mpr hm, Outcome.okOr_some, Outcome.ok_bind]

/-- The receiver returns an envelope exactly when the contents are clean and the
transfer that is asked for spells bytes that hold it. -/
theorem unpackEnvelope_eq_ok_iff {F : Formats} {sha256 : Bytes → Digest32}
    {contents : List String} {requested : Option String} {id : String}
    {envelope : AttestationEnvelope} :
    unpackEnvelope F sha256 contents requested = .ok (id, envelope) ↔
      requested.forM validateTransferId = .ok () ∧ Clean (deliveries F requested contents) ∧
        selectedTransfer F contents requested = some id ∧
        ∃ m bytes, Spells sha256 (fun body => (id, body) ∈ deliveries F requested contents) m
            bytes ∧
          Opens F sha256 m bytes envelope := by
  by_cases hrequested : requested.forM validateTransferId = .ok ()
  · by_cases hclean : Clean (deliveries F requested contents)
    · obtain ⟨table, hholds, hunpack⟩ := unpackEnvelope_of_clean F sha256 hrequested hclean
      simp only [hunpack, hrequested, hclean, true_and, Outcome.bind_eq_ok, Outcome.okOr_eq_ok,
        Outcome.pure_eq, Outcome.ok.injEq, Prod.mk.injEq]
      constructor
      · rintro ⟨id', hselected, e, hassemble, rfl, rfl⟩
        refine ⟨hselected, ?_⟩
        by_cases hm : ∃ m, (id', WireBody.manifest m) ∈ deliveries F requested contents
        · obtain ⟨m, hm⟩ := hm
          rw [assemble_of_manifest F sha256 hholds hm, Outcome.bind_eq_ok] at hassemble
          obtain ⟨bytes, hbytes, hopen⟩ := hassemble
          exact ⟨m, bytes, (assembleBytes_eq_ok_iff hclean hholds hm).mp hbytes,
            (openEnvelope_eq_ok_iff (hclean.valid _ hm)).mp hopen⟩
        · rw [assemble_of_no_manifest F sha256 hholds (not_exists.mp hm)] at hassemble
          simp at hassemble
      · rintro ⟨hselected, m, bytes, hspells, hopens⟩
        have hm := (hspells.manifest m).mpr rfl
        refine ⟨id, hselected, envelope, ?_, rfl, rfl⟩
        rw [assemble_of_manifest F sha256 hholds hm,
          (assembleBytes_eq_ok_iff hclean hholds hm).mpr hspells, Outcome.ok_bind]
        exact (openEnvelope_eq_ok_iff (hclean.valid _ hm)).mpr hopens
    · simp only [hclean, false_and, and_false, iff_false]
      rcases collect_cases F requested contents with ⟨hc, -⟩ | ⟨-, hcollect⟩
      · exact absurd hc hclean
      · intro hunpack
        rw [unpackEnvelope, hrequested, Outcome.ok_bind, Outcome.bind_eq_ok] at hunpack
        obtain ⟨table, htable, -⟩ := hunpack
        exact hcollect table htable
  · simp only [hrequested, false_and, iff_false]
    intro h
    rw [unpackEnvelope, Outcome.bind_eq_ok, Outcome.exists_unit] at h
    exact hrequested h.1

end TokenStudio
