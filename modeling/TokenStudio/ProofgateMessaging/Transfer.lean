import TokenStudio.AttestationVerifier.Soundness
import TokenStudio.ProofgateMessaging.Assembly

/-!
# Transfers between an honest sender and any receiver

Three results about a bundle of `pack_envelope_with_id`.

* `pack_eq_ok_iff`.  The messages of a bundle are the texts of its bodies, first the
  chunks of the envelope in order and then the manifest.
* `unpack_of_delivery`.  A receiver that has some of these messages, in any order
  and any number of copies, and any content that is no message of the transfer,
  gets the envelope as soon as it has all of them.  Before that it gets one of the
  two errors on which polling goes on.
* `unpack_integrity`.  A receiver that returns an envelope has one manifest, all
  chunks that it counts and no others, and their bytes are those of the manifest.
  So when the manifest is that of an honest bundle, the envelope is the one that
  was sent, whatever else the receiver was given.
-/

namespace TokenStudio

/-- What the transfer relies on: `serde_json` reads back what it has written, and
an empty input is no JSON. -/
structure Formats.Lawful (F : Formats) : Prop where
  message : ∀ message text, F.messageToString message = .ok text →
    F.messageFromStr text = some message
  envelope : ∀ doc bytes, F.envelopeToVec doc = .ok bytes → F.envelopeFromSlice bytes = doc.read
  empty : F.envelopeFromSlice [] = .fail

/-- The manifest message of a bundle, which is its last one. -/
def TransferBundle.commit (bundle : TransferBundle) : Option String := bundle.messages.getLast?

/-! ## Chunks of a byte string -/

theorem flatten_range_chunks (size count : Nat) (bytes : Bytes) :
    ((List.range count).map fun index => (bytes.drop (index * size)).take size).flatten =
      bytes.take (count * size) := by
  induction count with
  | zero => simp
  | succ count ih =>
    rw [List.range_succ, List.map_append, List.flatten_append, ih, Nat.succ_mul, List.take_add]
    simp

/-- The chunks of a byte string, one after the other. -/
theorem flatten_byteChunks {size : Nat} (hsize : 1 ≤ size) (bytes : Bytes) :
    (byteChunks size bytes).flatten = bytes := by
  have hle : bytes.length ≤ (bytes.length + (size - 1)) / size * size := by
    have hdiv := Nat.div_add_mod (bytes.length + (size - 1)) size
    have hmod := Nat.mod_lt (bytes.length + (size - 1)) (show 0 < size by omega)
    rw [Nat.mul_comm] at hdiv
    omega
  rw [byteChunks, flatten_range_chunks, List.take_of_length_le hle]

theorem length_le_of_mem_byteChunks {size : Nat} {bytes part : Bytes}
    (h : part ∈ byteChunks size bytes) : part.length ≤ size := by
  obtain ⟨index, -, rfl⟩ := List.mem_map.mp h
  exact List.length_take_le _ _

theorem byteChunks_ne_nil {size : Nat} (hsize : 1 ≤ size) {bytes : Bytes} (h : bytes ≠ []) :
    byteChunks size bytes ≠ [] := by
  intro hnil
  have hflat := flatten_byteChunks hsize bytes
  rw [hnil] at hflat
  exact h hflat.symm

/-! ## The sender -/

/-- The manifest of an envelope with these bytes. -/
def packedManifest (sha256 : Bytes → Digest32) (envelope : AttestationEnvelope)
    (bytes : Bytes) (challengeDigest : Digest32) (count : Nat) : Manifest where
  envelopeSha256 := digestToHex (sha256 bytes)
  envelopeBytes := UInt64.ofNat bytes.length
  chunkCount := UInt32.ofNat count
  contextHash := digestToHex envelope.contextHash
  challengeDigest := digestToHex challengeDigest

/-- Chunk number `index`. -/
def packedChunk (count index : Nat) (part : Bytes) : WireBody :=
  .chunk (UInt32.ofNat index)
    { chunkCount := UInt32.ofNat count, dataBase64 := base64Encode part }

/-- The bodies of a bundle. -/
def packedBodies (sha256 : Bytes → Digest32) (envelope : AttestationEnvelope)
    (chunkBytes : Nat) (bytes : Bytes) (challengeDigest : Digest32) : List WireBody :=
  (byteChunks chunkBytes bytes).zipIdx.map (fun p =>
      packedChunk (byteChunks chunkBytes bytes).length p.2 p.1) ++
    [.manifest (packedManifest sha256 envelope bytes challengeDigest
      (byteChunks chunkBytes bytes).length)]

/-- What a sender has when it succeeds. -/
structure Packed (F : Formats) (sha256 : Bytes → Digest32) (envelope : AttestationEnvelope)
    (chunkBytes : Nat) (id : String) (bundle : TransferBundle) (bytes : Bytes)
    (challengeDigest : Digest32) : Prop where
  transport : envelope.transport = .logosMessaging
  chunkBytes_pos : 1 ≤ chunkBytes
  chunkBytes_le : chunkBytes ≤ maxChunkBytes
  transferId : validateTransferId id = .ok ()
  serialized : F.envelopeToVec envelope.serialize = .ok bytes
  bytes_le : bytes.length ≤ maxTransferBytes
  chunks_le : (byteChunks chunkBytes bytes).length ≤ maxChunks
  digest : envelope.challenge.digest sha256 = some challengeDigest
  messages : List.Forall₂ (fun body text => F.messageToString (transferMessage id body) = .ok text)
    (packedBodies sha256 envelope chunkBytes bytes challengeDigest) bundle.messages

theorem encoded_eq_ok {α : Type} {x : Except String α} {a : α} :
    encoded x = .ok a ↔ x = .ok a := by
  cases x <;> simp [encoded]

theorem u32FromLength_eq_some {length : Nat} {x : UInt32} :
    u32FromLength length = some x ↔ length < 2 ^ 32 ∧ UInt32.ofNat length = x := by
  unfold u32FromLength
  split <;> simp_all

theorem u64FromLength_eq_some {length : Nat} {x : UInt64} :
    u64FromLength length = some x ↔ length < 2 ^ 64 ∧ UInt64.ofNat length = x := by
  unfold u64FromLength
  split <;> simp_all

/-- A list that is related to one with a last element has a last element too. -/
theorem forall₂_concat_left_iff {α β : Type} {R : α → β → Prop} {xs : List α} {x : α}
    {ys : List β} :
    List.Forall₂ R (xs ++ [x]) ys ↔ ∃ ys' y, List.Forall₂ R xs ys' ∧ R x y ∧ ys = ys' ++ [y] := by
  constructor
  · intro h
    have hreverse := List.forall₂_reverse_iff.mpr h
    rw [List.reverse_append, List.reverse_singleton, List.singleton_append,
      List.forall₂_cons_left_iff] at hreverse
    obtain ⟨y, rest, hy, hrest, hys⟩ := hreverse
    refine ⟨rest.reverse, y, ?_, hy, ?_⟩
    · rw [← List.forall₂_reverse_iff, List.reverse_reverse]
      exact hrest
    · rw [← List.reverse_reverse ys, hys, List.reverse_cons]
  · rintro ⟨ys', y, hys', hy, rfl⟩
    exact List.rel_append hys' (.cons hy .nil)

/-- A sender succeeds exactly when it has the texts of all bodies. -/
theorem pack_eq_ok_iff {F : Formats} {sha256 : Bytes → Digest32} {envelope : AttestationEnvelope}
    {chunkBytes : Nat} {id : String} {bundle : TransferBundle} :
    packEnvelopeWithId F sha256 envelope chunkBytes id = .ok bundle ↔
      bundle.transferId = id ∧ ∃ bytes challengeDigest,
        Packed F sha256 envelope chunkBytes id bundle bytes challengeDigest := by
  simp only [packEnvelopeWithId, Outcome.bind_eq_ok, Outcome.check_eq_ok, Outcome.exists_unit,
    ne_eq, not_not, Nat.not_lt, encoded_eq_ok, Outcome.liftM_eq, Outcome.ofOption_eq_ok,
    u32FromLength_eq_some, u64FromLength_eq_some, Outcome.mapM_eq_ok, encodeWireMessage,
    encodeChunk, Outcome.pure_eq, Outcome.ok.injEq]
  constructor
  · rintro ⟨htransport, ⟨hpos, hle⟩, hid, bytes, hbytes, hbytesLe, hchunksLe, _, ⟨-, rfl⟩, texts,
      htexts, _, ⟨-, rfl⟩, digest, hdigest, manifestText, hmanifest, rfl⟩
    refine ⟨rfl, bytes, digest, htransport, hpos, hle, hid, hbytes, hbytesLe, hchunksLe, hdigest,
      ?_⟩
    refine forall₂_concat_left_iff.mpr ⟨texts, manifestText, ?_, hmanifest, rfl⟩
    rw [List.forall₂_map_left_iff]
    refine htexts.imp ?_
    rintro ⟨part, index⟩ text ⟨_, ⟨-, rfl⟩, htext⟩
    exact htext
  · rintro ⟨rfl, bytes, digest, htransport, hpos, hle, hid, hbytes, hbytesLe, hchunksLe, hdigest,
      hmessages⟩
    obtain ⟨texts, manifestText, htexts, hmanifest, htext⟩ := forall₂_concat_left_iff.mp hmessages
    have hcount : (byteChunks chunkBytes bytes).length < 2 ^ 32 := by
      unfold maxChunks at hchunksLe
      omega
    have hlength : bytes.length < 2 ^ 64 := by
      unfold maxTransferBytes at hbytesLe
      omega
    refine ⟨htransport, ⟨hpos, hle⟩, hid, bytes, hbytes, hbytesLe, hchunksLe, _, ⟨hcount, rfl⟩,
      texts, ?_, _, ⟨hlength, rfl⟩, digest, hdigest, manifestText, hmanifest, ?_⟩
    · -- The indexes are below the number of chunks, so their conversion succeeds.
      rw [List.forall₂_map_left_iff] at htexts
      rw [List.forall₂_iff_get] at htexts ⊢
      refine ⟨htexts.1, ?_⟩
      intro k hk hk'
      have hindex : k < (byteChunks chunkBytes bytes).length := by simpa using hk
      refine ⟨_, ⟨?_, rfl⟩, htexts.2 k hk hk'⟩
      simp only [List.get_eq_getElem, List.getElem_zipIdx]
      omega
    · rw [← htext]

namespace Packed

variable {F : Formats} {sha256 : Bytes → Digest32} {envelope : AttestationEnvelope}
  {chunkBytes : Nat} {id : String} {bundle : TransferBundle} {bytes : Bytes}
  {challengeDigest : Digest32}

/-- The manifest of the bundle. -/
abbrev manifest (_ : Packed F sha256 envelope chunkBytes id bundle bytes challengeDigest) :
    Manifest :=
  packedManifest sha256 envelope bytes challengeDigest (byteChunks chunkBytes bytes).length

/-- The bodies of the bundle. -/
abbrev bodies (_ : Packed F sha256 envelope chunkBytes id bundle bytes challengeDigest) :
    List WireBody :=
  packedBodies sha256 envelope chunkBytes bytes challengeDigest

variable (h : Packed F sha256 envelope chunkBytes id bundle bytes challengeDigest)

include h

theorem mem_bodies {body : WireBody} :
    body ∈ h.bodies ↔
      (∃ index part, (byteChunks chunkBytes bytes)[index]? = some part ∧
        body = packedChunk (byteChunks chunkBytes bytes).length index part) ∨
      body = .manifest h.manifest := by
  simp only [bodies, packedBodies, List.mem_append, List.mem_map, List.mem_singleton, Prod.exists,
    List.mem_zipIdx_iff_getElem?]
  constructor
  · rintro (⟨part, index, hpart, rfl⟩ | rfl)
    · exact Or.inl ⟨index, part, hpart, rfl⟩
    · exact Or.inr rfl
  · rintro (⟨index, part, hpart, rfl⟩ | rfl)
    · exact Or.inl ⟨part, index, hpart, rfl⟩
    · exact Or.inr rfl

/-- Every body has a text in the bundle. -/
theorem exists_message {body : WireBody} (hbody : body ∈ h.bodies) :
    ∃ text ∈ bundle.messages, F.messageToString (transferMessage id body) = .ok text := by
  obtain ⟨i, hi, rfl⟩ := List.mem_iff_getElem.mp hbody
  obtain ⟨hlen, hall⟩ := List.forall₂_iff_get.mp h.messages
  have hi' : i < bundle.messages.length := by rw [← hlen]; exact hi
  exact ⟨_, List.getElem_mem hi', hall i hi hi'⟩

/-- The texts of the bundle are the texts of its bodies. -/
theorem mem_messages {text : String} :
    text ∈ bundle.messages ↔
      ∃ body ∈ h.bodies, F.messageToString (transferMessage id body) = .ok text := by
  constructor
  · intro htext
    obtain ⟨i, hi, rfl⟩ := List.mem_iff_getElem.mp htext
    obtain ⟨hlen, hall⟩ := List.forall₂_iff_get.mp h.messages
    have hi' : i < h.bodies.length := by rw [hlen]; exact hi
    exact ⟨_, List.getElem_mem hi', hall i hi' hi⟩
  · rintro ⟨body, hbody, htext⟩
    obtain ⟨text', hmem, htext'⟩ := h.exists_message hbody
    rw [← Except.ok.inj (htext'.symm.trans htext)]
    exact hmem

/-- The last text is that of the manifest. -/
theorem commit_eq : ∃ text, bundle.commit = some text ∧
    F.messageToString (transferMessage id (.manifest h.manifest)) = .ok text := by
  obtain ⟨texts, text, -, htext, hmessages⟩ := forall₂_concat_left_iff.mp h.messages
  refine ⟨text, ?_, htext⟩
  rw [TransferBundle.commit, hmessages, List.getLast?_concat]

/-- The chunks that the manifest counts. -/
theorem chunkCount_toNat : h.manifest.chunkCount.toNat = (byteChunks chunkBytes bytes).length := by
  have hle := h.chunks_le
  apply UInt32.toNat_ofNat_of_lt'
  show (byteChunks chunkBytes bytes).length < 2 ^ 32
  unfold maxChunks at hle
  omega

theorem envelopeBytes_toNat : h.manifest.envelopeBytes.toNat = bytes.length := by
  have hle := h.bytes_le
  apply UInt64.toNat_ofNat_of_lt'
  show bytes.length < 2 ^ 64
  unfold maxTransferBytes at hle
  omega

/-- The index of a chunk that the bundle has. -/
theorem index_toNat {index : Nat} {part : Bytes}
    (hpart : (byteChunks chunkBytes bytes)[index]? = some part) :
    index < (byteChunks chunkBytes bytes).length ∧ (UInt32.ofNat index).toNat = index := by
  have hle := h.chunks_le
  have hlt := (List.getElem?_eq_some_iff.mp hpart).1
  refine ⟨hlt, UInt32.toNat_ofNat_of_lt' ?_⟩
  show index < 2 ^ 32
  unfold maxChunks at hle
  omega

/-- The bounds of the sender are those of the receiver. -/
theorem valid_of_mem_bodies (hne : bytes ≠ []) {body : WireBody} (hbody : body ∈ h.bodies) :
    validateWireBody body = .ok () := by
  have hpos : byteChunks chunkBytes bytes ≠ [] := byteChunks_ne_nil h.chunkBytes_pos hne
  have hlength : (byteChunks chunkBytes bytes).length ≠ 0 := by
    simpa using hpos
  have hcount := h.chunkCount_toNat
  have hnonzero : h.manifest.chunkCount ≠ 0 := by
    intro hzero
    rw [hzero] at hcount
    exact hlength hcount.symm
  have hchunks := h.chunks_le
  rcases h.mem_bodies.mp hbody with ⟨index, part, hpart, rfl⟩ | rfl
  · obtain ⟨hlt, hindex⟩ := h.index_toNat hpart
    have hpartLe : part.length ≤ chunkBytes :=
      length_le_of_mem_byteChunks (List.mem_of_getElem? hpart)
    have hencoded : (asBytes (base64Encode part)).length ≤ maxEncodedChunkBytes := by
      have hle := h.chunkBytes_le
      rw [base64Encode_length]
      unfold maxEncodedChunkBytes
      omega
    have horder : UInt32.ofNat index < h.manifest.chunkCount := by
      rw [UInt32.lt_iff_toNat_lt, hcount, hindex]
      exact hlt
    simp only [packedChunk, validateWireBody, Outcome.check_eq_ok, not_or]
    refine ⟨hnonzero, ?_, ?_, ?_⟩
    · rw [Nat.not_lt]
      exact hcount.trans_le hchunks
    · exact UInt32.not_le.mpr horder
    · rw [Nat.not_lt]
      exact hencoded
  · simp only [validateWireBody, Outcome.bind_eq_ok, Outcome.check_eq_ok, Outcome.exists_unit,
      not_or]
    refine ⟨⟨hnonzero, ?_, ?_⟩, false, ?_, by simp⟩
    · rw [Nat.not_lt]
      exact hcount.trans_le hchunks
    · rw [Nat.not_lt]
      exact h.envelopeBytes_toNat.trans_le h.bytes_le
    · rw [anyDigestInvalid_eq_false_iff]
      simp [packedManifest, digestFromHex_digestToHex]

/-- The bodies of a bundle do not disagree. -/
theorem agrees_of_mem_bodies {body body' : WireBody} (hbody : body ∈ h.bodies)
    (hbody' : body' ∈ h.bodies) : Agrees (id, body) (id, body') := by
  intro _
  rcases h.mem_bodies.mp hbody with ⟨index, part, hpart, rfl⟩ | rfl <;>
    rcases h.mem_bodies.mp hbody' with ⟨index', part', hpart', rfl⟩ | rfl
  · intro hindex
    have hsame : index = index' := by
      rw [← (h.index_toNat hpart).2, ← (h.index_toNat hpart').2, hindex]
    subst hsame
    rw [Option.some.inj (hpart.symm.trans hpart')]
  · exact True.intro
  · exact True.intro
  · rfl

/-- Deliveries that are all bodies of one bundle are clean. -/
theorem clean_of_bodies (hne : bytes ≠ []) {ds : List Delivery}
    (hds : ∀ d ∈ ds, d.1 = id ∧ d.2 ∈ h.bodies) : Clean ds := by
  refine ⟨fun d hd => h.valid_of_mem_bodies hne (hds d hd).2, ?_⟩
  rintro ⟨id₁, body₁⟩ hd₁ ⟨id₂, body₂⟩ hd₂
  obtain ⟨rfl, hbody₁⟩ := hds _ hd₁
  obtain ⟨hid, hbody₂⟩ := hds _ hd₂
  obtain rfl : id₂ = _ := hid
  exact h.agrees_of_mem_bodies hbody₁ hbody₂

/-- All bodies of the bundle, and no others, spell the bytes of the envelope. -/
theorem spells {has : WireBody → Prop} (hall : ∀ body, has body ↔ body ∈ h.bodies) :
    Spells sha256 has h.manifest bytes where
  manifest := by
    intro m
    rw [hall, h.mem_bodies]
    simp [packedChunk]
  chunks := by
    refine ⟨(byteChunks chunkBytes bytes).map base64Encode, byteChunks chunkBytes bytes, ?_, ?_,
      ?_, ?_, flatten_byteChunks h.chunkBytes_pos bytes⟩
    · rw [List.length_map, h.chunkCount_toNat]
    · intro i c
      rw [hall, h.mem_bodies]
      simp only [packedChunk, WireBody.chunk.injEq, reduceCtorEq, or_false, List.getElem?_map,
        Option.map_eq_some_iff]
      constructor
      · rintro ⟨index, part, hpart, rfl, rfl⟩
        exact ⟨_, ⟨part, by rw [(h.index_toNat hpart).2]; exact hpart, rfl⟩, rfl⟩
      · rintro ⟨_, ⟨part, hpart, rfl⟩, rfl⟩
        exact ⟨i.toNat, part, hpart, UInt32.ofNat_toNat.symm, rfl⟩
    · induction byteChunks chunkBytes bytes with
      | nil => rfl
      | cons part parts ih => simp [List.mapM_cons, ih]
    · intro part hpart
      exact (length_le_of_mem_byteChunks hpart).trans h.chunkBytes_le
  length := h.envelopeBytes_toNat.symm
  hash := rfl

/-- The bytes of the envelope hold it. -/
theorem opens (hF : F.Lawful) : Opens F sha256 h.manifest bytes envelope where
  parsed := by
    rw [hF.envelope _ _ h.serialized, EnvelopeDoc.result_read_serialize]
  transport := h.transport
  context := rfl
  challenge := ⟨challengeDigest, h.digest, rfl⟩

/-- An envelope has at least one byte. -/
theorem bytes_ne_nil (hF : F.Lawful) : bytes ≠ [] := by
  rintro rfl
  have hread := hF.envelope _ _ h.serialized
  have hresult := EnvelopeDoc.result_read_serialize envelope
  rw [← hread, hF.empty] at hresult
  exact absurd hresult (by simp [Deserialized.result, Callback.run])

/-- A receiver of messages of the bundle, among contents that are no messages of
the transfer, has the bodies whose texts it got. -/
theorem mem_deliveries_iff (hF : F.Lawful) {contents : List String}
    (hcontents : ∀ content ∈ contents, content ∈ bundle.messages ∨
      ∀ body, F.messageFromStr content ≠ some (transferMessage id body))
    {id' : String} {body : WireBody} :
    (id', body) ∈ deliveries F (some id) contents ↔
      id' = id ∧ body ∈ h.bodies ∧
        ∃ text ∈ contents, F.messageToString (transferMessage id body) = .ok text := by
  rw [mem_deliveries]
  constructor
  · rintro ⟨⟨content, hmem, hparsed⟩, -, hid⟩
    obtain rfl : id = id' := hid id rfl
    rcases hcontents content hmem with hbundle | hother
    · obtain ⟨body', hbody', htext⟩ := h.mem_messages.mp hbundle
      have hparsed' := hF.message _ _ htext
      have hsame : body' = body := congrArg WireMessage.body
        (Option.some.inj (hparsed'.symm.trans hparsed))
      subst hsame
      exact ⟨rfl, hbody', content, hmem, htext⟩
    · exact absurd hparsed (hother body)
  · rintro ⟨rfl, -, text, hmem, htext⟩
    refine ⟨⟨text, hmem, hF.message _ _ htext⟩, h.transferId, ?_⟩
    intro r hr
    exact (Option.some.inj hr).symm

theorem manifest_mem_bodies : .manifest h.manifest ∈ h.bodies :=
  h.mem_bodies.mpr (Or.inr rfl)

theorem eq_manifest_of_mem {m : Manifest} (hm : .manifest m ∈ h.bodies) : m = h.manifest := by
  rcases h.mem_bodies.mp hm with ⟨index, part, -, hbody⟩ | hbody
  · simp [packedChunk] at hbody
  · exact WireBody.manifest.inj hbody

/-- A receiver with the manifest that misses a text of the bundle misses a
chunk. -/
theorem size_ne_of_missing {contents : List String} {ds : List Delivery} {table : Transfers}
    (hds : ∀ {id' body}, (id', body) ∈ ds ↔ id' = id ∧ body ∈ h.bodies ∧
      ∃ text ∈ contents, F.messageToString (transferMessage id body) = .ok text)
    (hholds : table.Holds ds) (hm : (id, .manifest h.manifest) ∈ ds) {text : String}
    (htext : text ∈ bundle.messages) (hmissing : text ∉ contents) :
    (table.entry id).chunks.size ≠ h.manifest.chunkCount.toNat := by
  -- A body whose text is `text` was not received.
  have hlost : ∀ {body}, F.messageToString (transferMessage id body) = .ok text →
      (id, body) ∉ ds := by
    intro body hbody hd
    obtain ⟨-, -, text', hmem, htext'⟩ := hds.mp hd
    rw [Except.ok.inj (htext'.symm.trans hbody)] at hmem
    exact hmissing hmem
  obtain ⟨body, hbody, hbodyText⟩ := h.mem_messages.mp htext
  rcases h.mem_bodies.mp hbody with ⟨index, part, hpart, rfl⟩ | rfl
  · obtain ⟨hlt, -⟩ := h.index_toNat hpart
    have hcount := h.chunkCount_toNat
    refine size_ne_of_notMem ?_ (hcount ▸ hlt) ?_ (by have := h.manifest.chunkCount.toNat_lt; omega)
    · intro i hi
      obtain ⟨c, hc⟩ := Option.isSome_iff_exists.mp
        (Std.ExtTreeMap.mem_iff_isSome_getElem?.mp hi)
      obtain ⟨-, hbody', -⟩ := hds.mp ((hholds.chunk id i c).mp hc)
      rcases h.mem_bodies.mp hbody' with ⟨index', part', hpart', heq⟩ | heq
      · obtain ⟨rfl, -⟩ := WireBody.chunk.inj heq
        rw [(h.index_toNat hpart').2, hcount]
        exact (h.index_toNat hpart').1
      · simp at heq
    · intro hi
      obtain ⟨c, hc⟩ := Option.isSome_iff_exists.mp
        (Std.ExtTreeMap.mem_iff_isSome_getElem?.mp hi)
      have hd := (hholds.chunk id _ c).mp hc
      have hsame := h.agrees_of_mem_bodies (hds.mp hd).2.1 hbody rfl rfl
      subst hsame
      exact hlost hbodyText hd
  · exact absurd hm (hlost hbodyText)

section

variable {contents : List String} (hF : F.Lawful)
  (hcontents : ∀ content ∈ contents, content ∈ bundle.messages ∨
    ∀ body, F.messageFromStr content ≠ some (transferMessage id body))

include hF hcontents

/-- A receiver of messages of the bundle never stops in the loop. -/
theorem clean_deliveries : Clean (deliveries F (some id) contents) := by
  apply h.clean_of_bodies (h.bytes_ne_nil hF)
  intro d hd
  have hbody := (h.mem_deliveries_iff hF hcontents).mp hd
  exact ⟨hbody.1, hbody.2.1⟩

/-- A receiver of the whole bundle has the envelope. -/
theorem unpack_of_all (hall : ∀ text ∈ bundle.messages, text ∈ contents) :
    unpackEnvelope F sha256 contents (some id) = .ok (id, envelope) := by
  refine unpackEnvelope_eq_ok_iff.mpr ⟨h.transferId, h.clean_deliveries hF hcontents, rfl,
    h.manifest, bytes, h.spells ?_, h.opens hF⟩
  intro body
  rw [h.mem_deliveries_iff hF hcontents]
  refine ⟨fun hbody => hbody.2.1, fun hbody => ⟨rfl, hbody, ?_⟩⟩
  obtain ⟨text, hmem, htext⟩ := h.exists_message hbody
  exact ⟨text, hall text hmem, htext⟩

/-- A receiver without the manifest. -/
theorem unpack_of_no_commit (hlate : ∀ text ∈ bundle.commit, text ∉ contents) :
    unpackEnvelope F sha256 contents (some id) = .err .noTransfer := by
  obtain ⟨table, hholds, hunpack⟩ := @unpackEnvelope_of_clean F sha256 contents (some id)
    h.transferId (h.clean_deliveries hF hcontents)
  obtain ⟨commit, hcommit, hcommitText⟩ := h.commit_eq
  have hno : ∀ m, (id, WireBody.manifest m) ∉ deliveries F (some id) contents := by
    intro m hm
    obtain ⟨-, hbody, text, hmem, htext⟩ := (h.mem_deliveries_iff hF hcontents).mp hm
    rw [h.eq_manifest_of_mem hbody, hcommitText] at htext
    rw [← Except.ok.inj htext] at hmem
    exact hlate commit hcommit hmem
  have hselected : selectedTransfer F contents (some id) = some id := rfl
  rw [hunpack, hselected, Outcome.okOr_some, Outcome.ok_bind,
    assemble_of_no_manifest F sha256 hholds hno, Outcome.err_bind]

/-- A receiver with the manifest but not with every chunk. -/
theorem unpack_of_missing (hearly : ∃ text ∈ bundle.commit, text ∈ contents)
    (hmissing : ∃ text ∈ bundle.messages, text ∉ contents) :
    ∃ received expected, unpackEnvelope F sha256 contents (some id) =
      .err (.incompleteTransfer id received expected) := by
  have hclean := h.clean_deliveries hF hcontents
  obtain ⟨table, hholds, hunpack⟩ := @unpackEnvelope_of_clean F sha256 contents (some id)
    h.transferId hclean
  obtain ⟨commit, hcommit, hcommitText⟩ := h.commit_eq
  obtain ⟨text, htext, hmem⟩ := hearly
  obtain rfl : commit = text := Option.some.inj (hcommit.symm.trans htext)
  have hm : (id, WireBody.manifest h.manifest) ∈ deliveries F (some id) contents :=
    (h.mem_deliveries_iff hF hcontents).mpr ⟨rfl, h.manifest_mem_bodies, commit, hmem, hcommitText⟩
  obtain ⟨text, htext, hnot⟩ := hmissing
  have hsize := h.size_ne_of_missing (h.mem_deliveries_iff hF hcontents) hholds hm htext hnot
  have hselected : selectedTransfer F contents (some id) = some id := rfl
  rw [hunpack, hselected, Outcome.okOr_some, Outcome.ok_bind,
    assemble_of_manifest F sha256 hholds hm,
    assembleBytes_of_size_ne F sha256 _ id (hclean.valid _ hm) hsize]
  exact ⟨_, _, rfl⟩

end

end Packed

/-! ## Any delivery -/

/-- A receiver that was given messages of one bundle, in any order and any number
of copies, and contents that are no messages of the transfer.  It returns the
envelope when it has the whole bundle.  Otherwise it returns one of the two errors
on which polling goes on. -/
theorem unpack_of_delivery {F : Formats} (hF : F.Lawful) {sha256 : Bytes → Digest32}
    {envelope : AttestationEnvelope} {chunkBytes : Nat} {id : String} {bundle : TransferBundle}
    (hpack : packEnvelopeWithId F sha256 envelope chunkBytes id = .ok bundle)
    {contents : List String}
    (hcontents : ∀ content ∈ contents, content ∈ bundle.messages ∨
      ∀ body, F.messageFromStr content ≠ some (transferMessage id body)) :
    ((∀ text ∈ bundle.messages, text ∈ contents) →
        unpackEnvelope F sha256 contents (some id) = .ok (id, envelope)) ∧
      ((∃ text ∈ bundle.messages, text ∉ contents) →
        ((∀ text ∈ bundle.commit, text ∉ contents) →
          unpackEnvelope F sha256 contents (some id) = .err .noTransfer) ∧
        ((∃ text ∈ bundle.commit, text ∈ contents) →
          ∃ received expected, unpackEnvelope F sha256 contents (some id) =
            .err (.incompleteTransfer id received expected))) := by
  obtain ⟨-, bytes, challengeDigest, h⟩ := pack_eq_ok_iff.mp hpack
  refine ⟨h.unpack_of_all hF hcontents, fun hmissing => ⟨?_, ?_⟩⟩
  · exact h.unpack_of_no_commit hF hcontents
  · intro hearly
    exact h.unpack_of_missing hF hcontents hearly hmissing

/-! ### A delivery

The JSON texts of messages and envelopes without characters to escape, as
`serde_json` writes them, and the `Formats` that know some texts and no others. -/

/-- The fields of a message before its kind. -/
def WireMessage.jsonHead (protocol : String) (version : UInt16) (transferId : String) : String :=
  "\x7b" ++ ("\"protocol\":\"" ++ protocol ++ "\",\"version\":" ++ toString version.toNat ++
    ",\"transfer_id\":\"" ++ transferId ++ "\",\"kind\":\"")

/-- The kind of a message and the fields of its body. -/
def WireBody.toJson : WireBody → String
  | .manifest m => "manifest" ++ ("\",\"envelope_sha256\":\"" ++ m.envelopeSha256 ++
      "\",\"envelope_bytes\":" ++ toString m.envelopeBytes.toNat ++ ",\"chunk_count\":" ++
      toString m.chunkCount.toNat ++ ",\"context_hash\":\"" ++ m.contextHash ++
      "\",\"challenge_digest\":\"" ++ m.challengeDigest ++ "\"\x7d")
  | .chunk i c => "chunk" ++ ("\",\"chunk_index\":" ++ (toString i.toNat ++
      (",\"chunk_count\":" ++ toString c.chunkCount.toNat ++ ",\"data_base64\":\"" ++
        c.dataBase64 ++ "\"\x7d")))

/-- The JSON text of a message. -/
def WireMessage.toJson (message : WireMessage) : String :=
  WireMessage.jsonHead message.protocol message.version message.transferId ++ message.body.toJson

theorem toJson_transferMessage_inj {id : String} {body body' : WireBody} :
    (transferMessage id body).toJson = (transferMessage id body').toJson ↔
      body.toJson = body'.toJson := by
  unfold WireMessage.toJson transferMessage
  rw [String.append_right_inj]

/-- The JSON text of a journal that expires. -/
def JournalDoc.toJson (doc : JournalDoc) (expiry : UInt64) : String :=
  "\x7b\"version\":" ++ toString doc.version.toNat ++ ",\"context_hash\":\"" ++
    doc.contextHash ++ "\",\"token_program_owner\":\"" ++ doc.tokenProgramOwner ++
    "\",\"token_definition_id\":\"" ++ doc.tokenDefinitionId ++ "\",\"threshold\":" ++
    toString doc.threshold.toNat ++ ",\"commitment_root\":\"" ++ doc.commitmentRoot ++
    "\",\"presenter_public_key\":\"" ++ doc.presenterPublicKey ++
    "\",\"issued_at_unix_ms\":" ++ toString doc.issuedAtUnixMs.toNat ++
    ",\"expires_at_unix_ms\":" ++ toString expiry.toNat ++ "\x7d"

/-- The JSON text of a challenge. -/
def ChallengeDoc.toJson (doc : ChallengeDoc) : String :=
  "\x7b\"version\":" ++ toString doc.version.toNat ++ ",\"gate_context_hash\":\"" ++
    doc.gateContextHash ++ "\",\"expected_commitment_root\":\"" ++
    doc.expectedCommitmentRoot ++ "\",\"verifier_id\":\"" ++ doc.verifierId ++
    "\",\"nonce\":\"" ++ doc.nonce ++ "\",\"issued_at_unix_ms\":" ++
    toString doc.issuedAtUnixMs.toNat ++ ",\"expires_at_unix_ms\":" ++
    toString doc.expiresAtUnixMs.toNat ++ "\x7d"

/-- The JSON text of an envelope with the transport `LogosMessaging` and a journal
that expires. -/
def EnvelopeDoc.toJson (doc : EnvelopeDoc) (expiry : UInt64) : String :=
  "\x7b\"journal\":" ++ doc.journal.toJson expiry ++ ",\"receipt\":\"" ++ doc.receipt ++
    "\",\"challenge\":" ++ doc.challenge.toJson ++ ",\"presenter_signature\":\"" ++
    doc.presenterSignature ++ "\",\"transport\":\"LogosMessaging\"\x7d"

/-- The formats that know the given texts. -/
def Formats.ofTexts (messages : List (WireMessage × String))
    (envelopes : List (EnvelopeDoc × Bytes)) (challenges : List (ChallengeWireDoc × String)) :
    Formats where
  messageToString message :=
    match messages.find? (·.1 = message) with
    | some p => .ok p.2
    | none => .error "unknown message"
  messageFromStr text := (messages.find? (·.2 = text)).map Prod.fst
  envelopeToVec doc :=
    match envelopes.find? (·.1 = doc) with
    | some p => .ok p.2
    | none => .error "unknown envelope"
  envelopeFromSlice bytes :=
    match envelopes.find? (·.2 = bytes) with
    | some p => p.1.read
    | none => .fail
  envelopeError _ := "expected value at line 1 column 1"
  challengeToString doc :=
    match challenges.find? (·.1 = doc) with
    | some p => .ok p.2
    | none => .error "unknown challenge"
  challengeFromStr text :=
    match challenges.find? (·.2 = text) with
    | some p => p.1.read
    | none => .fail
  base64Error _ := "Invalid padding"

/-- A table with different texts is read back. -/
theorem find?_snd_of_find?_fst {α β : Type} [DecidableEq α] [DecidableEq β] {table : List (α × β)}
    (htable : ∀ p ∈ table, ∀ q ∈ table, p.2 = q.2 → p = q) {a : α} {p : α × β}
    (h : table.find? (·.1 = a) = some p) : table.find? (·.2 = p.2) = some p ∧ p.1 = a := by
  have hmem := List.mem_of_find?_eq_some h
  have hfst : p.1 = a := by simpa using List.find?_some h
  refine ⟨?_, hfst⟩
  cases hfind : table.find? (·.2 = p.2) with
  | none => exact absurd (List.find?_eq_none.mp hfind p hmem) (by simp)
  | some q =>
    have hsnd : q.2 = p.2 := by simpa using List.find?_some hfind
    rw [htable q (List.mem_of_find?_eq_some hfind) p hmem hsnd]

theorem Formats.ofTexts_lawful {messages : List (WireMessage × String)}
    {envelopes : List (EnvelopeDoc × Bytes)} {challenges : List (ChallengeWireDoc × String)}
    (hmessages : ∀ p ∈ messages, ∀ q ∈ messages, p.2 = q.2 → p = q)
    (henvelopes : ∀ p ∈ envelopes, ∀ q ∈ envelopes, p.2 = q.2 → p = q)
    (hempty : ∀ p ∈ envelopes, p.2 ≠ []) :
    (Formats.ofTexts messages envelopes challenges).Lawful where
  message := by
    intro message text h
    simp only [Formats.ofTexts] at h ⊢
    cases hfind : messages.find? (·.1 = message) with
    | none => simp [hfind] at h
    | some p =>
      rw [hfind] at h
      obtain ⟨hsnd, hfst⟩ := find?_snd_of_find?_fst hmessages hfind
      rw [← Except.ok.inj h, hsnd, Option.map_some, hfst]
  envelope := by
    intro doc bytes h
    simp only [Formats.ofTexts] at h ⊢
    cases hfind : envelopes.find? (·.1 = doc) with
    | none => simp [hfind] at h
    | some p =>
      rw [hfind] at h
      obtain ⟨hsnd, hfst⟩ := find?_snd_of_find?_fst henvelopes hfind
      rw [← Except.ok.inj h, hsnd, ← hfst]
  empty := by
    simp only [Formats.ofTexts]
    cases hfind : envelopes.find? (·.2 = []) with
    | none => rfl
    | some p =>
      have hsnd : p.2 = [] := by simpa using List.find?_some hfind
      exact absurd hsnd (hempty p (List.mem_of_find?_eq_some hfind))

/-- The messages of an envelope with these bytes. -/
def packedMessages (sha256 : Bytes → Digest32) (envelope : AttestationEnvelope)
    (chunkBytes : Nat) (id : String) (bytes : Bytes) (challengeDigest : Digest32) :
    List WireMessage :=
  (packedBodies sha256 envelope chunkBytes bytes challengeDigest).map (transferMessage id)

/-- The formats that know the texts of some messages and of one envelope. -/
def Formats.ofTransfer (messages : List WireMessage) (doc : EnvelopeDoc) (bytes : Bytes) :
    Formats :=
  .ofTexts (messages.map fun message => (message, message.toJson)) [(doc, bytes)] []

theorem Formats.ofTransfer_messageToString {messages : List WireMessage} {doc : EnvelopeDoc}
    {bytes : Bytes} {message : WireMessage} (h : message ∈ messages) :
    (Formats.ofTransfer messages doc bytes).messageToString message = .ok message.toJson := by
  simp only [Formats.ofTransfer, Formats.ofTexts]
  cases hfind : (messages.map fun message => (message, message.toJson)).find?
      (·.1 = message) with
  | none =>
    have hno := List.find?_eq_none.mp hfind _ (List.mem_map_of_mem h)
    simp at hno
  | some p =>
    have hfst : p.1 = message := by simpa using List.find?_some hfind
    obtain ⟨message', -, rfl⟩ := List.mem_map.mp (List.mem_of_find?_eq_some hfind)
    obtain rfl : message' = message := hfst
    rfl

theorem Formats.ofTransfer_messageFromStr_eq_none {messages : List WireMessage}
    {doc : EnvelopeDoc} {bytes : Bytes} {text : String}
    (h : ∀ message ∈ messages, message.toJson ≠ text) :
    (Formats.ofTransfer messages doc bytes).messageFromStr text = none := by
  simp only [Formats.ofTransfer, Formats.ofTexts, Option.map_eq_none_iff, List.find?_eq_none,
    decide_eq_true_eq]
  intro p hp
  obtain ⟨message, hmessage, rfl⟩ := List.mem_map.mp hp
  exact h message hmessage

theorem Formats.ofTransfer_lawful {messages : List WireMessage} {doc : EnvelopeDoc} {bytes : Bytes}
    (hmessages : ∀ m ∈ messages, ∀ m' ∈ messages, m.toJson = m'.toJson → m = m')
    (hbytes : bytes ≠ []) : (Formats.ofTransfer messages doc bytes).Lawful := by
  apply Formats.ofTexts_lawful
  · intro p hp q hq htext
    obtain ⟨m, hm, rfl⟩ := List.mem_map.mp hp
    obtain ⟨m', hm', rfl⟩ := List.mem_map.mp hq
    rw [hmessages m hm m' hm' htext]
  · simp
  · simpa using hbytes

/-- A sender whose formats know the texts of its messages. -/
theorem Packed.ofTransfer {sha256 : Bytes → Digest32} {envelope : AttestationEnvelope}
    {chunkBytes : Nat} {id : String} {bytes : Bytes} {challengeDigest : Digest32}
    (htransport : envelope.transport = .logosMessaging) (hpos : 1 ≤ chunkBytes)
    (hle : chunkBytes ≤ maxChunkBytes) (hid : validateTransferId id = .ok ())
    (hbytes : bytes.length ≤ maxTransferBytes)
    (hchunks : (byteChunks chunkBytes bytes).length ≤ maxChunks)
    (hdigest : envelope.challenge.digest sha256 = some challengeDigest) :
    Packed (.ofTransfer (packedMessages sha256 envelope chunkBytes id bytes challengeDigest)
        envelope.serialize bytes) sha256 envelope chunkBytes id
      { transferId := id
        messages := (packedMessages sha256 envelope chunkBytes id bytes challengeDigest).map
          WireMessage.toJson } bytes challengeDigest := by
  refine ⟨htransport, hpos, hle, hid, ?_, hbytes, hchunks, hdigest, ?_⟩
  · simp [Formats.ofTransfer, Formats.ofTexts]
  · rw [packedMessages, List.map_map, List.forall₂_map_right_iff, List.forall₂_same]
    intro body hbody
    exact Formats.ofTransfer_messageToString (List.mem_map_of_mem hbody)

/-- The first character of a text that goes on. -/
theorem head?_append_of {s : String} {a : Char} (h : s.toList.head? = some a) (x : String) :
    (s ++ x).toList.head? = some a := by
  rw [String.toList_append, List.head?_append, h, Option.some_or]

/-- Texts with different first characters differ. -/
theorem append_ne_append {s t : String} {a b : Char} (hs : s.toList.head? = some a)
    (ht : t.toList.head? = some b) (hne : a ≠ b) (x y : String) : s ++ x ≠ t ++ y := by
  intro h
  have hx := head?_append_of hs x
  rw [h, head?_append_of ht y] at hx
  exact hne (Option.some.inj hx).symm

/-- The texts of a chunk and of a manifest differ in their kind. -/
theorem toJson_chunk_ne_manifest (id : String) (i : UInt32) (c : EncodedChunk) (m : Manifest) :
    (transferMessage id (.chunk i c)).toJson ≠ (transferMessage id (.manifest m)).toJson := by
  have hchunk : "chunk".toList.head? = some 'c' := rfl
  have hmanifest : "manifest".toList.head? = some 'm' := rfl
  intro h
  exact append_ne_append hchunk hmanifest (by decide) _ _ (toJson_transferMessage_inj.mp h)

/-- The texts of the first two chunks differ in their index. -/
theorem toJson_chunk_ne_chunk (id : String) (c c' : EncodedChunk) :
    (transferMessage id (.chunk 0 c)).toJson ≠ (transferMessage id (.chunk 1 c')).toJson := by
  have hzero : (toString (UInt32.toNat 0)).toList.head? = some '0' := by decide +kernel
  have hone : (toString (UInt32.toNat 1)).toList.head? = some '1' := by decide +kernel
  intro h
  have hfields := (String.append_right_inj _).mp (toJson_transferMessage_inj.mp h)
  exact append_ne_append hzero hone (by decide) _ _ ((String.append_right_inj _).mp hfields)

/-- The presentation of the test gate, for the chat. -/
def chatEnvelope : AttestationEnvelope := { foundersEnvelope with transport := .logosMessaging }

def chatTransferId : String := "00112233445566778899aabbccddeeff"

/-- The JSON text of the envelope. -/
def chatEnvelopeBytes : Bytes := asBytes (chatEnvelope.serialize.toJson 2000000)

theorem chatEnvelopeBytes_length : chatEnvelopeBytes.length = 1226 := by decide +kernel

/-- The messages of a transfer in chunks of 1024 bytes. -/
def chatMessages : List WireMessage :=
  packedMessages sha256 chatEnvelope 1024 chatTransferId chatEnvelopeBytes foundersChallengeDigest

def chatFormats : Formats := .ofTransfer chatMessages chatEnvelope.serialize chatEnvelopeBytes

def chatBundle : TransferBundle where
  transferId := chatTransferId
  messages := chatMessages.map WireMessage.toJson

theorem chatChunks_length : (byteChunks 1024 chatEnvelopeBytes).length = 2 := by
  rw [byteChunks, List.length_map, List.length_range, chatEnvelopeBytes_length]

/-- The text of a message is an object. -/
theorem toJson_head? (message : WireMessage) : message.toJson.toList.head? = some '\x7b' := by
  have hopen : "\x7b".toList.head? = some '\x7b' := rfl
  exact head?_append_of (head?_append_of hopen _) _

/-- Two chunks and the manifest. -/
theorem chatMessages_eq : ∃ c c' m, chatMessages =
    [transferMessage chatTransferId (.chunk 0 c), transferMessage chatTransferId (.chunk 1 c'),
      transferMessage chatTransferId (.manifest m)] := by
  obtain ⟨part, part', hparts⟩ := List.length_eq_two.mp chatChunks_length
  unfold chatMessages packedMessages packedBodies
  rw [hparts]
  exact ⟨_, _, _, rfl⟩

theorem chatFormats_lawful : chatFormats.Lawful := by
  refine Formats.ofTransfer_lawful ?_ ?_
  · obtain ⟨c, c', m, hmessages⟩ := chatMessages_eq
    have h01 := toJson_chunk_ne_chunk chatTransferId c c'
    have h02 := toJson_chunk_ne_manifest chatTransferId 0 c m
    have h12 := toJson_chunk_ne_manifest chatTransferId 1 c' m
    rw [hmessages]
    simp [h01, h01.symm, h02, h02.symm, h12, h12.symm]
  · intro hnil
    have hlength := chatEnvelopeBytes_length
    rw [hnil] at hlength
    simp at hlength

theorem chatTransfer_packed :
    Packed chatFormats sha256 chatEnvelope 1024 chatTransferId chatBundle chatEnvelopeBytes
      foundersChallengeDigest := by
  refine Packed.ofTransfer rfl (by decide) (by decide) (by decide +kernel) ?_ ?_
    (by decide +kernel)
  · rw [chatEnvelopeBytes_length]
    decide +kernel
  · rw [chatChunks_length]
    decide

theorem pack_chatEnvelope :
    packEnvelopeWithId chatFormats sha256 chatEnvelope 1024 chatTransferId = .ok chatBundle :=
  pack_eq_ok_iff.mpr ⟨rfl, chatEnvelopeBytes, foundersChallengeDigest, chatTransfer_packed⟩

/-- The three texts of the bundle are different, and none is an ordinary
message. -/
theorem chatBundle_messages : ∃ a b commit, chatBundle.messages = [a, b, commit] ∧
    chatBundle.commit = some commit ∧ a ≠ b ∧ a ≠ commit ∧ b ≠ commit ∧
    chatFormats.messageFromStr "hello" = none := by
  obtain ⟨c, c', m, hmessages⟩ := chatMessages_eq
  have htexts : chatBundle.messages =
      [(transferMessage chatTransferId (.chunk 0 c)).toJson,
        (transferMessage chatTransferId (.chunk 1 c')).toJson,
        (transferMessage chatTransferId (.manifest m)).toJson] := by
    unfold chatBundle
    rw [hmessages]
    rfl
  refine ⟨_, _, _, htexts, ?_, toJson_chunk_ne_chunk _ _ _, toJson_chunk_ne_manifest _ _ _ _,
    toJson_chunk_ne_manifest _ _ _ _, ?_⟩
  · rw [TransferBundle.commit, htexts]
    rfl
  · apply Formats.ofTransfer_messageFromStr_eq_none
    intro message _ htext
    have hhead := toJson_head? message
    rw [htext] at hhead
    exact absurd hhead (by decide)

/-- Twice the whole bundle in two orders, the bundle without its manifest, and the
bundle without its first chunk. -/
theorem unpack_chatBundle :
    unpackEnvelope chatFormats sha256
        ("hello" :: (chatBundle.messages.reverse ++ chatBundle.messages)) (some chatTransferId) =
          .ok (chatTransferId, chatEnvelope) ∧
      unpackEnvelope chatFormats sha256 (chatBundle.messages.take 2) (some chatTransferId) =
        .err .noTransfer ∧
      ∃ received expected, unpackEnvelope chatFormats sha256 (chatBundle.messages.drop 1)
        (some chatTransferId) = .err (.incompleteTransfer chatTransferId received expected) := by
  obtain ⟨a, b, commit, hmessages, hcommit, hab, hac, hbc, hhello⟩ := chatBundle_messages
  have hpack := pack_chatEnvelope
  have hmissing : ∃ text ∈ chatBundle.messages, text ∉ chatBundle.messages.take 2 :=
    ⟨commit, by simp [hmessages], by simp [hmessages, hac.symm, hbc.symm]⟩
  have hmissing' : ∃ text ∈ chatBundle.messages, text ∉ chatBundle.messages.drop 1 :=
    ⟨a, by simp [hmessages], by simp [hmessages, hab, hac]⟩
  refine ⟨?_, ?_, ?_⟩
  · refine (unpack_of_delivery chatFormats_lawful hpack ?_).1 ?_
    · intro content hcontent
      simp only [List.mem_cons, List.mem_append, List.mem_reverse, or_self] at hcontent
      rcases hcontent with rfl | hcontent
      · exact Or.inr fun body => by rw [hhello]; simp
      · exact Or.inl hcontent
    · intro text htext
      simp [htext]
  · refine ((unpack_of_delivery chatFormats_lawful hpack ?_).2 hmissing).1 ?_
    · exact fun content hcontent => Or.inl (List.mem_of_mem_take hcontent)
    · simp [hcommit, hmessages, hac.symm, hbc.symm]
  · refine ((unpack_of_delivery chatFormats_lawful hpack ?_).2 hmissing').2 ?_
    · exact fun content hcontent => Or.inl (List.mem_of_mem_drop hcontent)
    · simp [hcommit, hmessages]

/-! ## Any contents -/

/-- The byte string that the receiver joins from the chunks and hashes. -/
def joinedBytes? (F : Formats) (contents : List String) (requested : Option String) :
    Option Bytes := do
  let table ← (collect F requested contents).toOption
  let id ← table.selected requested
  let manifest ← (table.entry id).manifest
  ((table.entry id).joinChunks F id manifest (PartialTransfer.indexes manifest) []).toOption

/-- The bytes that the transfer spells are those that the receiver hashes. -/
theorem joinedBytes?_of_spells {F : Formats} {sha256 : Bytes → Digest32} {contents : List String}
    {requested : Option String} {id : String} {m : Manifest} {bytes : Bytes}
    (hclean : Clean (deliveries F requested contents))
    (hselected : selectedTransfer F contents requested = some id)
    (hspells : Spells sha256 (fun body => (id, body) ∈ deliveries F requested contents) m bytes) :
    joinedBytes? F contents requested = some bytes := by
  have hm := (hspells.manifest m).mpr rfl
  rcases collect_cases F requested contents with ⟨-, table, hcollect, hholds⟩ | ⟨hnot, -⟩
  · have hbytes := (assembleBytes_eq_ok_iff hclean hholds hm (F := F)).mpr hspells
    simp only [PartialTransfer.assembleBytes, Outcome.bind_eq_ok, Outcome.pure_eq,
      Outcome.ok.injEq] at hbytes
    obtain ⟨-, -, -, -, -, -, joined, hjoin, -, -, rfl⟩ := hbytes
    have hselected' : table.selected requested = some id := by
      rw [Transfers.selected, hholds.order]
      exact hselected
    simp [joinedBytes?, hcollect, hselected', (hholds.manifest id m).mpr hm, hjoin,
      Outcome.toOption]
  · exact absurd hclean hnot

/-- A receiver that returns an envelope, whatever it was given. -/
theorem spells_of_unpack {F : Formats} {sha256 : Bytes → Digest32} {contents : List String}
    {requested : Option String} {id : String} {envelope : AttestationEnvelope}
    (h : unpackEnvelope F sha256 contents requested = .ok (id, envelope)) :
    (∀ r, requested = some r → r = id) ∧ ∃ m bytes, Spells sha256 (Carries F contents id) m bytes ∧
      joinedBytes? F contents requested = some bytes ∧ Opens F sha256 m bytes envelope := by
  obtain ⟨-, hclean, hselected, m, bytes, hspells, hopens⟩ := unpackEnvelope_eq_ok_iff.mp h
  obtain ⟨-, hvalid, hrequested⟩ := mem_deliveries.mp ((hspells.manifest m).mpr rfl)
  have hcarries : (fun body => (id, body) ∈ deliveries F requested contents) =
      Carries F contents id := by
    funext body
    rw [mem_deliveries, eq_iff_iff]
    exact and_iff_left ⟨hvalid, hrequested⟩
  have hjoined := joinedBytes?_of_spells hclean hselected hspells
  rw [hcarries] at hspells
  exact ⟨hrequested, m, bytes, hspells, hjoined, hopens⟩

/-- Integrity of a transfer.  A receiver that returns an envelope has one manifest
of the transfer, all chunks that it counts and no others, and the bytes that they
spell hold the envelope.  A receiver that has the manifest of an honest bundle
returns the envelope of the bundle or none. -/
theorem unpack_integrity (F : Formats) (sha256 : Bytes → Digest32) :
    (∀ contents requested id envelope,
        unpackEnvelope F sha256 contents requested = .ok (id, envelope) →
          (∀ r, requested = some r → r = id) ∧
            ∃ m bytes, Spells sha256 (Carries F contents id) m bytes ∧
              Opens F sha256 m bytes envelope) ∧
      ∀ envelope₀ chunkBytes id bundle contents id' envelope, F.Lawful →
        packEnvelopeWithId F sha256 envelope₀ chunkBytes id = .ok bundle →
        (∃ text ∈ bundle.commit, text ∈ contents) →
        CollisionFree sha256 ((F.envelopeToVec envelope₀.serialize).toOption.toList ++
          (joinedBytes? F contents (some id)).toList) →
        unpackEnvelope F sha256 contents (some id) = .ok (id', envelope) →
          id' = id ∧ envelope = envelope₀ := by
  refine ⟨?_, ?_⟩
  · intro contents requested id envelope h
    obtain ⟨hrequested, m, bytes, hspells, -, hopens⟩ := spells_of_unpack h
    exact ⟨hrequested, m, bytes, hspells, hopens⟩
  · intro envelope₀ chunkBytes id bundle contents id' envelope hF hpack hcommit hfree hunpack
    obtain ⟨hrequested, m, bytes, hspells, hjoined, hopens⟩ := spells_of_unpack hunpack
    obtain rfl : id = id' := hrequested id rfl
    obtain ⟨-, bytes₀, challengeDigest, h⟩ := pack_eq_ok_iff.mp hpack
    obtain ⟨commit, hcommit', hcommitText⟩ := h.commit_eq
    obtain ⟨text, htext, hmem⟩ := hcommit
    obtain rfl : commit = text := Option.some.inj (hcommit'.symm.trans htext)
    -- The manifest of the bundle is the only one, so its hash is that of the bytes.
    have hmanifest : h.manifest = m :=
      (hspells.manifest h.manifest).mp ⟨commit, hmem, hF.message _ _ hcommitText⟩
    have hhash : sha256 bytes = sha256 bytes₀ := by
      apply digestToHex_injective
      rw [hspells.hash, ← hmanifest]
      rfl
    have hbytes : bytes = bytes₀ := by
      refine hfree bytes ?_ bytes₀ ?_ hhash
      · simp [hjoined]
      · simp [h.serialized, Except.toOption]
    have hparsed := hopens.parsed
    rw [hbytes, (h.opens hF).parsed] at hparsed
    exact ⟨rfl, (Outcome.ok.inj hparsed).symm⟩

/-- The receiver of the bundle hashes the bytes that the sender hashed. -/
theorem joinedBytes?_chatBundle :
    joinedBytes? chatFormats chatBundle.messages (some chatTransferId) =
      some chatEnvelopeBytes := by
  have h := chatTransfer_packed
  have hcontents : ∀ content ∈ chatBundle.messages, content ∈ chatBundle.messages ∨
      ∀ body, chatFormats.messageFromStr content ≠ some (transferMessage chatTransferId body) :=
    fun content hcontent => Or.inl hcontent
  refine joinedBytes?_of_spells (h.clean_deliveries chatFormats_lawful hcontents) rfl
    (h.spells ?_)
  intro body
  rw [h.mem_deliveries_iff chatFormats_lawful hcontents]
  refine ⟨fun hbody => hbody.2.1, fun hbody => ⟨rfl, hbody, h.exists_message hbody⟩⟩

theorem unpack_integrity_chatBundle :
    (∃ m bytes, Spells sha256 (Carries chatFormats chatBundle.messages chatTransferId) m bytes ∧
        Opens chatFormats sha256 m bytes chatEnvelope) ∧
      ∃ id envelope, unpackEnvelope chatFormats sha256 chatBundle.messages (some chatTransferId) =
          .ok (id, envelope) ∧ id = chatTransferId ∧ envelope = chatEnvelope := by
  have hunpack := chatTransfer_packed.unpack_of_all chatFormats_lawful
    (fun content hcontent => Or.inl hcontent) fun text htext => htext
  have hcommit : ∃ text ∈ chatBundle.commit, text ∈ chatBundle.messages := by
    obtain ⟨text, htext, -⟩ := chatTransfer_packed.commit_eq
    exact ⟨text, htext, List.mem_of_getLast? htext⟩
  have hfree : CollisionFree sha256
      ((chatFormats.envelopeToVec chatEnvelope.serialize).toOption.toList ++
        (joinedBytes? chatFormats chatBundle.messages (some chatTransferId)).toList) := by
    rw [joinedBytes?_chatBundle, chatTransfer_packed.serialized]
    simp [CollisionFree, Except.toOption]
  refine ⟨((unpack_integrity chatFormats sha256).1 _ _ _ _ hunpack).2, _, _, hunpack, ?_⟩
  exact (unpack_integrity chatFormats sha256).2 _ _ _ _ _ _ _ chatFormats_lawful
    pack_chatEnvelope hcommit hfree hunpack

end TokenStudio
