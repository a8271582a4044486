import TokenStudio.ProofgateMessaging.Polling
import TokenStudio.ProofgateMessaging.Transfer

/-!
# Contents that make the receiver panic

`digest_from_hex` cuts its text at fixed byte positions, and a cut inside a
character is a panic (`SplitsCharacter`).  The texts come from the chat, on three
ways: the fields of a manifest, the fields of a challenge and the fields of the
envelope that a transfer spells.

For each function of the receiver there is a predicate on its input that says that
it gets to such a text: `ChallengeSplits`, `WindowSplits` and `UnpackSplits`.
`receiver_returns_iff` says that nothing else makes the receiver panic.

The one other panic that could be reached is in the encoding of a challenge, for a
verifier id of `2 ^ 32` bytes or more.  `Formats.StringsFit` excludes it: a string of
an envelope is not longer than the JSON text it comes from, and a transfer has at
most 4 MiB.
-/

namespace TokenStudio

/-- A string that is read from some bytes is not longer than they are. -/
def Formats.StringsFit (F : Formats) : Prop :=
  ∀ bytes envelope, (F.envelopeFromSlice bytes).result = .ok envelope →
    (asBytes envelope.challenge.verifierId).length ≤ bytes.length

/-! ## Manifests -/

/-- The texts are digests up to one that splits a character. -/
def FirstSplits : List String → Prop
  | [] => False
  | text :: rest => SplitsCharacter text ∨ ((digestFromHex text).isOk = true ∧ FirstSplits rest)

/-- The numbers of a manifest are within the bounds of the protocol. -/
def Manifest.InBounds (m : Manifest) : Prop :=
  m.chunkCount ≠ 0 ∧ m.chunkCount.toNat ≤ maxChunks ∧ m.envelopeBytes.toNat ≤ maxTransferBytes

/-- The check of the body gets to a text that splits a character. -/
def WireBody.Splits : WireBody → Prop
  | .manifest m => m.InBounds ∧ FirstSplits [m.envelopeSha256, m.contextHash, m.challengeDigest]
  | .chunk _ _ => False

theorem anyDigestInvalid_eq_panic_iff {texts : List String} :
    anyDigestInvalid texts = .panic ↔ FirstSplits texts := by
  induction texts with
  | nil => simp [anyDigestInvalid, FirstSplits]
  | cons text rest ih =>
    rw [anyDigestInvalid, FirstSplits, ← digestFromHex_eq_panic_iff]
    cases digestFromHex text <;> simp [ih]

/-- The check of a body panics exactly when it gets to a text that splits a
character. -/
theorem validateWireBody_eq_panic_iff (body : WireBody) :
    validateWireBody body = .panic ↔ body.Splits := by
  cases body with
  | manifest m =>
    simp only [validateWireBody, Outcome.bind_eq_panic, Outcome.check_ne_panic, false_or,
      Outcome.check_eq_ok, Outcome.exists_unit, and_false, exists_false, or_false,
      anyDigestInvalid_eq_panic_iff, WireBody.Splits, Manifest.InBounds]
    simp
  | chunk i c => simp [validateWireBody, WireBody.Splits]

/-! ## Challenges -/

/-- Some content hands a text that splits a character to the reader of
challenges. -/
def ChallengeSplits (F : Formats) (contents : List String) : Prop :=
  ∃ content ∈ contents, ∃ field, (F.challengeFromStr content).Hands field ∧ field.Splits

/-- Reading a content panics exactly when it hands over a text that splits a
character. -/
theorem readChallenge_eq_panic_iff {F : Formats} {content : String} :
    readChallenge F content = .panic ↔
      ∃ field, (F.challengeFromStr content).Hands field ∧ field.Splits := by
  rw [← Deserialized.result_eq_panic_iff, readChallenge]
  cases (F.challengeFromStr content).result <;> simp

theorem readChallenge_ne_err (F : Formats) (content : String) (e : MessagingError) :
    readChallenge F content ≠ .err e := by
  unfold readChallenge
  cases (F.challengeFromStr content).result <;> simp

theorem latestChallenge_eq_panic_iff (F : Formats) (contents : List String) :
    latestChallenge F contents = .panic ↔ ChallengeSplits F contents := by
  rw [latestChallenge, Outcome.bind_eq_panic,
    Outcome.mapM_eq_panic_iff (readChallenge_ne_err F)]
  simp only [readChallenge_eq_panic_iff, Outcome.okOr_ne_panic, and_false, exists_false, or_false]
  rfl

/-! ## Polls -/

/-- `observe` gets to a manifest with a text that splits a character. -/
def WindowSplits (F : Formats) (requested : Option String) (pending : PendingWireMessages)
    (contents : List String) : Prop :=
  ∃ before content after message, contents = before ++ content :: after ∧
    pending.Takes F requested before ∧ wantedMessage? F requested content = some message ∧
    message.body.Splits

theorem observe_panics_iff (F : Formats) (requested : Option String) (contents : List String)
    (pending : PendingWireMessages) :
    (PendingWireMessages.observe F requested contents pending).1 = .panic ↔
      WindowSplits F requested pending contents := by
  simp only [PendingWireMessages.observe_eq_panic_iff, validateWireBody_eq_panic_iff]
  rfl

/-! ## Envelopes -/

/-- The loop of `unpack_envelope` gets to a manifest with a text that splits a
character. -/
def ManifestSplits (F : Formats) (requested : Option String) (contents : List String) : Prop :=
  ∃ before content after message, contents = before ++ content :: after ∧
    Clean (deliveries F requested before) ∧ wantedMessage? F requested content = some message ∧
    message.body.Splits

/-- The transfer that is asked for spells an envelope with a text that splits a
character. -/
def EnvelopeSplits (F : Formats) (sha256 : Bytes → Digest32) (requested : Option String)
    (contents : List String) : Prop :=
  Clean (deliveries F requested contents) ∧
    ∃ id m bytes field, selectedTransfer F contents requested = some id ∧
      Spells sha256 (fun body => (id, body) ∈ deliveries F requested contents) m bytes ∧
      (F.envelopeFromSlice bytes).Hands field ∧ field.Splits

/-- `unpack_envelope` gets to a text that splits a character. -/
def UnpackSplits (F : Formats) (sha256 : Bytes → Digest32) (requested : Option String)
    (contents : List String) : Prop :=
  requested.forM validateTransferId = .ok () ∧
    (ManifestSplits F requested contents ∨ EnvelopeSplits F sha256 requested contents)

theorem collect_panics_iff (F : Formats) (requested : Option String) (contents : List String) :
    collect F requested contents = .panic ↔ ManifestSplits F requested contents := by
  simp only [collect_eq_panic_iff, validateWireBody_eq_panic_iff]
  rfl

/-- The second half of `assemble` panics exactly when the bytes hold a text that
splits a character. -/
theorem openEnvelope_eq_panic_iff {F : Formats} (hF : F.StringsFit) {sha256 : Bytes → Digest32}
    {m : Manifest} (hvalid : validateWireBody (.manifest m) = .ok ()) {bytes : Bytes}
    (hlength : bytes.length ≤ maxTransferBytes) :
    PartialTransfer.openEnvelope F sha256 m bytes = .panic ↔
      ∃ field, (F.envelopeFromSlice bytes).Hands field ∧ field.Splits := by
  rw [openEnvelope_of_valid F sha256 hvalid, Outcome.bind_eq_panic, Outcome.mapErr_eq_panic,
    Deserialized.result_eq_panic_iff]
  refine or_iff_left ?_
  -- After the envelope is read, only the digest of its challenge could panic.
  rintro ⟨envelope, hread, hrest⟩
  have hfit := hF bytes envelope (Outcome.mapErr_eq_ok.mp hread)
  have hlt : (asBytes envelope.challenge.verifierId).length < 2 ^ 32 := by
    unfold maxTransferBytes at hlength
    omega
  obtain ⟨digest, hdigest⟩ := VerificationChallenge.exists_digest sha256 hlt
  simp [hdigest, Outcome.bind_eq_panic] at hrest

/-- A transfer is put together without a panic, unless it spells an envelope with a
text that splits a character. -/
theorem assemble_eq_panic_iff {F : Formats} (hF : F.StringsFit) {sha256 : Bytes → Digest32}
    {table : Transfers} {ds : List Delivery} (hclean : Clean ds) (hholds : table.Holds ds)
    {id : String} :
    (table.entry id).assemble F sha256 id = .panic ↔
      ∃ m bytes field, Spells sha256 (fun body => (id, body) ∈ ds) m bytes ∧
        (F.envelopeFromSlice bytes).Hands field ∧ field.Splits := by
  by_cases hm : ∃ m, (id, WireBody.manifest m) ∈ ds
  · obtain ⟨m, hm⟩ := hm
    have hvalid := hclean.valid _ hm
    have hopen : ∀ bytes, Spells sha256 (fun body => (id, body) ∈ ds) m bytes →
        (PartialTransfer.openEnvelope F sha256 m bytes = .panic ↔
          ∃ field, (F.envelopeFromSlice bytes).Hands field ∧ field.Splits) := by
      intro bytes hspells
      have hlength := hspells.length
      obtain ⟨-, -, hmax⟩ := chunkCount_of_valid hvalid
      exact openEnvelope_eq_panic_iff hF hvalid (by omega)
    rw [assemble_of_manifest F sha256 hholds hm, Outcome.bind_eq_panic,
      or_iff_right PartialTransfer.assembleBytes_ne_panic]
    simp only [assembleBytes_eq_ok_iff hclean hholds hm]
    constructor
    · rintro ⟨bytes, hspells, hpanic⟩
      obtain ⟨field, hfield⟩ := (hopen bytes hspells).mp hpanic
      exact ⟨m, bytes, field, hspells, hfield⟩
    · rintro ⟨m', bytes, field, hspells, hfield⟩
      obtain rfl : m = m' := (hspells.manifest m).mp hm
      exact ⟨bytes, hspells, (hopen bytes hspells).mpr ⟨field, hfield⟩⟩
  · rw [assemble_of_no_manifest F sha256 hholds (not_exists.mp hm)]
    refine iff_of_false (by simp) ?_
    rintro ⟨m, bytes, field, hspells, -⟩
    exact hm ⟨m, (hspells.manifest m).mpr rfl⟩

/-- `unpack_envelope` panics exactly when it gets to a text that splits a
character. -/
theorem unpackEnvelope_eq_panic_iff {F : Formats} (hF : F.StringsFit)
    (sha256 : Bytes → Digest32) (requested : Option String) (contents : List String) :
    unpackEnvelope F sha256 contents requested = .panic ↔
      UnpackSplits F sha256 requested contents := by
  unfold UnpackSplits
  by_cases hrequested : requested.forM validateTransferId = .ok ()
  · rw [and_iff_right hrequested, ← collect_panics_iff]
    rcases collect_cases F requested contents with ⟨hclean, table, hcollect, -⟩ | ⟨hnot, hcollect⟩
    · obtain ⟨table', hholds, hunpack⟩ := unpackEnvelope_of_clean F sha256 hrequested hclean
      have hno : collect F requested contents ≠ .panic := by
        rw [hcollect]
        simp
      rw [or_iff_right hno, EnvelopeSplits, and_iff_right hclean, hunpack]
      simp only [Outcome.bind_eq_panic, Outcome.okOr_ne_panic, false_or, Outcome.okOr_eq_ok,
        assemble_eq_panic_iff hF hclean hholds, Outcome.pure_eq, reduceCtorEq, and_false,
        exists_false, or_false]
      constructor
      · rintro ⟨id, hselected, m, bytes, field, h⟩
        exact ⟨id, m, bytes, field, hselected, h⟩
      · rintro ⟨id, m, bytes, field, hselected, h⟩
        exact ⟨id, hselected, m, bytes, field, h⟩
    · -- The loop does not come to its end, so its own panic is the only one.
      have hno : ¬ EnvelopeSplits F sha256 requested contents := fun h => hnot h.1
      rw [or_iff_left hno, unpackEnvelope, hrequested, Outcome.ok_bind, Outcome.bind_eq_panic]
      refine or_iff_left ?_
      rintro ⟨table, htable, -⟩
      exact hcollect table htable
  · refine iff_of_false ?_ (fun h => hrequested h.1)
    rw [unpackEnvelope, Outcome.bind_eq_panic, Outcome.exists_unit]
    rintro (hpanic | ⟨hok, -⟩)
    · exact forM_validateTransferId.2 hpanic
    · exact hrequested hok

/-- The receiver returns, with a value or an error, exactly when it gets to no text
that splits a character. -/
theorem receiver_returns_iff {F : Formats} (hF : F.StringsFit) (sha256 : Bytes → Digest32)
    (requested : Option String) (contents : List String) (pending : PendingWireMessages) :
    ((latestChallenge F contents).Returns ↔ ¬ ChallengeSplits F contents) ∧
      ((PendingWireMessages.observe F requested contents pending).1.Returns ↔
        ¬ WindowSplits F requested pending contents) ∧
      ((pending.unpack F sha256 requested).Returns ↔
        ¬ UnpackSplits F sha256 requested pending.contents) ∧
      ((unpackEnvelope F sha256 contents requested).Returns ↔
        ¬ UnpackSplits F sha256 requested contents) := by
  refine ⟨?_, ?_, ?_, ?_⟩
  · exact not_congr (latestChallenge_eq_panic_iff F contents)
  · exact not_congr (observe_panics_iff F requested contents pending)
  · exact not_congr (unpackEnvelope_eq_panic_iff hF sha256 requested pending.contents)
  · exact not_congr (unpackEnvelope_eq_panic_iff hF sha256 requested contents)

/-- What the formats of one transfer read. -/
theorem Formats.ofTransfer_result (messages : List WireMessage) (envelope : AttestationEnvelope)
    (bytes input : Bytes) :
    ((Formats.ofTransfer messages envelope.serialize bytes).envelopeFromSlice input).result =
      if bytes = input then .ok envelope else .err () := by
  by_cases h : bytes = input
  · simp [Formats.ofTransfer, Formats.ofTexts, h, EnvelopeDoc.result_read_serialize]
  · simp [Formats.ofTransfer, Formats.ofTexts, h, Deserialized.result, Callback.run]

theorem Formats.ofTransfer_stringsFit {messages : List WireMessage}
    {envelope : AttestationEnvelope} {bytes : Bytes}
    (h : (asBytes envelope.challenge.verifierId).length ≤ bytes.length) :
    (Formats.ofTransfer messages envelope.serialize bytes).StringsFit := by
  intro input e hread
  rw [Formats.ofTransfer_result] at hread
  split at hread
  · next heq =>
    obtain rfl := Outcome.ok.inj hread
    rw [← heq]
    exact h
  · simp at hread

theorem chatFormats_stringsFit : chatFormats.StringsFit := by
  refine Formats.ofTransfer_stringsFit ?_
  rw [chatEnvelopeBytes_length]
  decide +kernel

/-- A chat with the bundle of the test gate. -/
theorem receiver_returns_chatBundle :
    chatFormats.StringsFit ∧
      (latestChallenge chatFormats chatBundle.messages).Returns ∧
      (PendingWireMessages.observe chatFormats (some chatTransferId) chatBundle.messages
        .empty).1.Returns ∧
      (PendingWireMessages.empty.unpack chatFormats sha256 (some chatTransferId)).Returns ∧
      (unpackEnvelope chatFormats sha256 chatBundle.messages (some chatTransferId)).Returns := by
  have hbody : ∀ content ∈ chatBundle.messages, ∀ message,
      wantedMessage? chatFormats (some chatTransferId) content = some message →
        ¬ message.body.Splits := by
    intro content hcontent message hwanted
    have hclean : Clean (deliveries chatFormats (some chatTransferId) chatBundle.messages) :=
      chatTransfer_packed.clean_deliveries chatFormats_lawful fun _ h => Or.inl h
    have hmem : message.delivery ∈
        deliveries chatFormats (some chatTransferId) chatBundle.messages := by
      rw [deliveries, List.mem_filterMap]
      exact ⟨content, hcontent, by rw [hwanted]; rfl⟩
    have hvalid := hclean.valid _ hmem
    rw [← validateWireBody_eq_panic_iff]
    intro hpanic
    rw [WireMessage.delivery] at hvalid
    rw [hvalid] at hpanic
    simp at hpanic
  have henvelope : ∀ bytes, ¬ ∃ field, (chatFormats.envelopeFromSlice bytes).Hands field ∧
      field.Splits := by
    intro bytes
    rw [← Deserialized.result_eq_panic_iff, chatFormats, Formats.ofTransfer_result]
    split <;> simp
  have hunpack : ∀ contents ⊆ chatBundle.messages,
      ¬ UnpackSplits chatFormats sha256 (some chatTransferId) contents := by
    rintro contents hsub ⟨-, hmanifest | ⟨-, -, -, bytes, field, -, -, hfield⟩⟩
    · obtain ⟨before, content, after, message, rfl, -, hwanted, hsplits⟩ := hmanifest
      exact hbody content (hsub (by simp)) message hwanted hsplits
    · exact henvelope bytes ⟨field, hfield⟩
  obtain ⟨hlatest, hobserve, hpending, hall⟩ := receiver_returns_iff chatFormats_stringsFit sha256
    (some chatTransferId) chatBundle.messages .empty
  refine ⟨chatFormats_stringsFit, hlatest.mpr ?_, hobserve.mpr ?_, hpending.mpr ?_,
    hall.mpr (hunpack _ (List.Subset.refl _))⟩
  · -- The formats know no challenge.
    rintro ⟨content, -, field, hfield, -⟩
    exact hfield
  · rintro ⟨before, content, after, message, hsplit, -, hwanted, hsplits⟩
    exact hbody content (by simp [hsplit]) message hwanted hsplits
  · exact hunpack _ (List.nil_subset _)

/-! ### A euro sign in the place of a digest -/

/-- A text of 64 bytes that starts with a character of three bytes. -/
def euroText : String := "€" ++ String.ofList (List.replicate 61 'a')

theorem splitsCharacter_euroText : SplitsCharacter euroText := by decide +kernel

def euroMessage : WireMessage :=
  transferMessage chatTransferId (.manifest
    { envelopeSha256 := euroText
      envelopeBytes := 1
      chunkCount := 1
      contextHash := euroText
      challengeDigest := euroText })

def euroChallenge : ChallengeWireDoc where
  protocol := challengeProtocol
  version := wireVersion
  challenge :=
    { version := 1
      gateContextHash := euroText
      expectedCommitmentRoot := euroText
      verifierId := "founders"
      nonce := euroText
      issuedAtUnixMs := 1000000
      expiresAtUnixMs := 2000000 }

/-- The JSON text of a challenge message. -/
def ChallengeWireDoc.toJson (doc : ChallengeWireDoc) : String :=
  "\x7b\"protocol\":\"" ++ doc.protocol ++ "\",\"version\":" ++ toString doc.version.toNat ++
    ",\"challenge\":" ++ doc.challenge.toJson ++ "\x7d"

def euroFormats : Formats :=
  .ofTexts [(euroMessage, euroMessage.toJson)] [] [(euroChallenge, euroChallenge.toJson)]

/-- One message of a peer is enough to make the receiver panic. -/
theorem receiver_panics_on_euroText :
    ¬ (latestChallenge euroFormats [euroChallenge.toJson]).Returns ∧
      ¬ (PendingWireMessages.observe euroFormats none [euroMessage.toJson] .empty).1.Returns ∧
      ¬ (unpackEnvelope euroFormats sha256 [euroMessage.toJson] none).Returns := by
  have hfit : euroFormats.StringsFit := by
    intro bytes envelope hread
    simp [euroFormats, Formats.ofTexts, Deserialized.result, Callback.run] at hread
  have hwanted : wantedMessage? euroFormats none euroMessage.toJson = some euroMessage := by
    rw [wantedMessage?_eq_some_iff]
    refine ⟨?_, rfl, by decide +kernel, by simp⟩
    simp [euroFormats, Formats.ofTexts]
  have hsplits : euroMessage.body.Splits :=
    ⟨⟨by decide, by decide, by decide⟩, Or.inl splitsCharacter_euroText⟩
  have hread : euroFormats.challengeFromStr euroChallenge.toJson = euroChallenge.read := by
    simp [euroFormats, Formats.ofTexts]
  refine ⟨not_not.mpr ?_, not_not.mpr ?_, not_not.mpr ?_⟩
  · rw [latestChallenge_eq_panic_iff]
    refine ⟨_, List.mem_singleton_self _, .digest euroText, ?_, splitsCharacter_euroText⟩
    rw [hread]
    exact Or.inl rfl
  · rw [observe_panics_iff]
    refine ⟨[], _, [], _, rfl, ⟨by simp, ?_⟩, hwanted, hsplits⟩
    decide
  · rw [unpackEnvelope_eq_panic_iff hfit]
    exact ⟨rfl, Or.inl ⟨[], _, [], _, rfl, Clean.nil, hwanted, hsplits⟩⟩

end TokenStudio
