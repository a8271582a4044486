import Std.Data.ExtTreeMap.Lemmas
import Std.Data.ExtTreeSet.Lemmas
import Mathlib.Data.String.Basic
import TokenStudio.AttestationTypes.Serde

/-!
# Envelopes and challenges over a chat

The model of the crate `proofgate-messaging`: an envelope is cut into chunks and
sent as chat messages, and the receiver puts it together again from whatever the
chat holds.  A transfer is a number of chunk messages and one manifest with the
length and the hash of the whole.

* `packEnvelopeWithId` is the sender.
* `unpackEnvelope` is the receiver.  It goes over the contents (`collect`), takes
  in one message at a time (`Transfers.absorb`) and then puts one transfer
  together (`PartialTransfer.assemble`).
* `PendingWireMessages` keeps the messages of earlier polls.
* `latestChallenge` picks the newest challenge of a chat.

`serde_json` is code of another crate.  What the crate uses of it is the argument
`F : Formats`.  Contents of a chat are arbitrary strings, and whatever
`F` makes of them is the input of these functions.  `usize` has 64 bits, so every
conversion to it succeeds.
-/

namespace TokenStudio

/-- `PROTOCOL`. -/
def transferProtocol : String := "proofgate/attestation-transfer"

/-- `CHALLENGE_PROTOCOL`. -/
def challengeProtocol : String := "proofgate/verification-challenge"

/-- `WIRE_VERSION`. -/
def wireVersion : UInt16 := 1

/-- `MAX_CHUNK_BYTES`. -/
def maxChunkBytes : Nat := 48 * 1024

/-- `MAX_TRANSFER_BYTES`. -/
def maxTransferBytes : Nat := 4 * 1024 * 1024

/-- `MAX_CHUNKS`. -/
def maxChunks : Nat := 128

/-- `MAX_ENCODED_CHUNK_BYTES`. -/
def maxEncodedChunkBytes : Nat := (maxChunkBytes + 2) / 3 * 4

/-- `MAX_PENDING_WIRE_MESSAGES`. -/
def maxPendingWireMessages : Nat := (maxChunks + 1) * 4

/-! ## Messages -/

/-- The fields of `WireBody::Manifest`, which are those of `Manifest`. -/
structure Manifest where
  envelopeSha256 : String
  envelopeBytes : UInt64
  chunkCount : UInt32
  contextHash : String
  challengeDigest : String
  deriving DecidableEq, Repr

/-- The fields of `WireBody::Chunk` without the index, which are those of
`EncodedChunk`. -/
structure EncodedChunk where
  chunkCount : UInt32
  dataBase64 : String
  deriving DecidableEq, Repr

inductive WireBody where
  | manifest (manifest : Manifest)
  | chunk (chunkIndex : UInt32) (chunk : EncodedChunk)
  deriving DecidableEq, Repr

structure WireMessage where
  protocol : String
  version : UInt16
  transferId : String
  body : WireBody
  deriving DecidableEq, Repr

structure TransferBundle where
  transferId : String
  messages : List String
  deriving DecidableEq, Repr

structure ChallengeWireMessage where
  protocol : String
  version : UInt16
  challenge : VerificationChallenge
  deriving DecidableEq

/-- A `ChallengeWireMessage` as the format sees it. -/
structure ChallengeWireDoc where
  protocol : String
  version : UInt16
  challenge : ChallengeDoc
  deriving DecidableEq

/-- The derived `Deserialize` of `ChallengeWireMessage`. -/
def ChallengeWireDoc.read (doc : ChallengeWireDoc) : Deserialized ChallengeWireMessage := do
  let challenge ← doc.challenge.read
  pure { protocol := doc.protocol, version := doc.version, challenge }

inductive MessagingError where
  | wrongTransport
  | invalidChunkSize
  | transferTooLarge (actual maximum : Nat)
  | tooManyChunks (actual maximum : Nat)
  | invalidTransferId
  | encoding (message : String)
  | noTransfer
  | noChallenge
  | incompleteTransfer (transferId : String) (received expected : Nat)
  | conflictingManifest (transferId : String)
  | conflictingChunk (transferId : String)
  | invalidWireMessage (message : String)
  | integrityFailure
  deriving DecidableEq, Repr

/-- The text of a `MessagingError`. -/
def MessagingError.toText : MessagingError → String
  | .wrongTransport => "attestation envelope must declare LogosMessaging transport"
  | .invalidChunkSize =>
    "chunk size must be between 1 and " ++ toString maxChunkBytes ++ " bytes"
  | .transferTooLarge actual maximum =>
    "attestation envelope is " ++ toString actual ++ " bytes; maximum is " ++ toString maximum
  | .tooManyChunks actual maximum =>
    "transfer requires " ++ toString actual ++ " chunks; maximum is " ++ toString maximum
  | .invalidTransferId => "invalid transfer id"
  | .encoding message => "failed to serialize Messaging payload: " ++ message
  | .noTransfer => "no ProofGate transfer manifest was found"
  | .noChallenge => "no ProofGate verification challenge was found"
  | .incompleteTransfer transferId received expected =>
    "transfer " ++ transferId ++ " is incomplete: received " ++ toString received ++ " of " ++
      toString expected ++ " chunks"
  | .conflictingManifest transferId =>
    "transfer " ++ transferId ++ " contains conflicting manifests"
  | .conflictingChunk transferId =>
    "transfer " ++ transferId ++ " contains conflicting duplicate chunks"
  | .invalidWireMessage message => "invalid ProofGate wire message: " ++ message
  | .integrityFailure => "transfer integrity check failed"

/-- What the crate uses of `serde_json`, and the text of a Base64 error.  An
envelope is read from bytes and a challenge from text, and both call back for
their text fields. -/
structure Formats where
  messageToString : WireMessage → Except String String
  messageFromStr : String → Option WireMessage
  envelopeToVec : EnvelopeDoc → Except String Bytes
  envelopeFromSlice : Bytes → Deserialized AttestationEnvelope
  envelopeError : Bytes → String
  challengeToString : ChallengeWireDoc → Except String String
  challengeFromStr : String → Deserialized ChallengeWireMessage
  base64Error : String → String

/-! ## Checks -/

/-- `u8::is_ascii_hexdigit`. -/
def isAsciiHexdigit (byte : UInt8) : Bool := (hexDigit? byte).isSome

/-- `u8::is_ascii_uppercase`. -/
def isAsciiUppercase (byte : UInt8) : Bool := 0x41 ≤ byte && byte ≤ 0x5a

/-- `validate_transfer_id`. -/
def validateTransferId (transferId : String) : Outcome MessagingError Unit :=
  Outcome.check ((asBytes transferId).length ≠ 32 ∨
    ¬ (asBytes transferId).all fun byte => isAsciiHexdigit byte && !isAsciiUppercase byte)
    .invalidTransferId

/-- The last three alternatives of the manifest check: whether some text is not
the text of a digest. -/
def anyDigestInvalid : List String → Outcome MessagingError Bool
  | [] => .ok false
  | text :: rest =>
    match digestFromHex text with
    | .ok _ => anyDigestInvalid rest
    | .err _ => .ok true
    | .panic => .panic

/-- `validate_wire_body`. -/
def validateWireBody (body : WireBody) : Outcome MessagingError Unit :=
  match body with
  | .manifest manifest => do
    let error := MessagingError.invalidWireMessage "manifest fields are outside protocol bounds"
    Outcome.check (manifest.chunkCount = 0 ∨ manifest.chunkCount.toNat > maxChunks ∨
      manifest.envelopeBytes.toNat > maxTransferBytes) error
    let invalid ← anyDigestInvalid
      [manifest.envelopeSha256, manifest.contextHash, manifest.challengeDigest]
    Outcome.check (invalid = true) error
  | .chunk chunkIndex chunk =>
    Outcome.check (chunk.chunkCount = 0 ∨ chunk.chunkCount.toNat > maxChunks ∨
      chunkIndex ≥ chunk.chunkCount ∨
      (asBytes chunk.dataBase64).length > maxEncodedChunkBytes)
      (.invalidWireMessage "chunk fields are outside protocol bounds")

/-! ## The sender -/

/-- `u32::try_from` on a length, with `none` for the panic of the `expect`
behind it. -/
def u32FromLength (length : Nat) : Option UInt32 :=
  if length < 2 ^ 32 then some (UInt32.ofNat length) else none

/-- `u64::try_from` on a length, with `none` for the panic of the `expect`
behind it. -/
def u64FromLength (length : Nat) : Option UInt64 :=
  if length < 2 ^ 64 then some (UInt64.ofNat length) else none

/-- `[u8]::chunks`, for a positive size. -/
def byteChunks (size : Nat) (bytes : Bytes) : List Bytes :=
  (List.range ((bytes.length + (size - 1)) / size)).map fun index =>
    (bytes.drop (index * size)).take size

/-- A serializer's result, with `MessagingError::Encoding` around its error. -/
def encoded {α : Type} (x : Except String α) : Outcome MessagingError α :=
  match x with
  | .ok a => .ok a
  | .error message => .err (.encoding message)

/-- `encode_wire_message`. -/
def encodeWireMessage (F : Formats) (message : WireMessage) : Outcome MessagingError String :=
  encoded (F.messageToString message)

/-- A message of a transfer. -/
def transferMessage (transferId : String) (body : WireBody) : WireMessage :=
  { protocol := transferProtocol, version := wireVersion, transferId, body }

/-- One round of the loop of `pack_envelope_with_id`. -/
def encodeChunk (F : Formats) (transferId : String) (chunkCount : UInt32) (chunk : Bytes)
    (index : Nat) : Outcome MessagingError String := do
  let chunkIndex ← u32FromLength index
  encodeWireMessage F (transferMessage transferId
    (.chunk chunkIndex { chunkCount, dataBase64 := base64Encode chunk }))

/-- `pack_envelope_with_id`. -/
def packEnvelopeWithId (F : Formats) (sha256 : Bytes → Digest32)
    (envelope : AttestationEnvelope) (chunkBytes : Nat) (transferId : String) :
    Outcome MessagingError TransferBundle := do
  Outcome.check (envelope.transport ≠ .logosMessaging) MessagingError.wrongTransport
  Outcome.check (¬ (1 ≤ chunkBytes ∧ chunkBytes ≤ maxChunkBytes)) MessagingError.invalidChunkSize
  validateTransferId transferId
  let envelopeBytes ← encoded (F.envelopeToVec envelope.serialize)
  Outcome.check (envelopeBytes.length > maxTransferBytes)
    (MessagingError.transferTooLarge envelopeBytes.length maxTransferBytes)
  let chunks := byteChunks chunkBytes envelopeBytes
  Outcome.check (chunks.length > maxChunks)
    (MessagingError.tooManyChunks chunks.length maxChunks)
  let chunkCount ← u32FromLength chunks.length
  let chunkMessages ← chunks.zipIdx.mapM fun (chunk, index) =>
    encodeChunk F transferId chunkCount chunk index
  let envelopeLength ← u64FromLength envelopeBytes.length
  let challengeDigest ← envelope.challenge.digest sha256
  let manifestMessage ← encodeWireMessage F (transferMessage transferId (.manifest
    { envelopeSha256 := digestToHex (sha256 envelopeBytes)
      envelopeBytes := envelopeLength
      chunkCount
      contextHash := digestToHex envelope.contextHash
      challengeDigest := digestToHex challengeDigest }))
  -- Chunks are sent first and the manifest last as the transfer commit.
  pure { transferId, messages := chunkMessages ++ [manifestMessage] }

/-! ## The receiver -/

/-- The filter of both receiving loops: the message in a content, if it is a
message of a transfer that is asked for. -/
def wantedMessage? (F : Formats) (requested : Option String) (content : String) :
    Option WireMessage := do
  let message ← F.messageFromStr content
  if message.protocol ≠ transferProtocol ∨ message.version ≠ wireVersion then none
  else if ¬ (validateTransferId message.transferId).isOk then none
  else if requested.any (· ≠ message.transferId) then none
  else some message

structure PartialTransfer where
  manifest : Option Manifest
  chunks : Std.ExtTreeMap UInt32 EncodedChunk

/-- `PartialTransfer::default`. -/
def PartialTransfer.empty : PartialTransfer where
  manifest := none
  chunks := ∅

/-- The two variables of the loop of `unpack_envelope`. -/
structure Transfers where
  transfers : Std.ExtTreeMap String PartialTransfer
  manifestOrder : List String

namespace Transfers

/-- Before the loop. -/
def empty : Transfers where
  transfers := ∅
  manifestOrder := []

/-- `transfers.entry(transfer_id).or_default()`. -/
def entry (self : Transfers) (transferId : String) : PartialTransfer :=
  self.transfers[transferId]?.getD .empty

/-- The first manifest of a transfer. -/
def withManifest (self : Transfers) (transferId : String) (manifest : Manifest) : Transfers where
  transfers := self.transfers.insert transferId
    { self.entry transferId with manifest := some manifest }
  manifestOrder := self.manifestOrder ++ [transferId]

/-- A chunk of a transfer. -/
def withChunk (self : Transfers) (transferId : String) (chunkIndex : UInt32)
    (chunk : EncodedChunk) : Transfers :=
  { self with
    transfers := self.transfers.insert transferId
      { self.entry transferId with
        chunks := (self.entry transferId).chunks.insert chunkIndex chunk } }

/-- The rest of one round of the loop, for a message that passed the filter.  A
transfer that has a manifest is in the map, so a second copy of the manifest
changes nothing. -/
def absorb (self : Transfers) (message : WireMessage) : Outcome MessagingError Transfers := do
  validateWireBody message.body
  let transfer := self.entry message.transferId
  match message.body with
  | .manifest manifest =>
    Outcome.check (transfer.manifest.any (· ≠ manifest))
      (MessagingError.conflictingManifest message.transferId)
    if transfer.manifest.isNone then pure (self.withManifest message.transferId manifest)
    else pure self
  | .chunk chunkIndex chunk =>
    Outcome.check (transfer.chunks[chunkIndex]?.any (· ≠ chunk))
      (MessagingError.conflictingChunk message.transferId)
    pure (self.withChunk message.transferId chunkIndex chunk)

end Transfers

/-- One round of the loop of `unpack_envelope`. -/
def collectOne (F : Formats) (requested : Option String) (self : Transfers) (content : String) :
    Outcome MessagingError Transfers :=
  match wantedMessage? F requested content with
  | none => .ok self
  | some message => self.absorb message

/-- The loop of `unpack_envelope`. -/
def collect (F : Formats) (requested : Option String) (contents : List String) :
    Outcome MessagingError Transfers :=
  contents.foldlM (collectOne F requested) .empty

namespace PartialTransfer

/-- The loop of `assemble`, over the indexes that are left. -/
def joinChunks (F : Formats) (self : PartialTransfer) (transferId : String)
    (manifest : Manifest) : List UInt32 → Bytes → Outcome MessagingError Bytes
  | [], envelopeBytes => .ok envelopeBytes
  | index :: rest, envelopeBytes => do
    let chunk ← Outcome.okOr self.chunks[index]? (MessagingError.incompleteTransfer transferId
      self.chunks.size manifest.chunkCount.toNat)
    Outcome.check (chunk.chunkCount ≠ manifest.chunkCount)
      (MessagingError.invalidWireMessage "chunk count differs from manifest")
    let decoded ← Outcome.okOr (base64Decode chunk.dataBase64)
      (MessagingError.invalidWireMessage
        ("invalid chunk base64: " ++ F.base64Error chunk.dataBase64))
    Outcome.check (decoded.length > maxChunkBytes)
      (MessagingError.invalidWireMessage "decoded chunk exceeds protocol limit")
    joinChunks F self transferId manifest rest (envelopeBytes ++ decoded)

/-- `0..manifest.chunk_count`. -/
def indexes (manifest : Manifest) : List UInt32 :=
  (List.range manifest.chunkCount.toNat).map UInt32.ofNat

/-- The first half of `assemble`: the bytes that the manifest describes. -/
def assembleBytes (F : Formats) (sha256 : Bytes → Digest32) (self : PartialTransfer)
    (transferId : String) (manifest : Manifest) : Outcome MessagingError Bytes := do
  let expected := manifest.chunkCount.toNat
  Outcome.check (expected = 0 ∨ expected > maxChunks)
    (MessagingError.invalidWireMessage "chunk count is outside protocol bounds")
  Outcome.check (self.chunks.size ≠ expected)
    (MessagingError.incompleteTransfer transferId self.chunks.size expected)
  let expectedBytes := manifest.envelopeBytes.toNat
  Outcome.check (expectedBytes > maxTransferBytes)
    (MessagingError.transferTooLarge expectedBytes maxTransferBytes)
  let envelopeBytes ← self.joinChunks F transferId manifest (indexes manifest) []
  Outcome.check (envelopeBytes.length ≠ expectedBytes ∨
    digestToHex (sha256 envelopeBytes) ≠ manifest.envelopeSha256) MessagingError.integrityFailure
  pure envelopeBytes

/-- The second half of `assemble`: the envelope in the bytes. -/
def openEnvelope (F : Formats) (sha256 : Bytes → Digest32) (manifest : Manifest)
    (envelopeBytes : Bytes) : Outcome MessagingError AttestationEnvelope := do
  let _ ← (digestFromHex manifest.contextHash).mapErr fun error =>
    MessagingError.invalidWireMessage error.message
  let _ ← (digestFromHex manifest.challengeDigest).mapErr fun error =>
    MessagingError.invalidWireMessage error.message
  let envelope ← (F.envelopeFromSlice envelopeBytes).result.mapErr fun _ =>
    MessagingError.invalidWireMessage (F.envelopeError envelopeBytes)
  Outcome.check (envelope.transport ≠ .logosMessaging) MessagingError.wrongTransport
  Outcome.check (digestToHex envelope.contextHash ≠ manifest.contextHash)
    MessagingError.integrityFailure
  let challengeDigest ← envelope.challenge.digest sha256
  Outcome.check (digestToHex challengeDigest ≠ manifest.challengeDigest)
    MessagingError.integrityFailure
  pure envelope

/-- `PartialTransfer::assemble`. -/
def assemble (F : Formats) (sha256 : Bytes → Digest32) (self : PartialTransfer)
    (transferId : String) : Outcome MessagingError AttestationEnvelope := do
  let manifest ← Outcome.okOr self.manifest MessagingError.noTransfer
  let envelopeBytes ← self.assembleBytes F sha256 transferId manifest
  openEnvelope F sha256 manifest envelopeBytes

end PartialTransfer

/-- The transfer to put together: the requested one, or else the one whose first
manifest came last. -/
def Transfers.selected (self : Transfers) (requested : Option String) : Option String :=
  requested.or self.manifestOrder.getLast?

/-- `unpack_envelope`. -/
def unpackEnvelope (F : Formats) (sha256 : Bytes → Digest32) (contents : List String)
    (requested : Option String) : Outcome MessagingError (String × AttestationEnvelope) := do
  requested.forM validateTransferId
  let collected ← collect F requested contents
  let transferId ← Outcome.okOr (collected.selected requested) MessagingError.noTransfer
  let transfer ← Outcome.okOr collected.transfers[transferId]? MessagingError.noTransfer
  let envelope ← transfer.assemble F sha256 transferId
  pure (transferId, envelope)

/-! ## Polling -/

/-- `PendingWireMessages`.  The two fields of the source are private, and every
value comes from `default` by `observe`, which keeps the other three. -/
structure PendingWireMessages where
  contents : List String
  seen : Std.ExtTreeSet String
  mem_seen : ∀ content, content ∈ seen ↔ content ∈ contents
  nodup : contents.Nodup
  bounded : contents.length ≤ maxPendingWireMessages

namespace PendingWireMessages

/-- `PendingWireMessages::default`. -/
def empty : PendingWireMessages where
  contents := []
  seen := ∅
  mem_seen := by simp
  nodup := List.nodup_nil
  bounded := Nat.zero_le _

/-- Keep one more content. -/
def push (self : PendingWireMessages) (content : String) (hnew : content ∉ self.seen)
    (hfull : ¬ self.contents.length ≥ maxPendingWireMessages) : PendingWireMessages where
  contents := self.contents ++ [content]
  seen := self.seen.insert content
  mem_seen := by
    intro c
    simp only [Std.ExtTreeSet.mem_insert, Std.LawfulEqCmp.compare_eq_iff_eq, self.mem_seen,
      List.mem_append, List.mem_singleton]
    exact ⟨fun h => h.elim (fun h => Or.inr h.symm) Or.inl,
      fun h => h.elim Or.inr fun h => Or.inl h.symm⟩
  nodup := by
    have hnot : content ∉ self.contents := fun h => hnew ((self.mem_seen content).mpr h)
    exact self.nodup.append (List.nodup_singleton _) (by simpa using hnot)
  bounded := by
    simp only [List.length_append, List.length_singleton]
    omega

/-- One round of the loop of `observe`. -/
def observeOne (F : Formats) (requested : Option String) (content : String) :
    Mutating PendingWireMessages MessagingError Unit :=
  match wantedMessage? F requested content with
  | none => pure ()
  | some message => do
    (liftM (validateWireBody message.body) : Mutating PendingWireMessages MessagingError Unit)
    let self ← Mutating.read
    if hseen : content ∈ self.seen then pure ()
    else if hfull : self.contents.length ≥ maxPendingWireMessages then
      Mutating.lift (.err (.invalidWireMessage "too many pending transfer messages"))
    else Mutating.write (self.push content hseen hfull)

/-- `PendingWireMessages::observe`. -/
def observe (F : Formats) (requested : Option String) (contents : List String) :
    Mutating PendingWireMessages MessagingError Unit :=
  contents.forM (observeOne F requested)

/-- `PendingWireMessages::unpack`. -/
def unpack (F : Formats) (sha256 : Bytes → Digest32) (self : PendingWireMessages)
    (requested : Option String) : Outcome MessagingError (String × AttestationEnvelope) :=
  unpackEnvelope F sha256 self.contents requested

end PendingWireMessages

/-! ## Challenges -/

/-- `encode_challenge`. -/
def encodeChallenge (F : Formats) (challenge : VerificationChallenge) :
    Outcome MessagingError String :=
  encoded (F.challengeToString
    { protocol := challengeProtocol, version := wireVersion, challenge := challenge.serialize })

/-- `serde_json::from_str::<ChallengeWireMessage>(content).ok()`. -/
def readChallenge (F : Formats) (content : String) :
    Outcome MessagingError (Option ChallengeWireMessage) :=
  match (F.challengeFromStr content).result with
  | .ok message => .ok (some message)
  | .err _ => .ok none
  | .panic => .panic

/-- The filter of `latest_challenge`. -/
def isProtocolChallenge (message : ChallengeWireMessage) : Bool :=
  message.protocol = challengeProtocol && message.version = wireVersion &&
    message.challenge.hasValidWindow

/-- `Iterator::max_by_key`, which returns the last one of several greatest
elements. -/
def maxByKey {α : Type} (key : α → UInt64) (xs : List α) : Option α :=
  xs.foldl (fun best x =>
    match best with
    | none => some x
    | some y => if key y > key x then some y else some x) none

/-- `latest_challenge`. -/
def latestChallenge (F : Formats) (contents : List String) :
    Outcome MessagingError VerificationChallenge := do
  let messages ← contents.mapM (readChallenge F)
  let challenges := ((messages.filterMap id).filter isProtocolChallenge).map
    ChallengeWireMessage.challenge
  Outcome.okOr (maxByKey VerificationChallenge.issuedAtUnixMs challenges)
    MessagingError.noChallenge

end TokenStudio
