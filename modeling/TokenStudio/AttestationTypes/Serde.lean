import TokenStudio.AttestationTypes.Hex
import TokenStudio.CodeLib.Base64
import TokenStudio.CodeLib.Callback

/-!
# The serialized form of journals, challenges and envelopes

`attestation-types` derives `Serialize` and `Deserialize` for its records and
sends some of their fields through functions of its own: digests, keys and
owners are hexadecimal text (`serde_digest_hex`, `serde_program_owner_hex`),
and byte strings are Base64 text (`serde_bytes_base64`).  The format itself,
JSON, is code of another crate.

The records that the format sees are the `Doc` structures here, with texts in
the place of those fields.  `serialize` makes such a record.  In the other
direction the format walks over its input and calls back for every text, so
what it does is a `Deserialized` computation, and `TextField.deserialize`
answers its calls.  `read` is the computation for a record, with its calls in
the order of the fields.

`run_read_serialize` is the round trip, and `deserialize_eq_panic_iff` says on
which texts a call panics.
-/

namespace TokenStudio

/-! ## Fields with a text form of their own -/

/-- A field that the crate reads from a text. -/
inductive TextField where
  | digest (text : String)
  | programOwner (text : String)
  | base64 (text : String)
  deriving DecidableEq, Repr

namespace TextField

/-- The type of the field. -/
def Value : TextField → Type
  | digest _ => Digest32
  | programOwner _ => ProgramOwner
  | base64 _ => Bytes

/-- The three `deserialize` functions. -/
def deserialize : (field : TextField) → Outcome Unit field.Value
  | digest text => (digestFromHex text).mapErr fun _ => ()
  | programOwner text => (programOwnerFromHex text).mapErr fun _ => ()
  | base64 text => Outcome.okOr (base64Decode text) ()

/-- A hexadecimal field whose text splits a character. -/
def Splits : TextField → Prop
  | digest text => SplitsCharacter text
  | programOwner text => SplitsCharacter text
  | base64 _ => False

instance : (field : TextField) → Decidable field.Splits
  | digest text => inferInstanceAs (Decidable (SplitsCharacter text))
  | programOwner text => inferInstanceAs (Decidable (SplitsCharacter text))
  | base64 _ => inferInstanceAs (Decidable False)

theorem deserialize_eq_panic_iff (field : TextField) :
    field.deserialize = .panic ↔ field.Splits := by
  cases field with
  | digest text => exact Outcome.mapErr_eq_panic.trans (digestFromHex_eq_panic_iff text)
  | programOwner text =>
    exact Outcome.mapErr_eq_panic.trans (programOwnerFromHex_eq_panic_iff text)
  | base64 text => exact iff_of_false Outcome.okOr_ne_panic id

end TextField

/-- What the format does on some input, with the calls for text fields left
open. -/
abbrev Deserialized (α : Type) := Callback TextField TextField.Value α

namespace Deserialized

variable {α : Type}

/-- The value that comes out. -/
def result (x : Deserialized α) : Outcome Unit α := x.run TextField.deserialize

/-- The input hands the field to the crate. -/
def Hands (x : Deserialized α) (field : TextField) : Prop := x.Reaches TextField.deserialize field

/-- Reading panics exactly when the input hands over a text that splits a
character. -/
theorem result_eq_panic_iff (x : Deserialized α) :
    x.result = .panic ↔ ∃ field, x.Hands field ∧ field.Splits := by
  rw [result, Callback.run_eq_panic_iff]
  constructor
  · rintro ⟨field, hreach, hpanic⟩
    exact ⟨field, hreach, field.deserialize_eq_panic_iff.mp hpanic⟩
  · rintro ⟨field, hreach, hsplits⟩
    exact ⟨field, hreach, field.deserialize_eq_panic_iff.mpr hsplits⟩

/-- `serde_digest_hex::deserialize`. -/
def digest (text : String) : Deserialized Digest32 := Callback.ask (TextField.digest text)

/-- `serde_program_owner_hex::deserialize`. -/
def programOwner (text : String) : Deserialized ProgramOwner :=
  Callback.ask (TextField.programOwner text)

/-- `serde_bytes_base64::deserialize`. -/
def base64 (text : String) : Deserialized Bytes := Callback.ask (TextField.base64 text)

@[simp] theorem run_digest (d : Digest32) :
    (digest (digestToHex d)).run TextField.deserialize = .ok d := by
  have hfield : (digestFromHex (digestToHex d)).mapErr (fun _ => ()) = .ok d := by
    rw [digestFromHex_digestToHex, Outcome.mapErr_ok]
  exact Callback.run_ask_of_ok TextField.deserialize hfield

@[simp] theorem run_programOwner (owner : ProgramOwner) :
    (programOwner (programOwnerToHex owner)).run TextField.deserialize = .ok owner := by
  have hfield : (programOwnerFromHex (programOwnerToHex owner)).mapErr (fun _ => ()) =
      .ok owner := by
    rw [programOwnerFromHex_programOwnerToHex, Outcome.mapErr_ok]
  exact Callback.run_ask_of_ok TextField.deserialize hfield

@[simp] theorem run_base64 (bytes : Bytes) :
    (base64 (base64Encode bytes)).run TextField.deserialize = .ok bytes := by
  have hfield : Outcome.okOr (base64Decode (base64Encode bytes)) () = .ok bytes := by
    rw [base64Decode_base64Encode, Outcome.okOr_some]
  exact Callback.run_ask_of_ok TextField.deserialize hfield

end Deserialized

/-! ## Journals -/

/-- An `AttestationJournal` as the format sees it. -/
structure JournalDoc where
  version : UInt16
  contextHash : String
  tokenProgramOwner : String
  tokenDefinitionId : String
  threshold : U128
  commitmentRoot : String
  presenterPublicKey : String
  issuedAtUnixMs : UInt64
  expiresAtUnixMs : Option UInt64
  deriving DecidableEq

/-- The derived `Serialize` of `AttestationJournal`. -/
def AttestationJournal.serialize (self : AttestationJournal) : JournalDoc where
  version := self.version
  contextHash := digestToHex self.contextHash
  tokenProgramOwner := programOwnerToHex self.tokenProgramOwner
  tokenDefinitionId := digestToHex self.tokenDefinitionId
  threshold := self.threshold
  commitmentRoot := digestToHex self.commitmentRoot
  presenterPublicKey := digestToHex self.presenterPublicKey
  issuedAtUnixMs := self.issuedAtUnixMs
  expiresAtUnixMs := self.expiresAtUnixMs

/-- The derived `Deserialize` of `AttestationJournal`. -/
def JournalDoc.read (doc : JournalDoc) : Deserialized AttestationJournal := do
  let contextHash ← Deserialized.digest doc.contextHash
  let tokenProgramOwner ← Deserialized.programOwner doc.tokenProgramOwner
  let tokenDefinitionId ← Deserialized.digest doc.tokenDefinitionId
  let commitmentRoot ← Deserialized.digest doc.commitmentRoot
  let presenterPublicKey ← Deserialized.digest doc.presenterPublicKey
  pure
    { version := doc.version
      contextHash, tokenProgramOwner, tokenDefinitionId
      threshold := doc.threshold
      commitmentRoot, presenterPublicKey
      issuedAtUnixMs := doc.issuedAtUnixMs
      expiresAtUnixMs := doc.expiresAtUnixMs }

@[simp] theorem JournalDoc.run_read_serialize (journal : AttestationJournal) :
    journal.serialize.read.run TextField.deserialize = .ok journal := by
  simp [JournalDoc.read, AttestationJournal.serialize]

/-! ## Challenges -/

/-- A `VerificationChallenge` as the format sees it. -/
structure ChallengeDoc where
  version : UInt16
  gateContextHash : String
  expectedCommitmentRoot : String
  verifierId : String
  nonce : String
  issuedAtUnixMs : UInt64
  expiresAtUnixMs : UInt64
  deriving DecidableEq

/-- The derived `Serialize` of `VerificationChallenge`. -/
def VerificationChallenge.serialize (self : VerificationChallenge) : ChallengeDoc where
  version := self.version
  gateContextHash := digestToHex self.gateContextHash
  expectedCommitmentRoot := digestToHex self.expectedCommitmentRoot
  verifierId := self.verifierId
  nonce := digestToHex self.nonce
  issuedAtUnixMs := self.issuedAtUnixMs
  expiresAtUnixMs := self.expiresAtUnixMs

/-- The derived `Deserialize` of `VerificationChallenge`. -/
def ChallengeDoc.read (doc : ChallengeDoc) : Deserialized VerificationChallenge := do
  let gateContextHash ← Deserialized.digest doc.gateContextHash
  let expectedCommitmentRoot ← Deserialized.digest doc.expectedCommitmentRoot
  let nonce ← Deserialized.digest doc.nonce
  pure
    { version := doc.version
      gateContextHash, expectedCommitmentRoot
      verifierId := doc.verifierId
      nonce
      issuedAtUnixMs := doc.issuedAtUnixMs
      expiresAtUnixMs := doc.expiresAtUnixMs }

@[simp] theorem ChallengeDoc.run_read_serialize (challenge : VerificationChallenge) :
    challenge.serialize.read.run TextField.deserialize = .ok challenge := by
  simp [ChallengeDoc.read, VerificationChallenge.serialize]

/-! ## Envelopes -/

/-- An `AttestationEnvelope` as the format sees it. -/
structure EnvelopeDoc where
  journal : JournalDoc
  receipt : String
  challenge : ChallengeDoc
  presenterSignature : String
  transport : ProofTransport
  deriving DecidableEq

/-- The derived `Serialize` of `AttestationEnvelope`. -/
def AttestationEnvelope.serialize (self : AttestationEnvelope) : EnvelopeDoc where
  journal := self.journal.serialize
  receipt := base64Encode self.receipt
  challenge := self.challenge.serialize
  presenterSignature := base64Encode self.presenterSignature
  transport := self.transport

/-- The derived `Deserialize` of `AttestationEnvelope`. -/
def EnvelopeDoc.read (doc : EnvelopeDoc) : Deserialized AttestationEnvelope := do
  let journal ← doc.journal.read
  let receipt ← Deserialized.base64 doc.receipt
  let challenge ← doc.challenge.read
  let presenterSignature ← Deserialized.base64 doc.presenterSignature
  pure { journal, receipt, challenge, presenterSignature, transport := doc.transport }

/-- An envelope comes back from its serialized form. -/
theorem EnvelopeDoc.result_read_serialize (envelope : AttestationEnvelope) :
    envelope.serialize.read.result = .ok envelope := by
  simp [Deserialized.result, EnvelopeDoc.read, AttestationEnvelope.serialize]

end TokenStudio
