import TokenStudio.CodeLib.Text

/-!
# Gate contexts, journals, challenges and envelopes

The model of the crate `attestation-types`, without its hexadecimal text
(`TokenStudio.AttestationTypes.Hex`).

Every value that is hashed or signed has a canonical byte string: a domain
string, then the fields in declaration order.  Integers are little-endian,
strings stand behind their four-byte length, and an optional expiry stands
behind a tag byte.  `write_string` panics on a string of `2 ^ 32` bytes or
more, so the encoders of values with strings are `Option`-valued, with `none`
for the panic.

The results are the injectivity of the three encoders, each in the form that
its users need: two values with the same canonical bytes are equal.

SHA-256 is code of another crate.  The functions that hash take it as the
argument `sha256`, and no property of it is assumed here.
-/

namespace TokenStudio

/-- `[u8; 32]`. -/
abbrev Digest32 := List.Vector UInt8 32

/-- `[u32; 8]`. -/
abbrev ProgramOwner := List.Vector UInt32 8

/-- `[u8; 32]`. -/
abbrev PublicKey32 := List.Vector UInt8 32

/-- `[0; 32]`. -/
def zeroDigest : Digest32 := List.Vector.replicate 32 0

/-- The digest with a given big-endian value. -/
def digestOf (value : Nat) : Digest32 := ⟨(leBytes 32 value).reverse, by simp⟩

/-- `[0; 8]`. -/
def zeroOwner : ProgramOwner := List.Vector.replicate 8 0

/-! ## Strings on the wire -/

/-- `write_string`: the length of a string as a `u32`, then its bytes.  The
conversion of the length is an `expect`. -/
def writeString (value : String) : Option Bytes :=
  if (asBytes value).length < 2 ^ 32 then
    some (leBytes 4 (asBytes value).length ++ asBytes value)
  else none

theorem writeString_eq_some {value : String} {bytes : Bytes} :
    writeString value = some bytes ↔
      (asBytes value).length < 2 ^ 32 ∧
        leBytes 4 (asBytes value).length ++ asBytes value = bytes := by
  unfold writeString
  split <;> simp_all

theorem writeString_of_lt {value : String} (h : (asBytes value).length < 2 ^ 32) :
    writeString value = some (leBytes 4 (asBytes value).length ++ asBytes value) :=
  if_pos h

/-- A written string can be split off the front of a longer byte string. -/
theorem writeString_peel {s s' : String} {b b' rest rest' : Bytes}
    (hs : writeString s = some b) (hs' : writeString s' = some b')
    (h : b ++ rest = b' ++ rest') : s = s' ∧ rest = rest' := by
  obtain ⟨hlt, rfl⟩ := writeString_eq_some.mp hs
  obtain ⟨hlt', rfl⟩ := writeString_eq_some.mp hs'
  simp only [List.append_assoc] at h
  obtain ⟨hlen, h⟩ := List.append_inj h (by simp)
  have hlength : (asBytes s).length = (asBytes s').length := by
    have hmod := congrArg ofLeBytes hlen
    rw [ofLeBytes_leBytes, ofLeBytes_leBytes] at hmod
    omega
  obtain ⟨hbytes, hrest⟩ := List.append_inj h hlength
  exact ⟨asBytes_injective hbytes, hrest⟩

/-! ## Gate contexts -/

/-- `GATE_CONTEXT_DOMAIN`. -/
def gateContextDomain : Bytes := asBytes "LEZ-TokenStudio/GateContext/v2"

structure GateContext where
  applicationId : String
  gateId : String
  tokenProgramOwner : ProgramOwner
  tokenDefinitionId : Digest32
  threshold : U128
  verifierId : String
  expiresAtUnixMs : Option UInt64
  deriving DecidableEq

namespace GateContext

/-- `GateContext::canonical_bytes`. -/
def canonicalBytes (self : GateContext) : Option Bytes := do
  let applicationId ← writeString self.applicationId
  let gateId ← writeString self.gateId
  let verifierId ← writeString self.verifierId
  pure (gateContextDomain ++ applicationId ++ gateId ++
    (Codec.u32.array 8).encode self.tokenProgramOwner ++
    self.tokenDefinitionId.toList ++
    Codec.u128.encode self.threshold ++
    verifierId ++
    Codec.u64.option.encode self.expiresAtUnixMs)

/-- `GateContext::context_hash`. -/
def contextHash (sha256 : Bytes → Digest32) (self : GateContext) : Option Digest32 :=
  self.canonicalBytes.map sha256

/-- Two contexts with the same canonical bytes are equal. -/
theorem canonicalBytes_inj {c c' : GateContext} {b : Bytes}
    (h : c.canonicalBytes = some b) (h' : c'.canonicalBytes = some b) : c = c' := by
  simp only [canonicalBytes, Option.bind_eq_bind, Option.bind_eq_some_iff, Option.pure_def,
    Option.some.injEq] at h h'
  obtain ⟨app, happ, gate, hgate, ver, hver, rfl⟩ := h
  obtain ⟨app', happ', gate', hgate', ver', hver', heq⟩ := h'
  simp only [List.append_assoc] at heq
  have heq := List.append_cancel_left heq
  obtain ⟨h1, heq⟩ := writeString_peel happ' happ heq
  obtain ⟨h2, heq⟩ := writeString_peel hgate' hgate heq
  obtain ⟨h3, heq⟩ := (Codec.u32.array 8).peel heq
  obtain ⟨h4, heq⟩ := (Codec.byteArray 32).peel heq
  obtain ⟨h5, heq⟩ := Codec.u128.peel heq
  obtain ⟨h6, heq⟩ := writeString_peel hver' hver heq
  have h7 := Codec.u64.option.peel_last heq
  cases c
  cases c'
  simp_all

/-- Only a string of `2 ^ 32` bytes or more makes the encoder panic. -/
theorem exists_contextHash (sha256 : Bytes → Digest32) {c : GateContext}
    (happ : (asBytes c.applicationId).length < 2 ^ 32)
    (hgate : (asBytes c.gateId).length < 2 ^ 32)
    (hver : (asBytes c.verifierId).length < 2 ^ 32) :
    ∃ d, c.contextHash sha256 = some d := by
  simp [contextHash, canonicalBytes, writeString_of_lt happ, writeString_of_lt hgate,
    writeString_of_lt hver]

end GateContext

/-! ## Journals -/

/-- `expiry.is_some_and(|expiry| time > expiry)`. -/
def isAfter (time : UInt64) (expiry : Option UInt64) : Bool :=
  match expiry with
  | some expiry => time > expiry
  | none => false

/-- A time is not after an expiry when there is none or it is at most the expiry. -/
theorem isAfter_eq_false {time : UInt64} {expiry : Option UInt64} :
    isAfter time expiry = false ↔ ∀ e, expiry = some e → time ≤ e := by
  cases expiry with
  | none => simp [isAfter]
  | some e => simp [isAfter]

/-- `ATTESTATION_JOURNAL_VERSION`. -/
def attestationJournalVersion : UInt16 := 2

/-- `ATTESTATION_JOURNAL_DOMAIN`. -/
def attestationJournalDomain : Bytes := asBytes "LEZ-TokenStudio/AttestationJournal/v2"

structure AttestationJournal where
  version : UInt16
  contextHash : Digest32
  tokenProgramOwner : ProgramOwner
  tokenDefinitionId : Digest32
  threshold : U128
  commitmentRoot : Digest32
  presenterPublicKey : PublicKey32
  issuedAtUnixMs : UInt64
  expiresAtUnixMs : Option UInt64
  deriving DecidableEq

namespace AttestationJournal

/-- `AttestationJournal::canonical_bytes`. -/
def canonicalBytes (self : AttestationJournal) : Bytes :=
  attestationJournalDomain ++
    Codec.u16.encode self.version ++
    self.contextHash.toList ++
    (Codec.u32.array 8).encode self.tokenProgramOwner ++
    self.tokenDefinitionId.toList ++
    Codec.u128.encode self.threshold ++
    self.commitmentRoot.toList ++
    self.presenterPublicKey.toList ++
    Codec.u64.encode self.issuedAtUnixMs ++
    Codec.u64.option.encode self.expiresAtUnixMs

/-- `AttestationJournal::new`. -/
def new (sha256 : Bytes → Digest32) (gateContext : GateContext) (commitmentRoot : Digest32)
    (presenterPublicKey : PublicKey32) (issuedAtUnixMs : UInt64) :
    Option AttestationJournal := do
  let contextHash ← gateContext.contextHash sha256
  pure
    { version := attestationJournalVersion
      contextHash
      tokenProgramOwner := gateContext.tokenProgramOwner
      tokenDefinitionId := gateContext.tokenDefinitionId
      threshold := gateContext.threshold
      commitmentRoot
      presenterPublicKey
      issuedAtUnixMs
      expiresAtUnixMs := gateContext.expiresAtUnixMs }

/-- `AttestationJournal::is_expired`. -/
def isExpired (self : AttestationJournal) (nowUnixMs : UInt64) : Bool :=
  isAfter nowUnixMs self.expiresAtUnixMs

/-- Two journals with the same canonical bytes are equal. -/
theorem canonicalBytes_injective : Function.Injective canonicalBytes := by
  intro j j' heq
  simp only [canonicalBytes, List.append_assoc] at heq
  have heq := List.append_cancel_left heq
  obtain ⟨h1, heq⟩ := Codec.u16.peel heq
  obtain ⟨h2, heq⟩ := (Codec.byteArray 32).peel heq
  obtain ⟨h3, heq⟩ := (Codec.u32.array 8).peel heq
  obtain ⟨h4, heq⟩ := (Codec.byteArray 32).peel heq
  obtain ⟨h5, heq⟩ := Codec.u128.peel heq
  obtain ⟨h6, heq⟩ := (Codec.byteArray 32).peel heq
  obtain ⟨h7, heq⟩ := (Codec.byteArray 32).peel heq
  obtain ⟨h8, heq⟩ := Codec.u64.peel heq
  have h9 := Codec.u64.option.peel_last heq
  cases j
  cases j'
  simp_all

end AttestationJournal

/-! ## Challenges -/

/-- `VERIFICATION_CHALLENGE_VERSION`. -/
def verificationChallengeVersion : UInt16 := 2

/-- `VERIFICATION_CHALLENGE_DOMAIN`. -/
def verificationChallengeDomain : Bytes := asBytes "LEZ-TokenStudio/VerificationChallenge/v2"

structure VerificationChallenge where
  version : UInt16
  gateContextHash : Digest32
  expectedCommitmentRoot : Digest32
  verifierId : String
  nonce : Digest32
  issuedAtUnixMs : UInt64
  expiresAtUnixMs : UInt64
  deriving DecidableEq

namespace VerificationChallenge

/-- `VerificationChallenge::new`. -/
def new (gateContextHash expectedCommitmentRoot : Digest32) (verifierId : String)
    (nonce : Digest32) (issuedAtUnixMs expiresAtUnixMs : UInt64) : VerificationChallenge :=
  { version := verificationChallengeVersion
    gateContextHash, expectedCommitmentRoot, verifierId, nonce
    issuedAtUnixMs, expiresAtUnixMs }

/-- `VerificationChallenge::canonical_bytes`. -/
def canonicalBytes (self : VerificationChallenge) : Option Bytes := do
  let verifierId ← writeString self.verifierId
  pure (verificationChallengeDomain ++
    Codec.u16.encode self.version ++
    self.gateContextHash.toList ++
    self.expectedCommitmentRoot.toList ++
    verifierId ++
    self.nonce.toList ++
    Codec.u64.encode self.issuedAtUnixMs ++
    Codec.u64.encode self.expiresAtUnixMs)

/-- `VerificationChallenge::digest`. -/
def digest (sha256 : Bytes → Digest32) (self : VerificationChallenge) : Option Digest32 :=
  self.canonicalBytes.map sha256

/-- `VerificationChallenge::is_expired`. -/
def isExpired (self : VerificationChallenge) (nowUnixMs : UInt64) : Bool :=
  nowUnixMs > self.expiresAtUnixMs

/-- `VerificationChallenge::has_valid_window`. -/
def hasValidWindow (self : VerificationChallenge) : Bool :=
  self.issuedAtUnixMs ≤ self.expiresAtUnixMs

/-- A challenge can be split off the front of a longer byte string. -/
theorem canonicalBytes_peel {c c' : VerificationChallenge} {b b' rest rest' : Bytes}
    (h : c.canonicalBytes = some b) (h' : c'.canonicalBytes = some b')
    (heq : b ++ rest = b' ++ rest') : c = c' ∧ rest = rest' := by
  simp only [canonicalBytes, Option.bind_eq_bind, Option.bind_eq_some_iff, Option.pure_def,
    Option.some.injEq] at h h'
  obtain ⟨ver, hver, rfl⟩ := h
  obtain ⟨ver', hver', rfl⟩ := h'
  simp only [List.append_assoc] at heq
  have heq := List.append_cancel_left heq
  obtain ⟨h1, heq⟩ := Codec.u16.peel heq
  obtain ⟨h2, heq⟩ := (Codec.byteArray 32).peel heq
  obtain ⟨h3, heq⟩ := (Codec.byteArray 32).peel heq
  obtain ⟨h4, heq⟩ := writeString_peel hver hver' heq
  obtain ⟨h5, heq⟩ := (Codec.byteArray 32).peel heq
  obtain ⟨h6, heq⟩ := Codec.u64.peel heq
  obtain ⟨h7, heq⟩ := Codec.u64.peel heq
  refine ⟨?_, heq⟩
  cases c
  cases c'
  simp_all

/-- Only a verifier id of `2 ^ 32` bytes or more makes the encoder panic. -/
theorem exists_digest (sha256 : Bytes → Digest32) {c : VerificationChallenge}
    (h : (asBytes c.verifierId).length < 2 ^ 32) : ∃ d, c.digest sha256 = some d := by
  simp [digest, canonicalBytes, writeString_of_lt h]

end VerificationChallenge

/-! ## Envelopes -/

inductive ProofTransport where
  | onChain
  | logosMessaging
  | local
  deriving DecidableEq, Repr

structure AttestationEnvelope where
  journal : AttestationJournal
  receipt : Bytes
  challenge : VerificationChallenge
  presenterSignature : Bytes
  transport : ProofTransport
  deriving DecidableEq

/-- `AttestationEnvelope::context_hash`. -/
def AttestationEnvelope.contextHash (self : AttestationEnvelope) : Digest32 :=
  self.journal.contextHash

end TokenStudio
