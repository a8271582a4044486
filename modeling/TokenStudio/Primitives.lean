import TokenStudio.AttestationCircuit
import TokenStudio.CodeLib.Ed25519

/-!
# The code that the repository does not contain

SHA-256, Ed25519 and the Risc0 receipt format come from other crates.  The
model takes them as the parameter `Primitives`, and every assumption about them
is a hypothesis of the theorem that needs it.

The hypotheses are scoped to the values that a statement is about.  No function
into 32 bytes is injective on all byte strings, so freedom from collisions is
always stated for the finite list of byte strings that the computations at hand
hash (`CollisionFree`).  For the same reason the uniqueness of a signed message
is stated for the messages at hand (`Ed25519.SignsOne`).
-/

namespace TokenStudio

/-- A 64-byte Ed25519 signature. -/
abbrev Signature := List.Vector UInt8 64

/-- `Signature::from_slice`: every string of 64 bytes is a signature. -/
def Signature.fromSlice (bytes : Bytes) : Option Signature :=
  if h : bytes.length = 64 then some ⟨bytes, h⟩ else none

/-- The part of `ed25519-dalek` that the program uses. -/
structure Ed25519 where
  /-- A decoded public key. -/
  VerifyingKey : Type
  /-- `VerifyingKey::from_bytes`. -/
  fromBytes : PublicKey32 → Option VerifyingKey
  /-- `Verifier::verify`. -/
  verify : VerifyingKey → Bytes → Signature → Bool
  /-- A secret key. -/
  SigningKey : Type
  /-- `signing_key.verifying_key().to_bytes()`. -/
  publicKey : SigningKey → PublicKey32
  /-- `Signer::sign`. -/
  sign : SigningKey → Bytes → Signature

namespace Ed25519

/-- A public key and a signature, both as bytes, accept a message. -/
def Accepts (ed : Ed25519) (key : PublicKey32) (signature : Bytes) (message : Bytes) : Prop :=
  ∃ verifyingKey, ed.fromBytes key = some verifyingKey ∧
    ∃ sig, Signature.fromSlice signature = some sig ∧
      ed.verify verifyingKey message sig = true

instance (ed : Ed25519) (key : PublicKey32) (signature message : Bytes) :
    Decidable (ed.Accepts key signature message) :=
  match hkey : ed.fromBytes key, hsig : Signature.fromSlice signature with
  | some verifyingKey, some sig =>
    decidable_of_iff (ed.verify verifyingKey message sig = true) (by simp [Accepts, hkey, hsig])
  | none, _ => isFalse (by simp [Accepts, hkey])
  | _, none => isFalse (by simp [Accepts, hsig])

/-- The signature that a key makes of a message is accepted under its own public
key. -/
def SignsOwn (ed : Ed25519) (key : ed.SigningKey) (message : Bytes) : Prop :=
  ed.Accepts (ed.publicKey key) (ed.sign key message).toList message

/-- A key and a signature accept at most one of the listed messages. -/
def SignsOne (ed : Ed25519) (key : PublicKey32) (signature : Bytes) (messages : List Bytes) :
    Prop :=
  ∀ m ∈ messages, ∀ m' ∈ messages,
    ed.Accepts key signature m → ed.Accepts key signature m' → m = m'

instance (ed : Ed25519) (key : PublicKey32) (signature : Bytes) (messages : List Bytes) :
    Decidable (ed.SignsOne key signature messages) := by
  unfold SignsOne
  infer_instance

end Ed25519

/-- The scheme over a group, with 32-byte seeds as secret keys. -/
def EdGroup.ed25519 (E : EdGroup) : Ed25519 where
  VerifyingKey := E.VerifyingKey
  fromBytes := E.fromBytes
  verify := E.verify
  SigningKey := List.Vector UInt8 32
  publicKey := E.publicKey
  sign := E.sign

/-- The part of Risc0 and `bincode` that the program uses, and the image id that
the build generates. -/
structure Risc0 where
  /-- A decoded receipt. -/
  Receipt : Type
  /-- `bincode::deserialize`. -/
  deserialize : Bytes → Except String Receipt
  /-- `Receipt::verify`. -/
  verify : Receipt → ProgramOwner → Except String Unit
  /-- `receipt.journal.decode`. -/
  decodeJournal : Receipt → Except String AttestationJournal
  /-- `BALANCE_ATTESTATION_ID`. -/
  balanceAttestationId : ProgramOwner

/-- A Risc0 that knows one receipt. -/
def Risc0.ofReceipt (balanceAttestationId : ProgramOwner) (receipt : Bytes)
    (journal : AttestationJournal) : Risc0 where
  Receipt := Unit
  deserialize bytes := if bytes = receipt then .ok () else .error "unexpected end of file"
  verify _ imageId :=
    if imageId = balanceAttestationId then .ok () else .error "image id mismatch"
  decodeJournal _ := .ok journal
  balanceAttestationId

/-- Everything that the modelled code takes from other crates. -/
structure Primitives where
  sha256 : Bytes → Digest32
  ed25519 : Ed25519
  risc0 : Risc0

/-- SHA-256 and Ed25519 as they are, with a given Risc0. -/
def Primitives.standard (risc0 : Risc0) : Primitives where
  sha256 := TokenStudio.sha256
  ed25519 := Edwards25519.group.ed25519
  risc0

/-! ## Receipts -/

/-- `ProverError`, as far as `verify_receipt` raises it. -/
inductive ProverError where
  | receiptVerification (message : String)
  | journalDecode (message : String)
  | receiptDecode (message : String)
  | journalMismatch
  deriving DecidableEq, Repr

structure Risc0AttestationProof where
  journal : AttestationJournal
  receipt : Bytes
  deriving DecidableEq

/-- A foreign call that returns a value or an error text. -/
def Outcome.ofExcept {ε α : Type} (f : String → ε) : Except String α → Outcome ε α
  | .ok a => .ok a
  | .error message => .err (f message)

@[simp] theorem Outcome.ofExcept_eq_ok {ε α : Type} {f : String → ε} {x : Except String α}
    {a : α} : Outcome.ofExcept f x = .ok a ↔ x = .ok a := by
  cases x <;> simp [Outcome.ofExcept]

@[simp] theorem Outcome.ofExcept_ne_panic {ε α : Type} {f : String → ε}
    {x : Except String α} : Outcome.ofExcept f x ≠ .panic := by
  cases x <;> simp [Outcome.ofExcept]

/-- `decode_receipt`. -/
def decodeReceipt (risc0 : Risc0) (bytes : Bytes) : Outcome ProverError risc0.Receipt :=
  Outcome.ofExcept .receiptDecode (risc0.deserialize bytes)

/-- `verify_receipt`. -/
def verifyReceipt (risc0 : Risc0) (proof : Risc0AttestationProof) :
    Outcome ProverError AttestationJournal := do
  let receipt ← decodeReceipt risc0 proof.receipt
  Outcome.ofExcept .receiptVerification (risc0.verify receipt risc0.balanceAttestationId)
  let journal ← Outcome.ofExcept .journalDecode (risc0.decodeJournal receipt)
  Outcome.check (journal ≠ proof.journal) .journalMismatch
  pure journal

/-- An accepted proof carries the journal of its receipt. -/
theorem verifyReceipt_eq_ok {risc0 : Risc0} {proof : Risc0AttestationProof}
    {journal : AttestationJournal} (h : verifyReceipt risc0 proof = .ok journal) :
    journal = proof.journal := by
  simp only [verifyReceipt, Outcome.bind_eq_ok, Outcome.check_eq_ok, Outcome.exists_unit,
    Outcome.pure_eq, Outcome.ok.injEq, ne_eq, not_not] at h
  obtain ⟨receipt, -, -, decoded, -, hjournal, rfl⟩ := h
  exact hjournal

/-- A receipt is accepted with one journal only. -/
theorem verifyReceipt_journal_unique {risc0 : Risc0} {proof proof' : Risc0AttestationProof}
    {journal journal' : AttestationJournal} (h : verifyReceipt risc0 proof = .ok journal)
    (h' : verifyReceipt risc0 proof' = .ok journal') (hreceipt : proof.receipt = proof'.receipt) :
    journal = journal' := by
  simp only [verifyReceipt, Outcome.bind_eq_ok, Outcome.check_eq_ok, Outcome.exists_unit,
    Outcome.pure_eq, Outcome.ok.injEq, Outcome.ofExcept_eq_ok, ne_eq, not_not] at h h'
  obtain ⟨receipt, hdecode, -, decoded, hjournal, -, rfl⟩ := h
  obtain ⟨receipt', hdecode', -, decoded', hjournal', -, rfl⟩ := h'
  rw [hreceipt, hdecode'] at hdecode
  obtain rfl : receipt' = receipt := Outcome.ok.inj hdecode
  rw [hjournal] at hjournal'
  exact Except.ok.inj hjournal'

theorem verifyReceipt_ne_panic (risc0 : Risc0) (proof : Risc0AttestationProof) :
    verifyReceipt risc0 proof ≠ .panic := by
  simp [verifyReceipt, decodeReceipt, Outcome.bind_eq_panic]

/-- Soundness of receipts: behind every accepted proof stands a witness that
`evaluate` maps to its journal.  `witnessOf` names the witness. -/
def ReceiptSound (P : Primitives) (witnessOf : Risc0AttestationProof → BalanceAttestationWitness) :
    Prop :=
  ∀ proof journal, verifyReceipt P.risc0 proof = .ok journal →
    evaluate P.sha256 (witnessOf proof) = .ok journal

/-- A Risc0 that knows one receipt is sound when a witness stands behind its
journal. -/
theorem receiptSound_ofReceipt {balanceAttestationId : ProgramOwner} {receipt : Bytes}
    {journal : AttestationJournal} {witness : BalanceAttestationWitness}
    (h : evaluate sha256 witness = .ok journal) :
    ReceiptSound (.standard (.ofReceipt balanceAttestationId receipt journal))
      fun _ => witness := by
  intro proof j hj
  simp only [verifyReceipt, Outcome.bind_eq_ok, Outcome.check_eq_ok, Outcome.exists_unit,
    Outcome.pure_eq, Outcome.ok.injEq, Outcome.ofExcept_eq_ok] at hj
  obtain ⟨_, -, -, decoded, hdecoded, -, rfl⟩ := hj
  cases hdecoded
  exact h

end TokenStudio
