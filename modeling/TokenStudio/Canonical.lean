import TokenStudio.AttestationVerifier.Soundness
import TokenStudio.BalanceGate.Core
import TokenStudio.ProofgateMessaging.Admission

/-!
# The canonical byte strings are unambiguous

Seven functions of the program build a byte string that is then hashed, and a
hash stands for a value only if its byte string does.  `EncoderCall` is one call
of one of them with its arguments.  `canonicalBytes_eq_iff` says that two calls
build the same byte string exactly when they are calls of the same function
with the same content (`SameContent`).

The argument has two parts.  Each byte string starts with the domain of its
function, and no domain is a prefix of another one, so equal byte strings come
from one function (`encoder_eq`).  Within a function the fields are read off
the front one by one; those lemmas stand beside the encoders.
-/

namespace TokenStudio

/-! ## Calls of the encoders -/

/-- The functions that build a byte string to be hashed. -/
inductive Encoder where
  | gateContext
  | attestationJournal
  | verificationChallenge
  | onChainChallenge
  | presentation
  | onChainPresentation
  | admission
  deriving DecidableEq

/-- All of them. -/
def Encoder.all : List Encoder :=
  [.gateContext, .attestationJournal, .verificationChallenge, .onChainChallenge, .presentation,
    .onChainPresentation, .admission]

/-- The domain that an encoder writes first. -/
def Encoder.domain : Encoder → Bytes
  | gateContext => gateContextDomain
  | attestationJournal => attestationJournalDomain
  | verificationChallenge => verificationChallengeDomain
  | onChainChallenge => onChainChallengeDomain
  | presentation => presentationBindingDomain
  | onChainPresentation => onChainPresentationDomain
  | admission => admissionChallengeDomain

/-- One call of an encoder. -/
inductive EncoderCall where
  | gateContext (context : GateContext)
  | attestationJournal (journal : AttestationJournal)
  | verificationChallenge (challenge : VerificationChallenge)
  | onChainChallenge (challenge : OnChainChallenge)
  | presentation (challenge : VerificationChallenge) (receipt : Bytes)
  | onChainPresentation (challenge : OnChainChallenge) (journal : OnChainAttestationJournal)
  | admission (challenge : VerificationChallenge) (groupId memberAddress : String)
      (randomPrefix : HalfDigest)

namespace EncoderCall

/-- The function that is called. -/
def encoder : EncoderCall → Encoder
  | gateContext _ => .gateContext
  | attestationJournal _ => .attestationJournal
  | verificationChallenge _ => .verificationChallenge
  | onChainChallenge _ => .onChainChallenge
  | presentation _ _ => .presentation
  | onChainPresentation _ _ => .onChainPresentation
  | admission _ _ _ _ => .admission

/-- The byte string that is hashed, or `none` for the panic on a long string. -/
def bytes (sha256 : Bytes → Digest32) : EncoderCall → Option Bytes
  | gateContext context => context.canonicalBytes
  | attestationJournal journal => some journal.canonicalBytes
  | verificationChallenge challenge => challenge.canonicalBytes
  | onChainChallenge challenge => some challenge.canonicalBytes
  | presentation challenge receipt => presentationBytes sha256 challenge receipt
  | onChainPresentation challenge journal => some (onChainPresentationBytes challenge journal)
  | admission challenge groupId memberAddress randomPrefix =>
    admissionBindingBytes challenge groupId memberAddress randomPrefix

/-- The strings among the arguments. -/
def strings : EncoderCall → List String
  | gateContext context => [context.applicationId, context.gateId, context.verifierId]
  | attestationJournal _ => []
  | verificationChallenge challenge => [challenge.verifierId]
  | onChainChallenge _ => []
  | presentation challenge _ => [challenge.verifierId]
  | onChainPresentation _ _ => []
  | admission challenge groupId memberAddress _ =>
    [challenge.verifierId, groupId, memberAddress]

/-- All strings are shorter than `2 ^ 32` bytes. -/
def StringsShort (call : EncoderCall) : Prop :=
  ∀ s ∈ call.strings, (asBytes s).length < 2 ^ 32

/-- Calls of one function whose byte strings are about the same values: a receipt
counts through its hash, and the challenge of an admission without the fields
that its binding leaves out. -/
def SameContent (sha256 : Bytes → Digest32) : EncoderCall → EncoderCall → Prop
  | gateContext c, gateContext c' => c = c'
  | attestationJournal j, attestationJournal j' => j = j'
  | verificationChallenge c, verificationChallenge c' => c = c'
  | onChainChallenge c, onChainChallenge c' => c = c'
  | presentation c r, presentation c' r' => c = c' ∧ sha256 r = sha256 r'
  | onChainPresentation c j, onChainPresentation c' j' => c = c' ∧ j = j'
  | admission c g m p, admission c' g' m' p' =>
    c.version = c'.version ∧ c.gateContextHash = c'.gateContextHash ∧
      c.verifierId = c'.verifierId ∧ c.issuedAtUnixMs = c'.issuedAtUnixMs ∧
      c.expiresAtUnixMs = c'.expiresAtUnixMs ∧ p = p' ∧ g = g' ∧ m = m'
  | _, _ => False

variable {sha256 : Bytes → Digest32} {x y : EncoderCall} {b : Bytes}

/-! ## Domains -/

/-- No domain is the beginning of another one. -/
theorem domain_prefix_free {e e' : Encoder} (h : e.domain <+: e'.domain) : e = e' := by
  have hchecked : (Encoder.all.all fun e => Encoder.all.all fun e' =>
      !e.domain.isPrefixOf e'.domain || e == e') = true := by decide +kernel
  have hall : ∀ e : Encoder, e ∈ Encoder.all := by
    intro e
    cases e <;> simp [Encoder.all]
  simp only [List.all_eq_true] at hchecked
  have hpair := hchecked e (hall e) e' (hall e')
  rw [List.isPrefixOf_iff_prefix.mpr h] at hpair
  simpa using hpair

/-- Every byte string starts with the domain of its encoder. -/
theorem domain_prefix_bytes (h : x.bytes sha256 = some b) : x.encoder.domain <+: b := by
  cases x with
  | gateContext c =>
    simp only [bytes, GateContext.canonicalBytes, Option.bind_eq_bind, Option.bind_eq_some_iff,
      Option.pure_def, Option.some.injEq, List.append_assoc] at h
    obtain ⟨_, -, _, -, _, -, rfl⟩ := h
    exact List.prefix_append _ _
  | attestationJournal j =>
    simp only [bytes, AttestationJournal.canonicalBytes, Option.some.injEq,
      List.append_assoc] at h
    subst h
    exact List.prefix_append _ _
  | verificationChallenge c =>
    simp only [bytes, VerificationChallenge.canonicalBytes, Option.bind_eq_bind,
      Option.bind_eq_some_iff, Option.pure_def, Option.some.injEq, List.append_assoc] at h
    obtain ⟨_, -, rfl⟩ := h
    exact List.prefix_append _ _
  | onChainChallenge c =>
    simp only [bytes, OnChainChallenge.canonicalBytes, Option.some.injEq,
      List.append_assoc] at h
    subst h
    exact List.prefix_append _ _
  | presentation c r =>
    simp only [bytes, presentationBytes, Option.bind_eq_bind, Option.bind_eq_some_iff,
      Option.pure_def, Option.some.injEq, List.append_assoc] at h
    obtain ⟨_, -, rfl⟩ := h
    exact List.prefix_append _ _
  | onChainPresentation c j =>
    simp only [bytes, onChainPresentationBytes, Option.some.injEq, List.append_assoc] at h
    subst h
    exact List.prefix_append _ _
  | admission c g m p =>
    simp only [bytes, admissionBindingBytes, Option.bind_eq_bind, Option.bind_eq_some_iff,
      Option.pure_def, Option.some.injEq, List.append_assoc] at h
    obtain ⟨_, -, _, -, _, -, rfl⟩ := h
    exact List.prefix_append _ _

/-- A byte string comes from one encoder only. -/
theorem encoder_eq (hx : x.bytes sha256 = some b) (hy : y.bytes sha256 = some b) :
    x.encoder = y.encoder := by
  rcases List.prefix_or_prefix_of_prefix (domain_prefix_bytes hx) (domain_prefix_bytes hy)
    with h | h
  · exact domain_prefix_free h
  · exact (domain_prefix_free h).symm

/-! ## Contents -/

/-- Short strings are encoded without a panic. -/
theorem exists_bytes (h : x.StringsShort) : ∃ b, x.bytes sha256 = some b := by
  cases x with
  | gateContext c =>
    have happ := writeString_of_lt (h c.applicationId (by simp [strings]))
    have hgate := writeString_of_lt (h c.gateId (by simp [strings]))
    have hver := writeString_of_lt (h c.verifierId (by simp [strings]))
    simp [bytes, GateContext.canonicalBytes, happ, hgate, hver]
  | attestationJournal j => exact ⟨_, rfl⟩
  | verificationChallenge c =>
    have hver := writeString_of_lt (h c.verifierId (by simp [strings]))
    simp [bytes, VerificationChallenge.canonicalBytes, hver]
  | onChainChallenge c => exact ⟨_, rfl⟩
  | presentation c r =>
    have hver := writeString_of_lt (h c.verifierId (by simp [strings]))
    simp [bytes, presentationBytes, VerificationChallenge.canonicalBytes, hver]
  | onChainPresentation c j => exact ⟨_, rfl⟩
  | admission c g m p =>
    exact exists_admissionBindingBytes p (h c.verifierId (by simp [strings]))
      (h g (by simp [strings])) (h m (by simp [strings]))

/-- Equal byte strings have the same content. -/
theorem sameContent_of_bytes (hx : x.bytes sha256 = some b) (hy : y.bytes sha256 = some b) :
    SameContent sha256 x y := by
  have hencoder := encoder_eq hx hy
  cases x <;> cases y <;> simp only [encoder, reduceCtorEq] at hencoder
  case gateContext.gateContext => exact GateContext.canonicalBytes_inj hx hy
  case attestationJournal.attestationJournal =>
    exact AttestationJournal.canonicalBytes_injective (Option.some.inj (hx.trans hy.symm))
  case verificationChallenge.verificationChallenge =>
    exact (VerificationChallenge.canonicalBytes_peel hx hy (rfl : b ++ [] = b ++ [])).1
  case onChainChallenge.onChainChallenge =>
    have heq := Option.some.inj (hx.trans hy.symm)
    exact (OnChainChallenge.canonicalBytes_peel (congrArg (· ++ []) heq)).1
  case presentation.presentation => exact presentationBytes_inj hx hy
  case onChainPresentation.onChainPresentation =>
    exact onChainPresentationBytes_inj (Option.some.inj (hx.trans hy.symm))
  case admission.admission =>
    simpa [SameContent, admissionInputs] using admissionBindingBytes_inj hx hy

/-- Calls with the same content build the same byte string. -/
theorem bytes_of_sameContent (h : SameContent sha256 x y) :
    x.bytes sha256 = y.bytes sha256 := by
  cases x <;> cases y <;> simp only [SameContent] at h
  case gateContext.gateContext => rw [h]
  case attestationJournal.attestationJournal => rw [h]
  case verificationChallenge.verificationChallenge => rw [h]
  case onChainChallenge.onChainChallenge => rw [h]
  case presentation.presentation => simp [bytes, presentationBytes, h.1, h.2]
  case onChainPresentation.onChainPresentation => rw [h.1, h.2]
  case admission.admission =>
    exact admissionBindingBytes_congr (by simpa [admissionInputs] using h)

end EncoderCall

/-- The canonical encodings are unambiguous.  Short strings never make an encoder
panic.  Two calls build the same byte string exactly when they are calls of one
encoder with the same content.  So no presentation is signed for both verifiers:
without a collision, the message of a presentation is never the message of an
on-chain presentation. -/
theorem canonicalBytes_unambiguous (sha256 : Bytes → Digest32) :
    (∀ x : EncoderCall, x.StringsShort → ∃ b, x.bytes sha256 = some b) ∧
      (∀ x y : EncoderCall, x.StringsShort → y.StringsShort →
        (x.bytes sha256 = y.bytes sha256 ↔ x.SameContent sha256 y)) ∧
      ∀ (challenge : VerificationChallenge) (receipt : Bytes) (onChain : OnChainChallenge)
        (journal : OnChainAttestationJournal),
        CollisionFree sha256 ((presentationBytes sha256 challenge receipt).toList ++
          [onChainPresentationBytes onChain journal]) →
        presentationMessage sha256 challenge receipt ≠
          some (onChainPresentationMessage sha256 onChain journal) := by
  refine ⟨fun x hx => EncoderCall.exists_bytes hx, ?_, ?_⟩
  · intro x y hx hy
    refine ⟨?_, EncoderCall.bytes_of_sameContent⟩
    intro heq
    obtain ⟨b, hb⟩ : ∃ b, x.bytes sha256 = some b := EncoderCall.exists_bytes hx
    exact EncoderCall.sameContent_of_bytes hb (heq.symm.trans hb)
  · intro challenge receipt onChain journal hfree hmessage
    unfold presentationMessage at hmessage
    obtain ⟨b, hb, hdigest⟩ := Option.map_eq_some_iff.mp hmessage
    rw [hb] at hfree
    have hbytes : b = onChainPresentationBytes onChain journal :=
      hfree b (by simp) _ (by simp) hdigest
    have hx : (EncoderCall.presentation challenge receipt).bytes sha256 = some b := hb
    have hy : (EncoderCall.onChainPresentation onChain journal).bytes sha256 = some b :=
      congrArg some hbytes.symm
    cases EncoderCall.encoder_eq hx hy

/-- The two presentations of the founders' proof, off the chain and on it, are
different byte strings. -/
theorem canonicalBytes_unambiguous_founders :
    (EncoderCall.presentation foundersEnvelope.challenge foundersEnvelope.receipt).StringsShort ∧
      (EncoderCall.presentation foundersEnvelope.challenge foundersEnvelope.receipt).bytes sha256 ≠
        (EncoderCall.onChainPresentation
          ⟨onChainChallengeVersion, List.Vector.replicate 8 9, List.Vector.replicate 32 6,
            foundersContextHash, List.Vector.replicate 32 5, 0⟩
          (.ofAttestationJournal foundersJournal)).bytes sha256 := by
  have hshort : (EncoderCall.presentation foundersEnvelope.challenge
      foundersEnvelope.receipt).StringsShort := by
    unfold EncoderCall.StringsShort
    decide +kernel
  refine ⟨hshort, ?_⟩
  intro heq
  exact ((canonicalBytes_unambiguous sha256).2.1 _ _ hshort (by simp [EncoderCall.StringsShort,
    EncoderCall.strings])).mp heq

end TokenStudio
