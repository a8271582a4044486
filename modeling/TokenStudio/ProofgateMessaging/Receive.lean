import TokenStudio.ProofgateMessaging.Polling
import TokenStudio.ProofgateMessaging.Transfer

/-!
# Receiving an envelope from a chat

`receive_envelope` polls a chat.  It passes over its own messages and, when a sender
is expected, over the messages of everyone else.  What is left goes into the
pending messages, and the loop ends with the first complete transfer, with the
first error that a later poll cannot mend, or at its time limit.

The answers of the polls up to the time limit are an argument of the model, so the
end of the list is the time limit.

`receiveEnvelope_eq_ok` says where a received envelope comes from: it is unpacked
from contents that were polled and that passed the two filters.
`Packed.receiveEnvelope_eq` is the other direction: a bundle that one poll shows is
received.
-/

namespace TokenStudio

/-- `LogosChatMessage`, as far as `receive_envelope` reads it. -/
structure LogosChatMessage where
  fromSelf : Bool
  content : String
  sender : Option String
  deriving DecidableEq

/-- The `MessagingError`s of the Logos Core client. -/
inductive LogosCoreError where
  | execution (binary message : String)
  | call (message : String)
  | response (message : String)
  deriving DecidableEq

/-- The text of such an error. -/
def LogosCoreError.toText : LogosCoreError → String
  | .execution binary message =>
    "failed to execute Logos Core CLI " ++ binary ++ ": " ++ message
  | .call message => "Logos Core call failed: " ++ message
  | .response message => "invalid Logos Core response: " ++ message

/-- The `MessagingError`s of `receive_envelope`. -/
inductive ReceiveError where
  | messaging (error : MessagingError)
  | logosCore (error : LogosCoreError)
  | receiveTimeout
  deriving DecidableEq

/-- The text of such an error. -/
def ReceiveError.toText : ReceiveError → String
  | .messaging error => error.toText
  | .logosCore error => error.toText
  | .receiveTimeout => "timed out waiting for a complete ProofGate transfer"

/-- The answer to one `get_messages`. -/
abbrev PollAnswer := Except LogosCoreError (List LogosChatMessage)

/-- The contents that pass the two filters of `receive_envelope`. -/
def receivedContents (expectedSender : Option String) (messages : List LogosChatMessage) :
    List String :=
  ((messages.filter fun message => !message.fromSelf).filter fun message =>
    expectedSender.all fun expected => message.sender = some expected).map
      LogosChatMessage.content

/-- `MessagingError::NoTransfer | MessagingError::IncompleteTransfer`. -/
def MessagingError.isPending : MessagingError → Bool
  | .noTransfer => true
  | .incompleteTransfer _ _ _ => true
  | _ => false

/-- The loop of `receive_envelope`. -/
def receiveLoop (F : Formats) (sha256 : Bytes → Digest32)
    (requested expectedSender : Option String) :
    List PollAnswer → PendingWireMessages → Outcome ReceiveError (String × AttestationEnvelope)
  | [], _ => .err .receiveTimeout
  | .error error :: _, _ => .err (.logosCore error)
  | .ok messages :: rest, pending =>
    match pending.observe F requested (receivedContents expectedSender messages) with
    | (.err error, _) => .err (.messaging error)
    | (.panic, _) => .panic
    | (.ok _, pending) =>
      match pending.unpack F sha256 requested with
      | .ok received => .ok received
      | .err error =>
        if error.isPending then receiveLoop F sha256 requested expectedSender rest pending
        else .err (.messaging error)
      | .panic => .panic

/-- `receive_envelope`, with the answers of its polls. -/
def receiveEnvelope (F : Formats) (sha256 : Bytes → Digest32)
    (requested expectedSender : Option String) (polls : List PollAnswer) :
    Outcome ReceiveError (String × AttestationEnvelope) :=
  receiveLoop F sha256 requested expectedSender polls .empty

/-! ## Where an envelope comes from -/

/-- The content of a polled message that is not the receiver's own and that comes from
the expected sender, if there is one. -/
def IsReceived (expectedSender : Option String) (polls : List PollAnswer) (content : String) :
    Prop :=
  ∃ messages, .ok messages ∈ polls ∧ ∃ message ∈ messages, message.content = content ∧
    message.fromSelf = false ∧ ∀ expected ∈ expectedSender, message.sender = some expected

theorem mem_receivedContents {expectedSender : Option String} {messages : List LogosChatMessage}
    {content : String} :
    content ∈ receivedContents expectedSender messages ↔
      ∃ message ∈ messages, message.content = content ∧ message.fromSelf = false ∧
        ∀ expected ∈ expectedSender, message.sender = some expected := by
  simp only [receivedContents, List.mem_map, List.mem_filter, Bool.not_eq_true',
    Option.all_eq_true, decide_eq_true_eq]
  constructor
  · rintro ⟨message, ⟨⟨hmem, hself⟩, hsender⟩, hcontent⟩
    exact ⟨message, hmem, hcontent, hself, fun expected h => hsender expected h⟩
  · rintro ⟨message, hmem, hcontent, hself, hsender⟩
    exact ⟨message, ⟨⟨hmem, hself⟩, fun expected h => hsender expected h⟩, hcontent⟩

theorem IsReceived.cons {expectedSender : Option String} {polls : List PollAnswer}
    {content : String} (h : IsReceived expectedSender polls content) (answer : PollAnswer) :
    IsReceived expectedSender (answer :: polls) content := by
  obtain ⟨messages, hmem, h⟩ := h
  exact ⟨messages, List.mem_cons_of_mem _ hmem, h⟩

/-- What one poll leaves in the pending messages was there before or was received. -/
theorem mem_observe {F : Formats} {requested expectedSender : Option String}
    {messages : List LogosChatMessage} {pending next : PendingWireMessages} {u : Unit}
    (h : pending.observe F requested (receivedContents expectedSender messages) = (.ok u, next))
    {content : String} (hcontent : content ∈ next.contents) :
    content ∈ pending.contents ∨ content ∈ receivedContents expectedSender messages := by
  rcases PendingWireMessages.observe_cases F requested
    (receivedContents expectedSender messages) pending with ⟨-, next', hok, hcontents⟩ | ⟨-, hnot⟩
  · rw [hok] at h
    obtain rfl : next' = next := congrArg Prod.snd h
    rw [hcontents, List.mem_eraseDups, List.mem_append] at hcontent
    exact hcontent.imp_right fun hwanted => (List.mem_filter.mp hwanted).1
  · rw [h] at hnot
    exact absurd rfl hnot

theorem receiveLoop_eq_ok {F : Formats} {sha256 : Bytes → Digest32}
    {requested expectedSender : Option String} {polls : List PollAnswer}
    {pending : PendingWireMessages} {received : String × AttestationEnvelope}
    (h : receiveLoop F sha256 requested expectedSender polls pending = .ok received) :
    ∃ contents, (∀ content ∈ contents,
        content ∈ pending.contents ∨ IsReceived expectedSender polls content) ∧
      unpackEnvelope F sha256 contents requested = .ok received := by
  induction polls generalizing pending with
  | nil => simp [receiveLoop] at h
  | cons answer rest ih =>
    cases answer with
    | error error => simp [receiveLoop] at h
    | ok messages =>
      unfold receiveLoop at h
      cases hobserve :
        pending.observe F requested (receivedContents expectedSender messages) with
      | mk result next =>
        rw [hobserve] at h
        cases result with
        | err error => simp at h
        | panic => simp at h
        | ok u =>
          have hnext : ∀ content ∈ next.contents, content ∈ pending.contents ∨
              IsReceived expectedSender (.ok messages :: rest) content := by
            intro content hcontent
            refine (mem_observe hobserve hcontent).imp_right fun hreceived => ?_
            exact ⟨messages, List.mem_cons_self, mem_receivedContents.mp hreceived⟩
          cases hunpack : next.unpack F sha256 requested with
          | panic => simp [hunpack] at h
          | ok received' =>
            simp only [hunpack, Outcome.ok.injEq] at h
            subst h
            exact ⟨next.contents, hnext, hunpack⟩
          | err error =>
            simp only [hunpack] at h
            split at h
            · -- the next poll starts from what this one has left
              obtain ⟨contents, hcontents, hok⟩ := ih h
              refine ⟨contents, ?_, hok⟩
              intro content hcontent
              rcases hcontents content hcontent with hpending | hreceived
              · exact hnext content hpending
              · exact Or.inr (hreceived.cons _)
            · simp at h

/-- A received envelope is unpacked from received contents. -/
theorem receiveEnvelope_eq_ok {F : Formats} {sha256 : Bytes → Digest32}
    {requested expectedSender : Option String} {polls : List PollAnswer}
    {received : String × AttestationEnvelope}
    (h : receiveEnvelope F sha256 requested expectedSender polls = .ok received) :
    ∃ contents, (∀ content ∈ contents, IsReceived expectedSender polls content) ∧
      unpackEnvelope F sha256 contents requested = .ok received := by
  obtain ⟨contents, hcontents, hok⟩ := receiveLoop_eq_ok h
  refine ⟨contents, fun content hcontent => ?_, hok⟩
  exact (hcontents content hcontent).resolve_left List.not_mem_nil

/-! ## A bundle that arrives -/

section

variable {F : Formats} {sha256 : Bytes → Digest32} {envelope : AttestationEnvelope}
  {chunkBytes : Nat} {id : String} {bundle : TransferBundle} {bytes : Bytes}
  {challengeDigest : Digest32}

/-- A receiver that waits for the transfer wants every message of its bundle. -/
theorem Packed.wantedMessage?_eq
    (h : Packed F sha256 envelope chunkBytes id bundle bytes challengeDigest) (hF : F.Lawful)
    {text : String} (htext : text ∈ bundle.messages) :
    ∃ body ∈ h.bodies, wantedMessage? F (some id) text = some (transferMessage id body) := by
  obtain ⟨body, hbody, hencoded⟩ := h.mem_messages.mp htext
  refine ⟨body, hbody, ?_⟩
  rw [wantedMessage?_eq_some_iff]
  refine ⟨hF.message _ _ hencoded, rfl, h.transferId, ?_⟩
  intro r hr
  exact (Option.some.inj hr).symm

/-- The bodies of a bundle are valid for a receiver that waits for the transfer. -/
theorem Packed.valid_of_wanted
    (h : Packed F sha256 envelope chunkBytes id bundle bytes challengeDigest) (hF : F.Lawful)
    {text : String} (htext : text ∈ bundle.messages) {message : WireMessage}
    (hwanted : wantedMessage? F (some id) text = some message) :
    validateWireBody message.body = .ok () := by
  obtain ⟨body, hbody, hbodyWanted⟩ := h.wantedMessage?_eq hF htext
  rw [hbodyWanted] at hwanted
  obtain rfl := Option.some.inj hwanted
  exact h.valid_of_mem_bodies (h.bytes_ne_nil hF) hbody

/-- The receiver has room for a bundle. -/
theorem Packed.takes
    (h : Packed F sha256 envelope chunkBytes id bundle bytes challengeDigest) (hF : F.Lawful) :
    PendingWireMessages.Takes F (some id) .empty bundle.messages := by
  refine PendingWireMessages.takes_of_length
    (fun _ htext _ hwanted => h.valid_of_wanted hF htext hwanted) ?_
  have hmessages : bundle.messages.length = (byteChunks chunkBytes bytes).length + 1 := by
    rw [← h.messages.length_eq]
    simp [packedBodies]
  have hchunks := h.chunks_le
  show 0 + bundle.messages.length ≤ maxPendingWireMessages
  unfold maxPendingWireMessages
  omega

/-- A bundle that one poll shows is received. -/
theorem Packed.receiveEnvelope_eq
    (h : Packed F sha256 envelope chunkBytes id bundle bytes challengeDigest) (hF : F.Lawful)
    {expectedSender : Option String} {messages : List LogosChatMessage}
    (hcontents : receivedContents expectedSender messages = bundle.messages)
    (rest : List PollAnswer) :
    receiveEnvelope F sha256 (some id) expectedSender (.ok messages :: rest) =
      .ok (id, envelope) := by
  rcases PendingWireMessages.observe_cases F (some id) bundle.messages .empty with
    ⟨-, next, hobserve, hnext⟩ | ⟨hnot, -⟩
  · have hmem : ∀ text, text ∈ next.contents ↔ text ∈ bundle.messages := by
      intro text
      rw [hnext, List.mem_eraseDups]
      show text ∈ wantedContents F (some id) bundle.messages ↔ _
      refine ⟨fun htext => (List.mem_filter.mp htext).1, ?_⟩
      intro htext
      obtain ⟨body, -, hwanted⟩ := h.wantedMessage?_eq hF htext
      exact List.mem_filter.mpr ⟨htext, by rw [hwanted]; rfl⟩
    have hunpack : next.unpack F sha256 (some id) = .ok (id, envelope) :=
      h.unpack_of_all hF (fun content hcontent => Or.inl ((hmem content).mp hcontent))
        fun text htext => (hmem text).mpr htext
    unfold receiveEnvelope receiveLoop
    rw [hcontents, hobserve]
    simp only [hunpack]
  · exact absurd (h.takes hF) hnot

end

end TokenStudio
