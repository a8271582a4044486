import TokenStudio.CodeLib.Emits
import TokenStudio.JsonFile
import TokenStudio.ProofgateMessaging.Receive

/-!
# The Logos Core client

`LogosCoreClient` of the crate `proofgate-messaging`.  Every call of the client is one
process of the Logos Core CLI, which answers with a JSON value.  The CLI and the
node behind it are code of another repository.  Here they are a `LogosCore σ`: a
process gets a command line, returns what it has printed, and changes the state of
the world `σ` in any way.

`SendsMessages` is what the sender relies on.  One `send_message` posts its message at
most once, and it has posted it when the answer says so.  From it follows what the
loops of the sender leave in the conversation, whatever calls fail
(`sendMessage_emits`, `sendBundle_emits`).

`receiveEnvelopeFrom` is the loop of `receive_envelope` with the calls of the client in it,
and `receiveEnvelopeFrom_fst` reduces it to `receiveEnvelope` on the answers of the calls.

The delays between messages change nothing and are left out.
-/

namespace TokenStudio

/-! ## Answers -/

/-- `serde_json::Value`.  A number stands for itself by its text. -/
inductive JsonValue where
  | null
  | bool (value : Bool)
  | number (text : String)
  | string (value : String)
  | array (items : List JsonValue)
  | object (fields : List (String × JsonValue))

namespace JsonValue

/-- `Value::get` with the name of a field. -/
def get (self : JsonValue) (key : String) : Option JsonValue :=
  match self with
  | .object fields => fields.lookup key
  | _ => none

/-- `Value::as_str`. -/
def asStr : JsonValue → Option String
  | .string value => some value
  | _ => none

/-- `Value::as_bool`. -/
def asBool : JsonValue → Option Bool
  | .bool value => some value
  | _ => none

end JsonValue

/-- `std::process::Output`. -/
structure ProcessOutput where
  success : Bool
  stdout : Bytes
  stderr : Bytes

/-- What the client uses of `serde_json`, and the text of what a process has printed on
its error stream, trimmed. -/
structure ClientFormats where
  valueFromSlice : Bytes → Except String JsonValue
  valueToString : JsonValue → String
  messagesFromValue : JsonValue → Except String (List LogosChatMessage)
  stderrText : Bytes → String

/-- `LogosCoreClient`. -/
structure LogosCoreClient where
  binary : String
  configDir : String
  moduleName : String

/-- The process that `call` starts. -/
structure LogosCoreCommand where
  client : LogosCoreClient
  method : String
  arguments : List String

/-- The Logos Core CLI: the output of a process, or why it did not start, and the
world after it. -/
abbrev LogosCore (σ : Type) := LogosCoreCommand → σ → Except String ProcessOutput × σ

/-- The part of `call` after the process. -/
def callResponse (C : ClientFormats) (client : LogosCoreClient)
    (output : Except String ProcessOutput) : Except LogosCoreError JsonValue :=
  match output with
  | .error message => .error (.execution client.binary message)
  | .ok output =>
    if !output.success then .error (.call (C.stderrText output.stderr))
    else match C.valueFromSlice output.stdout with
      | .error message => .error (.response message)
      | .ok response =>
        if (response.get "status").bind JsonValue.asStr ≠ some "ok" then
          .error (.call (C.valueToString response))
        else .ok response

/-- The result in a response. -/
def responseResult (response : JsonValue) : Except LogosCoreError JsonValue :=
  match response.get "result" with
  | some result => .ok result
  | none => .error (.response "missing result")

/-- `require_result_success`. -/
def requireResultSuccess (response : JsonValue) : Except LogosCoreError Unit := do
  let result ← responseResult response
  if (result.get "success").bind JsonValue.asBool = some true then pure ()
  else .error (.call (((result.get "error").bind JsonValue.asStr).getD
    "chat_module returned an unsuccessful result"))

/-- The answer of a call that only has to succeed. -/
def acknowledgement (C : ClientFormats) (client : LogosCoreClient)
    (output : Except String ProcessOutput) : Except LogosCoreError Unit := do
  let response ← callResponse C client output
  requireResultSuccess response

/-- The answer of `get_messages`. -/
def messagesAnswer (C : ClientFormats) (client : LogosCoreClient)
    (output : Except String ProcessOutput) : PollAnswer := do
  let response ← callResponse C client output
  let result ← responseResult response
  match C.messagesFromValue result with
  | .ok messages => .ok messages
  | .error message => .error (.response message)

/-! ## Calls -/

/-- A call that does not panic. -/
def Outcome.ofResult {ε α : Type} : Except ε α → Outcome ε α
  | .ok a => .ok a
  | .error e => .err e

namespace LogosCoreClient

variable {σ : Type}

/-- A process of the Logos Core CLI, and what the client makes of its output. -/
def run {α : Type} (core : LogosCore σ) (command : LogosCoreCommand)
    (answer : Except String ProcessOutput → Except LogosCoreError α) :
    Mutating σ LogosCoreError α := fun s =>
  (.ofResult (answer (core command s).1), (core command s).2)

/-- The process of one `send_message`. -/
def sendCommand (self : LogosCoreClient) (conversationId message : String) : LogosCoreCommand :=
  ⟨self, "send_message", [conversationId, message]⟩

/-- One `send_message`. -/
def sendMessage (C : ClientFormats) (core : LogosCore σ) (self : LogosCoreClient)
    (conversationId message : String) : Mutating σ LogosCoreError Unit :=
  run core (self.sendCommand conversationId message) (acknowledgement C self)

/-- `send_bundle_with_delay`. -/
def sendBundle (C : ClientFormats) (core : LogosCore σ) (self : LogosCoreClient)
    (conversationId : String) (bundle : TransferBundle) : Mutating σ LogosCoreError Unit :=
  bundle.messages.forM (self.sendMessage C core conversationId)

/-- `send_challenge`. -/
def sendChallenge (C : ClientFormats) (F : Formats) (core : LogosCore σ) (self : LogosCoreClient)
    (conversationId : String) (challenge : VerificationChallenge) :
    Mutating σ ReceiveError Unit := do
  let content ← (encodeChallenge F challenge).mapErr ReceiveError.messaging
  (self.sendMessage C core conversationId content).mapErr ReceiveError.logosCore

/-- The process of one `get_messages`. -/
def pollCommand (self : LogosCoreClient) (conversationId : String) : LogosCoreCommand :=
  ⟨self, "get_messages", [conversationId]⟩

/-- `get_messages`. -/
def getMessages (C : ClientFormats) (core : LogosCore σ) (self : LogosCoreClient)
    (conversationId : String) : Mutating σ LogosCoreError (List LogosChatMessage) :=
  run core (self.pollCommand conversationId) (messagesAnswer C self)

end LogosCoreClient

/-! ## What a sender leaves in a conversation -/

/-- A message that a member has posted in a conversation. -/
structure ChatPost where
  conversationId : String
  content : String
  deriving DecidableEq

/-- `posted` are the messages that the client has posted.  A `send_message` posts its
message or not, and it has posted it when its answer is a success. -/
structure SendsMessages {σ : Type} (C : ClientFormats) (core : LogosCore σ)
    (client : LogosCoreClient) (posted : σ → List ChatPost) : Prop where
  atMostOnce : ∀ conversationId content s,
    posted (core (client.sendCommand conversationId content) s).2 = posted s ∨
      posted (core (client.sendCommand conversationId content) s).2 =
        posted s ++ [⟨conversationId, content⟩]
  acknowledged : ∀ conversationId content s,
    acknowledgement C client (core (client.sendCommand conversationId content) s).1 = .ok () →
      posted (core (client.sendCommand conversationId content) s).2 =
        posted s ++ [⟨conversationId, content⟩]

section

variable {σ : Type} {C : ClientFormats} {core : LogosCore σ} {client : LogosCoreClient}
  {posted : σ → List ChatPost}

/-- One call posts its message or nothing. -/
theorem sendMessage_emits (h : SendsMessages C core client posted)
    (conversationId content : String) :
    Emits posted (client.sendMessage C core conversationId content)
      [⟨conversationId, content⟩] := by
  intro s
  show ∃ sent, sent <+: _ ∧ posted (core (client.sendCommand conversationId content) s).2 = _ ∧
    ((Outcome.ofResult (acknowledgement C client
      (core (client.sendCommand conversationId content) s).1)).isOk = true → _)
  have honce := h.atMostOnce conversationId content s
  have hack := h.acknowledged conversationId content s
  cases hresult : acknowledgement C client
      (core (client.sendCommand conversationId content) s).1 with
  | ok u => exact ⟨_, List.prefix_refl _, hack hresult, fun _ => rfl⟩
  | error error =>
    -- a failed call may have posted its message all the same
    rcases honce with hnone | hone
    · exact ⟨[], List.nil_prefix, by rw [hnone, List.append_nil],
        by simp [Outcome.ofResult, Outcome.isOk]⟩
    · exact ⟨_, List.prefix_refl _, hone, fun _ => rfl⟩

/-- The posts of these messages. -/
def postsOf (conversationId : String) (messages : List String) : List ChatPost :=
  messages.map fun content => ⟨conversationId, content⟩

/-- A bundle is posted from its start. -/
theorem sendBundle_emits (h : SendsMessages C core client posted) (conversationId : String)
    (bundle : TransferBundle) :
    Emits posted (client.sendBundle C core conversationId bundle)
      (postsOf conversationId bundle.messages) := by
  have hloop := Emits.forM (sendMessage_emits h conversationId) bundle.messages
  rwa [← List.map_eq_flatMap] at hloop

/-- A challenge is posted once, if at all. -/
theorem sendChallenge_emits (h : SendsMessages C core client posted) {F : Formats}
    {challenge : VerificationChallenge} {content : String}
    (hcontent : encodeChallenge F challenge = .ok content) (conversationId : String) :
    Emits posted (client.sendChallenge C F core conversationId challenge)
      (postsOf conversationId [content]) := by
  have hsend : client.sendChallenge C F core conversationId challenge =
      (client.sendMessage C core conversationId content).mapErr ReceiveError.logosCore := by
    unfold LogosCoreClient.sendChallenge
    rw [hcontent]
    rfl
  rw [hsend]
  exact (sendMessage_emits h conversationId content).mapErr _

end

/-! ### A node that goes away

It takes a number of messages.  The next one it still takes, but the process fails, and
every later process does not start. -/

/-- The state is the number of processes that are left, and what was posted. -/
def flakyCore : LogosCore (Nat × List ChatPost) := fun command s =>
  match s, command.arguments with
  | (left + 2, posts), [conversationId, content] =>
    (.ok { success := true, stdout := [], stderr := [] },
      (left + 1, posts ++ [⟨conversationId, content⟩]))
  | (1, posts), [conversationId, content] =>
    (.ok { success := false, stdout := [], stderr := [] },
      (0, posts ++ [⟨conversationId, content⟩]))
  | s, _ => (.error notFoundText, s)

/-- Everything that the node prints is a success. -/
def flakyClientFormats : ClientFormats where
  valueFromSlice := fun _ => .ok (.object [("status", .string "ok"),
    ("result", .object [("success", .bool true)])])
  valueToString := fun _ => ""
  messagesFromValue := fun _ => .ok []
  stderrText := fun _ => "node is gone"

theorem flakyCore_sendsMessages (client : LogosCoreClient) :
    SendsMessages flakyClientFormats flakyCore client Prod.snd where
  atMostOnce := by
    intro conversationId content s
    match s with
    | (0, posts) => exact Or.inl rfl
    | (1, posts) => exact Or.inr rfl
    | (left + 2, posts) => exact Or.inr rfl
  acknowledged := by
    intro conversationId content s hack
    match s with
    | (0, posts) => cases hack
    | (1, posts) => rfl
    | (left + 2, posts) => rfl

/-! ## Polling with the client -/

/-- The answers of some polls, one after the other. -/
def pollAnswers {σ : Type} (C : ClientFormats) (core : LogosCore σ) (client : LogosCoreClient)
    (conversationId : String) : Nat → σ → List PollAnswer
  | 0, _ => []
  | polls + 1, s =>
    messagesAnswer C client (core (client.pollCommand conversationId) s).1 ::
      pollAnswers C core client conversationId polls
        (core (client.pollCommand conversationId) s).2

/-- The loop of `receive_envelope` with the calls of the client, up to a number of polls. -/
def receiveEnvelopeFrom {σ : Type} (C : ClientFormats) (F : Formats) (sha256 : Bytes → Digest32)
    (core : LogosCore σ) (client : LogosCoreClient) (conversationId : String)
    (requested expectedSender : Option String) :
    Nat → PendingWireMessages → Mutating σ ReceiveError (String × AttestationEnvelope)
  | 0, _ => Mutating.lift (.err .receiveTimeout)
  | polls + 1, pending => do
    let messages ← (client.getMessages C core conversationId).mapErr ReceiveError.logosCore
    match pending.observe F requested (receivedContents expectedSender messages) with
    | (.err error, _) => Mutating.lift (.err (.messaging error))
    | (.panic, _) => Mutating.lift .panic
    | (.ok _, pending) =>
      match pending.unpack F sha256 requested with
      | .ok received => pure received
      | .err error =>
        if error.isPending then
          receiveEnvelopeFrom C F sha256 core client conversationId requested expectedSender
            polls pending
        else Mutating.lift (.err (.messaging error))
      | .panic => Mutating.lift .panic

/-- The loop ends as the loop over the answers of its calls does. -/
theorem receiveEnvelopeFrom_fst {σ : Type} (C : ClientFormats) (F : Formats)
    (sha256 : Bytes → Digest32) (core : LogosCore σ) (client : LogosCoreClient)
    (conversationId : String) (requested expectedSender : Option String) (polls : Nat)
    (pending : PendingWireMessages) (s : σ) :
    (receiveEnvelopeFrom C F sha256 core client conversationId requested expectedSender polls
        pending s).1 =
      receiveLoop F sha256 requested expectedSender
        (pollAnswers C core client conversationId polls s) pending := by
  induction polls generalizing pending s with
  | zero => rfl
  | succ polls ih =>
    unfold receiveEnvelopeFrom pollAnswers
    have hpoll : client.getMessages C core conversationId s =
      (.ofResult (messagesAnswer C client (core (client.pollCommand conversationId) s).1),
        (core (client.pollCommand conversationId) s).2) := rfl
    rw [Mutating.bind_apply, Mutating.mapErr_apply, hpoll]
    cases hanswer : messagesAnswer C client (core (client.pollCommand conversationId) s).1 with
    | error error => rfl
    | ok messages =>
      unfold receiveLoop
      simp only [Outcome.ofResult, Outcome.mapErr_ok]
      rcases hobserve : pending.observe F requested (receivedContents expectedSender messages)
        with ⟨_ | _ | _, next⟩
      · simp only []
        cases hunpack : next.unpack F sha256 requested with
        | ok received => rfl
        | panic => rfl
        | err error =>
          simp only []
          split
          · exact ih next _
          · rfl
      · rfl
      · rfl

end TokenStudio
