import TokenStudio.AttestationCli.ReceiveVerify
import TokenStudio.ProofgateMessaging.Client
import TokenStudio.ProofgateMessaging.Exchange

/-!
# Sending and receiving an envelope

The commands `messaging send` and `messaging receive` of the crate `attestation-cli`.
The first packs an envelope under a random transfer id and posts one to three copies of
the bundle.  The second waits for a transfer.

`messagingSend_posts` says what the first command leaves behind, whatever calls fail: the
first part of its copies, so that a manifest is never posted before the chunks that it
counts.  `receivePresentation_of_send` puts the two together over a conversation that
delays, loses, repeats and reorders.
-/

namespace TokenStudio

/-! ## The random transfer id -/

/-- `hex_bytes`. -/
def hexBytes (bytes : Bytes) : String := ofAscii (hexEncode bytes)

/-- `pack_envelope`, with the random bytes of the transfer id. -/
def packEnvelope (F : Formats) (sha256 : Bytes → Digest32) (envelope : AttestationEnvelope)
    (chunkBytes : Nat) (random : HalfDigest) : Outcome MessagingError TransferBundle :=
  packEnvelopeWithId F sha256 envelope chunkBytes (hexBytes random.toList)

/-! ## The commands -/

/-- `MessagingSendArgs`, with the file that the command finds and the random bytes that
it draws. -/
structure MessagingSend where
  conversationId : String
  envelopePath : String
  envelope : JsonFile AttestationEnvelope
  chunkBytes : Nat
  copies : UInt8
  random : HalfDigest

/-- `messaging send` up to its first call. -/
def MessagingSend.bundle (F : Formats) (sha256 : Bytes → Digest32) (args : MessagingSend) :
    Outcome String TransferBundle := do
  Outcome.check (¬ (1 ≤ args.copies ∧ args.copies ≤ 3)) "--copies must be between 1 and 3"
  let envelope ← readJson args.envelopePath args.envelope
  (packEnvelope F sha256 envelope args.chunkBytes args.random).mapErr MessagingError.toText

/-- `messaging send`. -/
def messagingSend {σ : Type} (C : ClientFormats) (F : Formats) (sha256 : Bytes → Digest32)
    (core : LogosCore σ) (client : LogosCoreClient) (args : MessagingSend) :
    Mutating σ String TransferBundle := do
  let bundle ← args.bundle F sha256
  (List.range args.copies.toNat).forM fun _ =>
    (client.sendBundle C core args.conversationId bundle).mapErr LogosCoreError.toText
  pure bundle

/-- `messaging receive`, with the result of writing the envelope. -/
def messagingReceive (F : Formats) (sha256 : Bytes → Digest32)
    (options : MessagingReceiveOptions) (polls : List PollAnswer) (output : Outcome String Unit) :
    Outcome String (String × AttestationEnvelope) := do
  let (transferId, envelope) ← receivePresentation F sha256 options polls
  output
  pure (transferId, envelope)

/-- The posts of a number of copies of a bundle. -/
def copiesOf (conversationId : String) (bundle : TransferBundle) (copies : Nat) : List ChatPost :=
  (List.range copies).flatMap fun _ => postsOf conversationId bundle.messages

theorem mem_copiesOf {conversationId : String} {bundle : TransferBundle} {copies : Nat}
    {post : ChatPost} (h : post ∈ copiesOf conversationId bundle copies) :
    post.conversationId = conversationId ∧ post.content ∈ bundle.messages := by
  obtain ⟨-, -, hpost⟩ := List.mem_flatMap.mp h
  obtain ⟨content, hcontent, rfl⟩ := List.mem_map.mp hpost
  exact ⟨rfl, hcontent⟩

/-- The envelope and the bundle of a command that comes to its first call. -/
theorem MessagingSend.bundle_eq_ok {F : Formats} {sha256 : Bytes → Digest32}
    {args : MessagingSend} {bundle : TransferBundle} :
    args.bundle F sha256 = .ok bundle ↔ 1 ≤ args.copies ∧ args.copies ≤ 3 ∧
      ∃ envelope, args.envelope = .holds envelope ∧ ∃ bytes challengeDigest,
        Packed F sha256 envelope args.chunkBytes bundle.transferId bundle bytes challengeDigest ∧
          bundle.transferId = hexBytes args.random.toList := by
  simp only [MessagingSend.bundle, packEnvelope, Outcome.bind_eq_ok, Outcome.exists_unit,
    Outcome.check_eq_ok, Outcome.mapErr_eq_ok, readJson_eq_ok, pack_eq_ok_iff, not_not]
  constructor
  · rintro ⟨hcopies, envelope, hfile, hid, bytes, challengeDigest, hpacked⟩
    exact ⟨hcopies.1, hcopies.2, envelope, hfile, bytes, challengeDigest, hid ▸ hpacked, hid⟩
  · rintro ⟨hlo, hhi, envelope, hfile, bytes, challengeDigest, hpacked, hid⟩
    exact ⟨⟨hlo, hhi⟩, envelope, hfile, hid, bytes, challengeDigest, hid ▸ hpacked⟩

/-! ## What a sender leaves behind -/

/-- In copies of a list that ends with `commit`, the rest of the list is in front of
every `commit`. -/
theorem subset_of_prefix_copies {α : Type} {chunks : List α} {commit : α}
    (hcommit : commit ∉ chunks) {copies : Nat} {before after : List α}
    (h : before ++ commit :: after <+:
      (List.range copies).flatMap fun _ => chunks ++ [commit]) :
    chunks ⊆ before := by
  obtain ⟨rest, hrest⟩ := h
  cases copies with
  | zero => simp at hrest
  | succ copies =>
    have hfirst : ((List.range (copies + 1)).flatMap fun _ => chunks ++ [commit]) =
        chunks ++ commit :: (List.range copies).flatMap fun _ => chunks ++ [commit] := by
      rw [List.range_succ_eq_map, List.flatMap_cons, List.flatMap_map, List.append_assoc]
      rfl
    rw [hfirst, List.append_assoc, List.cons_append] at hrest
    rcases List.append_eq_append_iff.mp hrest with ⟨middle, hchunks, hmiddle⟩ |
      ⟨middle, hbefore, -⟩
    · cases middle with
      | nil => rw [hchunks, List.append_nil]; exact List.Subset.refl _
      | cons x middle =>
        obtain ⟨rfl, -⟩ := List.cons.inj hmiddle
        exact absurd (hchunks ▸ List.mem_append_right _ List.mem_cons_self) hcommit
    · rw [hbefore]
      exact List.subset_append_left _ _

section

variable {σ : Type} {C : ClientFormats} {F : Formats} {sha256 : Bytes → Digest32}
  {core : LogosCore σ} {client : LogosCoreClient} {posted : σ → List ChatPost}

/-- The text of a manifest is not that of a chunk. -/
theorem Packed.commit_notMem {envelope : AttestationEnvelope} {chunkBytes : Nat} {id : String}
    {bundle : TransferBundle} {bytes : Bytes} {challengeDigest : Digest32}
    (h : Packed F sha256 envelope chunkBytes id bundle bytes challengeDigest) (hF : F.Lawful) :
    ∃ chunks commit, bundle.messages = chunks ++ [commit] ∧ bundle.commit = some commit ∧
      commit ∉ chunks := by
  obtain ⟨chunks, commit, hchunks, hcommit, hmessages⟩ := forall₂_concat_left_iff.mp h.messages
  refine ⟨chunks, commit, hmessages, ?_, ?_⟩
  · rw [TransferBundle.commit, hmessages, List.getLast?_concat]
  · intro hmem
    obtain ⟨i, hi, hget⟩ := List.mem_iff_getElem.mp hmem
    obtain ⟨hlen, hall⟩ := List.forall₂_iff_get.mp hchunks
    have hchunk := hF.message _ _ (hall i (hlen ▸ hi) hi)
    have hmanifest := hF.message _ _ hcommit
    simp only [List.get_eq_getElem, hget, hmanifest, List.getElem_map,
      Option.some.injEq] at hchunk
    exact absurd (congrArg WireMessage.body hchunk) (by simp [transferMessage, packedChunk])

/-- The loop over the copies. -/
theorem sendCopies_emits (h : SendsMessages C core client posted) (conversationId : String)
    (bundle : TransferBundle) (copies : Nat) :
    Emits posted ((List.range copies).forM fun _ =>
        (client.sendBundle C core conversationId bundle).mapErr LogosCoreError.toText)
      (copiesOf conversationId bundle copies) :=
  Emits.forM (fun _ => (sendBundle_emits h conversationId bundle).mapErr _) (List.range copies)

/-- A command that comes to its first call. -/
theorem messagingSend_emits (h : SendsMessages C core client posted) {args : MessagingSend}
    {bundle : TransferBundle} (hbundle : args.bundle F sha256 = .ok bundle) :
    Emits posted (messagingSend C F sha256 core client args)
      (copiesOf args.conversationId bundle args.copies.toNat) := by
  have hloop := (sendCopies_emits h args.conversationId bundle args.copies.toNat).bind
    fun _ => Emits.pure bundle
  rw [List.append_nil] at hloop
  unfold messagingSend
  rw [hbundle]
  exact hloop

/-- Such a command leaves what its loop leaves. -/
theorem messagingSend_snd {args : MessagingSend} {bundle : TransferBundle}
    (hbundle : args.bundle F sha256 = .ok bundle) (s : σ) :
    (messagingSend C F sha256 core client args s).2 =
      ((List.range args.copies.toNat).forM (fun _ =>
        (client.sendBundle C core args.conversationId bundle).mapErr LogosCoreError.toText)
          s).2 := by
  unfold messagingSend
  rw [Mutating.bind_apply, Mutating.liftM_apply, hbundle]
  simp only [Mutating.bind_pure_apply]

/-- What is left behind by a command that has come to its first call. -/
structure Sent (args : MessagingSend) (bundle : TransferBundle) (sent : List ChatPost) : Prop where
  copies : sent <+: copiesOf args.conversationId bundle args.copies.toNat
  /-- Every manifest comes after every chunk. -/
  commitLast : ∀ before post after, sent = before ++ post :: after →
    bundle.commit = some post.content → ∀ text ∈ bundle.messages, text ≠ post.content →
      ⟨args.conversationId, text⟩ ∈ before

theorem sent_of_prefix (hF : F.Lawful) {args : MessagingSend} {bundle : TransferBundle}
    (hbundle : args.bundle F sha256 = .ok bundle) {sent : List ChatPost}
    (hsent : sent <+: copiesOf args.conversationId bundle args.copies.toNat) :
    Sent args bundle sent where
  copies := hsent
  commitLast := by
    obtain ⟨-, -, envelope, -, bytes, challengeDigest, hpacked, -⟩ :=
      MessagingSend.bundle_eq_ok.mp hbundle
    obtain ⟨chunks, commit, hmessages, hcommit, hnot⟩ := hpacked.commit_notMem hF
    intro before post after hsplit hpost text htext hne
    obtain rfl : commit = post.content := Option.some.inj (hcommit.symm.trans hpost)
    have hmem : post ∈ copiesOf args.conversationId bundle args.copies.toNat :=
      hsent.subset (hsplit ▸ List.mem_append_right _ List.mem_cons_self)
    have hpostEq : post = ⟨args.conversationId, post.content⟩ := by
      rw [← (mem_copiesOf hmem).1]
    have hchunks : ⟨args.conversationId, post.content⟩ ∉ postsOf args.conversationId chunks := by
      intro hin
      obtain ⟨content, hcontent, heq⟩ := List.mem_map.mp hin
      rw [← (ChatPost.mk.inj heq).2] at hnot
      exact hnot hcontent
    have hprefix : before ++ ⟨args.conversationId, post.content⟩ :: after <+:
        (List.range args.copies.toNat).flatMap fun _ =>
          postsOf args.conversationId chunks ++ [⟨args.conversationId, post.content⟩] := by
      have hcopies : copiesOf args.conversationId bundle args.copies.toNat =
          (List.range args.copies.toNat).flatMap fun _ =>
            postsOf args.conversationId chunks ++ [⟨args.conversationId, post.content⟩] := by
        simp only [copiesOf, postsOf, hmessages, List.map_append, List.map_cons, List.map_nil]
      rw [← hcopies, ← hpostEq, ← hsplit]
      exact hsent
    have hsubset := subset_of_prefix_copies hchunks hprefix
    rw [hmessages, List.mem_append, List.mem_singleton] at htext
    exact hsubset (List.mem_map_of_mem (htext.resolve_right hne))

/-- What `messaging send` leaves in the conversation, whatever calls of the Logos Core CLI
fail.  It fails before its first call, or it posts a first part of its copies of the
bundle, all of them if it succeeds, and never a manifest before the chunks. -/
theorem messagingSend_posts (hF : F.Lawful) (h : SendsMessages C core client posted)
    (args : MessagingSend) (s : σ) :
    ((messagingSend C F sha256 core client args s).1.isOk = false ∧
        (messagingSend C F sha256 core client args s).2 = s) ∨
      ∃ bundle sent, args.bundle F sha256 = .ok bundle ∧
        posted (messagingSend C F sha256 core client args s).2 = posted s ++ sent ∧
        Sent args bundle sent ∧
        ∀ b, (messagingSend C F sha256 core client args s).1 = .ok b →
          b = bundle ∧ sent = copiesOf args.conversationId bundle args.copies.toNat := by
  cases hbundle : args.bundle F sha256 with
  | err error =>
    refine Or.inl ?_
    unfold messagingSend
    rw [Mutating.bind_apply, Mutating.liftM_apply, hbundle]
    exact ⟨rfl, rfl⟩
  | panic =>
    refine Or.inl ?_
    unfold messagingSend
    rw [Mutating.bind_apply, Mutating.liftM_apply, hbundle]
    exact ⟨rfl, rfl⟩
  | ok bundle =>
    obtain ⟨sent, hprefix, hposted, hok⟩ := messagingSend_emits h hbundle s
    refine Or.inr ⟨bundle, sent, rfl, hposted, sent_of_prefix hF hbundle hprefix, ?_⟩
    intro b hb
    refine ⟨?_, hok (Outcome.isOk_iff.mpr ⟨b, hb⟩)⟩
    unfold messagingSend at hb
    rw [Mutating.bind_apply, Mutating.liftM_apply, hbundle] at hb
    simp only [Mutating.bind_pure_apply, Outcome.bind_eq_ok, Outcome.exists_unit,
      Outcome.pure_eq, Outcome.ok.injEq] at hb
    exact hb.2.symm

end

/-! ### A command in the chat of the test gate -/

/-- The random bytes of the transfer id of the test. -/
def chatRandom : HalfDigest :=
  ⟨[0x00, 0x11, 0x22, 0x33, 0x44, 0x55, 0x66, 0x77, 0x88, 0x99, 0xaa, 0xbb, 0xcc, 0xdd, 0xee,
    0xff], rfl⟩

/-- Two copies of the envelope. -/
def chatSend : MessagingSend where
  conversationId := "founders"
  envelopePath := "envelope.json"
  envelope := .holds chatEnvelope
  chunkBytes := 1024
  copies := 2
  random := chatRandom

def chatClient : LogosCoreClient where
  binary := "logoscore"
  configDir := "node"
  moduleName := "chat_module"

theorem bundle_chatSend : chatSend.bundle chatFormats sha256 = .ok chatBundle :=
  MessagingSend.bundle_eq_ok.mpr ⟨by decide, by decide, chatEnvelope, rfl, chatEnvelopeBytes,
    foundersChallengeDigest, chatTransfer_packed, by decide +kernel⟩

/-- The node takes the first copy and a part of the second one. -/
theorem messagingSend_posts_flaky :
    ((messagingSend flakyClientFormats chatFormats sha256 flakyCore chatClient chatSend
          (5, [])).1.isOk = false ∧
        (messagingSend flakyClientFormats chatFormats sha256 flakyCore chatClient chatSend
          (5, [])).2 = (5, [])) ∨
      ∃ bundle sent, chatSend.bundle chatFormats sha256 = .ok bundle ∧
        (messagingSend flakyClientFormats chatFormats sha256 flakyCore chatClient chatSend
          (5, [])).2.2 = [] ++ sent ∧ Sent chatSend bundle sent ∧
        ∀ b, (messagingSend flakyClientFormats chatFormats sha256 flakyCore chatClient chatSend
          (5, [])).1 = .ok b → b = bundle ∧ sent = copiesOf "founders" bundle 2 :=
  messagingSend_posts chatFormats_lawful (flakyCore_sendsMessages chatClient) chatSend (5, [])

section

variable {σ : Type} {C : ClientFormats} {F : Formats} {sha256 : Bytes → Digest32}
  {core : LogosCore σ} {client : LogosCoreClient} {posted : σ → List ChatPost}

/-! ## Sent and received -/

/-- A receiver that waits for a transfer, in any run of the conversation in which its
sender posts no message of this transfer but what `messaging send` posts.  What else the
sender posts, before, in between or after, does not matter.  The receiver has the
envelope of the sender as soon as the polls have shown one copy of each message.  Until
then it waits, and it never gets anything else.  So its loop, whose calls return these
polls, ends with the envelope exactly when these copies were shown, and `messaging
receive` when the envelope could also be written. -/
theorem receivePresentation_of_send (hF : F.Lawful) (h : SendsMessages C core client posted)
    (args : MessagingSend) (s : σ) {envelope : AttestationEnvelope} {bundle : TransferBundle}
    (hfile : args.envelope = .holds envelope) (hbundle : args.bundle F sha256 = .ok bundle)
    {c : Conversation} (hrun : Relation.ReflTransGen Conversation.Step .empty c)
    {member : String} {sent : List ChatPost}
    (hsent : posted (messagingSend C F sha256 core client args s).2 = posted s ++ sent)
    (hposts : ∀ content ∈ c.postsBy member, ⟨args.conversationId, content⟩ ∈ sent ∨
      wantedMessage? F (some bundle.transferId) content = none)
    {options : MessagingReceiveOptions} (hpoll : options.pollMs ≠ 0)
    (hid : options.transferId = some bundle.transferId)
    (hsender : options.expectedSender = some member) :
    receivePresentation F sha256 options c.polls =
        (if ∀ text ∈ bundle.messages, text ∈ shownContents (some member) c.polls
          then .ok (bundle.transferId, envelope) else .err (pollsEnd c.polls).toText) ∧
      (∀ received, receivePresentation F sha256 options c.polls = .ok received →
        received = (bundle.transferId, envelope) ∧
          ∀ text ∈ bundle.messages, ⟨args.conversationId, text⟩ ∈ sent) ∧
      (∀ {τ : Type} (C' : ClientFormats) (core' : LogosCore τ) (client' : LogosCoreClient)
        (conversationId : String) (polls : Nat) (world : τ)
        (received : String × AttestationEnvelope),
        pollAnswers C' core' client' conversationId polls world = c.polls →
        ((receiveEnvelopeFrom C' F sha256 core' client' conversationId options.transferId
            options.expectedSender polls .empty world).1 = .ok received ↔
          received = (bundle.transferId, envelope) ∧
            ∀ text ∈ bundle.messages, text ∈ shownContents (some member) c.polls)) ∧
      ∀ output received, messagingReceive F sha256 options c.polls output = .ok received ↔
        received = (bundle.transferId, envelope) ∧ output = .ok () ∧
          ∀ text ∈ bundle.messages, text ∈ shownContents (some member) c.polls := by
  obtain ⟨-, -, envelope', hfile', bytes, challengeDigest, hpacked, -⟩ :=
    MessagingSend.bundle_eq_ok.mp hbundle
  obtain rfl : envelope = envelope' := JsonFile.holds.inj (hfile.symm.trans hfile')
  have hcopies : sent <+: copiesOf args.conversationId bundle args.copies.toNat := by
    obtain ⟨sent', hprefix, hposted, -⟩ := messagingSend_emits h hbundle s
    rw [List.append_cancel_left (hsent.symm.trans hposted)]
    exact hprefix
  have hshown : ∀ content ∈ shownContents (some member) c.polls,
      ⟨args.conversationId, content⟩ ∈ sent ∨
        wantedMessage? F (some bundle.transferId) content = none := by
    intro content hcontent
    have hposted := Conversation.sound hrun member content
      (isReceived_of_mem_shownContents hcontent)
    exact hposts content (Conversation.mem_postsBy.mpr hposted)
  have hhonest : ∀ content ∈ shownContents (some member) c.polls, content ∈ bundle.messages ∨
      wantedMessage? F (some bundle.transferId) content = none := fun content hcontent =>
    (hshown content hcontent).imp_left fun hin => (mem_copiesOf (hcopies.subset hin)).2
  have hreceive : receivePresentation F sha256 options c.polls =
      (if ∀ text ∈ bundle.messages, text ∈ shownContents (some member) c.polls
        then .ok (bundle.transferId, envelope) else .err (pollsEnd c.polls).toText) := by
    rw [receivePresentation, Outcome.check_of_not hpoll, Outcome.ok_bind, hid, hsender,
      hpacked.receiveEnvelope_of_honest hF c.polls hhonest]
    split <;> rfl
  have hok : ∀ received, receivePresentation F sha256 options c.polls = .ok received ↔
      received = (bundle.transferId, envelope) ∧
        ∀ text ∈ bundle.messages, text ∈ shownContents (some member) c.polls := by
    intro received
    rw [hreceive]
    split
    · rename_i hall
      rw [Outcome.ok.injEq, eq_comm]
      exact (and_iff_left hall).symm
    · rename_i hmissing
      exact iff_of_false (by simp) fun hall => hmissing hall.2
  refine ⟨hreceive, ?_, ?_, ?_⟩
  · intro received hreceived
    obtain ⟨rfl, hall⟩ := (hok received).mp hreceived
    refine ⟨rfl, ?_⟩
    intro text htext
    refine (hshown text (hall text htext)).resolve_right ?_
    intro hnone
    -- a message of the bundle is wanted
    obtain ⟨body, -, hwanted⟩ := hpacked.wantedMessage?_eq hF htext
    rw [hnone] at hwanted
    cases hwanted
  · intro τ C' core' client' conversationId polls world received hanswers
    rw [receiveEnvelopeFrom_fst, hanswers, ← hok, receivePresentation,
      Outcome.check_of_not hpoll, Outcome.ok_bind, Outcome.mapErr_eq_ok]
    rfl
  · intro output received
    simp only [messagingReceive, Outcome.bind_eq_ok, Outcome.exists_unit, Outcome.pure_eq,
      Outcome.ok.injEq, hok]
    constructor
    · rintro ⟨_, ⟨rfl, hall⟩, houtput, rfl⟩
      exact ⟨rfl, houtput, hall⟩
    · rintro ⟨rfl, houtput, hall⟩
      exact ⟨_, ⟨rfl, hall⟩, houtput, rfl⟩

end

/-! ### A conversation with one lost copy -/

/-- The command and what it posts when the node takes five messages. -/
theorem messagingSend_chatSend : (messagingSend flakyClientFormats chatFormats sha256 flakyCore
    chatClient chatSend (5, [])).2.2 =
      postsOf "founders" (chatBundle.messages ++ chatBundle.messages.take 2) := by
  obtain ⟨a, b, commit, hmessages, -⟩ := chatBundle_messages
  rw [messagingSend_snd bundle_chatSend]
  unfold LogosCoreClient.sendBundle
  rw [hmessages]
  rfl

/-- A message of alice. -/
def aliceMessage (content : String) : LogosChatMessage where
  fromSelf := false
  content := content
  sender := some "logos:alice"

/-- One poll shows the end of the bundle, and a later one its start. -/
def chatPolls : List PollAnswer :=
  [.ok ((chatBundle.messages.drop 1).reverse.map aliceMessage),
    .ok ((chatBundle.messages.take 2).map aliceMessage)]

/-- A receiver that waits for the transfer of alice. -/
def chatReceive : MessagingReceiveOptions where
  transferId := some chatTransferId
  expectedSender := some "logos:alice"
  pollMs := 1000

/-- What alice posts: the first copy, a greeting, and a part of the second copy. -/
def chatContents : List String :=
  chatBundle.messages ++ "hello" :: chatBundle.messages.take 2

/-- What alice has posted while the receiver polls. -/
def chatConversation : Conversation where
  posts := chatContents.map fun content => ⟨"logos:alice", content⟩
  polls := chatPolls

/-- Any posts of one member. -/
theorem posts_run (member : String) (contents : List String) (c : Conversation) :
    Relation.ReflTransGen Conversation.Step c
      { c with posts := c.posts ++ contents.map fun content => ⟨member, content⟩ } := by
  induction contents generalizing c with
  | nil =>
    rw [List.map_nil, List.append_nil]
  | cons content rest ih =>
    have hrest := ih { c with posts := c.posts ++ [⟨member, content⟩] }
    rw [List.append_assoc, List.singleton_append] at hrest
    exact Relation.ReflTransGen.head (.post c ⟨member, content⟩) hrest

/-- A poll that shows posts of alice. -/
theorem poll_run {c : Conversation} (contents : List String)
    (h : ∀ content ∈ contents, ⟨"logos:alice", content⟩ ∈ c.posts) :
    Conversation.Step c { c with polls := c.polls ++ [.ok (contents.map aliceMessage)] } := by
  refine .poll c _ ?_
  intro message hmessage _ sender hsender
  obtain ⟨content, hcontent, rfl⟩ := List.mem_map.mp hmessage
  obtain rfl : "logos:alice" = sender := Option.some.inj hsender
  exact h content hcontent

theorem chatConversation_run :
    Relation.ReflTransGen Conversation.Step .empty chatConversation := by
  have hposts := posts_run "logos:alice" chatContents .empty
  have hposted : ∀ content ∈ chatBundle.messages, (⟨"logos:alice", content⟩ : MemberPost) ∈
      chatContents.map fun content => ⟨"logos:alice", content⟩ := fun content hcontent =>
    List.mem_map_of_mem (List.mem_append_left _ hcontent)
  unfold chatConversation chatPolls
  generalize chatContents = contents at *
  generalize chatBundle.messages = messages at *
  refine hposts.trans (.head (poll_run (messages.drop 1).reverse ?_)
    (.single (poll_run (messages.take 2) ?_)))
  · intro content hcontent
    exact hposted content (List.mem_of_mem_drop (List.mem_reverse.mp hcontent))
  · intro content hcontent
    exact hposted content (List.mem_of_mem_take hcontent)

theorem postsBy_chatConversation : chatConversation.postsBy "logos:alice" = chatContents := by
  unfold Conversation.postsBy chatConversation
  generalize chatContents = contents
  induction contents with
  | nil => rfl
  | cons content rest ih => simpa using ih

/-- Everything that alice posts was sent by the command, but the greeting. -/
theorem chatContents_honest : ∀ content ∈ chatContents,
    ⟨"founders", content⟩ ∈ (messagingSend flakyClientFormats chatFormats sha256 flakyCore
        chatClient chatSend (5, [])).2.2 ∨
      wantedMessage? chatFormats (some chatTransferId) content = none := by
  intro content hcontent
  rw [messagingSend_chatSend, postsOf]
  rcases List.mem_append.mp hcontent with hfirst | hrest
  · exact Or.inl (List.mem_map_of_mem (List.mem_append_left _ hfirst))
  · rcases List.mem_cons.mp hrest with rfl | hsecond
    · obtain ⟨a, b, commit, -, -, -, -, -, hhello⟩ := chatBundle_messages
      right
      rw [wantedMessage?, hhello]
      rfl
    · exact Or.inl (List.mem_map_of_mem (List.mem_append_right _ hsecond))

/-- The receiver has the envelope, although no poll has shown the whole bundle, and
writes it. -/
theorem receivePresentation_of_send_chat :
    receivePresentation chatFormats sha256 chatReceive chatConversation.polls =
        .ok (chatTransferId, chatEnvelope) ∧
      messagingReceive chatFormats sha256 chatReceive chatConversation.polls (.ok ()) =
        .ok (chatTransferId, chatEnvelope) := by
  obtain ⟨hreceive, -, -, hcommand⟩ := receivePresentation_of_send chatFormats_lawful
    (flakyCore_sendsMessages chatClient) chatSend (5, []) rfl bundle_chatSend
    chatConversation_run (List.nil_append _).symm
    (by rw [postsBy_chatConversation]; exact chatContents_honest)
    (show chatReceive.pollMs ≠ 0 by decide) rfl rfl
  have hshown : ∀ text ∈ chatBundle.messages,
      text ∈ shownContents (some "logos:alice") chatConversation.polls := by
    obtain ⟨a, b, commit, hmessages, -⟩ := chatBundle_messages
    simp [chatConversation, chatPolls, shownContents, receivedContents, hmessages, aliceMessage]
  refine ⟨?_, (hcommand _ _).mpr ⟨rfl, rfl, hshown⟩⟩
  rw [hreceive, if_pos hshown]
  rfl

end TokenStudio
