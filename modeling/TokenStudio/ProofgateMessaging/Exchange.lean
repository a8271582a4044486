import Mathlib.Data.List.Perm.Subperm
import Mathlib.Logic.Relation
import TokenStudio.ProofgateMessaging.Receive

/-!
# A transfer over a conversation

A conversation is a log of posts.  A poll shows the receiver any of the messages that
were posted so far, in any order and any number of copies, or it fails
(`Conversation.Step`).  So a message can be late, lost, or shown again and again, and
others post what they like in between.  `Conversation.sound` is the invariant over all
runs: what a poll shows as a message of a member was posted by this member.

`Packed.receiveEnvelope_of_honest` is the specification of a receiver that waits for a
transfer whose sender is honest.  It has the envelope as soon as its polls have shown
the whole bundle, and until then it goes on.  A wrong envelope, and every error but
those of the client and the time limit, is impossible.
-/

namespace TokenStudio

/-! ## What polls show -/

/-- The contents that a receiver gets before its first failed poll. -/
def shownContents (expectedSender : Option String) : List PollAnswer → List String
  | [] => []
  | .error _ :: _ => []
  | .ok messages :: rest =>
    receivedContents expectedSender messages ++ shownContents expectedSender rest

/-- How the polls end: with the first failed one, or at the time limit. -/
def pollsEnd : List PollAnswer → ReceiveError
  | [] => .receiveTimeout
  | .error error :: _ => .logosCore error
  | .ok _ :: rest => pollsEnd rest

theorem isReceived_of_mem_shownContents {expectedSender : Option String} {polls : List PollAnswer}
    {content : String} (h : content ∈ shownContents expectedSender polls) :
    IsReceived expectedSender polls content := by
  induction polls with
  | nil => simp [shownContents] at h
  | cons answer rest ih =>
    cases answer with
    | error error => simp [shownContents] at h
    | ok messages =>
      rcases List.mem_append.mp h with hnow | hlater
      · exact ⟨messages, List.mem_cons_self, mem_receivedContents.mp hnow⟩
      · exact (ih hlater).cons _

/-! ## A receiver of an honest transfer -/

namespace Packed

section

variable {F : Formats} {sha256 : Bytes → Digest32} {envelope : AttestationEnvelope}
  {chunkBytes : Nat} {id : String} {bundle : TransferBundle} {bytes : Bytes}
  {challengeDigest : Digest32}
  (h : Packed F sha256 envelope chunkBytes id bundle bytes challengeDigest) (hF : F.Lawful)

include h

/-- A bundle is smaller than the bound of the pending messages. -/
theorem messages_length_le : bundle.messages.length ≤ maxPendingWireMessages := by
  have hmessages : bundle.messages.length = (byteChunks chunkBytes bytes).length + 1 := by
    rw [← h.messages.length_eq]
    simp [packedBodies]
  have hchunks := h.chunks_le
  unfold maxPendingWireMessages
  omega

theorem messages_ne_nil : ∃ text, text ∈ bundle.messages := by
  obtain ⟨text, hcommit, -⟩ := h.commit_eq
  exact ⟨text, List.mem_of_getLast? hcommit⟩

include hF

/-- One poll.  A receiver that holds messages of the bundle takes in every window of
messages of the bundle and contents that it does not want. -/
theorem observe_of_honest {pending : PendingWireMessages}
    (hpending : ∀ text ∈ pending.contents, text ∈ bundle.messages) {contents : List String}
    (hhonest : ∀ content ∈ contents,
      content ∈ bundle.messages ∨ wantedMessage? F (some id) content = none) :
    ∃ next, pending.observe F (some id) contents = (.ok (), next) ∧
      ∀ text, text ∈ next.contents ↔
        text ∈ bundle.messages ∧ (text ∈ pending.contents ∨ text ∈ contents) := by
  have hwanted : ∀ text, text ∈ wantedContents F (some id) contents ↔
      text ∈ bundle.messages ∧ text ∈ contents := by
    intro text
    rw [wantedContents, List.mem_filter]
    constructor
    · rintro ⟨hmem, hsome⟩
      refine ⟨(hhonest text hmem).resolve_right ?_, hmem⟩
      intro hnone
      rw [hnone] at hsome
      cases hsome
    · rintro ⟨hbundle, hmem⟩
      obtain ⟨body, -, hbody⟩ := h.wantedMessage?_eq hF hbundle
      exact ⟨hmem, by rw [hbody]; rfl⟩
  have htakes : pending.Takes F (some id) contents := by
    refine ⟨?_, ?_⟩
    · intro content hcontent message hmessage
      rcases hhonest content hcontent with hbundle | hnone
      · exact h.valid_of_wanted hF hbundle hmessage
      · rw [hnone] at hmessage
        cases hmessage
    · -- what is kept are different messages of the bundle
      have hsubset : (pending.contents ++ wantedContents F (some id) contents).eraseDups ⊆
          bundle.messages := by
        intro text htext
        rw [List.mem_eraseDups, List.mem_append] at htext
        exact htext.elim (hpending text) fun hw => ((hwanted text).mp hw).1
      have hsubperm := (nodup_eraseDups _).subperm hsubset
      exact hsubperm.length_le.trans h.messages_length_le
  rcases PendingWireMessages.observe_cases F (some id) contents pending with
    ⟨-, next, hobserve, hnext⟩ | ⟨hnot, -⟩
  · refine ⟨next, hobserve, ?_⟩
    intro text
    rw [hnext, List.mem_eraseDups, List.mem_append, hwanted]
    constructor
    · intro hmem
      exact hmem.elim (fun hp => ⟨hpending text hp, Or.inl hp⟩) fun hw => ⟨hw.1, Or.inr hw.2⟩
    · rintro ⟨hbundle, hmem⟩
      exact hmem.imp_right fun hc => ⟨hbundle, hc⟩
  · exact absurd htakes hnot

/-- A receiver that lacks a message of the bundle polls again. -/
theorem unpack_of_partial {pending : PendingWireMessages}
    (hpending : ∀ text ∈ pending.contents, text ∈ bundle.messages)
    (hmissing : ¬ ∀ text ∈ bundle.messages, text ∈ pending.contents) :
    ∃ error, pending.unpack F sha256 (some id) = .err error ∧ error.isPending = true := by
  have hcontents : ∀ content ∈ pending.contents, content ∈ bundle.messages ∨
      ∀ body, F.messageFromStr content ≠ some (transferMessage id body) :=
    fun content hcontent => Or.inl (hpending content hcontent)
  by_cases hcommit : ∀ text ∈ bundle.commit, text ∉ pending.contents
  · exact ⟨.noTransfer, h.unpack_of_no_commit hF hcontents hcommit, rfl⟩
  · simp only [not_forall, not_not] at hcommit hmissing
    obtain ⟨text, htext, hmem⟩ := hcommit
    obtain ⟨lost, hlost, hnot⟩ := hmissing
    obtain ⟨received, expected, hunpack⟩ :=
      h.unpack_of_missing hF hcontents ⟨text, htext, hmem⟩ ⟨lost, hlost, hnot⟩
    exact ⟨_, hunpack, rfl⟩

/-- The loop, by induction on the polls: it holds messages of the bundle, and not yet
all of them. -/
theorem receiveLoop_of_honest {expectedSender : Option String} (polls : List PollAnswer)
    {pending : PendingWireMessages}
    (hpending : ∀ text ∈ pending.contents, text ∈ bundle.messages)
    (hmissing : ¬ ∀ text ∈ bundle.messages, text ∈ pending.contents)
    (hhonest : ∀ content ∈ shownContents expectedSender polls,
      content ∈ bundle.messages ∨ wantedMessage? F (some id) content = none) :
    receiveLoop F sha256 (some id) expectedSender polls pending =
      if ∀ text ∈ bundle.messages, text ∈ pending.contents ++ shownContents expectedSender polls
      then .ok (id, envelope) else .err (pollsEnd polls) := by
  induction polls generalizing pending with
  | nil => simp [receiveLoop, shownContents, pollsEnd, hmissing]
  | cons answer rest ih =>
    cases answer with
    | error error => simp [receiveLoop, shownContents, pollsEnd, hmissing]
    | ok messages =>
      simp only [shownContents, List.mem_append] at hhonest ⊢
      have hnow : ∀ content ∈ receivedContents expectedSender messages,
          content ∈ bundle.messages ∨ wantedMessage? F (some id) content = none :=
        fun content hcontent => hhonest content (Or.inl hcontent)
      obtain ⟨next, hobserve, hnext⟩ := h.observe_of_honest hF hpending hnow
      have hnextBundle : ∀ text ∈ next.contents, text ∈ bundle.messages :=
        fun text htext => ((hnext text).mp htext).1
      unfold receiveLoop
      simp only [hobserve]
      by_cases hall : ∀ text ∈ bundle.messages, text ∈ next.contents
      · have hunpack : next.unpack F sha256 (some id) = .ok (id, envelope) :=
          h.unpack_of_all hF (fun content hcontent => Or.inl (hnextBundle content hcontent)) hall
        have hshown : ∀ text ∈ bundle.messages, text ∈ pending.contents ∨
            text ∈ receivedContents expectedSender messages ∨
              text ∈ shownContents expectedSender rest := by
          intro text htext
          rcases ((hnext text).mp (hall text htext)).2 with hp | hc
          · exact Or.inl hp
          · exact Or.inr (Or.inl hc)
        rw [hunpack, if_pos hshown]
      · obtain ⟨error, hunpack, herror⟩ := h.unpack_of_partial hF hnextBundle hall
        have hiff : (∀ text ∈ bundle.messages, text ∈ next.contents ++
            shownContents expectedSender rest) ↔
            ∀ text ∈ bundle.messages, text ∈ pending.contents ∨
              text ∈ receivedContents expectedSender messages ∨
                text ∈ shownContents expectedSender rest := by
          refine forall₂_congr fun text htext => ?_
          rw [List.mem_append, hnext]
          simp only [htext, true_and, or_assoc]
        have hrest := ih hnextBundle hall fun content hcontent => hhonest content (Or.inr hcontent)
        simp only [hunpack, herror, if_true, hrest, pollsEnd, hiff]

/-- A receiver that waits for a transfer and is shown messages of its bundle and contents
that it does not want.  It returns the envelope when the polls have shown the whole
bundle, and it ends as its polls do otherwise. -/
theorem receiveEnvelope_of_honest {expectedSender : Option String} (polls : List PollAnswer)
    (hhonest : ∀ content ∈ shownContents expectedSender polls,
      content ∈ bundle.messages ∨ wantedMessage? F (some id) content = none) :
    receiveEnvelope F sha256 (some id) expectedSender polls =
      if ∀ text ∈ bundle.messages, text ∈ shownContents expectedSender polls
      then .ok (id, envelope) else .err (pollsEnd polls) := by
  have hmissing : ¬ ∀ text ∈ bundle.messages, text ∈ PendingWireMessages.empty.contents := by
    obtain ⟨text, htext⟩ := h.messages_ne_nil
    exact fun hall => List.not_mem_nil (hall text htext)
  have hnone : ∀ text ∈ PendingWireMessages.empty.contents, text ∈ bundle.messages :=
    fun text htext => absurd htext List.not_mem_nil
  have hloop := h.receiveLoop_of_honest hF polls hnone hmissing hhonest
  have hempty : PendingWireMessages.empty.contents ++ shownContents expectedSender polls =
      shownContents expectedSender polls := rfl
  rwa [hempty] at hloop

end

end Packed

/-! ## Conversations -/

/-- A post of a member, with its sender. -/
structure MemberPost where
  sender : String
  content : String
  deriving DecidableEq

/-- What was posted in a conversation, and how the polls of the receiver were answered. -/
structure Conversation where
  posts : List MemberPost
  polls : List PollAnswer

namespace Conversation

/-- Before the first post. -/
def empty : Conversation where
  posts := []
  polls := []

/-- One step of a conversation.  A poll shows messages that were posted, and it shows
each of them as a message of its sender. -/
inductive Step : Conversation → Conversation → Prop
  | post (c : Conversation) (post : MemberPost) : Step c { c with posts := c.posts ++ [post] }
  | poll (c : Conversation) (messages : List LogosChatMessage)
      (hposted : ∀ message ∈ messages, message.fromSelf = false →
        ∀ sender ∈ message.sender, ⟨sender, message.content⟩ ∈ c.posts) :
      Step c { c with polls := c.polls ++ [.ok messages] }
  | pollFailed (c : Conversation) (error : LogosCoreError) :
      Step c { c with polls := c.polls ++ [.error error] }

/-- What a member has posted. -/
def postsBy (c : Conversation) (member : String) : List String :=
  (c.posts.filter fun post => post.sender = member).map MemberPost.content

/-- A receiver gets nothing as a message of a member that this member has not posted. -/
def Sound (c : Conversation) : Prop :=
  ∀ member content, IsReceived (some member) c.polls content → ⟨member, content⟩ ∈ c.posts

theorem mem_postsBy {c : Conversation} {member content : String} :
    content ∈ c.postsBy member ↔ ⟨member, content⟩ ∈ c.posts := by
  simp only [postsBy, List.mem_map, List.mem_filter, decide_eq_true_eq]
  constructor
  · rintro ⟨⟨sender, content'⟩, ⟨hmem, rfl⟩, rfl⟩
    exact hmem
  · intro hmem
    exact ⟨⟨member, content⟩, ⟨hmem, rfl⟩, rfl⟩

/-- One step. -/
theorem Sound.step {c c' : Conversation} (h : c.Sound) (hstep : Step c c') : c'.Sound := by
  intro member content hreceived
  cases hstep with
  | post post => exact List.mem_append_left _ (h member content hreceived)
  | poll messages hposted =>
    obtain ⟨messages', hmem, message, hmessage, rfl, hself, hsender⟩ := hreceived
    rcases List.mem_append.mp hmem with hbefore | hnow
    · exact h member _ ⟨messages', hbefore, message, hmessage, rfl, hself, hsender⟩
    · obtain rfl : messages' = messages := by simpa using hnow
      exact hposted message hmessage hself member (hsender member rfl)
  | pollFailed error =>
    obtain ⟨messages', hmem, hmessage⟩ := hreceived
    have hbefore : .ok messages' ∈ c.polls := by simpa using hmem
    exact h member content ⟨messages', hbefore, hmessage⟩

/-- Every run. -/
theorem sound {c : Conversation} (h : Relation.ReflTransGen Step empty c) : c.Sound := by
  induction h with
  | refl =>
    intro member content hreceived
    obtain ⟨messages, hmem, -⟩ := hreceived
    exact absurd hmem List.not_mem_nil
  | tail _ hstep ih => exact ih.step hstep

end Conversation

end TokenStudio
