import TokenStudio.ProofgateMessaging.Deliveries

/-!
# What a poll keeps

`observe` goes over the window of a chat and keeps the contents that carry a wanted
message, each of them once.  `wantedContents` are these contents and `Takes` says
that `observe` gets through: every wanted body is valid, and there is room for the
contents that are new.

`observe_cases` is the specification: the call succeeds exactly on a window that is
taken, and then it holds the wanted contents in the order of their first copies.
`observe_eq_panic_iff` says when it panics.
-/

namespace TokenStudio

/-- The contents with a message of a transfer that is asked for. -/
def wantedContents (F : Formats) (requested : Option String) (contents : List String) :
    List String :=
  contents.filter fun content => (wantedMessage? F requested content).isSome

theorem wantedContents_cons_of_none {F : Formats} {requested : Option String} {content : String}
    (h : wantedMessage? F requested content = none) (rest : List String) :
    wantedContents F requested (content :: rest) = wantedContents F requested rest :=
  List.filter_cons_of_neg (by simp [h])

theorem wantedContents_cons_of_some {F : Formats} {requested : Option String} {content : String}
    {message : WireMessage} (h : wantedMessage? F requested content = some message)
    (rest : List String) :
    wantedContents F requested (content :: rest) = content :: wantedContents F requested rest :=
  List.filter_cons_of_pos (by simp [h])

namespace PendingWireMessages

/-- `observe` gets through the contents. -/
structure Takes (F : Formats) (requested : Option String) (pending : PendingWireMessages)
    (contents : List String) : Prop where
  valid : ∀ content ∈ contents, ∀ message, wantedMessage? F requested content = some message →
    validateWireBody message.body = .ok ()
  room : (pending.contents ++ wantedContents F requested contents).eraseDups.length ≤
    maxPendingWireMessages

/-- A few valid contents are taken. -/
theorem takes_of_length {F : Formats} {requested : Option String} {pending : PendingWireMessages}
    {contents : List String}
    (hvalid : ∀ content ∈ contents, ∀ message, wantedMessage? F requested content = some message →
      validateWireBody message.body = .ok ())
    (hroom : pending.contents.length + contents.length ≤ maxPendingWireMessages) :
    Takes F requested pending contents where
  valid := hvalid
  room := by
    have hdups :=
      (eraseDups_sublist (pending.contents ++ wantedContents F requested contents)).length_le
    have hwanted : (wantedContents F requested contents).length ≤ contents.length :=
      List.length_filter_le _ _
    rw [List.length_append] at hdups
    omega

/-! ## One round -/

section

variable {F : Formats} {requested : Option String} {content : String} {self : PendingWireMessages}

theorem observeOne_of_none (h : wantedMessage? F requested content = none) :
    observeOne F requested content self = (.ok (), self) := by
  unfold observeOne
  rw [h]
  rfl

/-- One round with a wanted message ends as its check does, unless the check
succeeds. -/
theorem observeOne_of_invalid {message : WireMessage}
    (h : wantedMessage? F requested content = some message)
    (hvalid : validateWireBody message.body ≠ .ok ()) :
    observeOne F requested content self = (validateWireBody message.body, self) := by
  unfold observeOne
  rw [h]
  show (_ >>= _ : Mutating PendingWireMessages MessagingError Unit) self = _
  rw [Mutating.bind_apply, Mutating.liftM_apply]
  cases hbody : validateWireBody message.body with
  | ok u => exact absurd hbody hvalid
  | err e => rfl
  | panic => rfl

/-- One round with a valid message. -/
theorem observeOne_of_valid {message : WireMessage}
    (h : wantedMessage? F requested content = some message)
    (hvalid : validateWireBody message.body = .ok ()) :
    observeOne F requested content self =
      if hseen : content ∈ self.seen then (.ok (), self)
      else if hfull : self.contents.length ≥ maxPendingWireMessages then
        (.err (.invalidWireMessage "too many pending transfer messages"), self)
      else (.ok (), self.push content hseen hfull) := by
  unfold observeOne
  rw [h]
  show (_ >>= _ : Mutating PendingWireMessages MessagingError Unit) self = _
  rw [Mutating.bind_apply, Mutating.liftM_apply, hvalid]
  show (_ >>= _ : Mutating PendingWireMessages MessagingError Unit) self = _
  rw [Mutating.bind_apply, Mutating.read_apply]
  show (dite _ _ _ : Mutating PendingWireMessages MessagingError Unit) self = _
  split
  · rfl
  · split <;> rfl

/-- One round panics exactly when it comes to a check and the check does. -/
theorem observeOne_eq_panic_iff :
    (observeOne F requested content self).1 = .panic ↔
      ∃ message, wantedMessage? F requested content = some message ∧
        validateWireBody message.body = .panic := by
  cases h : wantedMessage? F requested content with
  | none => simp [observeOne_of_none h]
  | some message =>
    by_cases hvalid : validateWireBody message.body = .ok ()
    · rw [observeOne_of_valid h hvalid]
      split
      · simp [hvalid]
      · split <;> simp [hvalid]
    · simp [observeOne_of_invalid h hvalid]

end

/-! ## A whole window -/

section

variable {F : Formats} {requested : Option String} {content : String} {self : PendingWireMessages}
  {rest : List String}

/-- A content that is passed over. -/
theorem takes_cons_of_none (h : wantedMessage? F requested content = none) :
    Takes F requested self (content :: rest) ↔ Takes F requested self rest := by
  have hsame := wantedContents_cons_of_none h rest
  constructor
  · intro htakes
    refine ⟨fun c hc => htakes.valid c (List.mem_cons_of_mem _ hc), ?_⟩
    rw [← hsame]
    exact htakes.room
  · intro htakes
    refine ⟨?_, ?_⟩
    · intro c hc message hmessage
      rcases List.mem_cons.mp hc with rfl | hc
      · rw [h] at hmessage
        simp at hmessage
      · exact htakes.valid c hc message hmessage
    · rw [hsame]
      exact htakes.room

/-- A valid content, and a state after it that stands for the same list. -/
theorem takes_cons_of_valid {message : WireMessage}
    (h : wantedMessage? F requested content = some message)
    (hvalid : validateWireBody message.body = .ok ()) {next : PendingWireMessages}
    (hsame : (next.contents ++ wantedContents F requested rest).eraseDups =
      (self.contents ++ wantedContents F requested (content :: rest)).eraseDups) :
    Takes F requested self (content :: rest) ↔ Takes F requested next rest := by
  constructor
  · intro htakes
    refine ⟨fun c hc => htakes.valid c (List.mem_cons_of_mem _ hc), ?_⟩
    rw [hsame]
    exact htakes.room
  · intro htakes
    refine ⟨?_, ?_⟩
    · intro c hc m hm
      rcases List.mem_cons.mp hc with rfl | hc
      · rw [h] at hm
        obtain rfl := Option.some.inj hm
        exact hvalid
      · exact htakes.valid c hc m hm
    · rw [← hsame]
      exact htakes.room

/-- There is no room for a new content when the list is full. -/
theorem not_takes_cons_of_full {message : WireMessage}
    (h : wantedMessage? F requested content = some message) (hseen : content ∉ self.seen)
    (hfull : self.contents.length ≥ maxPendingWireMessages) :
    ¬ Takes F requested self (content :: rest) := by
  intro htakes
  have hnot : content ∉ self.contents := fun hc => hseen ((self.mem_seen _).mpr hc)
  have hnodup : (self.contents ++ [content]).Nodup :=
    self.nodup.append (List.nodup_singleton _) (by simpa using hnot)
  have hlength := length_le_eraseDups_append hnodup (wantedContents F requested rest)
  have hroom := htakes.room
  rw [wantedContents_cons_of_some h] at hroom
  rw [List.append_assoc, List.singleton_append, List.length_append, List.length_singleton]
    at hlength
  omega

end

/-- `observe` succeeds exactly on the contents that it takes, and then it holds the
wanted ones, each of them once. -/
theorem observe_cases (F : Formats) (requested : Option String) (contents : List String)
    (self : PendingWireMessages) :
    (Takes F requested self contents ∧ ∃ next, observe F requested contents self = (.ok (), next) ∧
        next.contents = (self.contents ++ wantedContents F requested contents).eraseDups) ∨
      (¬ Takes F requested self contents ∧ (observe F requested contents self).1 ≠ .ok ()) := by
  unfold observe
  induction contents generalizing self with
  | nil =>
    have hself : (self.contents ++ wantedContents F requested []).eraseDups = self.contents := by
      rw [wantedContents, List.filter_nil, List.append_nil, eraseDups_of_nodup self.nodup]
    refine Or.inl ⟨⟨by simp, ?_⟩, self, rfl, hself.symm⟩
    rw [hself]
    exact self.bounded
  | cons content rest ih =>
    rw [Mutating.forM_cons_apply]
    cases hwanted : wantedMessage? F requested content with
    | none =>
      rw [observeOne_of_none hwanted, takes_cons_of_none hwanted,
        wantedContents_cons_of_none hwanted rest]
      exact ih self
    | some message =>
      by_cases hvalid : validateWireBody message.body = .ok ()
      · rw [observeOne_of_valid hwanted hvalid]
        have hcons := wantedContents_cons_of_some hwanted rest
        by_cases hseen : content ∈ self.seen
        · have hsame := eraseDups_append_cons_of_mem ((self.mem_seen content).mp hseen)
            (wantedContents F requested rest)
          rw [← hcons] at hsame
          rw [dif_pos hseen, takes_cons_of_valid hwanted hvalid hsame.symm, hsame]
          exact ih self
        · by_cases hfull : self.contents.length ≥ maxPendingWireMessages
          · rw [dif_neg hseen, dif_pos hfull]
            exact Or.inr ⟨not_takes_cons_of_full hwanted hseen hfull, by simp⟩
          · have hsame : ((self.push content hseen hfull).contents ++
                wantedContents F requested rest).eraseDups =
                (self.contents ++ wantedContents F requested (content :: rest)).eraseDups := by
              rw [hcons, push, List.append_assoc, List.singleton_append]
            rw [dif_neg hseen, dif_neg hfull, takes_cons_of_valid hwanted hvalid hsame, ← hsame]
            exact ih (self.push content hseen hfull)
      · rw [observeOne_of_invalid hwanted hvalid]
        refine Or.inr ⟨fun h => hvalid (h.valid content List.mem_cons_self message hwanted), ?_⟩
        cases hbody : validateWireBody message.body with
        | ok u => exact absurd hbody hvalid
        | err e => simp
        | panic => simp

/-- `observe` panics exactly when it gets through some contents and meets a body
whose check panics in the next one. -/
theorem observe_eq_panic_iff (F : Formats) (requested : Option String) (contents : List String)
    (self : PendingWireMessages) :
    (observe F requested contents self).1 = .panic ↔
      ∃ before content after message, contents = before ++ content :: after ∧
        Takes F requested self before ∧ wantedMessage? F requested content = some message ∧
        validateWireBody message.body = .panic := by
  rw [observe, Mutating.forM_eq_panic_iff]
  simp only [observeOne_eq_panic_iff]
  constructor
  · rintro ⟨before, content, after, self', hsplit, hbefore, message, hwanted, hpanic⟩
    rcases observe_cases F requested before self with ⟨htakes, -⟩ | ⟨-, hnot⟩
    · exact ⟨before, content, after, message, hsplit, htakes, hwanted, hpanic⟩
    · exact absurd (congrArg Prod.fst hbefore) hnot
  · rintro ⟨before, content, after, message, hsplit, htakes, hwanted, hpanic⟩
    rcases observe_cases F requested before self with ⟨-, self', hbefore, -⟩ | ⟨hnot, -⟩
    · exact ⟨before, content, after, self', hsplit, hbefore, message, hwanted, hpanic⟩
    · exact absurd htakes hnot

end PendingWireMessages

end TokenStudio
