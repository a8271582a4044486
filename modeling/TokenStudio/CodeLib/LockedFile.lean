import Mathlib.Algebra.GroupWithZero.Nat
import Mathlib.Data.List.Nodup
import Mathlib.Logic.Relation
import TokenStudio.CodeLib.Run

/-!
# Processes that change a file under a lock

Every process does the same: it takes a lock, reads the file, computes a new
content, writes it to a temporary file of its own, renames that file over the
shared one, and reports its result.  It can stop after each of these steps, be it
at its end, with an error or in a crash, and the lock is free again when it has
stopped.  A process that has renamed its file may give the lock back before or
after its report.

The computation is `plan input content`, and the same computation without files
and without other processes is `Mutating.commit (plan input)`.  `Serial` ties the
two together.  It keeps the list of the processes that have renamed their files,
with the results that they computed, and says that the file is what these
processes would leave behind if they had run one after the other.  The list only
grows (`Serial.steps`).

What holds of every serial run therefore holds of every interleaving.
`Serial.establishes` follows what a process has established to the end,
`Serial.pairwise` compares two processes, `Serial.measure` counts and `Serial.keeps`
follows a property of the file.
-/

namespace TokenStudio

namespace LockedFile

variable {π ι σ ε α : Type}

/-- How far a process has come. -/
inductive Phase (σ α : Type) where
  | ready
  | locked
  | loaded (content : σ)
  | applied (value : α) (next : σ)
  | written (value : α)
  | renamed (value : α)
  | reported (value : α)
  | exited

/-- The shared file, the lock and the processes. -/
structure World (π σ α : Type) where
  file : σ
  lock : Option π
  temporary : π → Option σ
  phase : π → Phase σ α
  reports : List (π × α)

/-- No process has begun. -/
structure World.Fresh (w : World π σ α) : Prop where
  lock : w.lock = none
  phase : ∀ p, w.phase p = .ready
  reports : w.reports = []

section

variable [DecidableEq π] (plan : ι → σ → Outcome ε (α × σ)) (input : π → ι)

/-- One step of one process. -/
inductive Step : World π σ α → World π σ α → Prop where
  | acquire {w : World π σ α} {p : π} (hphase : w.phase p = .ready) (hfree : w.lock = none) :
    Step w { w with
      lock := some p
      phase := Function.update w.phase p .locked }
  | load {w : World π σ α} {p : π} (hphase : w.phase p = .locked) :
    Step w { w with phase := Function.update w.phase p (.loaded w.file) }
  | apply {w : World π σ α} {p : π} {content next : σ} {value : α}
      (hphase : w.phase p = .loaded content) (hplan : plan (input p) content = .ok (value, next)) :
    Step w { w with phase := Function.update w.phase p (.applied value next) }
  | write {w : World π σ α} {p : π} {next : σ} {value : α}
      (hphase : w.phase p = .applied value next) :
    Step w { w with
      temporary := Function.update w.temporary p (some next)
      phase := Function.update w.phase p (.written value) }
  | rename {w : World π σ α} {p : π} {next : σ} {value : α}
      (hphase : w.phase p = .written value) (htemporary : w.temporary p = some next) :
    Step w { w with
      file := next
      temporary := Function.update w.temporary p none
      phase := Function.update w.phase p (.renamed value) }
  | report {w : World π σ α} {p : π} {value : α} (hphase : w.phase p = .renamed value) :
    Step w { w with
      reports := w.reports ++ [(p, value)]
      phase := Function.update w.phase p (.reported value) }
  /-- The lock is given back by a process that does not need it any more. -/
  | release {w : World π σ α} {p : π} {value : α}
      (hphase : w.phase p = .renamed value ∨ w.phase p = .reported value)
      (hlock : w.lock = some p) :
    Step w { w with lock := none }
  /-- A process can stop anywhere, and its lock goes with it. -/
  | exit {w : World π σ α} (p : π) :
    Step w { w with
      lock := if w.lock = some p then none else w.lock
      phase := Function.update w.phase p .exited }

/-- Any number of steps of any processes. -/
abbrev Steps : World π σ α → World π σ α → Prop := Relation.ReflTransGen (Step plan input)

end

/-! ## The serial run behind an interleaving -/

/-- The same computation without other processes. -/
def serial (plan : ι → σ → Outcome ε (α × σ)) (i : ι) : Mutating σ ε α :=
  Mutating.commit (plan i)

theorem serial_of_plan {plan : ι → σ → Outcome ε (α × σ)} {i : ι} {s s' : σ} {a : α}
    (h : plan i s = .ok (a, s')) : serial plan i s = (.ok a, s') := by
  unfold serial Mutating.commit
  rw [h]

/-- A call takes the step of its plan, or it fails and keeps the file. -/
theorem serial_cases (plan : ι → σ → Outcome ε (α × σ)) (i : ι) (s : σ) :
    (∃ a s', plan i s = .ok (a, s') ∧ serial plan i s = (.ok a, s')) ∨
      ((∀ a, (serial plan i s).1 ≠ .ok a) ∧ (serial plan i s).2 = s) := by
  rcases Mutating.commit_cases (plan i) s with haccepted | ⟨hfail, hsame⟩
  · exact Or.inl haccepted
  · refine Or.inr ⟨?_, hsame⟩
    intro a ha
    rw [serial] at ha
    rw [ha] at hfail
    cases hfail

section

variable (plan : ι → σ → Outcome ε (α × σ)) (input : π → ι)

/-- What the phase of a process says about the world, given the list of the processes
that have renamed their files. -/
def Sound (w : World π σ α) (log : List (π × α)) (p : π) : Phase σ α → Prop
  | .ready => p ∉ log.map Prod.fst
  | .locked => p ∉ log.map Prod.fst ∧ w.lock = some p
  | .loaded content => p ∉ log.map Prod.fst ∧ w.lock = some p ∧ content = w.file
  | .applied value next =>
    p ∉ log.map Prod.fst ∧ w.lock = some p ∧ plan (input p) w.file = .ok (value, next)
  | .written value =>
    p ∉ log.map Prod.fst ∧ w.lock = some p ∧ ∃ next, w.temporary p = some next ∧
      plan (input p) w.file = .ok (value, next)
  | .renamed value => (p, value) ∈ log ∧ p ∉ w.reports.map Prod.fst
  | .reported value => (p, value) ∈ log
  | .exited => True

/-- A world and the processes that have renamed their files, in this order. -/
structure Serial (start : σ) (w : World π σ α) (log : List (π × α)) : Prop where
  nodup : (log.map Prod.fst).Nodup
  /-- The file is what these processes leave behind one after the other. -/
  file : w.file = Mutating.final (serial plan) (log.map fun e => input e.1) start
  /-- Each of them computes the result it had. -/
  calls : (Mutating.run (serial plan) (log.map fun e => input e.1) start).map
      (fun c => (c.input, c.result)) = log.map fun e => (input e.1, .ok e.2)
  sound : ∀ p, Sound plan input w log p (w.phase p)
  /-- A report is the result of one of them. -/
  reported : ∀ e ∈ w.reports, e ∈ log
  reports_nodup : (w.reports.map Prod.fst).Nodup

end

section

variable {plan : ι → σ → Outcome ε (α × σ)} {input : π → ι} {start : σ}
  {w w' : World π σ α} {log : List (π × α)}

theorem Serial.fresh (h : w.Fresh) (hfile : w.file = start) :
    Serial plan input start w [] where
  nodup := List.nodup_nil
  file := hfile
  calls := rfl
  sound p := by
    rw [h.phase p]
    exact List.not_mem_nil
  reported := by simp [h.reports]
  reports_nodup := by simp [h.reports]

/-- A process of the list has begun. -/
theorem Serial.started (h : Serial plan input start w log) {e : π × α} (he : e ∈ log) :
    w.phase e.1 ≠ .ready := by
  intro hphase
  have hsound := h.sound e.1
  rw [hphase] at hsound
  exact hsound (List.mem_map_of_mem he)

/-- The steps of other processes keep what a phase says, as long as they keep
what the holder of the lock relies on. -/
theorem Sound.frame {log' : List (π × α)} {p : π} {phase : Phase σ α}
    (h : Sound plan input w log p phase)
    (hlocked : w.lock = some p →
      w'.lock = some p ∧ w'.file = w.file ∧ w'.temporary p = w.temporary p)
    (hlog : ∀ value, (p, value) ∈ log' ↔ (p, value) ∈ log)
    (hreports : p ∈ w'.reports.map Prod.fst ↔ p ∈ w.reports.map Prod.fst) :
    Sound plan input w' log' p phase := by
  have hlogged : p ∈ log'.map Prod.fst ↔ p ∈ log.map Prod.fst := by
    simp only [List.mem_map, Prod.exists, exists_and_right, exists_eq_right, hlog]
  cases phase with
  | ready =>
    show p ∉ _
    rw [hlogged]
    exact h
  | locked =>
    obtain ⟨hnot, hlock⟩ := h
    exact ⟨by rwa [hlogged], (hlocked hlock).1⟩
  | loaded content =>
    obtain ⟨hnot, hlock, hcontent⟩ := h
    obtain ⟨hlock', hfile, -⟩ := hlocked hlock
    exact ⟨by rwa [hlogged], hlock', by rw [hcontent, hfile]⟩
  | applied value next =>
    obtain ⟨hnot, hlock, hplan⟩ := h
    obtain ⟨hlock', hfile, -⟩ := hlocked hlock
    exact ⟨by rwa [hlogged], hlock', by rwa [hfile]⟩
  | written value =>
    obtain ⟨hnot, hlock, next, htemporary, hplan⟩ := h
    obtain ⟨hlock', hfile, hsame⟩ := hlocked hlock
    exact ⟨by rwa [hlogged], hlock', next, by rwa [hsame], by rwa [hfile]⟩
  | renamed value => exact ⟨(hlog value).mpr h.1, by rw [hreports]; exact h.2⟩
  | reported value => exact (hlog value).mpr h
  | exited => trivial

/-- The plan of the next process extends the serial run. -/
theorem Serial.calls_append (h : Serial plan input start w log) {p : π} {value : α} {next : σ}
    (hplan : plan (input p) w.file = .ok (value, next)) :
    next = Mutating.final (serial plan) ((log ++ [(p, value)]).map fun e => input e.1) start ∧
      (Mutating.run (serial plan) ((log ++ [(p, value)]).map fun e => input e.1) start).map
        (fun c => (c.input, c.result)) =
        (log ++ [(p, value)]).map fun e => (input e.1, .ok e.2) := by
  rw [h.file] at hplan
  have hserial := serial_of_plan hplan
  simp only [List.map_append, List.map_cons, List.map_nil]
  rw [Mutating.final_append, Mutating.run_append, List.map_append, h.calls]
  simp only [Mutating.final, Mutating.run, Mutating.call, hserial, List.map_cons, List.map_nil]
  exact ⟨trivial, trivial⟩

variable [DecidableEq π]

/-- A step that changes neither the file nor the reports keeps the list. -/
theorem Serial.quiet (h : Serial plan input start w log) {p : π} {phase : Phase σ α}
    (hfile : w'.file = w.file) (hreports : w'.reports = w.reports)
    (hphase : w'.phase = Function.update w.phase p phase)
    (hother : ∀ q, q ≠ p → w.lock = some q →
      w'.lock = some q ∧ w'.temporary q = w.temporary q)
    (hp : Sound plan input w' log p phase) : Serial plan input start w' log where
  nodup := h.nodup
  file := hfile.trans h.file
  calls := h.calls
  sound q := by
    by_cases hq : q = p
    · rw [hphase, hq, Function.update_self]
      exact hp
    · rw [hphase, Function.update_of_ne hq]
      refine (h.sound q).frame ?_ (fun _ => Iff.rfl) (by rw [hreports])
      intro hlock
      obtain ⟨hlock', htemporary⟩ := hother q hq hlock
      exact ⟨hlock', hfile, htemporary⟩
  reported := by rw [hreports]; exact h.reported
  reports_nodup := by rw [hreports]; exact h.reports_nodup

/-- A rename puts the process at the end of the list. -/
theorem Serial.rename (h : Serial plan input start w log) {p : π} {next : σ} {value : α}
    (hphase : w.phase p = .written value) (htemporary : w.temporary p = some next) :
    Serial plan input start
      { w with
        file := next
        temporary := Function.update w.temporary p none
        phase := Function.update w.phase p (.renamed value) }
      (log ++ [(p, value)]) := by
  have hsound := h.sound p
  rw [hphase] at hsound
  obtain ⟨hnot, hlock, next', hnext', hplan⟩ := hsound
  rw [htemporary] at hnext'
  obtain rfl : next = next' := Option.some.inj hnext'
  obtain ⟨hfile, hcalls⟩ := h.calls_append hplan
  have hunreported : p ∉ w.reports.map Prod.fst := by
    intro hmem
    obtain ⟨e, he, hep⟩ := List.mem_map.mp hmem
    exact hnot (List.mem_map.mpr ⟨e, h.reported e he, hep⟩)
  refine
    { nodup := ?_
      file := hfile
      calls := hcalls
      sound := ?_
      reported := fun e he => List.mem_append_left _ (h.reported e he)
      reports_nodup := h.reports_nodup }
  · rw [List.map_append]
    exact h.nodup.append (List.nodup_singleton _) (by simpa using hnot)
  · intro q
    by_cases hq : q = p
    · subst hq
      show Sound plan input _ _ q (Function.update w.phase q (.renamed value) q)
      rw [Function.update_self]
      exact ⟨List.mem_append_right _ (List.mem_singleton_self _), hunreported⟩
    · show Sound plan input _ _ q (Function.update w.phase p (.renamed value) q)
      rw [Function.update_of_ne hq]
      refine (h.sound q).frame ?_ ?_ Iff.rfl
      · -- the lock is with the process that renames
        intro hlock'
        rw [hlock] at hlock'
        exact absurd (Option.some.inj hlock').symm hq
      · intro value'
        simp [hq]

/-- A report names a process of the list. -/
theorem Serial.report (h : Serial plan input start w log) {p : π} {value : α}
    (hphase : w.phase p = .renamed value) :
    Serial plan input start
      { w with
        reports := w.reports ++ [(p, value)]
        phase := Function.update w.phase p (.reported value) } log := by
  have hsound := h.sound p
  rw [hphase] at hsound
  obtain ⟨hmem, hunreported⟩ := hsound
  refine
    { nodup := h.nodup
      file := h.file
      calls := h.calls
      sound := ?_
      reported := ?_
      reports_nodup := ?_ }
  · intro q
    by_cases hq : q = p
    · subst hq
      show Sound plan input _ _ q (Function.update w.phase q (.reported value) q)
      rw [Function.update_self]
      exact hmem
    · show Sound plan input _ _ q (Function.update w.phase p (.reported value) q)
      rw [Function.update_of_ne hq]
      refine (h.sound q).frame (fun hlock => ⟨hlock, rfl, rfl⟩) (fun _ => Iff.rfl) ?_
      simp [hq]
  · intro e he
    rcases List.mem_append.mp he with he | he
    · exact h.reported e he
    · rw [List.mem_singleton.mp he]
      exact hmem
  · rw [List.map_append]
    exact h.reports_nodup.append (List.nodup_singleton _) (by simpa using hunreported)

/-- One step of any process keeps the list or puts one process at its end. -/
theorem Serial.step (h : Serial plan input start w log) (hstep : Step plan input w w') :
    Serial plan input start w' log ∨ ∃ e, Serial plan input start w' (log ++ [e]) := by
  cases hstep with
  | @acquire p hphase hfree =>
    left
    have hsound := h.sound p
    rw [hphase] at hsound
    refine h.quiet rfl rfl rfl ?_ ⟨hsound, rfl⟩
    intro q _ hlock
    rw [hfree] at hlock
    cases hlock
  | @load p hphase =>
    left
    have hsound := h.sound p
    rw [hphase] at hsound
    exact h.quiet rfl rfl rfl (fun _ _ hlock => ⟨hlock, rfl⟩) ⟨hsound.1, hsound.2, rfl⟩
  | @apply p content next value hphase hplan =>
    left
    have hsound := h.sound p
    rw [hphase] at hsound
    obtain ⟨hnot, hlock, rfl⟩ := hsound
    exact h.quiet rfl rfl rfl (fun _ _ hlock => ⟨hlock, rfl⟩) ⟨hnot, hlock, hplan⟩
  | @write p next value hphase =>
    left
    have hsound := h.sound p
    rw [hphase] at hsound
    obtain ⟨hnot, hlock, hplan⟩ := hsound
    refine h.quiet rfl rfl rfl ?_ ⟨hnot, hlock, next, Function.update_self _ _ _, hplan⟩
    intro q hq hlock'
    exact ⟨hlock', Function.update_of_ne hq _ _⟩
  | @rename p next value hphase htemporary => exact Or.inr ⟨_, h.rename hphase htemporary⟩
  | @report p value hphase => exact Or.inl (h.report hphase)
  | @release p value hphase hlock =>
    left
    have hsound := h.sound p
    refine h.quiet rfl rfl
      (Function.update_eq_self p w.phase).symm ?_ ?_
    · intro q hq hlock'
      rw [hlock] at hlock'
      exact absurd (Option.some.inj hlock').symm hq
    · -- neither of the two phases needs the lock
      rcases hphase with hphase | hphase <;> rw [hphase] at hsound ⊢ <;> exact hsound
  | exit p =>
    left
    refine h.quiet rfl rfl rfl ?_ trivial
    intro q hq hlock
    refine ⟨?_, rfl⟩
    show (if w.lock = some p then none else w.lock) = some q
    rw [if_neg, hlock]
    rw [hlock]
    exact fun heq => hq (Option.some.inj heq)

/-- Any number of steps of any processes keep the list or make it longer. -/
theorem Serial.steps (h : Serial plan input start w log) (hsteps : Steps plan input w w') :
    ∃ more, Serial plan input start w' (log ++ more) := by
  induction hsteps with
  | refl => exact ⟨[], by rwa [List.append_nil]⟩
  | tail _ hstep ih =>
    obtain ⟨more, hserial⟩ := ih
    rcases hserial.step hstep with hserial | ⟨e, hserial⟩
    · exact ⟨more, hserial⟩
    · exact ⟨more ++ [e], by rwa [← List.append_assoc]⟩

end

/-! ## From serial runs to interleavings -/

section

variable {plan : ι → σ → Outcome ε (α × σ)} {input : π → ι} {start : σ}
  {w w' : World π σ α} {log : List (π × α)}

/-- The file is what some of the processes that have begun leave behind one after the
other, and every process that has reported is among them. -/
structure Serialized (plan : ι → σ → Outcome ε (α × σ)) (input : π → ι) (start : σ)
    (w : World π σ α) (log : List (π × α)) : Prop where
  nodup : (log.map Prod.fst).Nodup
  started : ∀ e ∈ log, w.phase e.1 ≠ .ready
  reported : ∀ e ∈ w.reports, e ∈ log
  results : (Mutating.run (serial plan) (log.map fun e => input e.1) start).map Call.result =
    log.map fun e => .ok e.2
  file : w.file = Mutating.final (serial plan) (log.map fun e => input e.1) start

theorem Serial.serialized (h : Serial plan input start w log) :
    Serialized plan input start w log where
  nodup := h.nodup
  started _ he := h.started he
  reported := h.reported
  results := by
    have hresults := congrArg (List.map Prod.snd) h.calls
    rw [List.map_map, List.map_map] at hresults
    exact hresults
  file := h.file

/-- Every process of the list has its call in the serial run. -/
theorem Serial.exists_call (h : Serial plan input start w log) {e : π × α} (he : e ∈ log) :
    ∃ c ∈ Mutating.run (serial plan) (log.map fun e => input e.1) start,
      c.input = input e.1 ∧ c.result = .ok e.2 := by
  have hmem : (input e.1, .ok e.2) ∈ log.map fun e => (input e.1, (.ok e.2 : Outcome ε α)) :=
    List.mem_map_of_mem he
  rw [← h.calls, List.mem_map] at hmem
  obtain ⟨c, hc, heq⟩ := hmem
  exact ⟨c, hc, congrArg Prod.fst heq, congrArg Prod.snd heq⟩

/-- What an accepted call establishes and every later one keeps, in a serial run. -/
theorem serial_run_establishes {K : ι → α → σ → Prop}
    (hnew : ∀ i s a s', plan i s = .ok (a, s') → K i a s')
    (hkeep : ∀ i s a s' j b, plan i s = .ok (a, s') → K j b s → K j b s') (inputs : List ι)
    (start : σ) :
    ∀ c ∈ Mutating.run (serial plan) inputs start, ∀ a, c.result = .ok a →
      K c.input a (Mutating.final (serial plan) inputs start) := by
  refine Mutating.run_induction (serial plan)
    (motive := fun calls s => ∀ c ∈ calls, ∀ a, c.result = .ok a → K c.input a s) (by simp) ?_
    inputs
  intro calls s i ih c hc a ha
  rcases serial_cases plan i s with ⟨b, s', hplan, hserial⟩ | ⟨hfail, hsame⟩
  · rw [hserial]
    rcases List.mem_append.mp hc with hc | hc
    · exact hkeep i s b s' c.input a hplan (ih c hc a ha)
    · obtain rfl := List.mem_singleton.mp hc
      have hresult : (serial plan i s).1 = .ok a := ha
      rw [hserial] at hresult
      obtain rfl : b = a := Outcome.ok.inj hresult
      exact hnew i s b s' hplan
  · rw [hsame]
    rcases List.mem_append.mp hc with hc | hc
    · exact ih c hc a ha
    · obtain rfl := List.mem_singleton.mp hc
      exact absurd ha (hfail a)

/-- What a process of the list has established holds of the file. -/
theorem Serial.establishes (h : Serial plan input start w log) {K : ι → α → σ → Prop}
    (hnew : ∀ i s a s', plan i s = .ok (a, s') → K i a s')
    (hkeep : ∀ i s a s' j b, plan i s = .ok (a, s') → K j b s → K j b s') {e : π × α}
    (he : e ∈ log) : K (input e.1) e.2 w.file := by
  obtain ⟨c, hc, hinput, hresult⟩ := h.exists_call he
  have hK := serial_run_establishes hnew hkeep _ start c hc e.2 hresult
  rw [hinput, ← h.file] at hK
  exact hK

/-- A process of the list has passed what the processes before it have established. -/
theorem Serial.pairwise (h : Serial plan input start w log) {K : ι → α → σ → Prop}
    {R : ι → α → ι → α → Prop} (hnew : ∀ i s a s', plan i s = .ok (a, s') → K i a s')
    (hkeep : ∀ i s a s' j b, plan i s = .ok (a, s') → K j b s → K j b s')
    (hnext : ∀ i s a s' j b, plan i s = .ok (a, s') → K j b s → R j b i a) :
    log.Pairwise fun e e' => R (input e.1) e.2 (input e'.1) e'.2 := by
  have hcalls : (Mutating.run (serial plan) (log.map fun e => input e.1) start).Pairwise
      fun c c' => ∀ a a', c.result = .ok a → c'.result = .ok a' → R c.input a c'.input a' := by
    refine Mutating.run_pairwise (serial plan) ?_
    intro pre i post _ c hc a a' ha ha'
    have hK := serial_run_establishes hnew hkeep pre start c hc a ha
    rcases serial_cases plan i (Mutating.final (serial plan) pre start) with
      ⟨b, s', hplan, hserial⟩ | ⟨hfail, -⟩
    · have hresult : (serial plan i (Mutating.final (serial plan) pre start)).1 = .ok a' := ha'
      rw [hserial] at hresult
      obtain rfl : b = a' := Outcome.ok.inj hresult
      exact hnext i _ b s' c.input a hplan hK
    · exact absurd ha' (hfail a')
  have hpairs : ((Mutating.run (serial plan) (log.map fun e => input e.1) start).map
      fun c => (c.input, c.result)).Pairwise fun x x' =>
        ∀ a a', x.2 = .ok a → x'.2 = .ok a' → R x.1 a x'.1 a' := by
    rw [List.pairwise_map]
    exact hcalls
  rw [h.calls, List.pairwise_map] at hpairs
  exact hpairs.imp fun hR => hR _ _ rfl rfl

/-- A measure that every accepted call raises by the weight of its result. -/
theorem Serial.measure (h : Serial plan input start w log) {f : σ → Nat} {weight : α → Nat}
    (hstep : ∀ i s a s', plan i s = .ok (a, s') → f s' = f s + weight a) :
    f w.file = f start + (log.map fun e => weight e.2).sum := by
  have hrun : ∀ inputs, f (Mutating.final (serial plan) inputs start) = f start +
      ((Mutating.run (serial plan) inputs start).map fun c =>
        (c.result.toOption.map weight).getD 0).sum := by
    refine Mutating.run_induction (serial plan)
      (motive := fun calls s => f s = f start +
        (calls.map fun c => (c.result.toOption.map weight).getD 0).sum) rfl ?_
    intro calls s i ih
    rw [List.map_append, List.sum_append, ← Nat.add_assoc, ← ih]
    rcases serial_cases plan i s with ⟨a, s', hplan, hserial⟩ | ⟨hfail, hsame⟩
    · simp [Mutating.call, hserial, hstep i s a s' hplan, Outcome.toOption]
    · cases hresult : (serial plan i s).1 with
      | ok a => exact absurd hresult (hfail a)
      | err e => simp [Mutating.call, hresult, hsame, Outcome.toOption]
      | panic => simp [Mutating.call, hresult, hsame, Outcome.toOption]
  have hresults := congrArg (List.map fun result : Outcome ε α =>
    (result.toOption.map weight).getD 0) h.serialized.results
  rw [List.map_map, List.map_map] at hresults
  rw [h.file, hrun]
  exact congrArg (fun weights => f start + weights.sum) hresults

/-- A property that every accepted call keeps is kept by the file. -/
theorem Serial.keeps [DecidableEq π] (h : Serial plan input start w log)
    (hsteps : Steps plan input w w') {motive : σ → Prop}
    (hplan : ∀ i s a s', plan i s = .ok (a, s') → motive s → motive s')
    (hw : motive w.file) : motive w'.file := by
  obtain ⟨more, h'⟩ := h.steps hsteps
  have hfile : w'.file =
      Mutating.final (serial plan) (more.map fun e => input e.1) w.file := by
    rw [h'.file, List.map_append, Mutating.final_append, ← h.file]
  rw [hfile]
  refine Mutating.run_induction (serial plan) (motive := fun _ s => motive s) hw ?_ _
  intro _ s i hs
  rcases serial_cases plan i s with ⟨a, s', hok, hserial⟩ | ⟨-, hsame⟩
  · rw [hserial]
    exact hplan i s a s' hok hs
  · rw [hsame]
    exact hs

end

/-! ## A process that runs to its end -/

/-- A process that nobody disturbs takes the file to the content it computes, reports and
stops. -/
theorem exists_steps_of_plan [DecidableEq π] {plan : ι → σ → Outcome ε (α × σ)} (input : π → ι)
    {w : World π σ α} {p : π} {value : α} {next : σ} (hlock : w.lock = none)
    (hphase : w.phase p = .ready) (hplan : plan (input p) w.file = .ok (value, next)) :
    ∃ w', Steps plan input w w' ∧ w'.lock = none ∧ w'.file = next ∧
      w'.reports = w.reports ++ [(p, value)] ∧ ∀ q, q ≠ p → w'.phase q = w.phase q := by
  have hlocked : Steps plan input w _ := .single (.acquire hphase hlock)
  have hloaded := hlocked.tail (.load (p := p) (Function.update_self _ _ _))
  have happlied := hloaded.tail (.apply (p := p) (Function.update_self _ _ _) hplan)
  have hwritten := happlied.tail (.write (p := p) (Function.update_self _ _ _))
  have hrenamed := hwritten.tail
    (.rename (p := p) (Function.update_self _ _ _) (Function.update_self _ _ _))
  have hreported := hrenamed.tail (.report (p := p) (Function.update_self _ _ _))
  refine ⟨_, hreported.tail (.exit p), if_pos rfl, rfl, rfl, ?_⟩
  intro q hq
  simp only [Function.update_of_ne hq]

end LockedFile

end TokenStudio
