import TokenStudio.CodeLib.LockedFile
import TokenStudio.CodeLib.Codec

/-!
# Replacing a file byte by byte

`LockedFile` takes the writing of a temporary file as one step and its content as a value.
On a disk a document is a string of bytes, and a process writes it piece by piece.  It
can stop between any two pieces, and a part of the document stays behind in the temporary
file, where a later process with the same name for its temporary file finds it.

`Disk` has this grain.  `Refines` relates it to the world of `LockedFile`, and
`Refines.step` is the simulation: a piece that is not the last one is no step of the
world, the last piece is its `write`, and the other steps correspond one to one.  What
`LockedFile` says of every interleaving therefore holds of the disk (`Refines.steps`).

No two processes write at the same time, since the lock is held while a temporary file
is written.  So the names of the temporary files need not be different, they only
must not be that of the shared file.
-/

namespace TokenStudio

namespace AtomicReplace

variable {π ρ ι σ ε α : Type}

/-- How the content of a file is read from bytes and written as bytes. -/
structure Document (σ : Type) where
  read : Option Bytes → σ
  write : σ → Bytes

/-- How far a process has come.  While it writes, `rest` is what is left of its document. -/
inductive Phase (σ α : Type) where
  | ready
  | locked
  | loaded (content : σ)
  | planned (value : α) (next : σ)
  | writing (value : α) (next : σ) (rest : Bytes)
  | renamed (value : α)
  | reported (value : α)
  | exited

/-- The files, the lock and the processes. -/
structure Disk (π ρ σ α : Type) where
  files : ρ → Option Bytes
  lock : Option π
  phase : π → Phase σ α
  reports : List (π × α)

/-- No process has begun.  Any files may be there. -/
structure Disk.Fresh (d : Disk π ρ σ α) : Prop where
  lock : d.lock = none
  phase : ∀ p, d.phase p = .ready
  reports : d.reports = []

section

variable [DecidableEq π] [DecidableEq ρ] (plan : ι → σ → Outcome ε (α × σ)) (input : π → ι)
  (document : Document σ) (target : ρ) (temporary : π → ρ)

/-- One step of one process. -/
inductive Step : Disk π ρ σ α → Disk π ρ σ α → Prop where
  | acquire {d : Disk π ρ σ α} {p : π} (hphase : d.phase p = .ready) (hfree : d.lock = none) :
    Step d { d with
      lock := some p
      phase := Function.update d.phase p .locked }
  | load {d : Disk π ρ σ α} {p : π} (hphase : d.phase p = .locked) :
    Step d { d with
      phase := Function.update d.phase p (.loaded (document.read (d.files target))) }
  | apply {d : Disk π ρ σ α} {p : π} {content next : σ} {value : α}
      (hphase : d.phase p = .loaded content) (hplan : plan (input p) content = .ok (value, next)) :
    Step d { d with phase := Function.update d.phase p (.planned value next) }
  /-- The temporary file is created, or a file that stands there is cut to nothing. -/
  | create {d : Disk π ρ σ α} {p : π} {next : σ} {value : α}
      (hphase : d.phase p = .planned value next) :
    Step d { d with
      files := Function.update d.files (temporary p) (some [])
      phase := Function.update d.phase p (.writing value next (document.write next)) }
  | append {d : Disk π ρ σ α} {p : π} {next : σ} {value : α} {written chunk rest : Bytes}
      (hphase : d.phase p = .writing value next (chunk ++ rest)) (hchunk : chunk ≠ [])
      (hfile : d.files (temporary p) = some written) :
    Step d { d with
      files := Function.update d.files (temporary p) (some (written ++ chunk))
      phase := Function.update d.phase p (.writing value next rest) }
  | rename {d : Disk π ρ σ α} {p : π} {next : σ} {value : α} {written : Bytes}
      (hphase : d.phase p = .writing value next [])
      (hfile : d.files (temporary p) = some written) :
    Step d { d with
      files := Function.update (Function.update d.files (temporary p) none) target (some written)
      phase := Function.update d.phase p (.renamed value) }
  | report {d : Disk π ρ σ α} {p : π} {value : α} (hphase : d.phase p = .renamed value) :
    Step d { d with
      reports := d.reports ++ [(p, value)]
      phase := Function.update d.phase p (.reported value) }
  | release {d : Disk π ρ σ α} {p : π} {value : α}
      (hphase : d.phase p = .renamed value ∨ d.phase p = .reported value)
      (hlock : d.lock = some p) :
    Step d { d with lock := none }
  /-- A process can stop anywhere, and its lock goes with it.  The files stay. -/
  | exit {d : Disk π ρ σ α} (p : π) :
    Step d { d with
      lock := if d.lock = some p then none else d.lock
      phase := Function.update d.phase p .exited }

/-- Any number of steps of any processes. -/
abbrev Steps : Disk π ρ σ α → Disk π ρ σ α → Prop :=
  Relation.ReflTransGen (Step plan input document target temporary)

end

/-! ## The world of a disk -/

/-- The phase of a process in the world: it has written when nothing is left. -/
def Phase.abstract : Phase σ α → LockedFile.Phase σ α
  | .ready => .ready
  | .locked => .locked
  | .loaded content => .loaded content
  | .planned value next => .applied value next
  | .writing value next rest => if rest = [] then .written value else .applied value next
  | .renamed value => .renamed value
  | .reported value => .reported value
  | .exited => .exited

/-- Whether a process is between taking the lock and renaming its file. -/
def Phase.Busy : Phase σ α → Prop
  | .locked => True
  | .loaded _ => True
  | .planned _ _ => True
  | .writing _ _ _ => True
  | _ => False

/-- A content that some process can compute. -/
def Planned (plan : ι → σ → Outcome ε (α × σ)) (next : σ) : Prop :=
  ∃ i content value, plan i content = .ok (value, next)

/-- What is known of a process that writes. -/
structure Writes (plan : ι → σ → Outcome ε (α × σ)) (document : Document σ) (temporary : π → ρ)
    (d : Disk π ρ σ α) (w : LockedFile.World π σ α) (p : π) (next : σ) (rest : Bytes) :
    Prop where
  planned : Planned plan next
  file : ∃ written, d.files (temporary p) = some written ∧ written ++ rest = document.write next
  whole : rest = [] → w.temporary p = some next

/-- What the phase of a process says about the disk and the world. -/
def Agrees (plan : ι → σ → Outcome ε (α × σ)) (document : Document σ) (temporary : π → ρ)
    (d : Disk π ρ σ α) (w : LockedFile.World π σ α) (p : π) : Phase σ α → Prop
  | .planned _ next => Planned plan next
  | .writing _ next rest => Writes plan document temporary d w p next rest
  | _ => True

/-- A disk and its world, in a run that has begun with the bytes `start` in the shared
file.  The bytes of the shared file are those of the start, or a whole document. -/
structure Refines (plan : ι → σ → Outcome ε (α × σ)) (document : Document σ) (target : ρ)
    (temporary : π → ρ) (start : Option Bytes) (d : Disk π ρ σ α)
    (w : LockedFile.World π σ α) : Prop where
  file : w.file = document.read (d.files target)
  lock : w.lock = d.lock
  phase : ∀ p, w.phase p = (d.phase p).abstract
  reports : w.reports = d.reports
  busy : ∀ p, (d.phase p).Busy → d.lock = some p
  agrees : ∀ p, Agrees plan document temporary d w p (d.phase p)
  whole : d.files target = start ∨
    ∃ next, Planned plan next ∧ d.files target = some (document.write next)

section

variable {plan : ι → σ → Outcome ε (α × σ)} {input : π → ι} {document : Document σ}
  {target : ρ} {temporary : π → ρ} {start : Option Bytes}
  {d d' : Disk π ρ σ α} {w w' : LockedFile.World π σ α}

theorem Refines.fresh (h : d.Fresh) :
    Refines plan document target temporary (d.files target) d
      { file := document.read (d.files target)
        lock := none
        temporary := fun _ => none
        phase := fun _ => .ready
        reports := [] } where
  file := rfl
  lock := h.lock.symm
  phase p := by
    rw [h.phase p]
    rfl
  reports := h.reports.symm
  busy p hbusy := by
    rw [h.phase p] at hbusy
    exact hbusy.elim
  agrees p := by
    rw [h.phase p]
    trivial
  whole := Or.inl rfl

/-- No other process is busy. -/
theorem Refines.not_busy (h : Refines plan document target temporary start d w) {p q : π}
    (hbusy : (d.phase p).Busy) (hne : q ≠ p) : ¬ (d.phase q).Busy := by
  intro hbusy'
  have hlock := h.busy p hbusy
  rw [h.busy q hbusy'] at hlock
  exact hne (Option.some.inj hlock)

/-- What holds of a process that is not busy does not depend on the files. -/
theorem Agrees.of_not_busy {p : π} {phase : Phase σ α} (h : ¬ phase.Busy) :
    Agrees plan document temporary d w p phase := by
  cases phase <;> first | trivial | exact absurd trivial h

/-- Steps that leave the files and the temporary contents alone keep what is known. -/
theorem Agrees.frame {p : π} {phase : Phase σ α} (h : Agrees plan document temporary d w p phase)
    (hfiles : d'.files = d.files) (htemporary : w'.temporary = w.temporary) :
    Agrees plan document temporary d' w' p phase := by
  cases phase with
  | planned value next => exact h
  | writing value next rest =>
    refine ⟨h.planned, ?_, ?_⟩
    · rw [hfiles]
      exact h.file
    · rw [htemporary]
      exact h.whole
  | _ => trivial

variable [DecidableEq π]

/-- A step of one process that changes no file keeps the relation, if the world takes the
same step. -/
theorem Refines.quiet (h : Refines plan document target temporary start d w) (p : π)
    (phase : Phase σ α) (hfiles : d'.files = d.files)
    (hphase : d'.phase = Function.update d.phase p phase) (hfile : w'.file = w.file)
    (htemporary : w'.temporary = w.temporary)
    (hphase' : w'.phase = Function.update w.phase p phase.abstract) (hlock : w'.lock = d'.lock)
    (hreports : w'.reports = d'.reports) (hbusy : phase.Busy → d'.lock = some p)
    (hother : ∀ q, q ≠ p → d.lock = some q → d'.lock = some q)
    (hagrees : Agrees plan document temporary d' w' p phase) :
    Refines plan document target temporary start d' w' where
  file := by rw [hfile, hfiles, h.file]
  lock := hlock
  phase q := by
    rw [hphase', hphase]
    by_cases hq : q = p
    · rw [hq, Function.update_self, Function.update_self]
    · rw [Function.update_of_ne hq, Function.update_of_ne hq, h.phase q]
  reports := hreports
  busy q hq := by
    rw [hphase] at hq
    by_cases hqp : q = p
    · rw [hqp, Function.update_self] at hq
      rw [hqp]
      exact hbusy hq
    · rw [Function.update_of_ne hqp] at hq
      exact hother q hqp (h.busy q hq)
  agrees q := by
    rw [hphase]
    by_cases hq : q = p
    · rw [hq, Function.update_self]
      exact hagrees
    · rw [Function.update_of_ne hq]
      exact (h.agrees q).frame hfiles htemporary
  whole := by
    rw [hfiles]
    exact h.whole

variable [DecidableEq ρ]

/-- A step of a busy process that changes its temporary file. -/
theorem Refines.write (h : Refines plan document target temporary start d w)
    (hne : ∀ p, temporary p ≠ target) {p : π} {bytes : Bytes} {phase : Phase σ α}
    (hbusy : (d.phase p).Busy) (hfile : w'.file = w.file)
    (hlock : w'.lock = w.lock) (hreports : w'.reports = w.reports)
    (hphase' : w'.phase = Function.update w.phase p phase.abstract)
    (hagrees : Agrees plan document temporary
      { d with
        files := Function.update d.files (temporary p) (some bytes)
        phase := Function.update d.phase p phase } w' p phase) :
    Refines plan document target temporary start
      { d with
        files := Function.update d.files (temporary p) (some bytes)
        phase := Function.update d.phase p phase } w' where
  file := by
    show w'.file = document.read (Function.update d.files (temporary p) (some bytes) target)
    rw [Function.update_of_ne (hne p).symm, hfile, h.file]
  lock := hlock.trans h.lock
  phase q := by
    show w'.phase q = (Function.update d.phase p phase q).abstract
    rw [hphase']
    by_cases hq : q = p
    · rw [hq, Function.update_self, Function.update_self]
    · rw [Function.update_of_ne hq, Function.update_of_ne hq, h.phase q]
  reports := hreports.trans h.reports
  busy q hq := by
    by_cases hqp : q = p
    · rw [hqp]
      exact h.busy p hbusy
    · have hbusy' : (Function.update d.phase p phase q).Busy := hq
      rw [Function.update_of_ne hqp] at hbusy'
      exact h.busy q hbusy'
  agrees q := by
    by_cases hq : q = p
    · show Agrees plan document temporary _ w' q (Function.update d.phase p phase q)
      rw [hq, Function.update_self]
      exact hagrees
    · show Agrees plan document temporary _ w' q (Function.update d.phase p phase q)
      rw [Function.update_of_ne hq]
      exact Agrees.of_not_busy (h.not_busy hbusy hq)
  whole := by
    show Function.update d.files (temporary p) (some bytes) target = start ∨ ∃ next,
      Planned plan next ∧
        Function.update d.files (temporary p) (some bytes) target = some (document.write next)
    rw [Function.update_of_ne (hne p).symm]
    exact h.whole

/-- The phase after a piece has been written, and the step of the world. -/
theorem Refines.piece (h : Refines plan document target temporary start d w)
    (hne : ∀ p, temporary p ≠ target) {p : π} {value : α} {next : σ} {bytes rest : Bytes}
    (hbusy : (d.phase p).Busy) (happlied : w.phase p = .applied value next)
    (hplanned : Planned plan next) (hbytes : bytes ++ rest = document.write next) :
    ∃ w', LockedFile.Steps plan input w w' ∧
      Refines plan document target temporary start
        { d with
          files := Function.update d.files (temporary p) (some bytes)
          phase := Function.update d.phase p (.writing value next rest) } w' := by
  by_cases hrest : rest = []
  · -- the last piece
    subst hrest
    refine ⟨_, .single (.write happlied), h.write hne hbusy rfl rfl rfl ?_ ?_⟩
    · show Function.update w.phase p (.written value) = _
      rw [Phase.abstract, if_pos rfl]
    · exact ⟨hplanned, ⟨bytes, Function.update_self _ _ _, hbytes⟩,
        fun _ => Function.update_self _ _ _⟩
  · refine ⟨w, .refl, h.write hne hbusy rfl rfl rfl ?_ ?_⟩
    · rw [Phase.abstract, if_neg hrest, ← happlied, Function.update_eq_self]
    · exact ⟨hplanned, ⟨bytes, Function.update_self _ _ _, hbytes⟩, fun hnil => absurd hnil hrest⟩

/-- A rename puts a whole document in the place of the shared file. -/
theorem Refines.rename (h : Refines plan document target temporary start d w)
    (hread : ∀ next, Planned plan next → document.read (some (document.write next)) = next)
    {p : π} {value : α} {next : σ} {written : Bytes}
    (hphase : d.phase p = .writing value next [])
    (hfile : d.files (temporary p) = some written) :
    w.phase p = .written value ∧ w.temporary p = some next ∧
      Refines plan document target temporary start
        { d with
          files := Function.update (Function.update d.files (temporary p) none) target
            (some written)
          phase := Function.update d.phase p (.renamed value) }
        { w with
          file := next
          temporary := Function.update w.temporary p none
          phase := Function.update w.phase p (.renamed value) } := by
  have hagrees := h.agrees p
  rw [hphase] at hagrees
  obtain ⟨hplanned, ⟨bytes, hbytes, hdocument⟩, hwhole⟩ := hagrees
  rw [hfile] at hbytes
  obtain rfl := Option.some.inj hbytes
  rw [List.append_nil] at hdocument
  have hbusy : (d.phase p).Busy := by
    rw [hphase]
    trivial
  refine ⟨?_, hwhole rfl, ?_⟩
  · rw [h.phase p, hphase, Phase.abstract, if_pos rfl]
  · exact
      { file := by
          show next = document.read (Function.update (Function.update d.files (temporary p) none)
            target (some written) target)
          rw [Function.update_self, hdocument, hread next hplanned]
        lock := h.lock
        phase := by
          intro q
          show Function.update w.phase p _ q = (Function.update d.phase p _ q).abstract
          by_cases hq : q = p
          · rw [hq, Function.update_self, Function.update_self]
            rfl
          · rw [Function.update_of_ne hq, Function.update_of_ne hq, h.phase q]
        reports := h.reports
        busy := by
          intro q hq
          by_cases hqp : q = p
          · have hq' : (Function.update d.phase p (.renamed value) q).Busy := hq
            rw [hqp, Function.update_self] at hq'
            exact hq'.elim
          · have hq' : (Function.update d.phase p (.renamed value) q).Busy := hq
            rw [Function.update_of_ne hqp] at hq'
            exact absurd hq' (h.not_busy hbusy hqp)
        agrees := by
          intro q
          show Agrees plan document temporary _ _ q (Function.update d.phase p (.renamed value) q)
          by_cases hq : q = p
          · rw [hq, Function.update_self]
            trivial
          · rw [Function.update_of_ne hq]
            exact Agrees.of_not_busy (h.not_busy hbusy hq)
        whole := by
          refine Or.inr ⟨next, hplanned, ?_⟩
          show Function.update (Function.update d.files (temporary p) none) target (some written)
            target = some (document.write next)
          rw [Function.update_self, hdocument] }

/-- One step of the disk is at most one step of the world. -/
theorem Refines.step (hne : ∀ p, temporary p ≠ target)
    (hread : ∀ next, Planned plan next → document.read (some (document.write next)) = next)
    (h : Refines plan document target temporary start d w)
    (hstep : Step plan input document target temporary d d') :
    ∃ w', LockedFile.Steps plan input w w' ∧
      Refines plan document target temporary start d' w' := by
  cases hstep with
  | @acquire p hphase hfree =>
    refine ⟨_, .single (.acquire (p := p) ?_ (h.lock.trans hfree)),
      h.quiet p .locked rfl rfl rfl rfl rfl rfl h.reports (fun _ => rfl) ?_ trivial⟩
    · rw [h.phase p, hphase]
      rfl
    · intro q _ hlock
      rw [hfree] at hlock
      cases hlock
  | @load p hphase =>
    have hphase' : w.phase p = .locked := by
      rw [h.phase p, hphase]
      rfl
    refine ⟨_, .single (.load (p := p) hphase'), ?_⟩
    refine h.quiet p (.loaded (document.read (d.files target))) rfl rfl rfl rfl ?_
      h.lock h.reports ?_ (fun _ _ hlock => hlock) trivial
    · show Function.update w.phase p (.loaded w.file) = _
      rw [h.file]
      rfl
    · intro _
      exact h.busy p (by rw [hphase]; trivial)
  | @apply p content next value hphase hplan =>
    have hphase' : w.phase p = .loaded content := by
      rw [h.phase p, hphase]
      rfl
    refine ⟨_, .single (.apply (p := p) hphase' hplan), ?_⟩
    refine h.quiet p (.planned value next) rfl rfl rfl rfl rfl h.lock h.reports ?_
      (fun _ _ hlock => hlock) ⟨_, _, _, hplan⟩
    intro _
    exact h.busy p (by rw [hphase]; trivial)
  | @create p next value hphase =>
    have hagrees := h.agrees p
    rw [hphase] at hagrees
    refine h.piece hne ?_ ?_ hagrees (List.nil_append _)
    · rw [hphase]
      trivial
    · rw [h.phase p, hphase]
      rfl
  | @append p next value written chunk rest hphase hchunk hfile =>
    have hagrees := h.agrees p
    rw [hphase] at hagrees
    obtain ⟨hplanned, ⟨bytes, hbytes, hdocument⟩, -⟩ := hagrees
    rw [hfile] at hbytes
    obtain rfl := Option.some.inj hbytes
    refine h.piece hne ?_ ?_ hplanned (by rw [List.append_assoc, hdocument])
    · rw [hphase]
      trivial
    · rw [h.phase p, hphase, Phase.abstract, if_neg (by simp [hchunk])]
  | @rename p next value written hphase hfile =>
    obtain ⟨hwritten, htemporary, hrefines⟩ := h.rename hread hphase hfile
    exact ⟨_, .single (.rename hwritten htemporary), hrefines⟩
  | @report p value hphase =>
    have hphase' : w.phase p = .renamed value := by
      rw [h.phase p, hphase]
      rfl
    refine ⟨_, .single (.report (p := p) hphase'), ?_⟩
    refine h.quiet p (.reported value) rfl rfl rfl rfl rfl h.lock ?_ (fun hbusy => hbusy.elim)
      (fun _ _ hlock => hlock) trivial
    show w.reports ++ [(p, value)] = d.reports ++ [(p, value)]
    rw [h.reports]
  | @release p value hphase hlock =>
    have hphase' : w.phase p = .renamed value ∨ w.phase p = .reported value := by
      rw [h.phase p]
      refine hphase.imp ?_ ?_ <;>
        · intro heq
          rw [heq]
          rfl
    have hidle : ¬ (d.phase p).Busy := by
      rcases hphase with heq | heq <;>
        · rw [heq]
          exact id
    refine ⟨_, .single (.release hphase' (h.lock.trans hlock)), ?_⟩
    refine h.quiet p (d.phase p) rfl (Function.update_eq_self _ _).symm rfl rfl ?_
      rfl h.reports (fun hbusy => absurd hbusy hidle) ?_ (Agrees.of_not_busy hidle)
    · show w.phase = Function.update w.phase p (d.phase p).abstract
      rw [← h.phase p, Function.update_eq_self]
    · intro q hq hlock'
      rw [hlock] at hlock'
      exact absurd (Option.some.inj hlock').symm hq
  | exit p =>
    refine ⟨_, .single (.exit p), ?_⟩
    refine h.quiet p .exited rfl rfl rfl rfl rfl ?_ h.reports (fun hbusy => hbusy.elim) ?_ trivial
    · show (if w.lock = some p then none else w.lock) = if d.lock = some p then none else d.lock
      rw [h.lock]
    · intro q hq hlock
      show (if d.lock = some p then none else d.lock) = some q
      rw [if_neg, hlock]
      rw [hlock]
      exact fun heq => hq (Option.some.inj heq)

/-- Any run of the disk is a run of the world. -/
theorem Refines.steps (hne : ∀ p, temporary p ≠ target)
    (hread : ∀ next, Planned plan next → document.read (some (document.write next)) = next)
    (h : Refines plan document target temporary start d w)
    (hsteps : Steps plan input document target temporary d d') :
    ∃ w', LockedFile.Steps plan input w w' ∧
      Refines plan document target temporary start d' w' := by
  induction hsteps with
  | refl => exact ⟨w, .refl, h⟩
  | tail _ hstep ih =>
    obtain ⟨w', hsteps', hrefines⟩ := ih
    obtain ⟨w'', hsteps'', hrefines'⟩ := hrefines.step hne hread hstep
    exact ⟨w'', hsteps'.trans hsteps'', hrefines'⟩

/-! ## A process that runs to its end -/

/-- A process that nobody disturbs leaves the document of its content in the shared file,
whatever stands in its temporary file. -/
theorem exists_steps_of_plan {plan : ι → σ → Outcome ε (α × σ)} (input : π → ι)
    (document : Document σ) (target : ρ) (temporary : π → ρ) {p : π} {value : α} {next : σ}
    (hlock : d.lock = none) (hphase : d.phase p = .ready)
    (hplan : plan (input p) (document.read (d.files target)) = .ok (value, next))
    (hdocument : document.write next ≠ []) :
    ∃ d', Steps plan input document target temporary d d' ∧ d'.lock = none ∧
      d'.files target = some (document.write next) ∧ d'.reports = d.reports ++ [(p, value)] ∧
      ∀ q, q ≠ p → d'.phase q = d.phase q := by
  have hlocked : Steps plan input document target temporary d _ := .single (.acquire hphase hlock)
  have hloaded := hlocked.tail (.load (p := p) (Function.update_self _ _ _))
  have hplanned := hloaded.tail (.apply (p := p) (Function.update_self _ _ _) hplan)
  have hcreated := hplanned.tail (.create (p := p) (Function.update_self _ _ _))
  -- the whole document is one piece
  have hwritten := hcreated.tail (.append (p := p)
    (by rw [List.append_nil]; exact Function.update_self _ _ _) hdocument
    (Function.update_self _ _ _))
  have hrenamed := hwritten.tail
    (.rename (p := p) (Function.update_self _ _ _) (Function.update_self _ _ _))
  have hreported := hrenamed.tail (.report (p := p) (Function.update_self _ _ _))
  refine ⟨_, hreported.tail (.exit p), if_pos rfl, Function.update_self _ _ _, rfl, ?_⟩
  intro q hq
  simp only [Function.update_of_ne hq]

end

end AtomicReplace

end TokenStudio
