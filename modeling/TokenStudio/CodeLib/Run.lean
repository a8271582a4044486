import Mathlib.Data.List.Induction
import TokenStudio.CodeLib.Outcome

/-!
# Runs of a call that changes a state

A run applies the same operation to one input after the other.  `Mutating.run`
keeps every call of the run, with the state before it, its result and the state
after it.  Failed calls stay in the list, and a panic does not end the run: the
next call starts from the state that the panic left behind.

`run_induction` follows the run from its start and relates the calls so far to
the state they reach, so that an invariant can speak about the history and the
state at once.  A statement about the whole run is then a statement about each
of its prefixes as well, since a prefix of a run is a run (`mem_run`).
`run_pairwise` compares each call with the calls before it.
-/

namespace TokenStudio

/-- One call of a run. -/
structure Call (ι σ ε α : Type) where
  input : ι
  before : σ
  result : Outcome ε α
  after : σ
  deriving DecidableEq

namespace Mutating

variable {ι σ ε α : Type} (op : ι → Mutating σ ε α)

/-- The call of the operation on an input in a state. -/
def call (input : ι) (s : σ) : Call ι σ ε α :=
  { input, before := s, result := (op input s).1, after := (op input s).2 }

/-- The calls of a run, first call first. -/
def run : List ι → σ → List (Call ι σ ε α)
  | [], _ => []
  | input :: rest, s => call op input s :: run rest (op input s).2

/-- The state that a run reaches. -/
def final : List ι → σ → σ
  | [], s => s
  | input :: rest, s => final rest (op input s).2

@[simp] theorem run_nil (s : σ) : run op [] s = [] := rfl

@[simp] theorem final_nil (s : σ) : final op [] s = s := rfl

@[simp] theorem run_length (inputs : List ι) (s : σ) :
    (run op inputs s).length = inputs.length := by
  induction inputs generalizing s with
  | nil => rfl
  | cons input rest ih => simp [run, ih]

@[simp] theorem run_inputs (inputs : List ι) (s : σ) :
    (run op inputs s).map Call.input = inputs := by
  induction inputs generalizing s with
  | nil => rfl
  | cons input rest ih => simp [run, ih, call]

theorem final_append (pre post : List ι) (s : σ) :
    final op (pre ++ post) s = final op post (final op pre s) := by
  induction pre generalizing s with
  | nil => rfl
  | cons input rest ih => exact ih _

theorem run_append (pre post : List ι) (s : σ) :
    run op (pre ++ post) s = run op pre s ++ run op post (final op pre s) := by
  induction pre generalizing s with
  | nil => rfl
  | cons input rest ih => exact congrArg (call op input s :: ·) (ih _)

/-- A call that leaves the state as it was can be taken out of a run.  Every other
call stays as it is. -/
theorem run_eraseIdx {pre : List ι} {input : ι} {s : σ}
    (h : (op input (final op pre s)).2 = final op pre s) (post : List ι) :
    run op (pre ++ post) s = (run op (pre ++ input :: post) s).eraseIdx pre.length ∧
      final op (pre ++ post) s = final op (pre ++ input :: post) s := by
  constructor
  · have hlength := run_length op pre s
    rw [run_append, run_append, List.eraseIdx_append_of_length_le (Nat.le_of_eq hlength), hlength,
      Nat.sub_self]
    simp only [run, List.eraseIdx_cons_zero, h]
  · rw [final_append, final_append]
    simp only [final, h]

/-- Induction along a run, with the calls so far and the state they reach. -/
theorem run_induction {motive : List (Call ι σ ε α) → σ → Prop} {start : σ}
    (init : motive [] start)
    (step : ∀ calls s input, motive calls s →
      motive (calls ++ [call op input s]) (op input s).2)
    (inputs : List ι) : motive (run op inputs start) (final op inputs start) := by
  induction inputs using List.reverseRecOn with
  | nil => exact init
  | append_singleton pre input ih =>
    rw [run_append, final_append]
    exact step _ _ input ih

/-- Every call of a run is the operation applied where a prefix of the run
ends. -/
theorem mem_run {inputs : List ι} {start : σ} {c : Call ι σ ε α}
    (h : c ∈ run op inputs start) :
    ∃ pre post, inputs = pre ++ c.input :: post ∧
      c = call op c.input (final op pre start) := by
  induction inputs generalizing start with
  | nil => simp at h
  | cons input rest ih =>
    rcases List.mem_cons.mp h with rfl | h
    · exact ⟨[], rest, rfl, rfl⟩
    · obtain ⟨pre, post, hrest, hc⟩ := ih h
      exact ⟨input :: pre, post, by rw [hrest, List.cons_append], hc⟩

/-- A relation between the calls of a prefix and the call after it holds
between every call of a run and every later one. -/
theorem run_pairwise {R : Call ι σ ε α → Call ι σ ε α → Prop} {inputs : List ι} {start : σ}
    (h : ∀ pre input post, inputs = pre ++ input :: post → ∀ c ∈ run op pre start,
      R c (call op input (final op pre start))) :
    (run op inputs start).Pairwise R := by
  suffices hprefix : ∀ pre post, inputs = pre ++ post → (run op pre start).Pairwise R from
    hprefix inputs [] (List.append_nil inputs).symm
  intro pre
  induction pre using List.reverseRecOn with
  | nil => exact fun _ _ => List.Pairwise.nil
  | append_singleton pre input ih =>
    intro post hinputs
    rw [List.append_assoc, List.singleton_append] at hinputs
    rw [run_append, List.pairwise_append]
    refine ⟨ih (input :: post) hinputs, List.pairwise_singleton _ _, ?_⟩
    intro c hc c' hc'
    rw [List.mem_singleton.mp hc']
    exact h pre input post hinputs c hc

end Mutating

end TokenStudio
