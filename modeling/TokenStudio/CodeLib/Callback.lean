import TokenStudio.CodeLib.Outcome

/-!
# Code of another crate that calls back

A deserializer walks over its input on its own terms, but for some fields it
calls a function of the program, goes on with what the function returns, and
stops when the function returns an error.  `Callback Op Res α` is such a
computation with the calls left open: `call op next` asks for the result of
`op`, which has type `Res op`.  The program's side is a handler, and `run`
puts the two together.  Why the other side stopped is not part of the model,
so an error carries no text.

The other crate does not panic by itself.  `run_eq_panic_iff` says that a run
panics exactly when it reaches a call on which the handler panics, where
`Reaches` follows the results that the handler gives.
-/

namespace TokenStudio

/-- A computation that calls back with `op : Op` and gets a `Res op`. -/
inductive Callback (Op : Type) (Res : Op → Type) (α : Type) where
  | done (value : α)
  | fail
  | call (op : Op) (next : Res op → Callback Op Res α)

namespace Callback

variable {Op : Type} {Res : Op → Type} {α β ε : Type}

def bind (x : Callback Op Res α) (f : α → Callback Op Res β) : Callback Op Res β :=
  match x with
  | done a => f a
  | fail => fail
  | call op next => call op fun r => (next r).bind f

instance : Monad (Callback Op Res) where
  pure := done
  bind := bind

/-- One call. -/
def ask (op : Op) : Callback Op Res (Res op) := call op done

/-- What the computation returns when the program answers the calls. -/
def run (handler : (op : Op) → Outcome ε (Res op)) : Callback Op Res α → Outcome Unit α
  | done a => .ok a
  | fail => .err ()
  | call op next =>
    match handler op with
    | .ok r => (next r).run handler
    | .err _ => .err ()
    | .panic => .panic

/-- The computation gets to the call `op`. -/
def Reaches (handler : (op : Op) → Outcome ε (Res op)) : Callback Op Res α → Op → Prop
  | done _, _ => False
  | fail, _ => False
  | call op' next, op => op' = op ∨ ∃ r, handler op' = .ok r ∧ (next r).Reaches handler op

variable (handler : (op : Op) → Outcome ε (Res op))

@[simp] theorem run_pure (a : α) :
    (pure a : Callback Op Res α).run handler = .ok a := rfl

theorem run_ask_of_ok {op : Op} {r : Res op} (h : handler op = .ok r) :
    (ask op : Callback Op Res (Res op)).run handler = .ok r := by
  rw [ask, run, h]
  rfl

/-- A sequence of two computations runs the one and then the other. -/
@[simp] theorem run_bind (x : Callback Op Res α) (f : α → Callback Op Res β) :
    (x >>= f).run handler = (x.run handler >>= fun a => (f a).run handler) := by
  show (x.bind f).run handler = _
  induction x with
  | done a => rfl
  | fail => rfl
  | call op next ih =>
    rw [bind, run, run]
    cases handler op with
    | ok r => exact ih r
    | err e => rfl
    | panic => rfl

/-- A run panics exactly when it gets to a call that panics. -/
theorem run_eq_panic_iff (x : Callback Op Res α) :
    x.run handler = .panic ↔ ∃ op, x.Reaches handler op ∧ handler op = .panic := by
  induction x with
  | done a => simp [run, Reaches]
  | fail => simp [run, Reaches]
  | call op next ih =>
    rw [run]
    cases h : handler op with
    | ok r =>
      show (next r).run handler = .panic ↔ _
      rw [ih r]
      constructor
      · rintro ⟨op', hreach, hpanic⟩
        exact ⟨op', Or.inr ⟨r, h, hreach⟩, hpanic⟩
      · rintro ⟨op', hop | ⟨r', hr', hreach⟩, hpanic⟩
        · subst hop
          rw [h] at hpanic
          exact absurd hpanic (by simp)
        · rw [h, Outcome.ok.injEq] at hr'
          subst hr'
          exact ⟨op', hreach, hpanic⟩
    | err e =>
      simp only [reduceCtorEq, false_iff, not_exists, not_and]
      rintro op' (hop | ⟨r', hr', -⟩) hpanic
      · subst hop
        rw [h] at hpanic
        exact absurd hpanic (by simp)
      · rw [h] at hr'
        exact absurd hr' (by simp)
    | panic => exact ⟨fun _ => ⟨op, Or.inl rfl, h⟩, fun _ => rfl⟩

end Callback

end TokenStudio
