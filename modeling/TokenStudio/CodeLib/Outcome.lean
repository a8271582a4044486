import Mathlib.Data.List.Forall2
import Mathlib.Tactic.Common

/-!
# The outcome of a call that can return an error or panic

A Rust call of type `Result<α, ε>` ends in one of three ways: it returns a
value, it returns an error, or it panics.  `Outcome ε α` keeps the three
apart.  A panic is not an error that a caller can handle, so `mapErr`
leaves it in place and `bind` carries it on.

A call that returns `α` and can only panic is an `Option α`, with `none` for
the panic.  The `MonadLift` instance runs it inside an `Outcome` block.

Three shapes cover every early exit of the modelled code:

* `check bad e` is `if bad { return Err(e) }`;
* `x.mapErr f` is `x.map_err(f)?`;
* `bind` is the `?` operator.

Each has an inversion lemma (`check_eq_ok`, `mapErr_eq_ok`, `bind_eq_ok`), and
a spec lemma of a modelled function is a chain of these.

`Mutating σ ε α` is a call that also changes a value of type `σ` behind a
`&mut` reference.  It returns the value of the reference in every case, so
that what a failed call leaves behind is part of the model.
-/

namespace TokenStudio

/-- How a call of type `Result<α, ε>` ends. -/
inductive Outcome (ε α : Type) where
  | ok (value : α)
  | err (error : ε)
  | panic
  deriving DecidableEq, Repr

namespace Outcome

variable {ε ε' α β : Type}

/-- The `?` operator: errors and panics skip the rest of the block. -/
def bind (x : Outcome ε α) (f : α → Outcome ε β) : Outcome ε β :=
  match x with
  | ok a => f a
  | err e => err e
  | panic => panic

instance : Monad (Outcome ε) where
  pure := ok
  bind := bind

instance : LawfulMonad (Outcome ε) :=
  LawfulMonad.mk' (Outcome ε) (fun x => by cases x <;> rfl) (fun _ _ => rfl)
    (fun x _ _ => by cases x <;> rfl)

/-- A call that can only panic, run inside a block that can also fail. -/
def ofOption : Option α → Outcome ε α
  | some a => ok a
  | none => panic

instance : MonadLift Option (Outcome ε) where
  monadLift := ofOption

/-- `if bad { return Err(e) }`. -/
def check (bad : Prop) [Decidable bad] (e : ε) : Outcome ε Unit :=
  if bad then err e else ok ()

/-- `expect` on a call that returns nothing. -/
def expect (ok : Bool) : Outcome ε Unit := if ok then .ok () else .panic

/-- `Result::map_err`. -/
def mapErr (f : ε → ε') : Outcome ε α → Outcome ε' α
  | ok a => ok a
  | err e => err (f e)
  | panic => panic

/-- `Option::ok_or`. -/
def okOr (x : Option α) (e : ε) : Outcome ε α :=
  match x with
  | some a => ok a
  | none => err e

/-- The value that was returned, if there is one. -/
def toOption : Outcome ε α → Option α
  | ok a => some a
  | err _ => none
  | panic => none

/-- Whether the call returned, with a value or with an error. -/
def Returns (x : Outcome ε α) : Prop := x ≠ panic

instance (x : Outcome ε α) : Decidable x.Returns :=
  match x with
  | ok _ => isTrue (by simp [Returns])
  | err _ => isTrue (by simp [Returns])
  | panic => isFalse (by simp [Returns])

/-- Whether the call returned a value. -/
def isOk : Outcome ε α → Bool
  | ok _ => true
  | err _ => false
  | panic => false

/-! ## Evaluation -/

@[simp] theorem ok_bind (a : α) (f : α → Outcome ε β) : (ok a >>= f) = f a := rfl

@[simp] theorem err_bind (e : ε) (f : α → Outcome ε β) : (err e >>= f) = err e := rfl

@[simp] theorem panic_bind (f : α → Outcome ε β) :
    ((panic : Outcome ε α) >>= f) = panic := rfl

@[simp] theorem pure_eq (a : α) : (pure a : Outcome ε α) = ok a := rfl

@[simp] theorem ofOption_some (a : α) : (ofOption (some a) : Outcome ε α) = ok a := rfl

@[simp] theorem ofOption_none : (ofOption (none : Option α) : Outcome ε α) = panic := rfl

@[simp] theorem liftM_eq (x : Option α) : (liftM x : Outcome ε α) = ofOption x := rfl

@[simp] theorem monadLift_eq (x : Option α) :
    (MonadLift.monadLift x : Outcome ε α) = ofOption x := rfl

@[simp] theorem mapErr_ok (f : ε → ε') (a : α) : (ok a).mapErr f = ok a := rfl

@[simp] theorem mapErr_err (f : ε → ε') (e : ε) :
    (err e : Outcome ε α).mapErr f = err (f e) := rfl

@[simp] theorem okOr_some (a : α) (e : ε) : okOr (some a) e = ok a := rfl

@[simp] theorem okOr_none (e : ε) : okOr (none : Option α) e = err e := rfl

@[simp] theorem check_of {bad : Prop} [Decidable bad] (h : bad) (e : ε) :
    check bad e = err e := if_pos h

@[simp] theorem check_of_not {bad : Prop} [Decidable bad] (h : ¬ bad) (e : ε) :
    check bad e = ok () := if_neg h

@[simp] theorem isOk_iff {x : Outcome ε α} : x.isOk = true ↔ ∃ a, x = ok a := by
  cases x <;> simp [isOk]

/-! ## Inversion -/

/-- A block succeeded exactly when its first call did and the rest did. -/
theorem bind_eq_ok {x : Outcome ε α} {f : α → Outcome ε β} {b : β} :
    (x >>= f) = ok b ↔ ∃ a, x = ok a ∧ f a = ok b := by
  cases x <;> simp

/-- The value of a call that returns nothing. -/
theorem bind_eq_err {x : Outcome ε α} {f : α → Outcome ε β} {e : ε} :
    (x >>= f) = err e ↔ x = err e ∨ ∃ a, x = ok a ∧ f a = err e := by
  cases x <;> simp

theorem exists_unit {p : Unit → Prop} : (∃ u, p u) ↔ p () :=
  ⟨fun ⟨_, h⟩ => h, fun h => ⟨(), h⟩⟩

/-- A block panicked in its first call or in the rest. -/
theorem bind_eq_panic {x : Outcome ε α} {f : α → Outcome ε β} :
    (x >>= f) = panic ↔ x = panic ∨ ∃ a, x = ok a ∧ f a = panic := by
  cases x <;> simp

@[simp] theorem check_eq_ok {bad : Prop} [Decidable bad] {e : ε} {u : Unit} :
    check bad e = ok u ↔ ¬ bad := by
  by_cases h : bad <;> simp [h]

@[simp] theorem check_eq_err {bad : Prop} [Decidable bad] {e e' : ε} :
    check bad e = err e' ↔ bad ∧ e = e' := by
  by_cases h : bad <;> simp [check, h]

@[simp] theorem expect_eq_ok {b : Bool} {u : Unit} :
    (expect b : Outcome ε Unit) = ok u ↔ b = true := by
  cases b <;> simp [expect]

@[simp] theorem check_ne_panic {bad : Prop} [Decidable bad] {e : ε} :
    check bad e ≠ panic := by
  by_cases h : bad <;> simp [h]

@[simp] theorem mapErr_eq_ok {f : ε → ε'} {x : Outcome ε α} {a : α} :
    x.mapErr f = ok a ↔ x = ok a := by
  cases x <;> simp [mapErr]

@[simp] theorem mapErr_eq_err {f : ε → ε'} {x : Outcome ε α} {e' : ε'} :
    x.mapErr f = err e' ↔ ∃ e, x = err e ∧ f e = e' := by
  cases x <;> simp [mapErr]

@[simp] theorem mapErr_eq_panic {f : ε → ε'} {x : Outcome ε α} :
    x.mapErr f = panic ↔ x = panic := by
  cases x <;> simp [mapErr]

@[simp] theorem ofOption_eq_ok {x : Option α} {a : α} :
    (ofOption x : Outcome ε α) = ok a ↔ x = some a := by
  cases x <;> simp [ofOption]

@[simp] theorem ofOption_eq_panic {x : Option α} :
    (ofOption x : Outcome ε α) = panic ↔ x = none := by
  cases x <;> simp [ofOption]

@[simp] theorem okOr_eq_ok {x : Option α} {e : ε} {a : α} :
    okOr x e = ok a ↔ x = some a := by
  cases x <;> simp [okOr]

@[simp] theorem ofOption_ne_err {x : Option α} {e : ε} : ofOption x ≠ err e := by
  cases x <;> simp

@[simp] theorem okOr_eq_err {x : Option α} {e e' : ε} :
    okOr x e = err e' ↔ x = none ∧ e = e' := by
  cases x <;> simp

@[simp] theorem okOr_ne_panic {x : Option α} {e : ε} : okOr x e ≠ panic := by
  cases x <;> simp [okOr]

/-- A loop over a list succeeded exactly when every round did. -/
theorem mapM_eq_ok {f : α → Outcome ε β} {xs : List α} {ys : List β} :
    xs.mapM f = ok ys ↔ List.Forall₂ (fun x y => f x = ok y) xs ys := by
  induction xs generalizing ys with
  | nil => simp [eq_comm]
  | cons x xs ih =>
    simp only [List.mapM_cons, bind_eq_ok, pure_eq, ok.injEq, List.forall₂_cons_left_iff, ih]
    constructor
    · rintro ⟨y, hy, ys, hys, rfl⟩
      exact ⟨y, ys, hy, hys, rfl⟩
    · rintro ⟨y, ys, hy, hys, rfl⟩
      exact ⟨y, hy, ys, hys, rfl⟩

/-- A loop without a variable succeeds exactly when every round does. -/
theorem forM_eq_ok {f : α → Outcome ε Unit} {xs : List α} :
    xs.forM f = ok () ↔ ∀ x ∈ xs, f x = ok () := by
  induction xs with
  | nil => exact iff_of_true rfl (by simp)
  | cons x xs ih =>
    have hcons : (x :: xs).forM f = (f x >>= fun _ => xs.forM f) := List.forM_cons
    rw [hcons, bind_eq_ok, exists_unit, ih, List.forall_mem_cons]

/-- A loop that never returns an error panics exactly when some round does. -/
theorem mapM_eq_panic_iff {f : α → Outcome ε β} (herr : ∀ x e, f x ≠ err e) {xs : List α} :
    xs.mapM f = panic ↔ ∃ x ∈ xs, f x = panic := by
  induction xs with
  | nil => simp
  | cons x xs ih =>
    rw [List.mapM_cons]
    cases hx : f x with
    | ok y => simp [hx, bind_eq_panic, ih]
    | err e => exact absurd hx (herr x e)
    | panic => simp [hx]

/-- A loop with a variable panics exactly when it gets through some rounds and then
panics in the next one. -/
theorem foldlM_eq_panic_iff {f : β → α → Outcome ε β} {b : β} {xs : List α} :
    xs.foldlM f b = panic ↔ ∃ before x after b', xs = before ++ x :: after ∧
      before.foldlM f b = ok b' ∧ f b' x = panic := by
  induction xs generalizing b with
  | nil => simp
  | cons x xs ih =>
    rw [List.foldlM_cons, bind_eq_panic]
    constructor
    · rintro (hx | ⟨b', hx, hxs⟩)
      · exact ⟨[], x, xs, b, rfl, rfl, hx⟩
      · obtain ⟨before, y, after, b'', rfl, hbefore, hy⟩ := ih.mp hxs
        refine ⟨x :: before, y, after, b'', rfl, ?_, hy⟩
        rw [List.foldlM_cons, hx, ok_bind, hbefore]
    · rintro ⟨before, y, after, b', hsplit, hbefore, hy⟩
      cases before with
      | nil =>
        obtain ⟨rfl, rfl⟩ := List.cons.inj hsplit
        obtain rfl : b = b' := ok.inj hbefore
        exact Or.inl hy
      | cons z before =>
        obtain ⟨rfl, rfl⟩ := List.cons.inj hsplit
        rw [List.foldlM_cons, bind_eq_ok] at hbefore
        obtain ⟨b'', hx, hbefore⟩ := hbefore
        exact Or.inr ⟨b'', hx, ih.mpr ⟨before, y, after, b', rfl, hbefore, hy⟩⟩

end Outcome

/-! ## Calls that change a state -/

/-- A call with a `&mut σ` argument: how it ends, and what the reference holds
afterwards. -/
def Mutating (σ ε α : Type) : Type := σ → Outcome ε α × σ

namespace Mutating

variable {σ ε α β : Type}

/-- The `?` operator: a failure keeps the state that was reached. -/
def bind (x : Mutating σ ε α) (f : α → Mutating σ ε β) : Mutating σ ε β := fun s =>
  match x s with
  | (.ok a, s') => f a s'
  | (.err e, s') => (.err e, s')
  | (.panic, s') => (.panic, s')

instance : Monad (Mutating σ ε) where
  pure a := fun s => (.ok a, s)
  bind := bind

/-- A call that does not touch the state. -/
def lift (x : Outcome ε α) : Mutating σ ε α := fun s => (x, s)

instance : MonadLift (Outcome ε) (Mutating σ ε) where
  monadLift := lift

/-- Read the state. -/
def read : Mutating σ ε σ := fun s => (.ok s, s)

/-- Replace the state. -/
def write (s : σ) : Mutating σ ε Unit := fun _ => (.ok (), s)

@[simp] theorem pure_apply (a : α) (s : σ) : (pure a : Mutating σ ε α) s = (.ok a, s) := rfl

@[simp] theorem read_apply (s : σ) : (read : Mutating σ ε σ) s = (.ok s, s) := rfl

@[simp] theorem write_apply (s s' : σ) : (write s' : Mutating σ ε Unit) s = (.ok (), s') := rfl

@[simp] theorem liftM_apply (x : Outcome ε α) (s : σ) :
    (liftM x : Mutating σ ε α) s = (x, s) := rfl

@[simp] theorem monadLift_apply (x : Outcome ε α) (s : σ) :
    (MonadLift.monadLift x : Mutating σ ε α) s = (x, s) := rfl

/-- What a block does after its first call. -/
theorem bind_apply (x : Mutating σ ε α) (f : α → Mutating σ ε β) (s : σ) :
    (x >>= f) s = match x s with
      | (.ok a, s') => f a s'
      | (.err e, s') => (.err e, s')
      | (.panic, s') => (.panic, s') := rfl

/-- A block that ends with a function of the result of its call. -/
theorem bind_pure_apply (x : Mutating σ ε α) (f : α → β) (s : σ) :
    (x >>= fun a => pure (f a) : Mutating σ ε β) s = ((do
      let a ← (x s).1
      pure (f a)), (x s).2) := by
  rw [bind_apply]
  rcases x s with ⟨result, s'⟩
  cases result <;> rfl

/-- Such a block fails with its call. -/
theorem isOk_bind_pure {x : Mutating σ ε α} {s : σ} (h : (x s).1.isOk = false) (f : α → β) :
    ((x >>= fun a => pure (f a) : Mutating σ ε β) s).1.isOk = false := by
  rw [bind_pure_apply]
  cases hresult : (x s).1 with
  | ok a =>
    rw [hresult] at h
    cases h
  | err e => rfl
  | panic => rfl

/-- The first round of a loop. -/
theorem forM_cons_apply (f : β → Mutating σ ε Unit) (x : β) (xs : List β) (s : σ) :
    (x :: xs).forM f s = match f x s with
      | (.ok _, s') => xs.forM f s'
      | (.err e, s') => (.err e, s')
      | (.panic, s') => (.panic, s') := by
  have hcons : (x :: xs).forM f = (f x >>= fun _ => xs.forM f) := List.forM_cons
  rw [hcons, bind_apply]
  rcases f x s with ⟨result, s'⟩
  cases result <;> rfl

/-- A loop panics exactly when it gets through some rounds and then panics in the
next one. -/
theorem forM_eq_panic_iff {f : β → Mutating σ ε Unit} {s : σ} {xs : List β} :
    (xs.forM f s).1 = .panic ↔ ∃ before x after s', xs = before ++ x :: after ∧
      before.forM f s = (.ok (), s') ∧ (f x s').1 = .panic := by
  induction xs generalizing s with
  | nil =>
    refine iff_of_false (by simp [List.forM]) ?_
    rintro ⟨before, x, after, -, hsplit, -⟩
    simp at hsplit
  | cons x xs ih =>
    rw [forM_cons_apply]
    constructor
    · intro h
      cases hx : f x s with
      | mk result s' =>
        rw [hx] at h
        cases result with
        | ok u =>
          obtain ⟨before, y, after, s'', rfl, hbefore, hy⟩ := ih.mp h
          refine ⟨x :: before, y, after, s'', rfl, ?_, hy⟩
          rw [forM_cons_apply, hx]
          exact hbefore
        | err e => simp at h
        | panic => exact ⟨[], x, xs, s, rfl, rfl, by rw [hx]⟩
    · rintro ⟨before, y, after, s', hsplit, hbefore, hy⟩
      cases before with
      | nil =>
        obtain ⟨rfl, rfl⟩ := List.cons.inj hsplit
        obtain rfl : s = s' := congrArg Prod.snd hbefore
        cases hx : f x s with
        | mk result s' =>
          rw [hx] at hy
          obtain rfl : result = .panic := hy
          rfl
      | cons z before =>
        obtain ⟨rfl, rfl⟩ := List.cons.inj hsplit
        rw [forM_cons_apply] at hbefore
        cases hx : f x s with
        | mk result s'' =>
          rw [hx] at hbefore
          cases result with
          | ok u => exact ih.mpr ⟨before, y, after, s', rfl, hbefore, hy⟩
          | err e => simp at hbefore
          | panic => simp at hbefore

/-- A loop gets through all its rounds, or it gets through some of them and ends in
the next one. -/
theorem forM_cases (f : β → Mutating σ ε Unit) (xs : List β) (s : σ) :
    (∃ s', xs.forM f s = (.ok (), s')) ∨
      ∃ before x after s', xs = before ++ x :: after ∧ before.forM f s = (.ok (), s') ∧
        (f x s').1 ≠ .ok () ∧ xs.forM f s = f x s' := by
  induction xs generalizing s with
  | nil => exact Or.inl ⟨s, rfl⟩
  | cons x xs ih =>
    rw [forM_cons_apply]
    cases hx : f x s with
    | mk result s' =>
      cases result with
      | ok u =>
        rcases ih s' with hall | ⟨before, y, after, s'', rfl, hbefore, hy, hsame⟩
        · exact Or.inl hall
        · refine Or.inr ⟨x :: before, y, after, s'', rfl, ?_, hy, hsame⟩
          rw [forM_cons_apply, hx]
          exact hbefore
      | err e => exact Or.inr ⟨[], x, xs, s, rfl, rfl, by simp [hx], by rw [hx]⟩
      | panic => exact Or.inr ⟨[], x, xs, s, rfl, rfl, by simp [hx], by rw [hx]⟩

/-! ### Calls that change the state at their end

Many calls first compute everything that can fail and change the state last.
`commit plan` is such a call.  A block of this shape is brought into the form
`commit plan` from its end, with the three lemmas `write_bind_pure`,
`lift_bind_commit` and `read_bind_commit`. -/

/-- Compute a value and the next state, and change the state if that worked. -/
def commit (plan : σ → Outcome ε (α × σ)) : Mutating σ ε α := fun s =>
  match plan s with
  | .ok (a, s') => (.ok a, s')
  | .err e => (.err e, s)
  | .panic => (.panic, s)

/-- A call of this kind worked as planned, or it left the state as it was. -/
theorem commit_cases (plan : σ → Outcome ε (α × σ)) (s : σ) :
    (∃ a s', plan s = .ok (a, s') ∧ commit plan s = (.ok a, s')) ∨
      ((commit plan s).1.isOk = false ∧ (commit plan s).2 = s) := by
  cases h : plan s with
  | ok p => exact Or.inl ⟨p.1, p.2, rfl, by simp [commit, h]⟩
  | err e => exact Or.inr (by simp [commit, h, Outcome.isOk])
  | panic => exact Or.inr (by simp [commit, h, Outcome.isOk])

/-- The result of such a call is the value of its plan. -/
theorem commit_fst (plan : σ → Outcome ε (α × σ)) (s : σ) :
    (commit plan s).1 = (do
      let next ← plan s
      pure next.1) := by
  cases h : plan s with
  | ok p => simp [commit, h]
  | err e => simp [commit, h]
  | panic => simp [commit, h]

theorem write_bind_pure (s' : σ) (a : α) :
    ((write s' : Mutating σ ε Unit) >>= fun _ => pure a) = commit fun _ => .ok (a, s') := rfl

theorem lift_bind_commit (x : Outcome ε α) (f : α → σ → Outcome ε (β × σ)) :
    ((liftM x : Mutating σ ε α) >>= fun a => commit (f a)) =
      commit fun s => x >>= fun a => f a s := by
  funext s
  cases x <;> simp [bind_apply, commit]

theorem read_bind_commit (f : σ → σ → Outcome ε (β × σ)) :
    ((read : Mutating σ ε σ) >>= fun s => commit (f s)) = commit fun s => f s s := rfl

end Mutating

end TokenStudio
