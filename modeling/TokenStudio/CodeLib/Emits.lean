import TokenStudio.CodeLib.Outcome

/-!
# Calls that append to a log

A program that sends messages one after the other leaves them in a log that it does
not control: a call that fails has sent some of them and not the rest.
`Emits log x values` says that the call `x` appends `values` to the log, in this
order, if it succeeds, and a prefix of them if it does not.

The rules follow the blocks: `pure` and `lift` emit nothing, `bind` emits what its
two calls emit (`lift_bind` is the case where the first one touches nothing), and `forM`
what its rounds emit.
-/

namespace TokenStudio

/-- The block with another error type. -/
def Mutating.mapErr {σ ε ε' α : Type} (f : ε → ε') (x : Mutating σ ε α) : Mutating σ ε' α :=
  fun s => ((x s).1.mapErr f, (x s).2)

@[simp] theorem Mutating.mapErr_apply {σ ε ε' α : Type} (f : ε → ε') (x : Mutating σ ε α) (s : σ) :
    x.mapErr f s = ((x s).1.mapErr f, (x s).2) := rfl

/-- A block that starts with a call that does not touch the state: it fails there and
leaves the state, or it goes on. -/
theorem Mutating.liftM_bind_cases {σ ε α β : Type} (x : Outcome ε α) (f : α → Mutating σ ε β)
    (s : σ) :
    ((((liftM x : Mutating σ ε α) >>= f) s).1.isOk = false ∧
        (((liftM x : Mutating σ ε α) >>= f) s).2 = s) ∨
      ∃ a, x = .ok a ∧ ((liftM x : Mutating σ ε α) >>= f) s = f a s := by
  rw [Mutating.bind_apply, Mutating.liftM_apply]
  cases x with
  | ok a => exact Or.inr ⟨a, rfl, rfl⟩
  | err e => exact Or.inl ⟨rfl, rfl⟩
  | panic => exact Or.inl ⟨rfl, rfl⟩

theorem Outcome.isOk_mapErr {ε ε' α : Type} (f : ε → ε') (x : Outcome ε α) :
    (x.mapErr f).isOk = x.isOk := by
  cases x <;> rfl

/-- The call appends these values to the log, or a prefix of them when it fails. -/
def Emits {σ ε α ω : Type} (log : σ → List ω) (x : Mutating σ ε α) (values : List ω) : Prop :=
  ∀ s, ∃ sent, sent <+: values ∧ log (x s).2 = log s ++ sent ∧
    ((x s).1.isOk = true → sent = values)

namespace Emits

variable {σ ε ε' α β ω : Type} {log : σ → List ω}

theorem pure (a : α) : Emits log (Pure.pure a : Mutating σ ε α) [] := by
  intro s
  exact ⟨[], List.prefix_refl _, (List.append_nil _).symm, fun _ => rfl⟩

/-- A call that does not touch the state, whatever would have come after it. -/
theorem lift (x : Outcome ε α) : Emits log (liftM x : Mutating σ ε α) [] := by
  intro s
  exact ⟨[], List.prefix_refl _, (List.append_nil _).symm, fun _ => rfl⟩

theorem mapErr {x : Mutating σ ε α} {values : List ω} (h : Emits log x values) (f : ε → ε') :
    Emits log (x.mapErr f) values := by
  intro s
  obtain ⟨sent, hprefix, hlog, hok⟩ := h s
  refine ⟨sent, hprefix, hlog, ?_⟩
  rw [Mutating.mapErr_apply, Outcome.isOk_mapErr]
  exact hok

/-- One call after the other. -/
theorem bind {x : Mutating σ ε α} {f : α → Mutating σ ε β} {values values' : List ω}
    (hx : Emits log x values) (hf : ∀ a, Emits log (f a) values') :
    Emits log (x >>= f) (values ++ values') := by
  intro s
  obtain ⟨sent, hprefix, hlog, hok⟩ := hx s
  have hshort : sent <+: values ++ values' := hprefix.trans (List.prefix_append _ _)
  rw [Mutating.bind_apply]
  cases hresult : x s with
  | mk result s' =>
    rw [hresult] at hlog hok
    cases result with
    | err e => exact ⟨sent, hshort, hlog, by simp [Outcome.isOk]⟩
    | panic => exact ⟨sent, hshort, hlog, by simp [Outcome.isOk]⟩
    | ok a =>
      obtain rfl := hok rfl
      obtain ⟨sent', hprefix', hlog', hok'⟩ := hf a s'
      refine ⟨sent ++ sent', ?_, ?_, ?_⟩
      · exact (List.prefix_append_right_inj sent).mpr hprefix'
      · show log (f a s').2 = _
        rw [hlog', hlog, List.append_assoc]
      · intro h
        rw [hok' h]

/-- A call that does not touch the state, and what comes after it if it succeeds. -/
theorem lift_bind {x : Outcome ε α} {f : α → Mutating σ ε β} {values : List ω}
    (hf : ∀ a, x = .ok a → Emits log (f a) values) :
    Emits log ((liftM x : Mutating σ ε α) >>= f) values := by
  intro s
  rw [Mutating.bind_apply, Mutating.liftM_apply]
  cases hx : x with
  | ok a => exact hf a hx s
  | err e =>
    exact ⟨[], List.nil_prefix, (List.append_nil _).symm, fun h => by simp [Outcome.isOk] at h⟩
  | panic =>
    exact ⟨[], List.nil_prefix, (List.append_nil _).symm, fun h => by simp [Outcome.isOk] at h⟩

/-- A loop, by induction on its rounds. -/
theorem forM {f : β → Mutating σ ε Unit} {g : β → List ω} (h : ∀ b, Emits log (f b) (g b))
    (xs : List β) : Emits log (xs.forM f) (xs.flatMap g) := by
  induction xs with
  | nil => exact pure ()
  | cons x xs ih =>
    have hcons : (x :: xs).forM f = (f x >>= fun _ => xs.forM f) := List.forM_cons
    rw [hcons, List.flatMap_cons]
    exact (h x).bind fun _ => ih

end Emits

end TokenStudio
