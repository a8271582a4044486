import TokenStudio.CodeLib.Run

/-!
# Calls that do not depend on each other

Two calls are independent when neither sees what the other one changes and their
changes can be made in either order.  `Independent` states this for an operation
on the states of an invariant, up to a view of the results that the two calls may
disagree about.

A run of pairwise independent calls gives every call the result that it has on its
own (`Independent.run_view`), and its calls can be put into any other order
(`Independent.final_perm`).
-/

namespace TokenStudio

namespace Mutating

variable {ι σ ε α ρ : Type} {op : ι → Mutating σ ε α} {inv : σ → Prop}
  {view : Outcome ε α → ρ} {apart : ι → ι → Prop}

/-- Calls that stand apart do not depend on each other. -/
structure Independent (op : ι → Mutating σ ε α) (inv : σ → Prop) (view : Outcome ε α → ρ)
    (apart : ι → ι → Prop) : Prop where
  symm : ∀ i j, apart i j → apart j i
  keeps : ∀ i s, inv s → inv (op i s).2
  result : ∀ i j s, inv s → apart i j → view (op j (op i s).2).1 = view (op j s).1
  comm : ∀ i j s, inv s → apart i j → (op j (op i s).2).2 = (op i (op j s).2).2

/-- Each call of the run has the result that it has on its own. -/
theorem Independent.run_view (h : Independent op inv view apart) {inputs : List ι} {s : σ}
    (hapart : inputs.Pairwise apart) (hs : inv s) :
    (run op inputs s).map (fun c => (c.input, view c.result)) =
      inputs.map fun i => (i, view (op i s).1) := by
  induction inputs generalizing s with
  | nil => rfl
  | cons i rest ih =>
    obtain ⟨hi, hrest⟩ := List.pairwise_cons.mp hapart
    have htail : rest.map (fun j => (j, view (op j (op i s).2).1)) =
        rest.map fun j => (j, view (op j s).1) := by
      apply List.map_congr_left
      intro j hj
      rw [h.result i j s hs (hi j hj)]
    rw [run, List.map_cons, List.map_cons, ih hrest (h.keeps i s hs), htail]
    rfl

/-- The calls of the run can be put into any other order. -/
theorem Independent.final_perm (h : Independent op inv view apart) {inputs inputs' : List ι}
    (hperm : inputs.Perm inputs') {s : σ} (hapart : inputs.Pairwise apart) (hs : inv s) :
    final op inputs s = final op inputs' s := by
  induction hperm generalizing s with
  | nil => rfl
  | cons i _ ih => exact ih (List.pairwise_cons.mp hapart).2 (h.keeps i s hs)
  | swap i j rest =>
    obtain ⟨hj, -⟩ := List.pairwise_cons.mp hapart
    show final op rest (op i (op j s).2).2 = final op rest (op j (op i s).2).2
    rw [h.comm j i s hs (hj i List.mem_cons_self)]
  | trans hperm _ ih ih' =>
    exact (ih hapart hs).trans (ih' ((hperm.pairwise_iff (h.symm _ _)).mp hapart) hs)

end Mutating

end TokenStudio
