import Mathlib.Data.List.Basic
import Mathlib.Data.List.Nodup
import Mathlib.Data.List.Induction

/-!
# First copies

`List.eraseDups` keeps the first copy of each element of a list.  The lemmas of the first
half say how it behaves when a list grows at its end.

The second half is about the values of a partial function along a list.  `FirstAt` is
the first place of a value, and `getLast?_eraseDups_filterMap` says that the last
of the first copies is the value whose first place is the latest.
-/

namespace TokenStudio

section

variable {α : Type} [DecidableEq α]

theorem eraseDups_of_nodup {xs : List α} (h : xs.Nodup) : xs.eraseDups = xs := by
  induction xs with
  | nil => rfl
  | cons x xs ih =>
    obtain ⟨hx, hxs⟩ := List.nodup_cons.mp h
    have hfilter : xs.filter (fun y => !y == x) = xs := by
      rw [List.filter_eq_self]
      intro y hy
      have hne : y ≠ x := by
        rintro rfl
        exact hx hy
      simpa using hne
    rw [List.eraseDups_cons, hfilter, ih hxs]

/-- A copy of an earlier element changes nothing. -/
theorem eraseDups_append_cons_of_mem {xs : List α} {x : α} (h : x ∈ xs) (ys : List α) :
    (xs ++ x :: ys).eraseDups = (xs ++ ys).eraseDups := by
  rw [List.eraseDups_append, List.eraseDups_append, List.cons_removeAll]
  simp [h]

theorem length_le_eraseDups_append {xs : List α} (h : xs.Nodup) (ys : List α) :
    xs.length ≤ (xs ++ ys).eraseDups.length := by
  rw [List.eraseDups_append, eraseDups_of_nodup h, List.length_append]
  omega

theorem eraseDups_sublist (xs : List α) : xs.eraseDups.Sublist xs := by
  -- the filtered rest is shorter, but it is not the rest
  induction hn : xs.length using Nat.strongRecOn generalizing xs with
  | ind n ih =>
    cases xs with
    | nil => exact List.Sublist.refl _
    | cons x xs =>
      have hlt : (xs.filter fun y => !y == x).length < n := by
        rw [← hn]
        exact Nat.lt_succ_of_le (List.length_filter_le _ _)
      rw [List.eraseDups_cons]
      exact ((ih _ hlt _ rfl).trans List.filter_sublist).cons_cons x

theorem nodup_eraseDups (xs : List α) : xs.eraseDups.Nodup := by
  induction xs using List.reverseRecOn with
  | nil => simp
  | append_singleton xs x ih =>
    rw [List.eraseDups_append]
    by_cases hx : x ∈ xs
    · simpa [List.removeAll, hx] using ih
    · have hnot : x ∉ xs.eraseDups := by rwa [List.mem_eraseDups]
      simpa [List.removeAll, hx, List.eraseDups_cons] using
        ih.append (List.nodup_singleton x) (by simpa using hnot)

/-- The first copies of a list and one more element. -/
theorem eraseDups_concat (xs : List α) (x : α) :
    (xs ++ [x]).eraseDups = if x ∈ xs then xs.eraseDups else xs.eraseDups ++ [x] := by
  rw [List.eraseDups_append]
  by_cases hx : x ∈ xs
  · simp [List.removeAll, hx]
  · simp [List.removeAll, hx, List.eraseDups_cons]

theorem eraseDups_eraseDups_append (xs ys : List α) :
    (xs.eraseDups ++ ys).eraseDups = (xs ++ ys).eraseDups := by
  have hsame : ys.removeAll xs.eraseDups = ys.removeAll xs := by
    simp [List.removeAll]
  rw [List.eraseDups_append, List.eraseDups_append, eraseDups_of_nodup (nodup_eraseDups xs),
    hsame]

end

/-! ## First places -/

section

variable {α β : Type} {f : β → Option α} {xs : List β} {a : α} {k : Nat}

/-- The first element of the list with the value `a` is the one at place `k`. -/
structure FirstAt (f : β → Option α) (xs : List β) (a : α) (k : Nat) : Prop where
  here : ∃ x, xs[k]? = some x ∧ f x = some a
  before : ∀ j < k, ∀ x, xs[j]? = some x → f x ≠ some a

theorem FirstAt.lt_length (h : FirstAt f xs a k) : k < xs.length := by
  obtain ⟨x, hx, -⟩ := h.here
  exact (List.getElem?_eq_some_iff.mp hx).1

/-- The first places in a list with one more element. -/
theorem firstAt_concat {x : β} :
    FirstAt f (xs ++ [x]) a k ↔
      FirstAt f xs a k ∨ k = xs.length ∧ f x = some a ∧ a ∉ xs.filterMap f := by
  constructor
  · intro h
    obtain ⟨y, hy, hfy⟩ := h.here
    have hbefore : ∀ j < k, ∀ z, xs[j]? = some z → f z ≠ some a := by
      intro j hj z hz
      have hlt := (List.getElem?_eq_some_iff.mp hz).1
      exact h.before j hj z (by rw [List.getElem?_append_left hlt, hz])
    by_cases hk : k < xs.length
    · rw [List.getElem?_append_left hk] at hy
      exact Or.inl ⟨⟨y, hy, hfy⟩, hbefore⟩
    · have hlt := h.lt_length
      rw [List.length_append, List.length_singleton] at hlt
      obtain rfl : k = xs.length := by omega
      rw [List.getElem?_concat_length] at hy
      obtain rfl := Option.some.inj hy
      refine Or.inr ⟨rfl, hfy, ?_⟩
      intro hmem
      obtain ⟨z, hz, hfz⟩ := List.mem_filterMap.mp hmem
      obtain ⟨j, hj, hget⟩ := List.mem_iff_getElem.mp hz
      exact hbefore j hj z (by rw [List.getElem?_eq_getElem hj, hget]) hfz
  · rintro (h | ⟨rfl, hfx, hnew⟩)
    · obtain ⟨y, hy, hfy⟩ := h.here
      refine ⟨⟨y, by rw [List.getElem?_append_left h.lt_length, hy], hfy⟩, ?_⟩
      intro j hj z hz
      rw [List.getElem?_append_left (Nat.lt_trans hj h.lt_length)] at hz
      exact h.before j hj z hz
    · refine ⟨⟨x, List.getElem?_concat_length, hfx⟩, ?_⟩
      intro j hj z hz hfz
      rw [List.getElem?_append_left hj] at hz
      exact hnew (List.mem_filterMap.mpr ⟨z, List.mem_of_getElem? hz, hfz⟩)

/-- The last of the first copies is the value whose first place is the latest. -/
theorem getLast?_eraseDups_filterMap [DecidableEq α] :
    (xs.filterMap f).eraseDups.getLast? = some a ↔
      ∃ k, FirstAt f xs a k ∧ ∀ b j, FirstAt f xs b j → j ≤ k := by
  induction xs using List.reverseRecOn with
  | nil =>
    refine iff_of_false (by simp) ?_
    rintro ⟨k, hk, -⟩
    exact absurd hk.lt_length (Nat.not_lt_zero k)
  | append_singleton xs x ih =>
    by_cases hnew : ∃ b, f x = some b ∧ b ∉ xs.filterMap f
    · obtain ⟨b, hfx, hb⟩ := hnew
      have hlast : FirstAt f (xs ++ [x]) b xs.length := firstAt_concat.mpr (Or.inr ⟨rfl, hfx, hb⟩)
      have hsplit : (xs ++ [x]).filterMap f = xs.filterMap f ++ [b] := by
        simp [hfx]
      rw [hsplit, eraseDups_concat, if_neg hb, List.getLast?_concat]
      constructor
      · intro heq
        obtain rfl := Option.some.inj heq
        refine ⟨xs.length, hlast, ?_⟩
        intro c j hj
        have hlt := hj.lt_length
        rw [List.length_append, List.length_singleton] at hlt
        omega
      · rintro ⟨k, hk, hmax⟩
        rcases firstAt_concat.mp hk with hold | ⟨-, hfx', -⟩
        · exact absurd (hmax b xs.length hlast) (Nat.not_le.mpr hold.lt_length)
        · rw [← hfx, hfx']
    · -- the new element has no value, or a value that has been there
      have hsame : ∀ c j, FirstAt f (xs ++ [x]) c j ↔ FirstAt f xs c j := by
        intro c j
        rw [firstAt_concat]
        exact or_iff_left fun h => hnew ⟨c, h.2⟩
      have hdups : ((xs ++ [x]).filterMap f).eraseDups = (xs.filterMap f).eraseDups := by
        cases hfx : f x with
        | none => simp [hfx]
        | some b =>
          have hb : b ∈ xs.filterMap f := by
            by_contra hb
            exact hnew ⟨b, hfx, hb⟩
          have hsplit : (xs ++ [x]).filterMap f = xs.filterMap f ++ [b] := by
            simp [hfx]
          rw [hsplit, eraseDups_concat, if_pos hb]
      simp only [hdups, hsame, ih]

end

end TokenStudio
