import Mathlib.Algebra.Ring.Nat
import Mathlib.Tactic.Common

/-!
# Saturating and checked `u64` arithmetic

The three operations that the modelled time policies use, with their value as
a natural number.
-/

namespace TokenStudio

/-- `u64::MAX`. -/
def u64Max : Nat := 2 ^ 64 - 1

/-- `u64::saturating_add`. -/
def saturatingAdd (a b : UInt64) : UInt64 := UInt64.ofNat (min (a.toNat + b.toNat) u64Max)

/-- `u64::saturating_sub`. -/
def saturatingSub (a b : UInt64) : UInt64 := UInt64.ofNat (a.toNat - b.toNat)

/-- `u64::checked_add`. -/
def checkedAdd (a b : UInt64) : Option UInt64 :=
  if a.toNat + b.toNat ≤ u64Max then some (UInt64.ofNat (a.toNat + b.toNat)) else none

theorem saturatingAdd_toNat (a b : UInt64) :
    (saturatingAdd a b).toNat = min (a.toNat + b.toNat) u64Max := by
  rw [saturatingAdd, UInt64.toNat_ofNat_of_lt']
  show min (a.toNat + b.toNat) (2 ^ 64 - 1) < 2 ^ 64
  omega

theorem saturatingSub_toNat (a b : UInt64) :
    (saturatingSub a b).toNat = a.toNat - b.toNat := by
  have ha : a.toNat < 2 ^ 64 := a.toNat_lt
  rw [saturatingSub, UInt64.toNat_ofNat_of_lt']
  show a.toNat - b.toNat < 2 ^ 64
  omega

/-- A value is at most a saturated sum exactly when it is at most the sum. -/
theorem le_saturatingAdd_iff {a b c : UInt64} :
    a ≤ saturatingAdd b c ↔ a.toNat ≤ b.toNat + c.toNat := by
  have ha : a.toNat < 2 ^ 64 := a.toNat_lt
  rw [UInt64.le_iff_toNat_le, saturatingAdd_toNat]
  unfold u64Max
  omega

theorem saturatingSub_le_iff {a b c : UInt64} :
    saturatingSub a b ≤ c ↔ a.toNat ≤ b.toNat + c.toNat := by
  rw [UInt64.le_iff_toNat_le, saturatingSub_toNat]
  omega

/-- A checked sum is the sum, and it exists exactly when it fits. -/
theorem checkedAdd_eq_some {a b c : UInt64} :
    checkedAdd a b = some c ↔ c.toNat = a.toNat + b.toNat := by
  have hc : c.toNat < 2 ^ 64 := c.toNat_lt
  unfold checkedAdd
  split
  · rename_i hle
    have hlt : a.toNat + b.toNat < 2 ^ 64 := by
      unfold u64Max at hle
      omega
    rw [Option.some.injEq, ← UInt64.toNat_inj, UInt64.toNat_ofNat_of_lt' hlt]
    exact eq_comm
  · rename_i hgt
    unfold u64Max at hgt
    simp only [reduceCtorEq, false_iff]
    omega

end TokenStudio
