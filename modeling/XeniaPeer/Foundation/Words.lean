import Mathlib.Algebra.Order.Ring.Nat

/-!
# Sums and differences of 64-bit numbers

`checkedAdd`, `checkedSub` and `saturatingAdd` as the standard library of a language with
fixed-width numbers has them, with what they are as natural numbers.
-/

namespace Foundation

def checkedAdd (a : UInt64) (n : Nat) : Option UInt64 :=
  if a.toNat + n < 2 ^ 64 then some (UInt64.ofNat (a.toNat + n)) else none

def saturatingAdd (a : UInt64) (n : Nat) : UInt64 :=
  (checkedAdd a n).getD (UInt64.ofNat (2 ^ 64 - 1))

def checkedSub (a b : UInt64) : Option UInt64 := if b ≤ a then some (a - b) else none

variable {a b : UInt64} {n : Nat}

lemma toNat_of_checkedAdd (h : checkedAdd a n = some b) : b.toNat = a.toNat + n := by
  unfold checkedAdd at h
  split at h
  · rename_i hlt
    cases h
    exact UInt64.toNat_ofNat_of_lt' hlt
  · cases h

lemma checkedAdd_congr {m : Nat} (h : a.toNat + n = b.toNat + m) :
    checkedAdd a n = checkedAdd b m := by
  unfold checkedAdd
  rw [h]

lemma toNat_saturatingAdd_eq_min :
    (saturatingAdd a n).toNat = min (a.toNat + n) (2 ^ 64 - 1) := by
  unfold saturatingAdd checkedAdd
  split
  · rename_i h
    rw [Option.getD_some, UInt64.toNat_ofNat_of_lt' h]
    omega
  · rw [Option.getD_none, UInt64.toNat_ofNat_of_lt' (by decide)]
    omega

lemma toNat_saturatingAdd (h : a.toNat + n < 2 ^ 64) :
    (saturatingAdd a n).toNat = a.toNat + n := by
  rw [toNat_saturatingAdd_eq_min]
  omega

lemma saturatingAdd_mono (h : a ≤ b) : saturatingAdd a n ≤ saturatingAdd b n := by
  have hle := UInt64.le_iff_toNat_le.mp h
  rw [UInt64.le_iff_toNat_le, toNat_saturatingAdd_eq_min, toNat_saturatingAdd_eq_min]
  omega

lemma checkedSub_eq_some {d : UInt64} : checkedSub a b = some d ↔ b ≤ a ∧ a - b = d := by
  simp [checkedSub]

lemma toNat_sub_eq_iff (h : a ≤ b) (n : Nat) : n = (b - a).toNat ↔ a.toNat + n = b.toNat := by
  have hle := UInt64.le_iff_toNat_le.mp h
  rw [UInt64.toNat_sub_of_le b a h]
  omega

end Foundation
