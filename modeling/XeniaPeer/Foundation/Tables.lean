import Mathlib.Algebra.BigOperators.Group.List.Basic
import Mathlib.Data.List.Nodup

/-!
# Tables

A table is a list of entries, each with its key. Where no two entries have one key it stands for
a map whose iterator shows the entries in the order of the list: `findKey` looks an entry up,
`dropKey` takes the entry of a key out, `putKey` puts an entry in, in the place of the one that
has its key.
-/

namespace Foundation

section

variable {α κ : Type} [DecidableEq κ] (key : α → κ)

def findKey (k : κ) (xs : List α) : Option α := xs.find? (fun x => key x = k)

def dropKey (k : κ) (xs : List α) : List α := xs.filter (fun x => key x ≠ k)

def putKey (x : α) (xs : List α) : List α := x :: dropKey key (key x) xs

variable {key} {k : κ} {x y : α} {xs : List α}

lemma of_findKey (h : findKey key k xs = some x) : x ∈ xs ∧ key x = k :=
  ⟨List.mem_of_find?_eq_some h, by simpa using List.find?_some h⟩

lemma findKey_eq_some (hkeys : (xs.map key).Nodup) :
    findKey key k xs = some x ↔ x ∈ xs ∧ key x = k := by
  refine ⟨of_findKey, ?_⟩
  rintro ⟨hmem, hkey⟩
  cases hfd : findKey key k xs with
  | none => exact absurd hkey (by simpa using List.find?_eq_none.mp hfd x hmem)
  | some y =>
    obtain ⟨hy, hykey⟩ := of_findKey hfd
    rw [List.inj_on_of_nodup_map hkeys hy hmem (hykey.trans hkey.symm)]

lemma mem_dropKey : y ∈ dropKey key k xs ↔ y ∈ xs ∧ key y ≠ k := by
  simp [dropKey]

lemma mem_putKey : y ∈ putKey key x xs ↔ y = x ∨ y ∈ xs ∧ key y ≠ key x := by
  rw [putKey, List.mem_cons, mem_dropKey]

lemma dropKey_of_none (h : findKey key k xs = none) : dropKey key k xs = xs :=
  List.filter_eq_self.mpr fun y hy => by simpa using List.find?_eq_none.mp h y hy

lemma not_mem_of_findKey (h : findKey key k xs = none) : k ∉ xs.map key := by
  intro hmem
  obtain ⟨y, hy, hkey⟩ := List.mem_map.mp hmem
  exact absurd hkey (by simpa using List.find?_eq_none.mp h y hy)

lemma not_mem_dropKey : k ∉ (dropKey key k xs).map key := by
  intro hmem
  obtain ⟨y, hy, hkey⟩ := List.mem_map.mp hmem
  exact (mem_dropKey.mp hy).2 hkey

lemma perm_dropKey (hkeys : (xs.map key).Nodup) (h : findKey key k xs = some x) :
    xs.Perm (x :: dropKey key k xs) := by
  induction xs with
  | nil => cases h
  | cons y ys ih =>
    obtain ⟨hnew, hrest⟩ := List.nodup_cons.mp hkeys
    by_cases hy : key y = k
    · obtain rfl : y = x := by simpa [findKey, hy] using h
      have hnone : findKey key k ys = none := by
        refine List.find?_eq_none.mpr fun z hz hkey => hnew ?_
        rw [hy, ← of_decide_eq_true hkey]
        exact List.mem_map_of_mem hz
      have hdrop : dropKey key k (y :: ys) = ys := by
        rw [dropKey, List.filter_cons_of_neg (by simp [hy])]
        exact dropKey_of_none hnone
      rw [hdrop]
    · have hfind : findKey key k ys = some x := by simpa [findKey, hy] using h
      have hdrop : dropKey key k (y :: ys) = y :: dropKey key k ys :=
        List.filter_cons_of_pos (by simp [hy])
      rw [hdrop]
      exact ((ih hrest hfind).cons y).trans (List.Perm.swap ..)

lemma dropKey_sublist : (dropKey key k xs).Sublist xs := List.filter_sublist

lemma nodup_dropKey (h : (xs.map key).Nodup) : ((dropKey key k xs).map key).Nodup :=
  h.sublist (dropKey_sublist.map key)

lemma nodup_putKey (h : (xs.map key).Nodup) : ((putKey key x xs).map key).Nodup := by
  exact List.nodup_cons.mpr ⟨not_mem_dropKey, nodup_dropKey h⟩

end

end Foundation
