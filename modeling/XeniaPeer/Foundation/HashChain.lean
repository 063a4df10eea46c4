import Mathlib.Data.List.Forall2
import Mathlib.Data.List.Induction

/-!
# Hash-linked lists

A list of records is *linked* from `(n, h)` when the records are numbered `n, n + 1, …`, the first
one points at `h` and each later one at the digest of the record before it (`Linked`). The head of
such a list is the digest of its last record (`headAfter`).
-/

namespace Foundation

structure Links (α H : Type) where
  seq : α → Nat
  prev : α → H
  digest : α → H

namespace Links

variable {α H : Type} (L : Links α H)

def Linked (good : α → Prop) : Nat → H → List α → Prop
  | _, _, [] => True
  | n, h, x :: xs => L.seq x = n ∧ L.prev x = h ∧ good x ∧ Linked good (n + 1) (L.digest x) xs

def headAfter : H → List α → H
  | h, [] => h
  | _, x :: xs => headAfter (L.digest x) xs

variable {L}

lemma headAfter_append (h : H) (xs ys : List α) :
    L.headAfter h (xs ++ ys) = L.headAfter (L.headAfter h xs) ys := by
  induction xs generalizing h with
  | nil => rfl
  | cons x xs ih => exact ih (L.digest x)

@[simp] lemma headAfter_concat (h : H) (xs : List α) (x : α) :
    L.headAfter h (xs ++ [x]) = L.digest x := by
  rw [headAfter_append]
  rfl

lemma headAfter_getLast (h : H) {xs : List α} (hne : xs ≠ []) :
    L.headAfter h xs = L.digest (xs.getLast hne) := by
  conv_lhs => rw [← List.dropLast_append_getLast hne]
  exact headAfter_concat _ _ _

section Linked

variable {good : α → Prop} {n : Nat} {h : H} {xs ys : List α}

lemma linked_append : L.Linked good n h (xs ++ ys) ↔
      L.Linked good n h xs ∧ L.Linked good (n + xs.length) (L.headAfter h xs) ys := by
  induction xs generalizing n h with
  | nil => simp [Linked, headAfter]
  | cons x xs ih =>
    simp only [List.cons_append, Linked, headAfter, ih, and_assoc, List.length_cons]
    rw [Nat.add_right_comm n 1, Nat.add_assoc n]

variable {x : α}

lemma linked_concat : L.Linked good n h (xs ++ [x]) ↔
      L.Linked good n h xs ∧ L.seq x = n + xs.length ∧ L.prev x = L.headAfter h xs ∧ good x := by
  rw [linked_append]
  simp [Linked]

lemma Linked.good_of_mem (hxs : L.Linked good n h xs) (hx : x ∈ xs) : good x := by
  induction xs generalizing n h with
  | nil => cases hx
  | cons y ys ih =>
    obtain ⟨_, _, hgood, hrest⟩ := hxs
    rcases List.mem_cons.mp hx with rfl | hmem
    · exact hgood
    · exact ih hrest hmem

lemma Linked.seq_getLast (hxs : L.Linked good n h xs) (hne : xs ≠ []) :
    L.seq (xs.getLast hne) + 1 = n + xs.length := by
  obtain ⟨ys, y, rfl⟩ := List.eq_nil_or_concat' xs |>.resolve_left hne
  have hy := (linked_concat.mp hxs).2.1
  simp [hy, Nat.add_assoc]

lemma Linked.start_unique {good' : α → Prop} {n' : Nat} {h' : H} (hxs : L.Linked good n h xs)
    (hxs' : L.Linked good' n' h' xs) (hhead : L.headAfter h xs = L.headAfter h' xs) : h = h' := by
  cases xs with
  | nil => exact hhead
  | cons x xs => exact hxs.2.1.symm.trans hxs'.2.1

lemma headAfter_congr {R : α → α → Prop} (hR : ∀ x y, R x y → L.digest x = L.digest y)
    (hall : List.Forall₂ R xs ys) : L.headAfter h xs = L.headAfter h ys := by
  induction hall generalizing h with
  | nil => rfl
  | cons hxy _ ih =>
    simp only [headAfter]
    rw [hR _ _ hxy]
    exact ih

end Linked

section Commitment

variable {good good' : α → Prop} {R : α → α → Prop} {n : Nat} {h : H} {xs ys : List α}

lemma Linked.commits_of_length (hR : ∀ x y, R x y → L.prev x = L.prev y)
    (hxs : L.Linked good n h xs) (hys : L.Linked good' n h ys)
    (hfree : ∀ x ∈ xs, ∀ y ∈ ys, L.digest x = L.digest y → R x y) (hlen : xs.length = ys.length)
    (hhead : L.headAfter h xs = L.headAfter h ys) : List.Forall₂ R xs ys := by
  induction xs using List.reverseRecOn generalizing ys with
  | nil =>
    rw [List.length_eq_zero_iff.mp hlen.symm]
    exact .nil
  | append_singleton xs x ih =>
    obtain ⟨ys, y, rfl⟩ := List.eq_nil_or_concat' ys |>.resolve_left (by
      rintro rfl
      simp at hlen)
    obtain ⟨hxs', _, hxpr, _⟩ := linked_concat.mp hxs
    obtain ⟨hys', _, hypr, _⟩ := linked_concat.mp hys
    have hxy : R x y := hfree x (by simp) y (by simp) (by simpa using hhead)
    have hfr : L.headAfter h xs = L.headAfter h ys := by
      rw [← hxpr, ← hypr, hR x y hxy]
    have hrest := ih hxs' hys'
      (fun a ha b hb => hfree a (List.mem_append_left _ ha) b (List.mem_append_left _ hb))
      (by simpa using hlen) hfr
    exact List.rel_append hrest (.cons hxy .nil)

lemma Linked.commits (hR : ∀ x y, R x y → L.seq x = L.seq y ∧ L.prev x = L.prev y)
    (hxs : L.Linked good n h xs) (hys : L.Linked good' n h ys)
    (hfree : ∀ x ∈ xs, ∀ y ∈ ys, L.digest x = L.digest y → R x y) (hxne : xs ≠ [])
    (hyne : ys ≠ []) (hhead : L.digest (xs.getLast hxne) = L.digest (ys.getLast hyne)) :
    List.Forall₂ R xs ys := by
  have hlast := hfree _ (List.getLast_mem hxne) _ (List.getLast_mem hyne) hhead
  have hseq := (hR _ _ hlast).1
  have hx := hxs.seq_getLast hxne
  have hy := hys.seq_getLast hyne
  refine hxs.commits_of_length (fun x y hxy => (hR x y hxy).2) hys hfree (by omega) ?_
  rw [headAfter_getLast h hxne, headAfter_getLast h hyne, hhead]

end Commitment

end Links

end Foundation
