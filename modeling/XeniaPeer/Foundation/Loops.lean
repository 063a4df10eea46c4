import Mathlib.Data.List.Basic

/-!
# Loops and rows

Counting loops as the source writes them: a loop that an iteration can break off, and loops inside
loops, which visit the cells of a grid row by row.
-/

namespace Foundation

variable {α β σ : Type}

def forBreak (f : α → σ → σ × Bool) : List α → σ → σ
  | [], s => s
  | a :: as, s => if (f a s).2 then (f a s).1 else forBreak f as (f a s).1

lemma forBreak_map (f : β → σ → σ × Bool) (g : α → β) (as : List α) (s : σ) :
    forBreak f (as.map g) s = forBreak (fun a => f (g a)) as s := by
  induction as generalizing s with
  | nil => rfl
  | cons a as ih => rw [List.map_cons, forBreak, forBreak, ih]

lemma forBreak_congr {f g : α → σ → σ × Bool} {as : List α} (h : ∀ a ∈ as, f a = g a) (s : σ) :
    forBreak f as s = forBreak g as s := by
  induction as generalizing s with
  | nil => rfl
  | cons a as ih =>
    obtain ⟨ha, has⟩ := List.forall_mem_cons.mp h
    rw [forBreak, forBreak, ha, ih has]

lemma forBreak_fixed {f : α → σ → σ × Bool} {s : σ} (h : ∀ a, f a s = (s, false))
    (as : List α) : forBreak f as s = s := by
  induction as with
  | nil => rfl
  | cons a as ih => simp [forBreak, h, ih]

section Nested

variable {f : α → σ → σ × Bool} {stop : σ → Bool}
  (hf : ∀ a s, stop s = false → (f a s).2 = stop (f a s).1)

include hf

lemma forBreak_append (as bs : List α) {s : σ} (hs : stop s = false) : forBreak f (as ++ bs) s =
      if stop (forBreak f as s) then forBreak f as s else forBreak f bs (forBreak f as s) := by
  induction as generalizing s with
  | nil => simp [forBreak, hs]
  | cons a as ih =>
    rw [List.cons_append, forBreak, forBreak]
    cases hstop : (f a s).2 with
    | true =>
      have hstop' := (hf a s hs).symm.trans hstop
      simp [hstop']
    | false =>
      have hstop' := (hf a s hs).symm.trans hstop
      simpa using ih hstop'

lemma forBreak_flatMap (cells : β → List α) (rows : List β) {s : σ} (hs : stop s = false) :
    forBreak (fun row s => (forBreak f (cells row) s, stop (forBreak f (cells row) s))) rows s =
      forBreak f (rows.flatMap cells) s := by
  induction rows generalizing s with
  | nil => rfl
  | cons row rows ih =>
    rw [List.flatMap_cons, forBreak_append hf _ _ hs, forBreak]
    cases hstop : stop (forBreak f (cells row) s) with
    | true => rfl
    | false => simpa using ih hstop

end Nested

lemma flatMap_range_row (rows cols : Nat) :
    ((List.range rows).flatMap fun r => (List.range cols).map fun c => r * cols + c) =
      List.range (rows * cols) := by
  induction rows with
  | zero => simp
  | succ rows ih =>
    rw [List.range_succ, List.flatMap_append, ih, List.flatMap_singleton, Nat.succ_mul,
      List.range_add]

lemma getElem?_flatMap {f : α → List β} {k : Nat} {as : List α}
    (hlen : ∀ a ∈ as, (f a).length = k) {c : Nat} (hc : c < k) (i : Nat) :
    (as.flatMap f)[i * k + c]? = as[i]?.bind fun a => (f a)[c]? := by
  induction as generalizing i with
  | nil => simp
  | cons a as ih =>
    obtain ⟨ha, has⟩ := List.forall_mem_cons.mp hlen
    rw [List.flatMap_cons]
    cases i with
    | zero =>
      rw [List.getElem?_append_left (by omega)]
      simp
    | succ i =>
      have h : (i + 1) * k + c = (f a).length + (i * k + c) := by
        rw [ha, Nat.succ_mul]
        omega
      rw [h, List.getElem?_append_right (Nat.le_add_right _ _), Nat.add_sub_cancel_left, ih has]
      rfl

end Foundation
