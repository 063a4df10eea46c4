import Mathlib.Data.List.Forall2

/-!
# Guarded computations

A verifier is a list of guards in front of a result: each guard either stops the computation with an
error or lets it go on. The two guards are `failIf` (an early return) and `okOr` (an optional value
that must be there).
-/

namespace Foundation

def failIf {ε : Type} (bad : Prop) [Decidable bad] (e : ε) : Except ε Unit :=
  if bad then .error e else .ok ()

def okOr {ε α : Type} (x : Option α) (e : ε) : Except ε α :=
  match x with
  | some a => .ok a
  | none => .error e

section Success

variable {ε δ α β : Type} {e : ε} {u : Unit}

@[simp] lemma failIf_ok {bad : Prop} [Decidable bad] : failIf bad e = .ok u ↔ ¬ bad := by
  unfold failIf
  split <;> simp_all

variable {a : α}

@[simp] lemma okOr_ok {x : Option α} : okOr x e = .ok a ↔ x = some a := by
  cases x <;> simp [okOr]

variable {x : Except ε α} {f : α → Except ε β} {b : β}

lemma bind_ok : (x >>= f) = .ok b ↔ ∃ a, x = .ok a ∧ f a = .ok b := by
  cases x with
  | error e =>
    constructor
    · nofun
    · rintro ⟨a, ha, _⟩
      cases ha
  | ok a =>
    constructor
    · intro h
      exact ⟨a, rfl, h⟩
    · rintro ⟨a', ha, hf⟩
      cases ha
      exact hf

lemma guard_bind_ok {x : Except ε Unit} {f : Unit → Except ε β} :
    (x >>= f) = .ok b ↔ x = .ok () ∧ f () = .ok b := by
  rw [bind_ok]
  constructor
  · rintro ⟨⟨⟩, hx, hf⟩
    exact ⟨hx, hf⟩
  · rintro ⟨hx, hf⟩
    exact ⟨(), hx, hf⟩

@[simp] lemma pure_ok {b : α} : (pure a : Except ε α) = .ok b ↔ a = b := by
  constructor
  · intro h
    cases h
    rfl
  · rintro rfl
    rfl

variable {xs : List α}

lemma forM_ok {check : α → Except ε Unit} :
    xs.forM check = .ok u ↔ ∀ x ∈ xs, check x = .ok () := by
  induction xs with
  | nil => exact ⟨nofun, fun _ => rfl⟩
  | cons x xs ih =>
    have h : (x :: xs).forM check = check x >>= fun _ => xs.forM check := rfl
    rw [h, guard_bind_ok, ih, List.forall_mem_cons]

@[simp] lemma mapError_ok {g : ε → δ} : x.mapError g = .ok a ↔ x = .ok a := by
  cases x <;> simp [Except.mapError]

lemma mapM_some_ok {r : Option β} : (some a).mapM f = .ok r ↔ ∃ b, f a = .ok b ∧ some b = r := by
  rw [Option.mapM_some]
  cases f a <;> simp [Functor.map, Except.map]

variable {ys : List β}

lemma mapM_ok : xs.mapM f = .ok ys ↔ List.Forall₂ (fun x y => f x = .ok y) xs ys := by
  induction xs generalizing ys with
  | nil =>
    rw [List.mapM_nil, pure_ok, List.forall₂_nil_left_iff]
    exact eq_comm
  | cons x xs ih =>
    rw [List.mapM_cons, bind_ok]
    simp only [bind_ok, pure_ok, ih, List.forall₂_cons_left_iff]
    constructor
    · rintro ⟨y, hy, ys', hys, rfl⟩
      exact ⟨y, ys', hy, hys, rfl⟩
    · rintro ⟨y, ys', hy, hys, rfl⟩
      exact ⟨y, hy, ys', hys, rfl⟩

lemma mem_of_mapM (h : xs.mapM f = .ok ys) {y : β} : y ∈ ys ↔ ∃ x ∈ xs, f x = .ok y := by
  induction xs generalizing ys with
  | nil =>
    rw [List.mapM_nil, pure_ok] at h
    simp [← h]
  | cons x xs ih =>
    obtain ⟨z, zs, hz, hzs, rfl⟩ := List.forall₂_cons_left_iff.mp (mapM_ok.mp h)
    rw [List.mem_cons, ih (mapM_ok.mpr hzs), List.exists_mem_cons_iff, hz, Except.ok.injEq, eq_comm]

lemma exists_mapM : (∃ ys, xs.mapM f = .ok ys) ↔ ∀ x ∈ xs, ∃ y, f x = .ok y := by
  simp only [mapM_ok]
  induction xs with
  | nil => exact ⟨nofun, fun _ => ⟨[], List.Forall₂.nil⟩⟩
  | cons x xs ih =>
    rw [List.forall_mem_cons, ← ih]
    constructor
    · rintro ⟨_, hall⟩
      obtain ⟨y, ys, hy, hys, rfl⟩ := List.forall₂_cons_left_iff.mp hall
      exact ⟨⟨y, hy⟩, ys, hys⟩
    · rintro ⟨⟨y, hy⟩, ys, hys⟩
      exact ⟨y :: ys, List.Forall₂.cons hy hys⟩

def checkEach (check : List α → α → Except ε Unit) : List α → List α → Except ε Unit
  | _, [] => .ok ()
  | before, x :: xs => do
    check before x
    checkEach check (x :: before) xs

section Each

variable {check : List α → α → Except ε Unit} {before xs : List α} {u : Unit}

lemma checkEach_cons {x : α} : checkEach check before (x :: xs) = .ok u ↔
      check before x = .ok () ∧ checkEach check (x :: before) xs = .ok u := guard_bind_ok

lemma forall_of_checkEach {P : α → Prop} (hP : ∀ before x, check before x = .ok () → P x)
    (h : checkEach check before xs = .ok u) : ∀ x ∈ xs, P x := by
  induction xs generalizing before with
  | nil => exact nofun
  | cons x xs ih =>
    rw [checkEach_cons] at h
    exact List.forall_mem_cons.mpr ⟨hP before x h.1, ih h.2⟩

lemma checkEach_imp {check' : List α → α → Except ε Unit}
    (himp : ∀ before x, check before x = .ok () → check' before x = .ok ())
    (h : checkEach check before xs = .ok u) : checkEach check' before xs = .ok u := by
  induction xs generalizing before with
  | nil => exact h
  | cons x xs ih =>
    rw [checkEach_cons] at h ⊢
    exact ⟨himp before x h.1, ih h.2⟩

variable {κ : Type}

lemma nodup_of_checkEach {key : α → κ}
    (hkey : ∀ before x, check before x = .ok () → key x ∉ before.map key)
    (h : checkEach check before xs = .ok u) (hbefore : (before.map key).Nodup) :
    (xs.map key).Nodup ∧ ∀ x ∈ xs, key x ∉ before.map key := by
  induction xs generalizing before with
  | nil => exact ⟨List.nodup_nil, nofun⟩
  | cons x xs ih =>
    rw [checkEach_cons] at h
    have hx := hkey before x h.1
    obtain ⟨hnod, hnew⟩ := ih h.2 (List.nodup_cons.mpr ⟨hx, hbefore⟩)
    refine ⟨List.nodup_cons.mpr ⟨?_, hnod⟩, List.forall_mem_cons.mpr ⟨hx, fun y hy hmem => ?_⟩⟩
    · intro hmem
      obtain ⟨y, hy, hyx⟩ := List.mem_map.mp hmem
      exact hnew y hy (by simp [hyx])
    · exact hnew y hy (List.mem_cons_of_mem _ hmem)

lemma checkEach_distinct_ok (key : α → κ) (P : α → Prop)
    (h : ∀ before x, check before x = .ok () ↔ P x ∧ key x ∉ before.map key) :
    checkEach check before xs = .ok u ↔
      (∀ x ∈ xs, P x ∧ key x ∉ before.map key) ∧ (xs.map key).Nodup := by
  induction xs generalizing before with
  | nil => exact ⟨fun _ => ⟨nofun, List.nodup_nil⟩, fun _ => rfl⟩
  | cons x xs ih =>
    rw [checkEach_cons, ih, h, List.forall_mem_cons]
    simp only [List.map_cons, List.nodup_cons, List.mem_cons, not_or]
    constructor
    · rintro ⟨hx, hxs, hnod⟩
      refine ⟨⟨hx, fun y hy => ⟨(hxs y hy).1, (hxs y hy).2.2⟩⟩, fun hmem => ?_, hnod⟩
      obtain ⟨y, hy, hkey⟩ := List.mem_map.mp hmem
      exact (hxs y hy).2.1 hkey
    · rintro ⟨⟨hx, hxs⟩, hnew, hnod⟩
      refine ⟨hx, fun y hy => ⟨(hxs y hy).1, fun hkey => ?_, (hxs y hy).2⟩, hnod⟩
      exact hnew (hkey ▸ List.mem_map_of_mem hy)

end Each

end Success

end Foundation
