import Mathlib.Logic.Basic

/-!
# Stores that persist first and adopt then

A store keeps a value in memory and a copy of it on disk. A change is built as a candidate, written
to disk as a whole, and adopted in memory if the write is reported as done. A write that is reported
as failed, or during which the process ends, may have replaced the value on disk or not.
-/

namespace Foundation

inductive WriteEnd where
  | done
  | failed (took : Bool)
  /-- The process ends during the write. -/
  | died (took : Bool)
deriving DecidableEq

def WriteEnd.took : WriteEnd → Bool
  | .done => true
  | .failed took => took
  | .died took => took

structure Store (α : Type) where
  disk : α
  memory : α

namespace Store

variable {α : Type}

def commit (s : Store α) (candidate : α) (ending : WriteEnd) : Store α where
  disk := if ending.took then candidate else s.disk
  memory := if ending = .done then candidate else s.memory

def reload (s : Store α) : Store α := ⟨s.disk, s.disk⟩

def Shows (s : Store α) (p : α → Prop) : Prop := p s.memory ∨ p s.disk

@[simp] lemma commit_done (s : Store α) (candidate : α) :
    s.commit candidate .done = ⟨candidate, candidate⟩ := rfl

@[simp] lemma memory_reload (s : Store α) : s.reload.memory = s.disk := rfl

@[simp] lemma disk_reload (s : Store α) : s.reload.disk = s.disk := rfl

variable {ending : WriteEnd} {s : Store α} {p : α → Prop}

lemma shows_commit {candidate : α} (h : (s.commit candidate ending).Shows p) :
    s.Shows p ∨ ending.took = true ∧ p candidate := by
  cases ending with
  | done => exact .inr ⟨rfl, h.elim id id⟩
  | failed took | died took =>
    cases took with
    | false => exact .inl h
    | true => exact h.elim (fun hm => .inl (.inl hm)) (fun hd => .inr ⟨rfl, hd⟩)

lemma shows_of_reload (h : s.reload.Shows p) : s.Shows p := .inr (h.elim id id)

/-! ### Lists that grow at their end -/

variable {β : Type}

lemma subset_memory_commit (s : Store (List β)) (x : β) (ending : WriteEnd) :
    s.memory ⊆ (s.commit (s.memory ++ [x]) ending).memory := by
  unfold commit
  dsimp only
  split
  · exact List.subset_append_left _ _
  · exact List.Subset.refl _

lemma memory_subset_commit {s : Store (List β)} (h : s.memory ⊆ s.disk) (x : β)
    (ending : WriteEnd) :
    (s.commit (s.memory ++ [x]) ending).memory ⊆ (s.commit (s.memory ++ [x]) ending).disk := by
  cases ending with
  | done => exact List.Subset.refl _
  | failed took | died took =>
    cases took with
    | false => exact h
    | true => exact List.subset_append_left _ _

end Store

end Foundation
