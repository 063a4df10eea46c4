import Mathlib.Data.Set.Card

/-!
# Counting against a set

If the members of a list are matched, one by one, with pairwise different tokens, then the
members with a given property are no more than the things their tokens stand for
(`countP_le_encard`).
-/

namespace Foundation

variable {α β γ : Type} {R : α → β → Prop} {xs : List α} {ys : List β}

lemma exists_partners (p : α → Bool) (h : List.Forall₂ R xs ys) :
    ∃ zs : List β, zs.Sublist ys ∧ zs.length = xs.countP p ∧ ∀ z ∈ zs, ∃ x, p x = true ∧ R x z := by
  induction h with
  | nil => exact ⟨[], List.Sublist.refl _, rfl, by simp⟩
  | @cons x y xs ys hxy _ ih =>
    obtain ⟨zs, hsub, hlen, hall⟩ := ih
    by_cases hp : p x = true
    · refine ⟨y :: zs, hsub.cons_cons y, ?_, ?_⟩
      · rw [List.countP_cons_of_pos hp, List.length_cons, hlen]
      · intro z hz
        rcases List.mem_cons.mp hz with rfl | hz
        · exact ⟨x, hp, hxy⟩
        · exact hall z hz
    · refine ⟨zs, hsub.cons y, ?_, hall⟩
      rw [List.countP_cons_of_neg hp, hlen]

lemma length_le_encard {zs : List γ} {S : Set γ} (h : zs.Nodup) (hS : ∀ z ∈ zs, z ∈ S) :
    (zs.length : ℕ∞) ≤ S.encard := by
  classical
  have hcard : ((zs.toFinset : Set γ)).encard = zs.length := by
    rw [Set.encard_coe_eq_coe_finsetCard, List.toFinset_card_of_nodup h]
  rw [← hcard]
  refine Set.encard_le_encard ?_
  intro z hz
  exact hS z (by simpa using hz)

lemma countP_le_encard {p : α → Bool} {f : β → γ} (hf : Function.Injective f) {S : Set γ}
    (h : List.Forall₂ R xs ys) (hnodup : ys.Nodup)
    (hS : ∀ x y, p x = true → R x y → f y ∈ S) : (xs.countP p : ℕ∞) ≤ S.encard := by
  obtain ⟨zs, hsub, hlen, hall⟩ := exists_partners p h
  have hbd : ((zs.map f).length : ℕ∞) ≤ S.encard := by
    refine length_le_encard ((hnodup.sublist hsub).map hf) ?_
    intro z hz
    obtain ⟨y, hy, rfl⟩ := List.mem_map.mp hz
    obtain ⟨x, hx, hR⟩ := hall y hy
    exact hS x y hx hR
  rwa [List.length_map, hlen] at hbd

end Foundation
