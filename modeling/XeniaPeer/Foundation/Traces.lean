import XeniaPeer.Foundation.HashChain

/-!
# Traces

What happened, in order. `EachAfter P trace` says of each entry that `P` holds of it and of what
came before it, so that a fact about an order of events can be kept along a run that appends to the
trace.
-/

namespace Foundation

variable {α : Type} {P : List α → α → Prop} {trace : List α}

def EachAfter (P : List α → α → Prop) (trace : List α) : Prop :=
  ∀ before x after, trace = before ++ x :: after → P before x

lemma eachAfter_nil : EachAfter P [] := by
  intro before x after h
  simp at h

variable {x : α}

lemma EachAfter.concat (h : EachAfter P trace) (hx : P trace x) : EachAfter P (trace ++ [x]) := by
  intro before y after hspl
  obtain rfl | ⟨after', z, rfl⟩ := List.eq_nil_or_concat after
  · obtain ⟨rfl, hxy⟩ := List.append_inj' hspl rfl
    cases hxy
    exact hx
  · have hspl' : trace ++ [x] = (before ++ y :: after') ++ [z] := by simpa using hspl
    obtain ⟨htra, -⟩ := List.append_inj' hspl' rfl
    exact h before y after' htra

variable {xs : List α}

lemma EachAfter.of_prefix (h : EachAfter P trace) (hxs : xs <+: trace) : EachAfter P xs := by
  obtain ⟨rest, rfl⟩ := hxs
  intro before x after hspl
  apply h before x (after ++ rest)
  rw [hspl, List.append_assoc, List.cons_append]

lemma EachAfter.last (h : EachAfter P (xs ++ [x])) : P xs x := h xs x [] rfl

lemma EachAfter.eq_of_headAfter {H : Type} {L : Links α H} {start : H}
    (hlink : ∀ before x, P before x → L.prev x = L.headAfter start before)
    (hfree : ∀ before before' x y, P before x → P before' y → L.digest x = L.digest y →
      L.prev x = L.prev y) (hstart : ∀ before x, P before x → L.digest x ≠ start)
    (h : EachAfter P trace) (hxs : xs <+: trace)
    (hhead : L.headAfter start xs = L.headAfter start trace) : xs = trace := by
  -- by induction on the trace: an earlier end with the digest of its last entry has that entry's
  -- link, so that the same happens one entry before
  induction trace using List.reverseRecOn generalizing xs with
  | nil => exact List.prefix_nil.mp hxs
  | append_singleton trace y ih =>
    by_cases hwho : xs = trace ++ [y]
    · exact hwho
    exfalso
    have hsh : xs <+: trace := (List.prefix_concat_iff.mp hxs).resolve_left hwho
    have hy := h.last
    rw [Links.headAfter_concat] at hhead
    obtain rfl | ⟨front, x, rfl⟩ := List.eq_nil_or_concat' xs
    · exact hstart trace y hy hhead.symm
    · have hx := (h.of_prefix hxs).last
      rw [Links.headAfter_concat] at hhead
      have hlin := hfree front trace x y hx hy hhead
      rw [hlink front x hx, hlink trace y hy] at hlin
      have hfr : front = trace := ih (h.of_prefix (List.prefix_append trace [y]))
          ((List.prefix_append front [x]).trans hsh) hlin
      have hlen := hsh.length_le
      rw [hfr, List.length_append, List.length_singleton] at hlen
      omega

end Foundation
