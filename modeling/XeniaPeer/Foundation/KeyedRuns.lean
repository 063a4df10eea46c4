import Mathlib.Data.Finset.Card
import XeniaPeer.Foundation.Codes

/-!
# Automata kept by key

A program that reads one stream of events about many subjects keeps an automaton for each subject in
an ordered map and advances the one that an event is about (`advanceKey`). An event that is about no
subject leaves the map alone, and one that its automaton refuses stops the pass.
-/

namespace Foundation

def compareBytes {n : Nat} (a b : FixedBytes n) : Ordering := compare a.toList b.toList

instance {n : Nat} : Std.TransCmp (compareBytes (n := n)) :=
  inferInstanceAs (Std.TransCmp (compareOn List.Vector.toList))

instance {n : Nat} : Std.LawfulEqCmp (compareBytes (n := n)) where
  eq_of_compare h := List.Vector.toList_injective (Std.LawfulEqCmp.eq_of_compare h)

section

variable {K V E : Type} [DecidableEq K] {cmp : K → K → Ordering} [Std.TransCmp cmp]
  [Std.LawfulEqCmp cmp] (key : E → Option K) (init : V) (step : V → E → Option V)

def eventsOf (k : K) (es : List E) : List E := es.filter (fun e => key e = some k)

def advanceKey (m : Std.TreeMap K V cmp) (e : E) : Option (Std.TreeMap K V cmp) :=
  match key e with
  | none => some m
  | some k => (step (m.getD k init) e).map (fun v => m.insert k v)

def HoldsRuns (es : List E) (m : Std.TreeMap K V cmp) : Prop :=
  ∀ k, m[k]? = if eventsOf key k es = [] then none else (eventsOf key k es).foldlM step init

variable {key init step}

lemma eventsOf_concat (k : K) (es : List E) (e : E) :
    eventsOf key k (es ++ [e]) = eventsOf key k es ++ if key e = some k then [e] else [] := by
  unfold eventsOf
  rw [List.filter_append]
  by_cases h : key e = some k <;> simp [h]

lemma eventsOf_eq_nil {k : K} {es : List E} : eventsOf key k es = [] ↔ k ∉ es.filterMap key := by
  simp [eventsOf, List.filter_eq_nil_iff]

omit [Std.LawfulEqCmp cmp] in
lemma HoldsRuns.getD {es : List E} {m : Std.TreeMap K V cmp} (h : HoldsRuns key init step es m)
    (hruns : ∀ k, ((eventsOf key k es).foldlM step init).isSome) (k : K) :
    (eventsOf key k es).foldlM step init = some (m.getD k init) := by
  rw [Std.TreeMap.getD_eq_getD_getElem?, h k]
  by_cases hnil : eventsOf key k es = []
  · rw [if_pos hnil, hnil]
    rfl
  · obtain ⟨v, hv⟩ := Option.isSome_iff_exists.mp (hruns k)
    rw [if_neg hnil, hv]
    rfl

lemma advanceKeys_eq_some {es : List E} {m : Std.TreeMap K V cmp}
    (h : es.foldlM (advanceKey key init step) ∅ = some m) :
    HoldsRuns key init step es m ∧ ∀ k, ((eventsOf key k es).foldlM step init).isSome := by
  induction es using List.reverseRecOn generalizing m with
  | nil =>
    cases h
    exact ⟨fun k => by simp [eventsOf], fun k => rfl⟩
  | append_singleton es e ih =>
    rw [List.foldlM_append, Option.bind_eq_bind, Option.bind_eq_some_iff] at h
    obtain ⟨before, hbefore, hstep⟩ := h
    obtain ⟨hhol, hruns⟩ := ih hbefore
    simp only [List.foldlM_cons, List.foldlM_nil, Option.bind_eq_bind, Option.pure_def,
      Option.bind_fun_some] at hstep
    unfold advanceKey at hstep
    cases hkey : key e with
    | none =>
      rw [hkey] at hstep
      cases hstep
      have hsame : ∀ k, eventsOf key k (es ++ [e]) = eventsOf key k es := by
        intro k
        simp [eventsOf_concat, hkey]
      refine ⟨fun k => ?_, fun k => ?_⟩
      · rw [hsame k]
        exact hhol k
      · rw [hsame k]
        exact hruns k
    | some k0 =>
      rw [hkey] at hstep
      obtain ⟨v, hv, rfl⟩ := Option.map_eq_some_iff.mp hstep
      -- the run of `k0` is one event longer, the other runs are as before
      have hrun : (eventsOf key k0 (es ++ [e])).foldlM step init = some v := by
        rw [eventsOf_concat, if_pos hkey, List.foldlM_append, hhol.getD hruns k0]
        simp [hv]
      have hother : ∀ k, k0 ≠ k → eventsOf key k (es ++ [e]) = eventsOf key k es := by
        intro k hne
        simp [eventsOf_concat, hkey, hne]
      refine ⟨fun k => ?_, fun k => ?_⟩
      · rw [Std.TreeMap.getElem?_insert]
        by_cases hk : k0 = k
        · subst hk
          have hne : eventsOf key k0 (es ++ [e]) ≠ [] := by simp [eventsOf_concat, hkey]
          rw [if_pos Std.ReflCmp.compare_self, if_neg hne, hrun]
        · rw [if_neg (fun hcmp => hk (Std.LawfulEqCmp.eq_of_compare hcmp)), hother k hk]
          exact hhol k
      · by_cases hk : k0 = k
        · subst hk
          rw [hrun]
          rfl
        · rw [hother k hk]
          exact hruns k

lemma isSome_advanceKeys {es : List E} :
    (es.foldlM (advanceKey key init step) (∅ : Std.TreeMap K V cmp)).isSome ↔
      ∀ k, ((eventsOf key k es).foldlM step init).isSome := by
  constructor
  · intro h
    obtain ⟨m, hm⟩ := Option.isSome_iff_exists.mp h
    exact (advanceKeys_eq_some hm).2
  · intro h
    induction es using List.reverseRecOn with
    | nil => rfl
    | append_singleton es e ih =>
      have hpre : ∀ k, ((eventsOf key k es).foldlM step init).isSome := by
        intro k
        have hk := h k
        rw [eventsOf_concat, List.foldlM_append] at hk
        cases hrun : (eventsOf key k es).foldlM step init with
        | none => simp [hrun] at hk
        | some v => rfl
      obtain ⟨m, hm⟩ := Option.isSome_iff_exists.mp (ih hpre)
      rw [List.foldlM_append, hm]
      simp only [List.foldlM_cons, List.foldlM_nil, Option.bind_eq_bind, Option.pure_def,
        Option.bind_some, Option.bind_fun_some]
      unfold advanceKey
      cases hkey : key e with
      | none => rfl
      | some k0 =>
        have hk := h k0
        rw [eventsOf_concat, if_pos hkey, List.foldlM_append,
          (advanceKeys_eq_some hm).1.getD hpre k0] at hk
        simpa using hk

lemma HoldsRuns.size {es : List E} {m : Std.TreeMap K V cmp} (h : HoldsRuns key init step es m)
    (hruns : ∀ k, ((eventsOf key k es).foldlM step init).isSome) :
    m.size = (es.filterMap key).toFinset.card := by
  have hnod : m.keys.Nodup := by
    refine Std.TreeMap.distinct_keys.imp ?_
    intro a b hne hab
    exact hne (hab ▸ Std.ReflCmp.compare_self)
  have hmem : m.keys.toFinset = (es.filterMap key).toFinset := by
    ext k
    rw [List.mem_toFinset, List.mem_toFinset, Std.TreeMap.mem_keys,
      Std.TreeMap.mem_iff_isSome_getElem?, h k]
    by_cases hnil : eventsOf key k es = []
    · simp [hnil, eventsOf_eq_nil.mp hnil]
    · have hin : k ∈ es.filterMap key := not_not.mp (fun hk => hnil (eventsOf_eq_nil.mpr hk))
      rw [if_neg hnil]
      exact ⟨fun _ => hin, fun _ => hruns k⟩
  rw [← Std.TreeMap.length_keys, ← List.toFinset_card_of_nodup hnod, hmem]

end

end Foundation
