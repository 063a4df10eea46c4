import Mathlib.Logic.Basic

/-!
# Runs of a state machine

A machine takes one event at a time; a run is the left fold of its step over a list of events.
-/

namespace Foundation

section Machine

variable {σ ε : Type} {step : σ → ε → σ} {meets : σ → ε → Prop} {I : σ → Prop}

/-- Each step of the run meets the condition in the state it is made in. -/
def StepsMeet (step : σ → ε → σ) (meets : σ → ε → Prop) : σ → List ε → Prop
  | _, [] => True
  | s, e :: es => meets s e ∧ StepsMeet step meets (step s e) es

instance StepsMeet.decidable [∀ s e, Decidable (meets s e)] (s : σ) (es : List ε) :
    Decidable (StepsMeet step meets s es) :=
  match es with
  | [] => isTrue trivial
  | e :: es =>
    let := StepsMeet.decidable (step s e) es
    inferInstanceAs (Decidable (meets s e ∧ StepsMeet step meets (step s e) es))

variable {s : σ} {es : List ε}

lemma stepsMeet_append {fs : List ε} : StepsMeet step meets s (es ++ fs) ↔
      StepsMeet step meets s es ∧ StepsMeet step meets (es.foldl step s) fs := by
  induction es generalizing s with
  | nil => simp [StepsMeet]
  | cons e es ih => simp [StepsMeet, ih, and_assoc]

lemma StepsMeet.invariant (hstep : ∀ s e, I s → meets s e → I (step s e))
    (h : StepsMeet step meets s es) (hs : I s) : I (es.foldl step s) := by
  induction es generalizing s with
  | nil => exact hs
  | cons e es ih => exact ih h.2 (hstep s e hs h.1)

/-- An invariant that the condition keeps and that a property of the states can not do without. -/
lemma prefixes_iff_stepsMeet {P : σ → Prop} (hP : ∀ s, I s → P s)
    (hmeets : ∀ s e, I s → P (step s e) → meets s e)
    (hstep : ∀ s e, I s → meets s e → I (step s e)) (hs : I s) :
    (∀ fs, fs <+: es → P (fs.foldl step s)) ↔ StepsMeet step meets s es := by
  induction es generalizing s with
  | nil =>
    refine iff_of_true (fun fs hfs => ?_) trivial
    rw [List.prefix_nil.mp hfs]
    exact hP s hs
  | cons e es ih =>
    constructor
    · intro h
      have hmee := hmeets s e hs (h [e] (List.prefix_append [e] es))
      exact ⟨hmee, (ih (hstep s e hs hmee)).mp fun fs hfs =>
        h (e :: fs) (List.cons_prefix_cons.mpr ⟨rfl, hfs⟩)⟩
    · rintro ⟨hmee, hrest⟩ (_ | ⟨f, fs⟩) hfs
      · exact hP s hs
      · obtain ⟨rfl, hpre⟩ := List.cons_prefix_cons.mp hfs
        exact (ih (hstep s f hs hmee)).mpr hrest fs hpre

lemma foldl_invariant (hstep : ∀ s e, I s → I (step s e)) (es : List ε) (hs : I s) :
    I (es.foldl step s) := by
  induction es generalizing s with
  | nil => exact hs
  | cons e es ih => exact ih (hstep s e hs)

lemma foldl_provenance {β : Type} (shows : σ → β → Prop) {brings : ε → β → Prop}
    (hstep : ∀ s e b, shows (step s e) b → shows s b ∨ brings e b) {b : β}
    (h : shows (es.foldl step s) b) : shows s b ∨ ∃ e ∈ es, brings e b := by
  induction es generalizing s with
  | nil => exact .inl h
  | cons e es ih =>
    rcases ih h with hnext | ⟨e', hmem, hbri⟩
    · rcases hstep s e b hnext with hbefore | hnow
      · exact .inl hbefore
      · exact .inr ⟨e, List.mem_cons_self, hnow⟩
    · exact .inr ⟨e', List.mem_cons_of_mem _ hmem, hbri⟩

section Simulation

variable {τ δ : Type} {proj : σ → τ} {seen : σ → ε → δ} {step' : τ → δ → τ}

def seenOn (step : σ → ε → σ) (seen : σ → ε → δ) : σ → List ε → List δ
  | _, [] => []
  | s, e :: es => seen s e :: seenOn step seen (step s e) es

lemma foldl_simulates (hstep : ∀ s e, proj (step s e) = step' (proj s) (seen s e)) (s : σ)
    (es : List ε) : proj (es.foldl step s) = (seenOn step seen s es).foldl step' (proj s) := by
  induction es generalizing s with
  | nil => rfl
  | cons e es ih =>
    rw [List.foldl_cons, ih, hstep]
    rfl

lemma stepsMeet_simulates (hstep : ∀ s e, proj (step s e) = step' (proj s) (seen s e))
    {meets' : τ → δ → Prop} (s : σ) (es : List ε) :
    StepsMeet step' meets' (proj s) (seenOn step seen s es) ↔
      StepsMeet step (fun s e => meets' (proj s) (seen s e)) s es := by
  induction es generalizing s with
  | nil => exact Iff.rfl
  | cons e es ih =>
    have htail := ih (step s e)
    rw [hstep] at htail
    exact and_congr_right (fun _ => htail)

end Simulation

end Machine

/-! ## Processes over a store -/

/-- A process that loads its memory from a store. A call leaves a store and, unless the process
died in it, the memory after it. -/
structure Process (σ M κ : Type) where
  load : σ → Option M
  call : κ → M → σ → Option M × σ

namespace Process

variable {σ M κ : Type} (P : Process σ M κ)

inductive Move (κ : Type) where
  | call (c : κ)
  | restart

def step (state : Option M × σ) : Move κ → Option M × σ
  | .restart => (P.load state.2, state.2)
  | .call c =>
    match state.1 with
    | some m => P.call c m state.2
    | none => state

def run (start : Option M × σ) (moves : List (Move κ)) : Option M × σ := moves.foldl P.step start

/-- What a call may leave: in the store the memory from before or one of a later version, and
the same in the memory unless the process died. -/
structure Advances (version : M → Nat) (m : M) (after : Option M × σ) : Prop where
  stored : ∃ m', P.load after.2 = some m' ∧ (m' = m ∨ version m < version m') ∧
    ∀ m'' ∈ after.1, m'' = m'

def CallsAdvance (version : M → Nat) (moves : List (Move κ)) : Prop :=
  ∀ c, Move.call c ∈ moves → ∀ m s, P.load s = some m → P.Advances version m (P.call c m s)

/-- What is in memory is what a load would give. -/
def InStep (state : Option M × σ) : Prop := ∀ m ∈ state.1, P.load state.2 = some m

variable {P} {version : M → Nat} {state : Option M × σ} {moves : List (Move κ)}

lemma step_advances {move : Move κ} (hcalls : P.CallsAdvance version [move]) (h : P.InStep state) :
    P.InStep (P.step state move) ∧ ∀ m', P.load (P.step state move).2 = some m' →
        ∃ m, P.load state.2 = some m ∧ (m' = m ∨ version m < version m') := by
  obtain ⟨memory, store⟩ := state
  cases move with
  | restart =>
    refine ⟨fun m hm => hm, fun m' hm' => ⟨m', hm', .inl rfl⟩⟩
  | call c =>
    cases memory with
    | none => exact ⟨h, fun m' hm' => ⟨m', hm', .inl rfl⟩⟩
    | some m =>
      have hm : P.load store = some m := h m rfl
      obtain ⟨m', hload, hversion, hmem⟩ := (hcalls c List.mem_cons_self m store hm).stored
      refine ⟨?_, ?_⟩
      · intro m'' hm''
        rw [hmem m'' hm'']
        exact hload
      · intro m'' hm''
        have heq : m'' = m' := Option.some.inj (hm''.symm.trans hload)
        exact ⟨m, hm, heq ▸ hversion⟩

lemma run_advances (hcalls : P.CallsAdvance version moves) (h : P.InStep state) :
    P.InStep (P.run state moves) ∧ ∀ m', P.load (P.run state moves).2 = some m' →
        ∃ m, P.load state.2 = some m ∧ (m' = m ∨ version m < version m') := by
  induction moves generalizing state with
  | nil => exact ⟨h, fun m' hm' => ⟨m', hm', .inl rfl⟩⟩
  | cons move moves ih =>
    have hfirst : P.CallsAdvance version [move] := by
      intro c hc
      exact hcalls c (List.mem_singleton.mp hc ▸ List.mem_cons_self)
    have hrest : P.CallsAdvance version moves := fun c hc => hcalls c (List.mem_cons_of_mem _ hc)
    obtain ⟨hstep, hone⟩ := step_advances hfirst h
    obtain ⟨hrun, hmany⟩ := ih hrest hstep
    refine ⟨hrun, fun m' hm' => ?_⟩
    obtain ⟨m1, hm1, hlat⟩ := hmany m' hm'
    obtain ⟨m, hm, hear⟩ := hone m1 hm1
    refine ⟨m, hm, ?_⟩
    rcases hlat with rfl | hlat
    · exact hear
    · rcases hear with rfl | hear
      · exact .inr hlat
      · exact .inr (Nat.lt_trans hear hlat)

lemma run_versions (store : σ) {earlier later : List (Move κ)}
    (h : P.CallsAdvance version (earlier ++ later)) :
    P.InStep (P.run (none, store) (earlier ++ later)) ∧
      ∀ m m', P.load (P.run (none, store) earlier).2 = some m →
        P.load (P.run (none, store) (earlier ++ later)).2 = some m' →
        version m = version m' → m = m' := by
  have hstart : P.InStep ((none : Option M), store) := nofun
  have hear : P.CallsAdvance version earlier := fun c hc => h c (List.mem_append_left _ hc)
  have hlat : P.CallsAdvance version later := fun c hc => h c (List.mem_append_right _ hc)
  have hfirst := run_advances hear hstart
  have hsec := run_advances hlat hfirst.1
  have happ : P.run (none, store) (earlier ++ later) =
      P.run (P.run (none, store) earlier) later := List.foldl_append
  rw [happ]
  refine ⟨hsec.1, ?_⟩
  intro m m' hm hm' hversion
  obtain ⟨m1, hm1, hlat⟩ := hsec.2 m' hm'
  have heq : m1 = m := Option.some.inj (hm1.symm.trans hm)
  subst heq
  rcases hlat with rfl | hlat
  · rfl
  · omega

end Process

end Foundation
