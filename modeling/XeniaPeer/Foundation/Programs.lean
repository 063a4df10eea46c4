import Mathlib.Logic.Basic

/-!
# Programs that can fail, crash and be interfered with

A program is a sequence of operations on a state that others share. At each operation the
environment has its say: it may first change the state (`Event.meddle`), and then lets the operation
proceed, makes it fail, or ends the process there (`Event.verdict`).
-/

namespace Foundation

inductive Verdict where
  | proceed
  | fail (progress : Nat)
  | crash (progress : Nat)

/-- What the environment does at an operation: others change the state, and the operation, by
its label, proceeds or not. -/
structure Event (σ L : Type) where
  meddle : σ → σ
  verdict : L → Verdict

def Event.quiet {σ L : Type} : Event σ L := ⟨id, fun _ => .proceed⟩

abbrev Environment (σ L : Type) := Nat → Event σ L

inductive Outcome (ε α : Type) where
  | done (value : α)
  | failed (error : ε)
  | crashed
deriving DecidableEq

structure Ending (σ ε α : Type) where
  outcome : Outcome ε α
  state : σ
  clock : Nat

def Program (σ L ε α : Type) : Type := Environment σ L → Nat → σ → Ending σ ε α

namespace Program

variable {σ L ε δ α β : Type}

def run (x : Program σ L ε α) (env : Environment σ L) (s : σ) : Ending σ ε α := x env 0 s

instance : Monad (Program σ L ε) where
  pure a := fun _ n s => ⟨.done a, s, n⟩
  bind x f := fun env n s =>
    match x env n s with
    | ⟨.done a, s', n'⟩ => f a env n' s'
    | ⟨.failed e, s', n'⟩ => ⟨.failed e, s', n'⟩
    | ⟨.crashed, s', n'⟩ => ⟨.crashed, s', n'⟩

def ofExcept (r : Except ε α) : Program σ L ε α := fun _ n s =>
  match r with
  | .ok a => ⟨.done a, s, n⟩
  | .error e => ⟨.failed e, s, n⟩

def attempt (x : Program σ L ε α) : Program σ L δ (Except ε α) := fun env n s =>
  match x env n s with
  | ⟨.done a, s', n'⟩ => ⟨.done (.ok a), s', n'⟩
  | ⟨.failed e, s', n'⟩ => ⟨.done (.error e), s', n'⟩
  | ⟨.crashed, s', n'⟩ => ⟨.crashed, s', n'⟩

def mapError (g : ε → δ) (x : Program σ L ε α) : Program σ L δ α := fun env n s =>
  match x env n s with
  | ⟨.done a, s', n'⟩ => ⟨.done a, s', n'⟩
  | ⟨.failed e, s', n'⟩ => ⟨.failed (g e), s', n'⟩
  | ⟨.crashed, s', n'⟩ => ⟨.crashed, s', n'⟩

/-- One operation. If it proceeds, its result and the new state are those of `act`; if it fails,
its result is `fault`; failed or interrupted after some progress, it leaves what `torn` says. -/
def perform (label : L) (act : σ → Except ε α × σ) (fault : Except ε α) (torn : Nat → σ → σ) :
    Program σ L ε α := fun env n s =>
  let s' := (env n).meddle s
  match (env n).verdict label with
  | .proceed => ofExcept (act s').1 env (n + 1) (act s').2
  | .fail k => ofExcept fault env (n + 1) (torn k s')
  | .crash k => ⟨.crashed, torn k s', n + 1⟩

instance : LawfulMonad (Program σ L ε) :=
  LawfulMonad.mk' _
    (by
      intro α x
      funext env n s
      simp only [Functor.map]
      rcases x env n s with ⟨a | e | _, s', n'⟩ <;> rfl)
    (fun _ _ => rfl)
    (by
      intro α β γ x f g
      funext env n s
      simp only [bind]
      rcases x env n s with ⟨a | e | _, s', n'⟩ <;> rfl)

lemma ofExcept_bind (x : Except ε α) (f : α → Except ε β) :
    (ofExcept (x >>= f) : Program σ L ε β) = ofExcept x >>= fun a => ofExcept (f a) := by
  cases x <;> rfl

lemma ofExcept_pure (a : α) : (ofExcept (pure a) : Program σ L ε α) = pure a := rfl

end Program

/-! ## Weakest preconditions -/

/-- What is to hold at the end of a run, by how it ended; a run that goes on may depend on the
number of operations so far. -/
structure Post (σ ε α : Type) where
  done : α → σ → Nat → Prop
  failed : ε → σ → Nat → Prop
  crashed : σ → Prop

section Rules

variable {σ L ε δ α β : Type}

namespace Post

def holds (Q : Post σ ε α) (r : Ending σ ε α) : Prop :=
  match r.outcome with
  | .done a => Q.done a r.state r.clock
  | .failed e => Q.failed e r.state r.clock
  | .crashed => Q.crashed r.state

def result (Q : Post σ ε α) : Except ε α → σ → Nat → Prop
  | .ok a => Q.done a
  | .error e => Q.failed e

def always (I : σ → Prop) : Post σ ε α := ⟨fun _ s _ => I s, fun _ s _ => I s, I⟩

def ends (D : α → σ → Prop) (I : σ → Prop) (spent : Prop) : Post σ ε α :=
  ⟨fun a s _ => D a s, fun _ s _ => I s ∧ spent, fun s => I s ∧ spent⟩

def within (D : α → σ → Nat → Prop) (I : σ → Prop) (spent : Nat → Prop) : Post σ ε α :=
  ⟨D, fun _ s k => I s ∧ spent k, fun s => I s ∧ ∃ k, spent k⟩

@[simp] lemma result_ok (Q : Post σ ε α) (a : α) : Q.result (.ok a) = Q.done a := rfl

lemma result_intro {Q : Post σ ε α} {r : Except ε α} {s : σ} {n : Nat}
    (hok : ∀ a, r = .ok a → Q.done a s n) (herror : ∀ e, r = .error e → Q.failed e s n) :
    Q.result r s n := by
  cases r with
  | ok a => exact hok a rfl
  | error e => exact herror e rfl

end Post

variable {R : Nat → Event σ L → Prop} {Q Q' : Post σ ε α} {s : σ} {n : Nat}

def wp (R : Nat → Event σ L → Prop) (x : Program σ L ε α) (Q : Post σ ε α) (s : σ) (n : Nat) :
    Prop :=
  ∀ env : Environment σ L, (∀ k, R k (env k)) → Q.holds (x env n s)

variable {x : Program σ L ε α} {env : Environment σ L}

lemma wp_run (h : wp R x Q s 0) (henv : ∀ k, R k (env k)) : Q.holds (x.run env s) := h env henv

lemma wp_mono (h : wp R x Q s n) (hdone : ∀ a s k, Q.done a s k → Q'.done a s k)
    (hfail : ∀ e s k, Q.failed e s k → Q'.failed e s k)
    (hcrash : ∀ s, Q.crashed s → Q'.crashed s) : wp R x Q' s n := by
  intro env henv
  have hend := h env henv
  unfold Post.holds at hend ⊢
  cases hout : (x env n s).outcome with
  | done a =>
    rw [hout] at hend
    exact hdone a _ _ hend
  | failed e =>
    rw [hout] at hend
    exact hfail e _ _ hend
  | crashed =>
    rw [hout] at hend
    exact hcrash _ hend

lemma cases_of_wp (h : wp R x Q s 0) (henv : ∀ k, R k (env k)) :
    (∃ a, (x.run env s).outcome = .done a ∧ Q.done a (x.run env s).state (x.run env s).clock) ∨
      (∃ e, (x.run env s).outcome = .failed e ∧
        Q.failed e (x.run env s).state (x.run env s).clock) ∨
      (x.run env s).outcome = .crashed ∧ Q.crashed (x.run env s).state := by
  have hend := wp_run h henv
  unfold Post.holds at hend
  split at hend
  · rename_i a hout
    exact .inl ⟨a, hout, hend⟩
  · rename_i e hout
    exact .inr (.inl ⟨e, hout, hend⟩)
  · rename_i hout
    exact .inr (.inr ⟨hout, hend⟩)

lemma state_of_wp {I : σ → Prop} (h : wp R x (.always I) s 0) (henv : ∀ k, R k (env k)) :
    I (x.run env s).state := by
  have hend := wp_run h henv
  unfold Post.holds at hend
  split at hend <;> exact hend

variable {a : α}

lemma ending_of_wp (h : wp R x Q s 0) (henv : ∀ k, R k (env k)) {o : Outcome ε α}
    (hout : (x.run env s).outcome = o) : Q.holds ⟨o, (x.run env s).state, (x.run env s).clock⟩ := by
  rw [← hout]
  exact wp_run h henv

lemma fails_of_wp {I : ε → σ → Prop}
    (h : wp R x ⟨fun _ _ _ => False, fun e s _ => I e s, fun _ => False⟩ s 0)
    (henv : ∀ k, R k (env k)) :
    ∃ e, (x.run env s).outcome = .failed e ∧ I e (x.run env s).state := by
  obtain ⟨_, -, hno⟩ | hfl | ⟨-, hno⟩ := cases_of_wp h henv
  · exact hno.elim
  · exact hfl
  · exact hno.elim

lemma done_of_wp {I : α → σ → Prop}
    (h : wp R x ⟨fun a s _ => I a s, fun _ _ _ => False, fun _ => False⟩ s 0)
    (henv : ∀ k, R k (env k)) : ∃ a, (x.run env s).outcome = .done a ∧ I a (x.run env s).state := by
  obtain hdone | ⟨_, -, hno⟩ | ⟨-, hno⟩ := cases_of_wp h henv
  · exact hdone
  · exact hno.elim
  · exact hno.elim

lemma wp_pure (h : Q.done a s n) : wp R (pure a : Program σ L ε α) Q s n := fun _ _ => h

variable {r : Except ε α}

lemma wp_ofExcept (h : Q.result r s n) : wp R (Program.ofExcept r) Q s n := by
  intro env henv
  cases r with
  | ok a => exact h
  | error e => exact h

lemma wp_ok (hr : r = .ok a) (h : Q.done a s n) : wp R (Program.ofExcept r) Q s n :=
  wp_ofExcept (hr ▸ h)

lemma wp_bind {Q : Post σ ε β} {f : α → Program σ L ε β}
    (h : wp R x ⟨fun a s' k => wp R (f a) Q s' k, Q.failed, Q.crashed⟩ s n) :
    wp R (x >>= f) Q s n := by
  intro env henv
  have hfirst := h env henv
  simp only [bind]
  rcases hx : x env n s with ⟨a | e | _, s', n'⟩
  · rw [hx] at hfirst
    exact hfirst env henv
  · rw [hx] at hfirst
    exact hfirst
  · rw [hx] at hfirst
    exact hfirst

lemma wp_attempt {Q : Post σ δ (Except ε α)}
    (h : wp R x ⟨fun a => Q.done (.ok a), fun e => Q.done (.error e), Q.crashed⟩ s n) :
    wp R (Program.attempt x) Q s n := by
  intro env henv
  have hinn := h env henv
  simp only [Program.attempt]
  rcases hx : x env n s with ⟨a | e | _, s', n'⟩ <;>
  · rw [hx] at hinn
    exact hinn

lemma wp_mapError {Q : Post σ δ α} {g : ε → δ}
    (h : wp R x ⟨Q.done, fun e => Q.failed (g e), Q.crashed⟩ s n) :
    wp R (Program.mapError g x) Q s n := by
  intro env henv
  have hinn := h env henv
  simp only [Program.mapError]
  rcases hx : x env n s with ⟨a | e | _, s', n'⟩ <;>
  · rw [hx] at hinn
    exact hinn

lemma wp_perform {label : L} {act : σ → Except ε α × σ} {fault : Except ε α} {torn : Nat → σ → σ}
    (hproceed : ∀ e, R n e → e.verdict label = .proceed →
      Q.result (act (e.meddle s)).1 (act (e.meddle s)).2 (n + 1))
    (hfail : ∀ e k, R n e → e.verdict label = .fail k →
      Q.result fault (torn k (e.meddle s)) (n + 1))
    (hcrash : ∀ e k, R n e → e.verdict label = .crash k → Q.crashed (torn k (e.meddle s))) :
    wp R (Program.perform label act fault torn) Q s n := by
  intro env henv
  simp only [Program.perform]
  cases hverdict : (env n).verdict label with
  | proceed => exact wp_ofExcept (hproceed _ (henv n) hverdict) env henv
  | fail k => exact wp_ofExcept (hfail _ k (henv n) hverdict) env henv
  | crash k => exact hcrash _ k (henv n) hverdict

lemma wp_proceeds {label : L} {act : σ → Except ε α × σ} {fault : Except ε α}
    {torn : Nat → σ → σ} (hgo : ∀ e, R n e → e.meddle = id ∧ e.verdict label = .proceed)
    (h : Q.result (act s).1 (act s).2 (n + 1)) :
    wp R (Program.perform label act fault torn) Q s n := by
  refine wp_perform ?_ ?_ ?_
  · intro e he _
    rw [(hgo e he).1]
    exact h
  · intro e k he hk
    cases (hgo e he).2.symm.trans hk
  · intro e k he hk
    cases (hgo e he).2.symm.trans hk

def FaultsFrom (R : Nat → Event σ L → Prop) (n : Nat) (spent : Nat → Prop) : Prop :=
  ∀ m e label, n ≤ m → R m e → e.verdict label ≠ .proceed → spent (m + 1)

lemma FaultsFrom.mono {spent : Nat → Prop} {m : Nat} (h : FaultsFrom R n spent) (hle : n ≤ m) :
    FaultsFrom R m spent := fun k e label hk => h k e label (Nat.le_trans hle hk)

lemma wp_forM {ι : Type} {f : ι → Program σ L ε Unit} {Q : Post σ ε Unit}
    (inv : σ → Nat → Prop) {xs : List ι}
    (hturn : ∀ x ∈ xs, ∀ s k, inv s k → wp R (f x) ⟨fun _ => inv, Q.failed, Q.crashed⟩ s k)
    (hend : ∀ s k, inv s k → Q.done () s k) (hstart : inv s n) : wp R (xs.forM f) Q s n := by
  induction xs generalizing s n with
  | nil => exact wp_pure (hend s n hstart)
  | cons x xs ih =>
    have hcons : (x :: xs).forM f = f x >>= fun _ => xs.forM f := rfl
    rw [hcons]
    exact wp_bind (wp_mono (hturn x List.mem_cons_self s n hstart)
      (fun _ s' k hinv => ih (fun y hy => hturn y (List.mem_cons_of_mem _ hy)) hinv)
      (fun _ _ _ h => h) (fun _ h => h))

/-! ## Runs that are stopped -/

variable {I I' : σ → Prop}

section Within

variable {D : α → σ → Nat → Prop} {spent spent' : Nat → Prop}

lemma within_mono {D' : α → σ → Nat → Prop} (h : wp R x (.within D I spent) s n)
    (hD : ∀ a s k, D a s k → D' a s k) (hI : ∀ s, I s → I' s)
    (hspent : ∀ k, spent k → spent' k) : wp R x (.within D' I' spent') s n :=
  wp_mono h hD (fun _ s k hs => ⟨hI s hs.1, hspent k hs.2⟩)
    (fun s ⟨hs, k, hk⟩ => ⟨hI s hs, k, hspent k hk⟩)

lemma within_bind {D' : β → σ → Nat → Prop} {f : α → Program σ L ε β}
    (h : wp R x (.within D I spent) s n) (hI : ∀ s, I s → I' s)
    (hf : ∀ a s k, D a s k → wp R (f a) (.within D' I' spent) s k) :
    wp R (x >>= f) (.within D' I' spent) s n :=
  wp_bind (wp_mono h hf (fun _ s _ hs => ⟨hI s hs.1, hs.2⟩) (fun s hs => ⟨hI s hs.1, hs.2⟩))

end Within

/-! ## Runs that return or stop -/

section Ends

variable {D : α → σ → Prop} {spent : Prop}

lemma ends_of_within (h : wp R x (.within (fun a s _ => D a s) I (fun _ => spent)) s n) :
    wp R x (.ends D I spent) s n :=
  wp_mono h (fun _ _ _ ha => ha) (fun _ _ _ hs => hs) (fun _ ⟨hs, _, hsp⟩ => ⟨hs, hsp⟩)

lemma ends_mono {D' : α → σ → Prop} (h : wp R x (.ends D I spent) s n)
    (hD : ∀ a s, D a s → D' a s) (hI : ∀ s, I s → I' s) : wp R x (.ends D' I' spent) s n :=
  wp_mono h (fun a s _ ha => hD a s ha) (fun _ s _ hs => ⟨hI s hs.1, hs.2⟩)
    (fun s hs => ⟨hI s hs.1, hs.2⟩)

lemma ends_bind {D' : β → σ → Prop} {f : α → Program σ L ε β} (h : wp R x (.ends D I spent) s n)
    (hI : ∀ s, I s → I' s) (hf : ∀ a s k, D a s → wp R (f a) (.ends D' I' spent) s k) :
    wp R (x >>= f) (.ends D' I' spent) s n :=
  wp_bind (wp_mono h (fun a s k ha => hf a s k ha) (fun _ s _ hs => ⟨hI s hs.1, hs.2⟩)
    (fun s hs => ⟨hI s hs.1, hs.2⟩))

/-- A run that leaves the state as it was. -/
abbrev Post.sees (P : α → Prop) (s : σ) (spent : Prop) : Post σ ε α :=
  .ends (fun a s' => s' = s ∧ P a) (· = s) spent

lemma sees_bind {P : α → Prop} {D : β → σ → Prop} {f : α → Program σ L ε β}
    (h : wp R x (.sees P s spent) s n) (hI : I s)
    (hf : ∀ a k, P a → wp R (f a) (.ends D I spent) s k) :
    wp R (x >>= f) (.ends D I spent) s n := by
  refine ends_bind h ?_ ?_
  · rintro s' rfl
    exact hI
  · rintro a s' k ⟨rfl, ha⟩
    exact hf a k ha

lemma spent_of_error {r : Except ε α} {e : ε} (hr : ¬ spent → ∃ a, r = .ok a)
    (he : r = .error e) : spent := by
  refine Classical.byContradiction fun hsp => ?_
  obtain ⟨a, ha⟩ := hr hsp
  cases ha.symm.trans he

lemma wp_check {r : Except ε β} {f : β → Program σ L ε α} {Q : Post σ ε α}
    (hok : ∀ a, r = .ok a → wp R (f a) Q s n) (herr : ∀ e, r = .error e → Q.failed e s n) :
    wp R (.ofExcept r >>= f) Q s n := wp_bind (wp_ofExcept (Post.result_intro hok herr))

lemma ends_ofExcept {r : Except ε α} (hI : I s) (hr : ¬ spent → ∃ a, r = .ok a)
    (hD : ∀ a, r = .ok a → D a s) : wp R (.ofExcept r) (.ends D I spent) s n :=
  wp_ofExcept (Post.result_intro hD fun _ he => ⟨hI, spent_of_error hr he⟩)

lemma ends_check {r : Except ε β} {f : β → Program σ L ε α} (hI : I s)
    (hr : ¬ spent → ∃ a, r = .ok a) (hf : ∀ a, r = .ok a → wp R (f a) (.ends D I spent) s n) :
    wp R (.ofExcept r >>= f) (.ends D I spent) s n :=
  wp_check hf fun _ he => ⟨hI, spent_of_error hr he⟩

lemma ends_forM {ι : Type} {f : ι → Program σ L ε Unit} {xs : List ι} (inv : σ → Prop)
    (hturn : ∀ x ∈ xs, ∀ s k, inv s → wp R (f x) (.ends (fun _ => inv) I spent) s k)
    (hstart : inv s) : wp R (xs.forM f) (.ends (fun _ => inv) I spent) s n :=
  wp_forM (fun s _ => inv s) (fun x hx s k hs => hturn x hx s k hs) (fun _ _ h => h) hstart

lemma always_bind {f : α → Program σ L ε β} (h : wp R x (.ends D I spent) s n)
    (hI : ∀ s, I s → I' s) (hf : ∀ a s k, D a s → wp R (f a) (.always I') s k) :
    wp R (x >>= f) (.always I') s n :=
  wp_bind (wp_mono h (fun a s k ha => hf a s k ha) (fun _ s _ hs => hI s hs.1) fun s hs => hI s hs.1)

lemma done_of_ends (h : wp R x (.ends D I spent) s 0) (hnot : ¬ spent) {env : Environment σ L}
    (henv : ∀ k, R k (env k)) : ∃ a, (x.run env s).outcome = .done a ∧ D a (x.run env s).state :=
  done_of_wp (wp_mono h (fun _ _ _ ha => ha) (fun _ _ _ hs => hnot hs.2) (fun _ hs => hnot hs.2)) henv

end Ends

/-! ## Invariants -/

def Keeping (R : Nat → Event σ L → Prop) (I : σ → Prop) (x : Program σ L ε α) : Prop :=
  ∀ s n, I s → wp R x (.always I) s n

section Invariants

lemma Keeping.ofExcept {r : Except ε α} : Keeping R I (Program.ofExcept r : Program σ L ε α) :=
  fun _ _ h => wp_ofExcept (Post.result_intro (fun _ _ => h) (fun _ _ => h))

lemma Keeping.bind {f : α → Program σ L ε β} (hx : Keeping R I x) (hf : ∀ a, Keeping R I (f a)) :
    Keeping R I (x >>= f) :=
  fun s n h => wp_bind (wp_mono (hx s n h) (fun a s' k h' => hf a s' k h') (fun _ _ _ h' => h')
    (fun _ h' => h'))

lemma Keeping.mapError {g : ε → δ} (hx : Keeping R I x) : Keeping R I (Program.mapError g x) :=
  fun s n h => wp_mapError (wp_mono (hx s n h) (fun _ _ _ h' => h') (fun _ _ _ h' => h')
    (fun _ h' => h'))

lemma Keeping.forM {ι : Type} {f : ι → Program σ L ε Unit} {xs : List ι}
    (hf : ∀ x ∈ xs, Keeping R I (f x)) : Keeping R I (xs.forM f) :=
  fun _ _ h => wp_forM (fun s _ => I s) (fun x hx s n h => hf x hx s n h) (fun _ _ h => h) h

lemma Keeping.perform {label : L} {act : σ → Except ε α × σ} {fault : Except ε α}
    {torn : Nat → σ → σ} (hmeddle : ∀ n e s, R n e → I s → I (e.meddle s))
    (hact : ∀ s, I s → I (act s).2) (htorn : ∀ k s, I s → I (torn k s)) :
    Keeping R I (Program.perform label act fault torn) := by
  intro s n h
  refine wp_perform ?_ ?_ ?_
  · intro e he _
    have h' := hact _ (hmeddle n e s he h)
    exact Post.result_intro (fun _ _ => h') (fun _ _ => h')
  · intro e k he _
    have h' := htorn k _ (hmeddle n e s he h)
    exact Post.result_intro (fun _ _ => h') (fun _ _ => h')
  · exact fun e k he _ => htorn k _ (hmeddle n e s he h)

lemma Keeping.wp (hx : Keeping R (· = s) x) (hdone : ∀ a k, Q.done a s k)
    (hfail : ∀ e k, Q.failed e s k) (hcrash : Q.crashed s) : Foundation.wp R x Q s n := by
  refine wp_mono (hx s n rfl) ?_ ?_ ?_
  · rintro a s' k rfl
    exact hdone a k
  · rintro e s' k rfl
    exact hfail e k
  · rintro s' rfl
    exact hcrash

end Invariants

end Rules

end Foundation
