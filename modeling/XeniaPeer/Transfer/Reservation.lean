import Mathlib.Algebra.BigOperators.Group.List.Basic
import Mathlib.Data.List.Infix
import XeniaPeer.Foundation.Runs
import XeniaPeer.Foundation.Words

/-!
# Reservations of receive capacity

The byte budget for inbound transfers (`xenia-peer-core`, `receive_reservation.rs`). The total is
one atomic word. `try_reserve` reads it and then tries to exchange it for the larger total until
nobody has changed it in between or the request no longer fits; dropping a lease subtracts its
bytes.

Main result: `reserved_is_leased`.
-/

namespace XeniaPeer.Transfer

open Foundation

structure ReceiveReservation where
  bytes : UInt64
deriving DecidableEq

inductive ReceiveReservationError where
  | capacityExceeded (requested reserved capacity : UInt64)

inductive Call where
  | idle
  /-- Before the load. -/
  | loading (bytes : UInt64)
  /-- At the head of the loop, with the total that was read last. -/
  | trying (bytes reserved : UInt64)
  /-- Before the exchange of the total for the next one. -/
  | exchanging (bytes reserved next : UInt64)
  | returned (result : Except ReceiveReservationError ReceiveReservation)

def Call.requests : Call → Option UInt64
  | .loading bytes => some bytes
  | .trying bytes _ => some bytes
  | .exchanging bytes _ _ => some bytes
  | _ => none

structure ReceiveReservationPool where
  (capacity reserved : UInt64)
  leases : List ReceiveReservation
  calls : Nat → Call

namespace ReceiveReservationPool

def new (capacity : UInt64) : ReceiveReservationPool := ⟨capacity, 0, [], fun _ => .idle⟩

def setCall (pool : ReceiveReservationPool) (thread : Nat) (call : Call) :
    ReceiveReservationPool :=
  { pool with calls := Function.update pool.calls thread call }

inductive Event where
  | call (thread : Nat) (bytes : UInt64)
  | load (thread : Nat)
  | check (thread : Nat)
  | exchange (thread : Nat) (spurious : Bool)
  /-- The lease at the index is dropped. -/
  | drop (index : Nat)

def nextTotal (capacity reserved bytes : UInt64) : Except ReceiveReservationError UInt64 :=
  match checkedAdd reserved bytes.toNat with
  | none => .error (.capacityExceeded bytes reserved capacity)
  | some next =>
    if next > capacity then .error (.capacityExceeded bytes reserved capacity) else .ok next

def step (pool : ReceiveReservationPool) : Event → ReceiveReservationPool
  | .call thread bytes =>
    match pool.calls thread with
    | .idle | .returned _ => pool.setCall thread (.loading bytes)
    | _ => pool
  | .load thread =>
    match pool.calls thread with
    | .loading bytes => pool.setCall thread (.trying bytes pool.reserved)
    | _ => pool
  | .check thread =>
    match pool.calls thread with
    | .trying bytes reserved =>
      match nextTotal pool.capacity reserved bytes with
      | .error error => pool.setCall thread (.returned (.error error))
      | .ok next => pool.setCall thread (.exchanging bytes reserved next)
    | _ => pool
  | .exchange thread spurious =>
    match pool.calls thread with
    | .exchanging bytes reserved next =>
      if pool.reserved = reserved ∧ ¬ spurious then
        { pool.setCall thread (.returned (.ok ⟨bytes⟩)) with
          reserved := next, leases := ⟨bytes⟩ :: pool.leases }
      else pool.setCall thread (.trying bytes pool.reserved)
    | _ => pool
  | .drop index =>
    match pool.leases[index]? with
    | some lease =>
      { pool with
        reserved := pool.reserved - lease.bytes, leases := pool.leases.eraseIdx index }
    | none => pool

def run (capacity : UInt64) (events : List Event) : ReceiveReservationPool :=
  events.foldl step (new capacity)

lemma run_concat (capacity : UInt64) (events : List Event) (event : Event) :
    run capacity (events ++ [event]) = step (run capacity events) event := by
  rw [run, run, List.foldl_concat]

/-! ## The total -/

def leased (leases : List ReceiveReservation) : Nat := (leases.map fun l => l.bytes.toNat).sum

/-- The total is that of the leases and within the capacity, and what a thread is about to
exchange for is its checked sum. -/
structure Accounts (capacity : UInt64) (pool : ReceiveReservationPool) : Prop where
  sameCapacity : pool.capacity = capacity
  total : pool.reserved.toNat = leased pool.leases
  within : pool.reserved ≤ capacity
  checked : ∀ thread bytes reserved next, pool.calls thread = .exchanging bytes reserved next →
    next.toNat = reserved.toNat + bytes.toNat ∧ next ≤ capacity

variable {capacity reserved bytes next : UInt64}

lemma nextTotal_ok : nextTotal capacity reserved bytes = .ok next ↔
      next.toNat = reserved.toNat + bytes.toNat ∧ next ≤ capacity := by
  unfold nextTotal
  constructor
  · intro h
    split at h
    · cases h
    · rename_i sum hsum
      split at h
      · cases h
      · rename_i hle
        cases h
        exact ⟨toNat_of_checkedAdd hsum, UInt64.not_lt.mp hle⟩
  · rintro ⟨hnext, hle⟩
    have hlt := next.toNat_lt
    have hsum : checkedAdd reserved bytes.toNat = some next := by
      rw [checkedAdd, if_pos (by omega), ← hnext, UInt64.ofNat_toNat]
    rw [hsum]
    exact if_neg (UInt64.not_lt.mpr hle)

variable {error : ReceiveReservationError}

lemma nextTotal_eq_error (h : nextTotal capacity reserved bytes = .error error) :
    error = .capacityExceeded bytes reserved capacity ∧
      capacity.toNat < reserved.toNat + bytes.toNat := by
  unfold nextTotal at h
  split at h
  · rename_i hsum
    cases h
    refine ⟨rfl, ?_⟩
    have hlt := capacity.toNat_lt
    have hover : ¬ reserved.toNat + bytes.toNat < 2 ^ 64 := by
      intro hfits
      rw [checkedAdd, if_pos hfits] at hsum
      cases hsum
    omega
  · rename_i sum hsum
    split at h
    · rename_i hgt
      cases h
      refine ⟨rfl, ?_⟩
      have hgt := UInt64.lt_iff_toNat_lt.mp hgt
      rw [toNat_of_checkedAdd hsum] at hgt
      exact hgt
    · cases h

variable {index : Nat} {lease : ReceiveReservation}

lemma leased_eraseIdx {leases : List ReceiveReservation} (h : leases[index]? = some lease) :
    leased (leases.eraseIdx index) + lease.bytes.toNat = leased leases := by
  induction leases generalizing index with
  | nil => simp at h
  | cons first rest ih =>
    cases index with
    | zero =>
      obtain rfl : first = lease := by simpa using h
      simp only [leased, List.eraseIdx_zero, List.tail_cons, List.map_cons, List.sum_cons]
      omega
    | succ index =>
      have hnext : rest[index]? = some lease := by simpa using h
      have hrest := ih hnext
      simp only [leased, List.eraseIdx_cons_succ, List.map_cons, List.sum_cons] at hrest ⊢
      omega

variable {capacity : UInt64} {pool : ReceiveReservationPool} {thread : Nat} {call : Call}

section

variable (h : Accounts capacity pool)

include h

lemma Accounts.setCall
    (hcall : ∀ bytes reserved next, call = .exchanging bytes reserved next → next.toNat =
      reserved.toNat + bytes.toNat ∧ next ≤ capacity) :
    Accounts capacity (pool.setCall thread call) := by
  refine ⟨h.sameCapacity, h.total, h.within, ?_⟩
  intro other bytes reserved next hother
  rcases eq_or_ne other thread with rfl | hne
  · simp only [ReceiveReservationPool.setCall, Function.update_self] at hother
    exact hcall bytes reserved next hother
  · simp only [ReceiveReservationPool.setCall, Function.update_of_ne hne] at hother
    exact h.checked other bytes reserved next hother

lemma Accounts.exchange (hcall : pool.calls thread = .exchanging bytes pool.reserved next) :
    Accounts capacity { pool.setCall thread (.returned (.ok ⟨bytes⟩)) with
      reserved := next, leases := ⟨bytes⟩ :: pool.leases } := by
  obtain ⟨hnext, hle⟩ := h.checked thread bytes pool.reserved next hcall
  have hset : Accounts capacity (pool.setCall thread (.returned (.ok ⟨bytes⟩))) := h.setCall nofun
  refine ⟨h.sameCapacity, ?_, hle, hset.checked⟩
  have htot := h.total
  simp only [leased, List.map_cons, List.sum_cons] at htot ⊢
  omega

lemma Accounts.drop (hlease : pool.leases[index]? = some lease) :
    Accounts capacity { pool with
      reserved := pool.reserved - lease.bytes, leases := pool.leases.eraseIdx index } := by
  have hrest := leased_eraseIdx hlease
  have htot := h.total
  have hwit := UInt64.le_iff_toNat_le.mp h.within
  -- The lease is part of the total, so the subtraction does not wrap.
  have hle : lease.bytes ≤ pool.reserved := UInt64.le_iff_toNat_le.mpr (by omega)
  have hsub := UInt64.toNat_sub_of_le pool.reserved lease.bytes hle
  refine ⟨h.sameCapacity, ?_, UInt64.le_iff_toNat_le.mpr ?_, h.checked⟩
  · simp only [hsub]
    omega
  · simp only [hsub]
    omega

lemma Accounts.step (event : Event) : Accounts capacity (pool.step event) := by
  cases event with
  | call thread bytes =>
    simp only [ReceiveReservationPool.step]
    split
    · exact h.setCall nofun
    · exact h.setCall nofun
    · exact h
  | load thread =>
    simp only [ReceiveReservationPool.step]
    split
    · exact h.setCall nofun
    · exact h
  | check thread =>
    simp only [ReceiveReservationPool.step]
    split
    · split
      · exact h.setCall nofun
      · rename_i hnext
        rw [h.sameCapacity] at hnext
        refine h.setCall fun _ _ _ hcall => ?_
        cases hcall
        exact nextTotal_ok.mp hnext
    · exact h
  | exchange thread spurious =>
    simp only [ReceiveReservationPool.step]
    split
    · rename_i hcall
      split
      · rename_i hsame
        exact h.exchange (hsame.1 ▸ hcall)
      · exact h.setCall nofun
    · exact h
  | drop index =>
    simp only [ReceiveReservationPool.step]
    split
    · rename_i hlea
      exact h.drop hlea
    · exact h

end

lemma accounts_new (capacity : UInt64) : Accounts capacity (new capacity) where
  sameCapacity := rfl
  total := rfl
  within := UInt64.le_iff_toNat_le.mpr (Nat.zero_le _)
  checked := nofun

lemma run_accounts (capacity : UInt64) (events : List Event) :
    Accounts capacity (run capacity events) :=
  foldl_invariant (fun _ event h => h.step event) events (accounts_new capacity)

/-! ## What a refused call has seen -/

def Event.reads (thread : Nat) (event : Event) : Prop :=
  event = .load thread ∨ ∃ spurious, event = .exchange thread spurious

/-- The thread read this total during the call that asks for these bytes. -/
def HasObserved (capacity : UInt64) (events : List Event) (thread : Nat)
    (bytes total : UInt64) : Prop :=
  ∃ earlier event later, events = earlier ++ event :: later ∧ event.reads thread ∧
    (run capacity earlier).reserved = total ∧
    ((run capacity earlier).calls thread).requests = some bytes ∧
    ∀ mid, mid <+: later →
      ((run capacity (earlier ++ event :: mid)).calls thread).requests = some bytes

/-- The step ends a call of the thread with the error. -/
def Refuses (pool : ReceiveReservationPool) (event : Event) (thread : Nat)
    (error : ReceiveReservationError) : Prop :=
  (pool.step event).calls thread = .returned (.error error) ∧
    (pool.calls thread).requests ≠ none

inductive Moves (pool : ReceiveReservationPool) (event : Event) (thread : Nat) : Call → Prop where
  | stays : Moves pool event thread (pool.calls thread)
  | calls (bytes : UInt64) : Moves pool event thread (.loading bytes)
  | observes {bytes : UInt64} (hreads : event.reads thread)
      (hcall : (pool.calls thread).requests = some bytes) :
      Moves pool event thread (.trying bytes pool.reserved)
  | fits {bytes reserved : UInt64} (next : UInt64)
      (hcall : pool.calls thread = .trying bytes reserved) :
      Moves pool event thread (.exchanging bytes reserved next)
  | refuses {bytes reserved : UInt64} {error : ReceiveReservationError}
      (hcall : pool.calls thread = .trying bytes reserved)
      (herror : nextTotal pool.capacity reserved bytes = .error error) :
      Moves pool event thread (.returned (.error error))
  | admits (lease : ReceiveReservation) : Moves pool event thread (.returned (.ok lease))

variable {event : Event}

lemma Moves.setCall {actor : Nat} (hact : Moves pool event actor call) :
    Moves pool event thread ((pool.setCall actor call).calls thread) := by
  rcases eq_or_ne thread actor with rfl | hne
  · simpa only [ReceiveReservationPool.setCall, Function.update_self] using hact
  · simpa only [ReceiveReservationPool.setCall, Function.update_of_ne hne] using Moves.stays

lemma step_moves (pool : ReceiveReservationPool) (event : Event) (thread : Nat) :
    Moves pool event thread ((pool.step event).calls thread) := by
  cases event with
  | call actor bytes =>
    simp only [step]
    split
    · exact (Moves.calls bytes).setCall
    · exact (Moves.calls bytes).setCall
    · exact .stays
  | load actor =>
    simp only [step]
    split
    · rename_i hcall
      exact (Moves.observes (.inl rfl) (by rw [hcall]; rfl)).setCall
    · exact .stays
  | check actor =>
    simp only [step]
    split
    · rename_i hcall
      split
      · rename_i herror
        exact (Moves.refuses hcall herror).setCall
      · exact (Moves.fits _ hcall).setCall
    · exact .stays
  | exchange actor spurious =>
    simp only [step]
    split
    · rename_i hcall
      split
      · exact (Moves.admits _).setCall
      · exact (Moves.observes (.inr ⟨spurious, rfl⟩) (by rw [hcall]; rfl)).setCall
    · exact .stays
  | drop index =>
    simp only [step]
    split <;> exact .stays

variable {events : List Event}

lemma HasObserved.concat {total : UInt64} (h : HasObserved capacity events thread bytes total)
    (hgoes : ((run capacity (events ++ [event])).calls thread).requests = some bytes) :
    HasObserved capacity (events ++ [event]) thread bytes total := by
  obtain ⟨earlier, seen, later, rfl, hreads, htot, hcall, hlat⟩ := h
  refine ⟨earlier, seen, later ++ [event], by simp, hreads, htot, hcall, ?_⟩
  intro mid hmid
  rcases List.prefix_concat_iff.mp hmid with rfl | hmid
  · simpa using hgoes
  · exact hlat mid hmid

lemma run_hasObserved (capacity : UInt64) (events : List Event)
    (h : (run capacity events).calls thread = .trying bytes reserved ∨
      ∃ next, (run capacity events).calls thread = .exchanging bytes reserved next) :
    HasObserved capacity events thread bytes reserved := by
  induction events using List.reverseRecOn with
  | nil =>
    rcases h with h | ⟨next, h⟩
    · cases h
    · cases h
  | append_singleton events event ih =>
    have hgoes : ((run capacity (events ++ [event])).calls thread).requests = some bytes := by
      rcases h with h | ⟨next, h⟩
      · rw [h]; rfl
      · rw [h]; rfl
    have hmov := step_moves (run capacity events) event thread
    rw [← run_concat] at hmov
    generalize hafter : (run capacity (events ++ [event])).calls thread = after at h hmov
    cases hmov with
    | stays => exact (ih h).concat hgoes
    | calls _ => rcases h with h | ⟨next, h⟩ <;> cases h
    | observes hreads hcall =>
      rcases h with h | ⟨next, h⟩
      · cases h
        refine ⟨events, event, [], rfl, hreads, rfl, hcall, fun mid hmid => ?_⟩
        rw [List.prefix_nil.mp hmid]
        exact hgoes
      · cases h
    | fits _ hcall =>
      rcases h with h | ⟨next, h⟩
      · cases h
      · cases h
        exact (ih (.inl hcall)).concat hgoes
    | refuses _ _ => rcases h with h | ⟨next, h⟩ <;> cases h
    | admits _ => rcases h with h | ⟨next, h⟩ <;> cases h

lemma hasObserved_of_refuses (h : Refuses (run capacity events) event thread error) :
    ∃ requested total, error = .capacityExceeded requested total capacity ∧
      HasObserved capacity events thread requested total ∧
      capacity.toNat < total.toNat + requested.toNat := by
  obtain ⟨hafter, hrun⟩ := h
  have hmov := step_moves (run capacity events) event thread
  rw [hafter] at hmov
  generalize hcall : Call.returned (.error error) = after at hmov
  cases hmov with
  | stays => exact absurd (by rw [← hcall]; rfl) hrun
  | refuses htry herror =>
    cases hcall
    rw [(run_accounts capacity events).sameCapacity] at herror
    obtain ⟨rfl, hover⟩ := nextTotal_eq_error herror
    exact ⟨_, _, rfl, run_hasObserved capacity events (.inl htry), hover⟩
  | calls _ => cases hcall
  | observes _ _ => cases hcall
  | fits _ _ => cases hcall
  | admits _ => cases hcall

/-- **Reservations.** Whatever the interleaving, the total is the bytes of the live leases and
within the capacity, and a call is refused only for a total that one of its own steps observed. -/
theorem reserved_is_leased (capacity : UInt64) (events : List Event) :
    (run capacity events).reserved.toNat = leased (run capacity events).leases ∧
      (run capacity events).reserved ≤ capacity ∧
      ∀ event thread error, Refuses (run capacity events) event thread error →
        ∃ requested total, error = .capacityExceeded requested total capacity ∧
          HasObserved capacity events thread requested total ∧
          capacity.toNat < total.toNat + requested.toNat := by
  have haccounts := run_accounts capacity events
  exact ⟨haccounts.total, haccounts.within, fun _ _ _ h => hasObserved_of_refuses h⟩

def competing : List Event :=
  [.call 0 7, .call 1 4, .load 0, .load 1, .check 0, .check 1, .exchange 0 false, .exchange 1 false]

theorem reserved_is_leased_competing :
    (run 10 competing).reserved = 7 ∧ (run 10 competing).leases = [⟨7⟩] ∧
      ∃ requested total, HasObserved 10 competing 1 requested total ∧
        (10 : UInt64).toNat < total.toNat + requested.toNat := by
  have hrefuses : Refuses (run 10 competing) (.check 1) 1 (.capacityExceeded 4 7 10) :=
    ⟨rfl, by decide⟩
  obtain ⟨-, -, hrefused⟩ := reserved_is_leased 10 competing
  obtain ⟨requested, total, -, hobserved, hover⟩ := hrefused _ _ _ hrefuses
  exact ⟨by decide, by decide, requested, total, hobserved, hover⟩

end ReceiveReservationPool

end XeniaPeer.Transfer
