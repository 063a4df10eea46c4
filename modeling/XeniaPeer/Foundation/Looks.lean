import XeniaPeer.Foundation.Checks

/-!
# Looking at a world that changes

A computation that looks at the world now and then, and between whose looks the world can be
anything. Its state is the number of looks so far, and a look is a function of that number: so two
looks at one thing need not see the same.
-/

namespace Foundation

abbrev Look (ε : Type) := StateT Nat (Except ε)

namespace Look

variable {ε δ α β : Type}

def look (f : Nat → Except ε α) : Look ε α := fun n => (f n).map (fun a => (a, n + 1))

def check (x : Except ε α) : Look ε α := fun n => x.map (fun a => (a, n))

def mapError (g : ε → δ) (x : Look ε α) : Look δ α := fun n => (x n).mapError g

variable {x : Look ε α} {n : Nat}

@[simp] lemma bind_ok {f : α → Look ε β} {r : β × Nat} :
    (x >>= f) n = .ok r ↔ ∃ a m, x n = .ok (a, m) ∧ f a m = .ok r := by
  have hrun : (x >>= f) n = x n >>= fun p => f p.1 p.2 := rfl
  rw [hrun, Foundation.bind_ok, Prod.exists]

variable {a : α} {r : α × Nat}

@[simp] lemma pure_ok : (pure a : Look ε α) n = .ok r ↔ (a, n) = r := by
  have hrun : (pure a : Look ε α) n = .ok (a, n) := rfl
  rw [hrun, Except.ok.injEq]

variable {m : Nat}

@[simp] lemma look_ok {f : Nat → Except ε α} :
    look f n = .ok (a, m) ↔ f n = .ok a ∧ n + 1 = m := by
  cases h : f n <;> simp [look, h, Except.map]

@[simp] lemma check_ok {x : Except ε α} : check x n = .ok (a, m) ↔ x = .ok a ∧ n = m := by
  cases x <;> simp [check, Except.map]

@[simp] lemma mapError_ok {g : ε → δ} : mapError g x n = .ok r ↔ x n = .ok r :=
  Foundation.mapError_ok

end Look

end Foundation
