import XeniaPeer.Foundation.Codes

/-!
# Readers of byte strings

A reader takes what it needs off the front of a byte string and leaves the rest, or fails.
-/

namespace Foundation

abbrev Reader (ε : Type) := StateT Bytes (Except ε)

namespace Reader

variable {ε α β : Type}

section

variable (truncated : ε)

def take (n : Nat) : Reader ε Bytes := fun b =>
  if n ≤ b.length then .ok (b.take n, b.drop n) else .error truncated

def remaining : Reader ε Nat := fun b => .ok (b.length, b)

def check (x : Except ε α) : Reader ε α := fun b => x.map (fun a => (a, b))

def leNat (w : Nat) : Reader ε Nat := do
  let b ← take truncated w
  pure (natOfLe b)

def u16 : Reader ε UInt16 := do
  let n ← leNat truncated 2
  pure (UInt16.ofNat n)

def u32 : Reader ε UInt32 := do
  let n ← leNat truncated 4
  pure (UInt32.ofNat n)

def u64 : Reader ε UInt64 := do
  let n ← leNat truncated 8
  pure (UInt64.ofNat n)

def fixed (n : Nat) : Reader ε (FixedBytes n) := do
  let b ← take truncated n
  check (okOr (FixedBytes.ofBytes? n b) truncated)

end

def times (r : Reader ε α) : Nat → Reader ε (List α)
  | 0 => pure []
  | n + 1 => do
    let a ← r
    let as ← times r n
    pure (a :: as)

def Reads (r : Reader ε α) (S : α → Prop) (enc : α → Bytes) : Prop :=
  ∀ b a rest, r b = .ok (a, rest) ↔ S a ∧ b = enc a ++ rest

variable {r : Reader ε α} {b rest : Bytes}

lemma bind_ok {f : α → Reader ε β} {c : β} :
    (r >>= f) b = .ok (c, rest) ↔ ∃ a mid, r b = .ok (a, mid) ∧ f a mid = .ok (c, rest) := by
  have hrun : (r >>= f) b = r b >>= fun p => f p.1 p.2 := rfl
  rw [hrun, Foundation.bind_ok, Prod.exists]

variable {a : α}

lemma pure_ok {c : α} : (pure a : Reader ε α) b = .ok (c, rest) ↔ a = c ∧ b = rest := by
  have hrun : (pure a : Reader ε α) b = .ok (a, b) := rfl
  rw [hrun, Except.ok.injEq, Prod.mk.injEq]

lemma check_ok {x : Except ε α} : check x b = .ok (a, rest) ↔ x = .ok a ∧ b = rest := by
  cases x <;> simp [check, Except.map]

variable {n : Nat}

lemma remaining_ok : (remaining : Reader ε Nat) b = .ok (n, rest) ↔ b.length = n ∧ b = rest := by
  simp [remaining]

lemma take_ok {truncated : ε} {v : Bytes} :
    take truncated n b = .ok (v, rest) ↔ v.length = n ∧ b = v ++ rest := by
  unfold take
  constructor
  · intro h
    split at h
    · rename_i hle
      cases h
      exact ⟨List.length_take_of_le hle, (List.take_append_drop n b).symm⟩
    · cases h
  · rintro ⟨rfl, rfl⟩
    simp

lemma reads_leNat (truncated : ε) (w : Nat) :
    Reads (leNat truncated w) (fun n => n < 256 ^ w) (leBytes w) := by
  intro b n rest
  simp only [leNat, bind_ok, pure_ok, take_ok]
  constructor
  · rintro ⟨v, _, ⟨rfl, rfl⟩, rfl, rfl⟩
    exact ⟨natOfLe_lt v, by rw [leBytes_natOfLe]⟩
  · rintro ⟨hn, rfl⟩
    exact ⟨leBytes w n, rest, ⟨leBytes_length w n, rfl⟩,
      by rw [natOfLe_leBytes, Nat.mod_eq_of_lt hn], rfl⟩

lemma reads_u16 (truncated : ε) : Reads (u16 truncated) (fun _ => True) u16Le := by
  intro b n rest
  simp only [u16, bind_ok, pure_ok, reads_leNat truncated 2 b, true_and]
  constructor
  · rintro ⟨m, _, ⟨hm, rfl⟩, rfl, rfl⟩
    rw [u16Le, UInt16.toNat_ofNat_of_lt' hm]
  · rintro rfl
    exact ⟨n.toNat, rest, ⟨n.toNat_lt, rfl⟩, UInt16.ofNat_toNat, rfl⟩

lemma reads_u32 (truncated : ε) : Reads (u32 truncated) (fun _ => True) u32Le := by
  intro b n rest
  simp only [u32, bind_ok, pure_ok, reads_leNat truncated 4 b, true_and]
  constructor
  · rintro ⟨m, _, ⟨hm, rfl⟩, rfl, rfl⟩
    rw [u32Le, UInt32.toNat_ofNat_of_lt' hm]
  · rintro rfl
    exact ⟨n.toNat, rest, ⟨n.toNat_lt, rfl⟩, UInt32.ofNat_toNat, rfl⟩

lemma reads_u64 (truncated : ε) : Reads (u64 truncated) (fun _ => True) u64Le := by
  intro b n rest
  simp only [u64, bind_ok, pure_ok, reads_leNat truncated 8 b, true_and]
  constructor
  · rintro ⟨m, _, ⟨hm, rfl⟩, rfl, rfl⟩
    rw [u64Le, UInt64.toNat_ofNat_of_lt' hm]
  · rintro rfl
    exact ⟨n.toNat, rest, ⟨n.toNat_lt, rfl⟩, UInt64.ofNat_toNat, rfl⟩

lemma reads_fixed (truncated : ε) (n : Nat) :
    Reads (fixed truncated n) (fun _ => True) List.Vector.toList := by
  intro b v rest
  simp only [fixed, bind_ok, take_ok, check_ok, okOr_ok, FixedBytes.ofBytes?_eq_some, true_and]
  constructor
  · rintro ⟨_, _, ⟨-, rfl⟩, rfl, rfl⟩
    rfl
  · rintro rfl
    exact ⟨v.toList, rest, ⟨v.toList_length, rfl⟩, rfl, rfl⟩

lemma reads_times {S : α → Prop} {enc : α → Bytes} (h : Reads r S enc) (n : Nat) :
    Reads (times r n) (fun as => as.length = n ∧ ∀ a ∈ as, S a) (fun as => as.flatMap enc) := by
  induction n with
  | zero =>
    intro b as rest
    simp only [times, pure_ok]
    constructor
    · rintro ⟨rfl, rfl⟩
      exact ⟨⟨rfl, by simp⟩, rfl⟩
    · rintro ⟨⟨hlen, -⟩, rfl⟩
      rw [List.length_eq_zero_iff.mp hlen]
      exact ⟨rfl, rfl⟩
  | succ n ih =>
    intro b as rest
    simp only [times, bind_ok, pure_ok, h b, ih _ _ _]
    constructor
    · rintro ⟨a, _, ⟨ha, rfl⟩, as', _, ⟨⟨hlen, has⟩, rfl⟩, rfl, rfl⟩
      refine ⟨⟨by rw [List.length_cons, hlen], List.forall_mem_cons.mpr ⟨ha, has⟩⟩, ?_⟩
      rw [List.flatMap_cons, List.append_assoc]
    · rintro ⟨⟨hlen, has⟩, rfl⟩
      cases as with
      | nil => cases hlen
      | cons a as =>
        obtain ⟨ha, has⟩ := List.forall_mem_cons.mp has
        refine ⟨a, as.flatMap enc ++ rest, ⟨ha, ?_⟩, as, rest,
          ⟨⟨Nat.succ.inj hlen, has⟩, rfl⟩, rfl, rfl⟩
        rw [List.flatMap_cons, List.append_assoc]

end Reader

end Foundation
