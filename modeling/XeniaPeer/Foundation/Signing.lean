import XeniaPeer.Foundation.Codes

/-!
# Signature schemes

A signature scheme over byte strings, with public keys of `k` bytes and signatures of `s` bytes. Not
every `k` bytes are a key: parsing (`fromBytes`) fails on the others, and a `VerifyingKey` is the
bytes of one that parsed.
-/

namespace Foundation

structure SignatureScheme (k s : Nat) where
  SigningKey : Type
  validKey : FixedBytes k → Bool
  verifyingKey : SigningKey → {b : FixedBytes k // validKey b = true}
  sign : SigningKey → Bytes → FixedBytes s
  verify : {b : FixedBytes k // validKey b = true} → Bytes → FixedBytes s → Bool

namespace SignatureScheme

variable {k s : Nat} (S : SignatureScheme k s)

abbrev VerifyingKey := {b : FixedBytes k // S.validKey b = true}

def fromBytes (b : FixedBytes k) : Option S.VerifyingKey :=
  if h : S.validKey b = true then some ⟨b, h⟩ else none

def verifyBytes (b : FixedBytes k) (m : Bytes) (sig : FixedBytes s) : Bool :=
  (S.fromBytes b).any (fun pk => S.verify pk m sig)

/-- A signature verifies under the key it was made for. -/
def Correct : Prop := ∀ sk m, S.verify (S.verifyingKey sk) m (S.sign sk m) = true

/-- Under a key only those messages verify that were signed with it. -/
def Unforgeable (signed : FixedBytes k → Set Bytes) : Prop :=
  ∀ pk m sig, S.verify pk m sig = true → m ∈ signed pk.val

/-- Among the messages of `M`, a signature by `sk` is one for a single message. On all byte
strings this fails for every correct scheme: there are more of them than signatures. -/
def BindingOn (sk : S.SigningKey) (M : Set Bytes) : Prop :=
  ∀ m ∈ M, ∀ m' ∈ M, S.verify (S.verifyingKey sk) m' (S.sign sk m) = true → m' = m

variable {S} {b : FixedBytes k} {pk : S.VerifyingKey}

@[simp] lemma fromBytes_eq_some : S.fromBytes b = some pk ↔ pk.val = b := by
  unfold fromBytes
  constructor
  · intro h
    split at h
    · cases h
      rfl
    · cases h
  · rintro rfl
    simp [pk.property]

variable {m : Bytes} {sig : FixedBytes s}

lemma verifyBytes_eq_true :
    S.verifyBytes b m sig = true ↔ ∃ pk, S.fromBytes b = some pk ∧ S.verify pk m sig = true :=
  Option.any_eq_true _ _

lemma verifyBytes_val : S.verifyBytes pk.val m sig = S.verify pk m sig := by
  have h : S.fromBytes pk.val = some pk := fromBytes_eq_some.mpr rfl
  rw [verifyBytes, h]
  rfl

lemma Unforgeable.of_verifyBytes {signed : FixedBytes k → Set Bytes} (h : S.Unforgeable signed)
    (hv : S.verifyBytes b m sig = true) : m ∈ signed b := by
  obtain ⟨pk, hpk, hverify⟩ := verifyBytes_eq_true.mp hv
  rw [← fromBytes_eq_some.mp hpk]
  exact h pk m sig hverify

end SignatureScheme

/-! ## Executable samples -/

def foldDigest (n : Nat) (m : Bytes) : FixedBytes n :=
  ⟨leBytes n (m.foldl (fun acc b => (acc * 257 + b.toNat + 1) % 256 ^ n) 0), leBytes_length _ _⟩

def sumDigest (n : Nat) (m : Bytes) : FixedBytes n :=
  ⟨leBytes n (m.foldl (fun acc b => acc + b.toNat + 1) 0), leBytes_length _ _⟩

def keyedScheme {k s : Nat} (digest : Bytes → FixedBytes s) : SignatureScheme k s where
  SigningKey := FixedBytes k
  validKey _ := true
  verifyingKey sk := ⟨sk, rfl⟩
  sign sk m := digest (sk.toList ++ m)
  verify pk m sig := decide (sig = digest (pk.val.toList ++ m))

variable {k s : Nat}

lemma keyedScheme_correct (digest : Bytes → FixedBytes s) :
    (keyedScheme digest : SignatureScheme k s).Correct := by
  intro sk m
  simp [keyedScheme]

def recordScheme {k s : Nat} (signature : FixedBytes s) (log : List (FixedBytes k × Bytes)) :
    SignatureScheme k s where
  SigningKey := FixedBytes k
  validKey _ := true
  verifyingKey sk := ⟨sk, rfl⟩
  sign _ _ := signature
  verify pk m _ := decide ((pk.val, m) ∈ log)

lemma recordScheme_unforgeable (signature : FixedBytes s) (log : List (FixedBytes k × Bytes)) :
    (recordScheme signature log).Unforgeable (fun pk => {m | (pk, m) ∈ log}) := by
  intro pk m sig h
  exact of_decide_eq_true h

end Foundation
