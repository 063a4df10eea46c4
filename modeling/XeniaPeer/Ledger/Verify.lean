import XeniaPeer.Foundation.HashChain
import XeniaPeer.Ledger.Signature

/-!
# The chain verifier

`Verifier::verify_chain` (`verify.rs`): one pass over the entries that carries the expected index
and the expected previous hash. `verifyChain_ok` says that it accepts exactly the lists that are
hash-linked from `(0, zeroHash)` with every entry sealed by the key.

Main result: `verifyChain_head_commits`.
-/

namespace XeniaPeer.Ledger

open Foundation

inductive VerifyError where
  | outOfOrder (index : Nat) (expected found : UInt64)
  | badGenesis
  | brokenLink (seq : UInt64)
  | entryHashMismatch (seq : UInt64)
  | badSignature (seq : UInt64)
  | unsupportedSignatureSuite (seq : UInt64) (signatureSuite : SignatureSuite)
  | unknownSignatureSuite (seq : UInt64) (algorithm : String)
  | badSignatureLength (seq : UInt64) (expected found : Nat)
  | badSignaturePublicKey (seq : UInt64) (signatureSuite : SignatureSuite)
  | signatureBackendSuiteMismatch (seq : UInt64) (entrySuite backendSuite : SignatureSuite)
deriving DecidableEq

variable (C : Crypto)

def verifyChainFrom (publicKey : C.ed25519.VerifyingKey) :
    Nat → FixedBytes 32 → List LedgerEntry → Except VerifyError Unit
  | _, _, [] => .ok ()
  | index, expectedPrev, entry :: rest => do
    failIf (entry.seq.toNat ≠ index) (.outOfOrder index (UInt64.ofNat index) entry.seq)
    failIf (entry.seq = 0 ∧ entry.prevHash ≠ zeroHash) .badGenesis
    failIf (entry.prevHash ≠ expectedPrev) (.brokenLink entry.seq)
    let recomputed ← (computeEntryHash C entry.preimage).mapError
      (fun _ => .entryHashMismatch entry.seq)
    failIf (recomputed ≠ entry.entryHash) (.entryHashMismatch entry.seq)
    failIf (C.ed25519.verify publicKey entry.entryHash.toList entry.signature = false)
      (.badSignature entry.seq)
    verifyChainFrom publicKey (index + 1) entry.entryHash rest

def verifyChain (entries : List LedgerEntry) (publicKey : C.ed25519.VerifyingKey) :
    Except VerifyError Unit :=
  verifyChainFrom C publicKey 0 zeroHash entries

/-! ## What is accepted -/

def ledgerLinks : Links LedgerEntry (FixedBytes 32) where
  seq e := e.seq.toNat
  prev e := e.prevHash
  digest e := e.entryHash

@[simp] lemma ledgerLinks_seq (e : LedgerEntry) : ledgerLinks.seq e = e.seq.toNat := rfl

@[simp] lemma ledgerLinks_prev (e : LedgerEntry) : ledgerLinks.prev e = e.prevHash := rfl

@[simp] lemma ledgerLinks_digest (e : LedgerEntry) : ledgerLinks.digest e = e.entryHash := rfl

def Sealed (publicKey : C.ed25519.VerifyingKey) (e : LedgerEntry) : Prop :=
  computeEntryHash C e.preimage = .ok e.entryHash ∧
    C.ed25519.verify publicKey e.entryHash.toList e.signature = true

abbrev LinkedFrom (publicKey : C.ed25519.VerifyingKey) (n : Nat) (h : FixedBytes 32)
    (entries : List LedgerEntry) : Prop :=
  ledgerLinks.Linked (Sealed C publicKey) n h entries

variable {C} {publicKey : C.ed25519.VerifyingKey} {e : LedgerEntry}

lemma sealChecks_ok {ε β : Type} {hash sigError : ε} {next : Except ε β} {b : β} :
    ((computeEntryHash C e.preimage).mapError (fun _ => hash) >>= fun recomputed =>
      failIf (recomputed ≠ e.entryHash) hash >>= fun _ =>
      failIf (C.ed25519.verify publicKey e.entryHash.toList e.signature = false) sigError >>=
        fun _ => next) = .ok b ↔ Sealed C publicKey e ∧ next = .ok b := by
  rw [bind_ok]
  simp only [guard_bind_ok, mapError_ok, failIf_ok, Sealed, ne_eq, not_not, Bool.not_eq_false]
  constructor
  · rintro ⟨d, hd, rfl, hsig, hnext⟩
    exact ⟨⟨hd, hsig⟩, hnext⟩
  · rintro ⟨⟨hd, hsig⟩, hnext⟩
    exact ⟨_, hd, rfl, hsig, hnext⟩

variable {entries : List LedgerEntry}

lemma verifyChainFrom_ok {n : Nat} {h : FixedBytes 32} (h0 : n = 0 → h = zeroHash) :
    verifyChainFrom C publicKey n h entries = .ok () ↔ LinkedFrom C publicKey n h entries := by
  induction entries generalizing n h with
  | nil => simp [verifyChainFrom, Links.Linked]
  | cons e es ih =>
    simp only [verifyChainFrom, guard_bind_ok, failIf_ok, sealChecks_ok,
      Links.Linked, ledgerLinks_seq, ledgerLinks_prev, ledgerLinks_digest,
      ih (n := n + 1) (h := e.entryHash) (by omega)]
    have hgen : e.seq.toNat = n → e.prevHash = h → ¬(e.seq = 0 ∧ e.prevHash ≠ zeroHash) := by
      rintro hn hh ⟨hzero, hne⟩
      rw [hzero] at hn
      exact hne (hh.trans (h0 hn.symm))
    constructor
    · rintro ⟨hn, -, hh, hseal, hrest⟩
      exact ⟨not_not.mp hn, not_not.mp hh, hseal, hrest⟩
    · rintro ⟨hn, hh, hseal, hrest⟩
      exact ⟨not_not.mpr hn, hgen hn hh, not_not.mpr hh, hseal, hrest⟩

lemma verifyChain_ok :
    verifyChain C entries publicKey = .ok () ↔ LinkedFrom C publicKey 0 zeroHash entries :=
  verifyChainFrom_ok (fun _ => rfl)

/-! ## The head commits to the chain -/

/-- No two of these preimages have the same hash. -/
def CollisionFreeOn (C : Crypto) (S : Set EntryPreimage) : Prop :=
  ∀ p ∈ S, ∀ q ∈ S, ∀ d, computeEntryHash C p = .ok d → computeEntryHash C q = .ok d → p = q

def preimages (entries : List LedgerEntry) : Set EntryPreimage :=
  {p | p ∈ entries.map LedgerEntry.preimage}

variable {S : Set EntryPreimage}

lemma collisionFreeOn_of_nodup {ps : List EntryPreimage}
    (h : (ps.dedup.map (computeEntryHash C)).Nodup) : CollisionFreeOn C {p | p ∈ ps} := by
  intro p hp q hq d hpd hqd
  exact injOn_of_nodup_map h hp hq (hpd.trans hqd.symm)

/-- Entries that differ in their signature at most. -/
def SameContent (x y : LedgerEntry) : Prop :=
  x.seq = y.seq ∧ x.timestamp = y.timestamp ∧ x.event = y.event ∧ x.prevHash = y.prevHash ∧
    x.entryHash = y.entryHash

lemma sameContent_of_sealed {pk pk' : C.ed25519.VerifyingKey} {x y : LedgerEntry}
    (hx : Sealed C pk x) (hy : Sealed C pk' y) (hfree : CollisionFreeOn C S)
    (hxS : x.preimage ∈ S) (hyS : y.preimage ∈ S) (hhash : x.entryHash = y.entryHash) :
    SameContent x y := by
  have hpre := hfree _ hxS _ hyS _ hx.1 (hhash ▸ hy.1)
  simp only [LedgerEntry.preimage, EntryPreimage.mk.injEq] at hpre
  obtain ⟨hseq, hprev, htime, hevent⟩ := hpre
  exact ⟨hseq, htime, hevent, hprev, hhash⟩

lemma preimage_mem (h : e ∈ entries) : e.preimage ∈ preimages entries := List.mem_map_of_mem h

/-- **Commitment.** Two non-empty chains that the verifier accepts, under any keys, and that
end in one hash have one length and agree at every index on everything but the signature. -/
theorem verifyChain_head_commits {pk pk' : C.ed25519.VerifyingKey} {xs ys : List LedgerEntry}
    (hx : verifyChain C xs pk = .ok ()) (hy : verifyChain C ys pk' = .ok ()) (hxne : xs ≠ [])
    (hyne : ys ≠ []) (hfree : CollisionFreeOn C (preimages (xs ++ ys)))
    (hhead : (xs.getLast hxne).entryHash = (ys.getLast hyne).entryHash) :
    xs.length = ys.length ∧
      ∀ (i : Nat) (hi : i < xs.length) (hj : i < ys.length), SameContent xs[i] ys[i] := by
  have hxs := verifyChain_ok.mp hx
  have hys := verifyChain_ok.mp hy
  have hlinks : ∀ x y : LedgerEntry, SameContent x y →
      ledgerLinks.seq x = ledgerLinks.seq y ∧ ledgerLinks.prev x = ledgerLinks.prev y := by
    rintro x y ⟨hseq, -, -, hprev, -⟩
    exact ⟨congrArg UInt64.toNat hseq, hprev⟩
  have hall := hxs.commits hlinks hys
    (fun x hx y hy hd => sameContent_of_sealed (hxs.good_of_mem hx) (hys.good_of_mem hy) hfree
      (preimage_mem (List.mem_append_left _ hx)) (preimage_mem (List.mem_append_right _ hy)) hd)
    hxne hyne hhead
  refine ⟨hall.length_eq, ?_⟩
  intro i hi hj
  exact List.forall₂_iff_get.mp hall |>.2 i hi hj

/-- One history sealed by two keys: the chains differ in their signatures only. -/
theorem verifyChain_head_commits_sample :
    sampleChain (sampleKey 7) ≠ sampleChain (sampleKey 8) ∧
      ∀ (i : Nat) (hi : i < 2), SameContent (sampleChain (sampleKey 7))[i]
        (sampleChain (sampleKey 8))[i] := by
  have hx : verifyChain sampleCrypto (sampleChain (sampleKey 7)) (sampleKey 7) = .ok () := by
    decide +kernel
  have hy : verifyChain sampleCrypto (sampleChain (sampleKey 8)) (sampleKey 8) = .ok () := by
    decide +kernel
  have hfree : CollisionFreeOn sampleCrypto
      (preimages (sampleChain (sampleKey 7) ++ sampleChain (sampleKey 8))) :=
    collisionFreeOn_of_nodup (by decide +kernel)
  have hcommit := verifyChain_head_commits hx hy (by decide +kernel) (by decide +kernel) hfree
    (by decide +kernel)
  exact ⟨by decide +kernel, fun i hi => hcommit.2 i hi hi⟩

end XeniaPeer.Ledger
