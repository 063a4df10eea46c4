import XeniaPeer.Foundation.Runs
import XeniaPeer.Ledger.Checkpoint

/-!
# The ledger writer

`Chain` (`chain.rs`) holds the resident entries of a ledger, either from genesis or on top of a
checkpoint whose entries were compacted away. It grows by `append` and by two transactional variants
that roll the new entry back when it could not be persisted.

Main result: `run_stays_accepted`.
-/

namespace XeniaPeer.Ledger

open Foundation

/-! ## The chain and its operations -/

structure Chain (C : Crypto) where
  baseEntryCount : UInt64
  baseHeadHash : FixedBytes 32
  baseCheckpoint : Option LedgerCheckpoint
  entries : List LedgerEntry
  signingKey : C.ed25519.SigningKey

inductive TransactionalAppendError (E : Type) where
  | ledger (error : LedgerError)
  | persist (error : E)

namespace Chain

variable {C : Crypto}

def new (signingKey : C.ed25519.SigningKey) : Chain C where
  baseEntryCount := 0
  baseHeadHash := zeroHash
  baseCheckpoint := none
  entries := []
  signingKey := signingKey

def fromEntries (entries : List LedgerEntry) (signingKey : C.ed25519.SigningKey) : Chain C where
  baseEntryCount := 0
  baseHeadHash := zeroHash
  baseCheckpoint := none
  entries := entries
  signingKey := signingKey

def fromCheckpointSuffix (baseCheckpoint : LedgerCheckpoint) (entries : List LedgerEntry)
    (signingKey : C.ed25519.SigningKey) : Chain C where
  baseEntryCount := baseCheckpoint.entryCount
  baseHeadHash := baseCheckpoint.headHash
  baseCheckpoint := some baseCheckpoint
  entries := entries
  signingKey := signingKey

section

variable (c : Chain C) (event : ConsentEventRecord) (now : SystemTime)

def entryCount : UInt64 := saturatingAdd c.baseEntryCount c.entries.length

def lastHash : FixedBytes 32 :=
  (c.entries.getLast?.map LedgerEntry.entryHash).getD c.baseHeadHash

def push (entry : LedgerEntry) : Chain C :=
  { c with entries := c.entries ++ [entry] }

def pop : Chain C := { c with entries := c.entries.dropLast }

def nextEntry : Except LedgerError LedgerEntry := do
  let seq ← okOr (checkedAdd c.baseEntryCount c.entries.length) .sequenceOverflow
  let entryHash ← computeEntryHash C ⟨seq, c.lastHash, now, event⟩
  pure ⟨seq, c.lastHash, now, event, entryHash, C.ed25519.sign c.signingKey entryHash.toList⟩

def append : Except LedgerError LedgerEntry × Chain C :=
  match c.nextEntry event now with
  | .error e => (.error e, c)
  | .ok entry =>
    (okOr ((c.push entry).entries[c.entries.length]?) .appendInvariant, c.push entry)

def appendTransactionalChain {E : Type} (persist : Chain C → Except E Unit) :
    Except (TransactionalAppendError E) LedgerEntry × Chain C :=
  match c.append event now with
  | (.error e, c') => (.error (.ledger e), c')
  | (.ok _, c') =>
    match persist c' with
    | .error err => (.error (.persist err), c'.pop)
    | .ok () => (okOr c'.entries.getLast? (.ledger .appendInvariant), c')

def appendTransactional {E : Type} (persist : List LedgerEntry → Except E Unit) :
    Except (TransactionalAppendError E) LedgerEntry × Chain C :=
  c.appendTransactionalChain event now (fun c' => persist c'.entries)

def signCheckpoint (timestampUnixSecs : UInt64) : LedgerCheckpoint :=
  let ledgerPublicKey := (C.ed25519.verifyingKey c.signingKey).val
  ⟨ledgerCheckpointSchema, c.entryCount, c.lastHash, ledgerPublicKey, timestampUnixSecs,
    C.ed25519.sign c.signingKey
      (checkpointMessage c.entryCount c.lastHash ledgerPublicKey timestampUnixSecs)⟩

end

inductive Op (C : Crypto) (E : Type) where
  | append (event : ConsentEventRecord) (now : SystemTime)
  | appendTransactional (event : ConsentEventRecord) (now : SystemTime)
      (persist : List LedgerEntry → Except E Unit)
  | appendTransactionalChain (event : ConsentEventRecord) (now : SystemTime)
      (persist : Chain C → Except E Unit)

def Op.event {E : Type} : Op C E → ConsentEventRecord
  | .append event _ => event
  | .appendTransactional event _ _ => event
  | .appendTransactionalChain event _ _ => event

def Op.now {E : Type} : Op C E → SystemTime
  | .append _ now => now
  | .appendTransactional _ now _ => now
  | .appendTransactionalChain _ now _ => now

def apply {E : Type} (c : Chain C) :
    Op C E → Except (TransactionalAppendError E) LedgerEntry × Chain C
  | .append event now => ((c.append event now).1.mapError .ledger, (c.append event now).2)
  | .appendTransactional event now persist => c.appendTransactional event now persist
  | .appendTransactionalChain event now persist => c.appendTransactionalChain event now persist

def run {E : Type} (c : Chain C) (ops : List (Op C E)) : Chain C :=
  ops.foldl (fun c op => (c.apply op).2) c

/-! ## What a call can do -/

@[simp] lemma push_entries (c : Chain C) (entry : LedgerEntry) :
    (c.push entry).entries = c.entries ++ [entry] := rfl

@[simp] lemma pop_push (c : Chain C) (entry : LedgerEntry) : (c.push entry).pop = c := by
  simp [pop, push]

lemma lastHash_eq_headAfter (c : Chain C) :
    c.lastHash = ledgerLinks.headAfter c.baseHeadHash c.entries := by
  unfold lastHash
  rcases List.eq_nil_or_concat' c.entries with hnil | ⟨front, last, hlast⟩
  · rw [hnil]
    rfl
  · rw [hlast, Links.headAfter_concat]
    simp

variable {c : Chain C} {event : ConsentEventRecord} {now : SystemTime} {entry : LedgerEntry}

lemma append_of_nextEntry (h : c.nextEntry event now = .ok entry) :
    c.append event now = (.ok entry, c.push entry) := by
  simp [append, h, okOr]

lemma append_of_error {e : LedgerError} (h : c.nextEntry event now = .error e) :
    c.append event now = (.error e, c) := by
  simp [append, h]

section Cases

variable {E : Type}

lemma appendTransactionalChain_cases (c : Chain C) (event : ConsentEventRecord)
    (now : SystemTime) (persist : Chain C → Except E Unit) :
    (∃ e, c.appendTransactionalChain event now persist = (.error e, c)) ∨
      ∃ entry, c.nextEntry event now = .ok entry ∧ persist (c.push entry) = .ok () ∧
        c.appendTransactionalChain event now persist = (.ok entry, c.push entry) := by
  unfold appendTransactionalChain
  cases hnext : c.nextEntry event now with
  | error e =>
    rw [append_of_error hnext]
    exact .inl ⟨_, rfl⟩
  | ok entry =>
    rw [append_of_nextEntry hnext]
    cases h : persist (c.push entry) with
    | error err =>
      -- the rollback: the pushed entry is the last one, and popping it restores the chain
      refine .inl ⟨.persist err, ?_⟩
      simp [h]
    | ok u =>
      refine .inr ⟨entry, rfl, h, ?_⟩
      simp [h, okOr]

lemma apply_cases (c : Chain C) (op : Op C E) : (∃ e, c.apply op = (.error e, c)) ∨
      ∃ entry, c.nextEntry op.event op.now = .ok entry ∧
        c.apply op = (.ok entry, c.push entry) := by
  cases op with
  | append event now =>
    cases hnext : c.nextEntry event now with
    | error e =>
      refine .inl ⟨.ledger e, ?_⟩
      simp [apply, append_of_error hnext, Except.mapError]
    | ok entry =>
      refine .inr ⟨entry, hnext, ?_⟩
      simp [apply, append_of_nextEntry hnext, Except.mapError]
  | appendTransactional event now persist =>
    rcases c.appendTransactionalChain_cases event now (fun c' => persist c'.entries) with
      herr | ⟨entry, hnext, -, hok⟩
    · exact .inl herr
    · exact .inr ⟨entry, hnext, hok⟩
  | appendTransactionalChain event now persist =>
    rcases c.appendTransactionalChain_cases event now persist with
      herr | ⟨entry, hnext, -, hok⟩
    · exact .inl herr
    · exact .inr ⟨entry, hnext, hok⟩

lemma apply_error_unchanged {c c' : Chain C} {op : Op C E} {e : TransactionalAppendError E}
    (h : c.apply op = (.error e, c')) : c' = c := by
  rcases c.apply_cases op with ⟨e', herr⟩ | ⟨entry, -, hok⟩
  · rw [herr] at h
    exact (Prod.mk.inj h).2.symm
  · rw [hok] at h
    cases (Prod.mk.inj h).1

end Cases

/-! ## What a run keeps -/

def verifyingKey (c : Chain C) : C.ed25519.VerifyingKey := C.ed25519.verifyingKey c.signingKey

def ResidentLinked (c : Chain C) : Prop :=
  LinkedFrom C c.verifyingKey c.baseEntryCount.toNat c.baseHeadHash c.entries

lemma nextEntry_linked (hcorrect : C.ed25519.Correct)
    (hnext : c.nextEntry event now = .ok entry) (hlink : c.ResidentLinked) :
    (c.push entry).ResidentLinked := by
  simp only [nextEntry, bind_ok, okOr_ok, pure_ok] at hnext
  obtain ⟨seq, hseq, entryHash, hhash, rfl⟩ := hnext
  refine Links.linked_concat.mpr ⟨hlink, ?_, ?_, ?_⟩
  · exact toNat_of_checkedAdd hseq
  · exact c.lastHash_eq_headAfter
  · exact ⟨hhash, hcorrect c.signingKey entryHash.toList⟩

/-- What a run from `start` can be: one with the same base and key, with at most one entry
more per call, and still linked. -/
structure RunsFrom (start : Chain C) (calls : Nat) (c : Chain C) : Prop where
  baseEntryCount : c.baseEntryCount = start.baseEntryCount
  baseHeadHash : c.baseHeadHash = start.baseHeadHash
  signingKey : c.signingKey = start.signingKey
  length_le : c.entries.length ≤ start.entries.length + calls
  linked : c.ResidentLinked

section Runs

variable {E : Type} {start c : Chain C} {calls : Nat}

section

variable (hcorrect : C.ed25519.Correct)

include hcorrect

lemma RunsFrom.apply (h : RunsFrom start calls c) (op : Op C E) :
    RunsFrom start (calls + 1) (c.apply op).2 := by
  rcases c.apply_cases op with ⟨e, herr⟩ | ⟨entry, hnext, hok⟩
  · rw [herr]
    exact { h with length_le := Nat.le_succ_of_le h.length_le }
  · rw [hok]
    refine ⟨h.baseEntryCount, h.baseHeadHash, h.signingKey, ?_,
      nextEntry_linked hcorrect hnext h.linked⟩
    have hle := h.length_le
    simp only [push_entries, List.length_append, List.length_singleton]
    omega

lemma RunsFrom.run (h : RunsFrom start calls c) (ops : List (Op C E)) :
    RunsFrom start (calls + ops.length) (c.run ops) := by
  induction ops generalizing c calls with
  | nil => exact h
  | cons op ops ih =>
    have hrest := ih (h.apply hcorrect op)
    rw [List.length_cons, Nat.add_comm ops.length, ← Nat.add_assoc]
    exact hrest

lemma run_linked (start : Chain C) (hstart : start.ResidentLinked) (ops : List (Op C E)) :
    RunsFrom start ops.length (start.run ops) := by
  have h0 : RunsFrom start 0 start := ⟨rfl, rfl, rfl, Nat.le_refl _, hstart⟩
  have hrun := h0.run hcorrect ops
  rwa [Nat.zero_add] at hrun

lemma signCheckpoint_extends {base : LedgerCheckpoint} {t : UInt64} (hlink : c.ResidentLinked)
    (hcount : c.baseEntryCount = base.entryCount) (hhead : c.baseHeadHash = base.headHash)
    (hbase : SignedBy C c.verifyingKey base)
    (hfit : c.baseEntryCount.toNat + c.entries.length < 2 ^ 64) (ht : base.timestampUnixSecs ≤ t) :
    verifyCheckpointExtension C base (c.signCheckpoint t) c.entries = .ok () := by
  have h : SignedBy C c.verifyingKey (c.signCheckpoint t) := ⟨rfl, rfl, hcorrect c.signingKey _⟩
  refine verifyCheckpointExtension_ok.mpr ⟨c.verifyingKey, hbase, h, ht, ?_, ?_, ?_⟩
  · rw [← hcount]
    exact (toNat_saturatingAdd hfit).symm
  · rw [← hcount, ← hhead]
    exact hlink
  · rw [← hhead]
    exact c.lastHash_eq_headAfter.symm

end

/-- **The writer stays verifiable.** After every sequence of calls the chain verifier accepts
a chain that started empty; from a base checkpoint of the chain's key and a suffix that the
extension verifier accepts, away from the end of the sequence numbers, it accepts the resident
entries up to a checkpoint signed at any time not before the base. A call that returns an
error leaves the chain as it was. -/
theorem run_stays_accepted (hcorrect : C.ed25519.Correct) (signingKey : C.ed25519.SigningKey)
    (ops : List (Op C E)) :
    verifyChain C ((new signingKey).run ops).entries (C.ed25519.verifyingKey signingKey) =
        .ok () ∧
    (∀ (base candidate : LedgerCheckpoint) (suffix : List LedgerEntry) (t : UInt64),
      base.ledgerPublicKey = (C.ed25519.verifyingKey signingKey).val →
      verifyCheckpointExtension C base candidate suffix = .ok () →
      base.entryCount.toNat + suffix.length + ops.length < 2 ^ 64 →
      base.timestampUnixSecs ≤ t →
      let c := (fromCheckpointSuffix base suffix signingKey).run ops
      verifyCheckpointExtension C base (c.signCheckpoint t) c.entries = .ok ()) ∧
    (∀ (c c' : Chain C) (op : Op C E) (e : TransactionalAppendError E),
      c.apply op = (.error e, c') →
      c'.entries = c.entries ∧ c'.lastHash = c.lastHash ∧ c'.entryCount = c.entryCount) := by
  refine ⟨?_, ?_, ?_⟩
  · have hrun := run_linked hcorrect (new signingKey) trivial ops
    have hlinked := hrun.linked
    unfold ResidentLinked verifyingKey at hlinked
    rw [hrun.baseEntryCount, hrun.baseHeadHash, hrun.signingKey] at hlinked
    exact verifyChain_ok.mpr hlinked
  · intro base candidate suffix t hkey hext hfit ht c
    obtain ⟨pk, hbase, -, -, -, hlinked, -⟩ := verifyCheckpointExtension_ok.mp hext
    have hpk : pk = C.ed25519.verifyingKey signingKey :=
      hbase.eq_of_key hkey
    subst hpk
    have hrun := run_linked hcorrect (fromCheckpointSuffix base suffix signingKey) hlinked ops
    have hkey' : c.verifyingKey = C.ed25519.verifyingKey signingKey :=
      congrArg C.ed25519.verifyingKey hrun.signingKey
    refine signCheckpoint_extends hcorrect hrun.linked hrun.baseEntryCount hrun.baseHeadHash
      (hkey' ▸ hbase) ?_ ht
    have hlen : c.entries.length ≤ suffix.length + ops.length := hrun.length_le
    have hcount : c.baseEntryCount = base.entryCount := hrun.baseEntryCount
    rw [hcount]
    omega
  · intro c c' op e h
    rw [apply_error_unchanged h]
    exact ⟨rfl, rfl, rfl⟩

end Runs

/-! ## Chains with one frontier -/

structure SameFrontier (c d : Chain C) : Prop where
  count : c.baseEntryCount.toNat + c.entries.length = d.baseEntryCount.toNat + d.entries.length
  head : c.lastHash = d.lastHash

/-- The same error, or entries that differ in their signature at most. -/
def SameOutcome : Except LedgerError LedgerEntry → Except LedgerError LedgerEntry → Prop
  | .error e, .error e' => e = e'
  | .ok x, .ok y => SameContent x y
  | _, _ => False

def appendAll (c : Chain C) (calls : List (ConsentEventRecord × SystemTime)) : Chain C :=
  calls.foldl (fun c call => (c.append call.1 call.2).2) c

variable {d : Chain C}

lemma SameFrontier.entryCount_eq (h : SameFrontier c d) : c.entryCount = d.entryCount := by
  unfold entryCount saturatingAdd
  rw [checkedAdd_congr h.count]

lemma SameFrontier.nextEntry_cases (h : SameFrontier c d) (event : ConsentEventRecord)
    (now : SystemTime) :
    (∃ e, c.nextEntry event now = .error e ∧ d.nextEntry event now = .error e) ∨
      ∃ x y, c.nextEntry event now = .ok x ∧ d.nextEntry event now = .ok y ∧ SameContent x y := by
  unfold nextEntry
  rw [checkedAdd_congr h.count, h.head]
  cases okOr (checkedAdd d.baseEntryCount d.entries.length) LedgerError.sequenceOverflow with
  | error e => exact .inl ⟨e, rfl, rfl⟩
  | ok seq =>
    cases hhash : computeEntryHash C ⟨seq, d.lastHash, now, event⟩ with
    | error e => exact .inl ⟨e, by simp [hhash, bind, Except.bind]⟩
    | ok entryHash =>
      exact .inr ⟨⟨seq, d.lastHash, now, event, entryHash, C.ed25519.sign c.signingKey
          entryHash.toList⟩, ⟨seq, d.lastHash, now, event, entryHash,
          C.ed25519.sign d.signingKey entryHash.toList⟩,
        bind_ok.mpr ⟨seq, rfl, bind_ok.mpr ⟨entryHash, hhash, rfl⟩⟩,
        bind_ok.mpr ⟨seq, rfl, bind_ok.mpr ⟨entryHash, hhash, rfl⟩⟩, rfl, rfl, rfl, rfl, rfl⟩

lemma SameFrontier.append (h : SameFrontier c d) (event : ConsentEventRecord) (now : SystemTime) :
    SameOutcome (c.append event now).1 (d.append event now).1 ∧
      SameFrontier (c.append event now).2 (d.append event now).2 := by
  obtain ⟨e, hc, hd⟩ | ⟨x, y, hc, hd, hxy⟩ := h.nextEntry_cases event now
  · rw [append_of_error hc, append_of_error hd]
    exact ⟨rfl, h⟩
  · rw [append_of_nextEntry hc, append_of_nextEntry hd]
    obtain ⟨-, -, -, -, hhash⟩ := id hxy
    refine ⟨hxy, ?_, ?_⟩
    · have hcount := h.count
      simp only [push, List.length_append, List.length_singleton]
      omega
    · simpa [lastHash, push] using hhash

lemma SameFrontier.appendAll (h : SameFrontier c d)
    (calls : List (ConsentEventRecord × SystemTime)) :
    SameFrontier (c.appendAll calls) (d.appendAll calls) := by
  induction calls generalizing c d with
  | nil => exact h
  | cons call calls ih => exact ih (h.append call.1 call.2).2

def sampleOps : List (Op sampleCrypto String) :=
  [.append (sampleEvent .request) sampleTime,
    .appendTransactional (sampleEvent .approval) sampleTime (fun _ => .error "disk full"),
    .appendTransactionalChain (sampleEvent .denial) sampleTime (fun _ => .ok ())]

/-- The run on an empty chain and on top of a checkpoint after one entry. -/
theorem run_stays_accepted_sample :
    let key : sampleCrypto.ed25519.SigningKey := (sampleKey 7).val
    let base := sampleCheckpoint (sampleKey 7) ((sampleChain (sampleKey 7)).take 1) 20
    let suffix := (sampleChain (sampleKey 7)).drop 1
    let anchored := (fromCheckpointSuffix base suffix key).run sampleOps
    verifyChain sampleCrypto ((new key).run sampleOps).entries (sampleKey 7) = .ok () ∧
      verifyCheckpointExtension sampleCrypto base (anchored.signCheckpoint 40)
        anchored.entries = .ok () ∧
      anchored.entries.length = 3 := by
  intro key base suffix anchored
  have haccepted := run_stays_accepted (C := sampleCrypto) (keyedScheme_correct _) key sampleOps
  refine ⟨haccepted.1, ?_, by decide +kernel⟩
  exact haccepted.2.1 base (sampleCheckpoint (sampleKey 7) (sampleChain (sampleKey 7)) 30) suffix
    40 (by decide +kernel) (by decide +kernel) (by decide +kernel) (by decide +kernel)

end Chain

end XeniaPeer.Ledger
