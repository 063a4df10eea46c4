import XeniaPeer.Consent.Persistence

/-!
# Checkpoints retained outside of the ledger

A checkpoint that is kept on other storage shows whether a ledger was rolled back
(`audit_ledger_store.rs`). `verifyCheckpointAgainstChain` looks for it on the resident entries of a
chain, which on a compacted ledger are only those behind the anchor, and
`advanceRetainedCheckpoint` replaces it by a newer one.

Main result: `retained_checkpoint_extends`.
-/

namespace XeniaPeer.Consent

open Foundation Foundation.FileSystem Ledger

variable {C : Crypto}

/-! ## Checking and advancing -/

def residentHead (chain : Chain C) (base checkpoint : LedgerCheckpoint) :
    Except AuditLedgerStoreError (FixedBytes 32) :=
  if checkpoint.entryCount = base.entryCount then .ok base.headHash
  else (okOr (chain.entries[(checkpoint.entryCount - base.entryCount - 1).toNat]?)
    (.checkpointContinuity (.checkpointAheadOfLedger checkpoint.entryCount
      chain.entryCount))).map LedgerEntry.entryHash

def verifyCheckpointAgainstChain (checkpoint : LedgerCheckpoint) (chain : Chain C)
    (publicKey : C.ed25519.VerifyingKey) (now : UInt64) : Except AuditLedgerStoreError Unit :=
  match chain.baseCheckpoint with
  | none => (verifyCheckpointPrefix C checkpoint chain.entries publicKey).mapError
      .checkpointContinuity
  | some base => do
    (verifyCheckpoint C checkpoint).mapError (fun e => .checkpointContinuity (.invalidCheckpoint e))
    failIf (checkpoint.ledgerPublicKey ≠ publicKey.val) (.checkpointContinuity .trustedKeyMismatch)
    (verifyCheckpoint C base).mapError (fun e => .checkpointContinuity (.invalidCheckpoint e))
    failIf (checkpoint.entryCount < base.entryCount)
      (.metadataMismatch "retained checkpoint predates compacted ledger anchor")
    failIf (chain.entryCount < checkpoint.entryCount) (.checkpointContinuity
      (.checkpointAheadOfLedger checkpoint.entryCount chain.entryCount))
    let observedHead ← residentHead chain base checkpoint
    failIf (observedHead ≠ checkpoint.headHash)
      (.checkpointContinuity (.prefixHeadMismatch checkpoint.entryCount))
    (verifyCheckpointExtension C base (chain.signCheckpoint (max now base.timestampUnixSecs))
      chain.entries).mapError .checkpointContinuity

def maxRetainedCheckpointBytes : Nat := 64 * 1024

/-- `verify_retained_checkpoint`, with the default freshness policy: no limit of the age, and a
clock that is at most 300 seconds behind. The clock is read twice. -/
def verifyRetainedCheckpoint (json : TextFormat LedgerCheckpoint) (fs : FileSystem)
    (path : String) (chain : Chain C) (publicKey : C.ed25519.VerifyingKey) (now later : UInt64) :
    Except AuditLedgerStoreError LedgerCheckpoint := do
  let checkpoint ← readBoundedJson json fs path maxRetainedCheckpointBytes "retained checkpoint"
  (verifyCheckpoint C checkpoint).mapError (fun e => .checkpointContinuity (.invalidCheckpoint e))
  failIf (saturatingAdd now 300 < checkpoint.timestampUnixSecs)
    (.checkpointFromFuture checkpoint.timestampUnixSecs now 300)
  verifyCheckpointAgainstChain checkpoint chain publicKey later
  pure checkpoint

/-- The end of `advance_retained_checkpoint`: the candidate is serialised and stored. -/
def storeCandidate (json : TextFormat LedgerCheckpoint) (path : String)
    (candidate : LedgerCheckpoint) (processId nanos : Nat) :
    Prog AuditLedgerStoreError LedgerCheckpoint := do
  let text ← .ofExcept (okOr (json.toVec candidate) .continuityJson)
  let bytes := text ++ [10]
  .ofExcept (failIf (maxRetainedCheckpointBytes < bytes.length)
    (.limitExceeded ("serialized retained checkpoint is " ++ toString bytes.length ++
      " bytes; maximum is " ++ toString maxRetainedCheckpointBytes)))
  persistOwnerOnlyAtomic path bytes processId nanos
  pure candidate

/-- The retained checkpoint is looked at only if `exists` finds it, which a failing `stat` does
not. -/
def advanceRetainedCheckpoint (json : TextFormat LedgerCheckpoint) (path : String)
    (chain : Chain C) (publicKey : C.ed25519.VerifyingKey)
    (timestampUnixSecs now later : UInt64) (processId nanos : Nat) :
    Prog AuditLedgerStoreError LedgerCheckpoint := do
  let there ← existsCall path
  let previous ← if there then look .read (fun fs =>
      (verifyRetainedCheckpoint json fs path chain publicKey now later).map some) (.error .io)
    else pure none
  let candidate := chain.signCheckpoint timestampUnixSecs
  .ofExcept (previous.forM (fun previous =>
    (verifyCheckpointMonotonic C previous candidate).mapError .checkpointContinuity))
  storeCandidate json path candidate processId nanos

/-! ## On the resident entries -/

variable {chain : Chain C} {pk : C.ed25519.VerifyingKey} {now : UInt64}

section Resident

variable {base c : LedgerCheckpoint} {entries : List LedgerEntry}

lemma residentHead_ok (hbase : base.entryCount ≤ c.entryCount)
    (hcount : c.entryCount.toNat ≤ base.entryCount.toNat + chain.entries.length) {d : FixedBytes 32} :
    residentHead chain base c = .ok d ↔ ledgerLinks.headAfter base.headHash
      (chain.entries.take (c.entryCount.toNat - base.entryCount.toNat)) = d := by
  have hle := UInt64.le_iff_toNat_le.mp hbase
  unfold residentHead
  by_cases heq : c.entryCount = base.entryCount
  · rw [if_pos heq, heq, Nat.sub_self, List.take_zero, Except.ok.injEq]
    rfl
  · have hne : c.entryCount.toNat ≠ base.entryCount.toNat := fun h => heq (UInt64.toNat_inj.mp h)
    obtain ⟨n, hn⟩ := Nat.exists_eq_add_of_lt (show base.entryCount.toNat < c.entryCount.toNat by
      omega)
    have hidx : (c.entryCount - base.entryCount - 1).toNat = n := by
      have hsub := UInt64.toNat_sub_of_le c.entryCount base.entryCount hbase
      rw [UInt64.toNat_sub_of_le _ _ (by rw [UInt64.le_iff_toNat_le, hsub, UInt64.toNat_one]; omega),
        hsub, UInt64.toNat_one]
      omega
    have hlt : n < chain.entries.length := by omega
    rw [if_neg heq, hidx, List.getElem?_eq_getElem hlt, show c.entryCount.toNat -
      base.entryCount.toNat = n + 1 by omega, ← List.take_append_getElem hlt,
      Links.headAfter_concat]
    simp [okOr, Except.map]

lemma liesOn_of_against (hanchor : chain.baseCheckpoint = some base)
    (hcount : chain.baseEntryCount = base.entryCount)
    (h : verifyCheckpointAgainstChain c chain pk now = .ok ()) :
    SignedBy C pk c ∧ LinkedFrom C chain.verifyingKey base.entryCount.toNat base.headHash
        chain.entries ∧ base.entryCount.toNat + chain.entries.length < 2 ^ 64 ∧
      LiesOn C chain.verifyingKey base.entryCount.toNat base.headHash chain.entries c := by
  simp only [verifyCheckpointAgainstChain, hanchor] at h
  rw [guard_bind_ok, guard_bind_ok, guard_bind_ok, guard_bind_ok, guard_bind_ok, bind_ok] at h
  simp only [guard_bind_ok, mapError_ok, failIf_ok, verifyCheckpoint_ok,
    verifyCheckpointExtension_ok, ne_eq, not_not, UInt64.not_lt] at h
  obtain ⟨⟨pk', hsig⟩, hkey, -, hle, hahe, d, hd, rfl, key, hbase, hcur, -, hlen, hlin, -⟩ := h
  obtain rfl : pk' = pk := hsig.eq_of_key hkey
  obtain rfl : key = chain.verifyingKey := hcur.eq_of_key rfl
  have hfit : base.entryCount.toNat + chain.entries.length < 2 ^ 64 :=
    hlen ▸ (Chain.signCheckpoint chain _).entryCount.toNat_lt
  have hbd : c.entryCount.toNat ≤ base.entryCount.toNat + chain.entries.length := by
    have hnat := UInt64.le_iff_toNat_le.mp hahe
    rwa [Chain.entryCount, hcount, toNat_saturatingAdd hfit] at hnat
  have hnat := UInt64.le_iff_toNat_le.mp hle
  refine ⟨hsig, hlin, hfit, c.entryCount.toNat - base.entryCount.toNat, by omega, by omega, ?_,
    (residentHead_ok hle hbd).mp hd⟩
  rw [← List.take_append_drop (c.entryCount.toNat - base.entryCount.toNat) chain.entries] at hlin
  exact (Links.linked_append.mp hlin).1

lemma against_of_liesOn (hcorrect : C.ed25519.Correct) (hanchor : chain.baseCheckpoint = some base)
    (hcount : chain.baseEntryCount = base.entryCount) (hhead : chain.baseHeadHash = base.headHash)
    (hbase : SignedBy C chain.verifyingKey base) (hlink : chain.ResidentLinked)
    (hfit : base.entryCount.toNat + chain.entries.length < 2 ^ 64) (hsign : SignedBy C pk c)
    (hon : LiesOn C pk base.entryCount.toNat base.headHash chain.entries c) :
    verifyCheckpointAgainstChain c chain pk now = .ok () := by
  obtain ⟨n, hn, hc, -, hd⟩ := hon
  have hle : base.entryCount ≤ c.entryCount := UInt64.le_iff_toNat_le.mpr (by omega)
  have h : c.entryCount ≤ chain.entryCount := by
    rw [UInt64.le_iff_toNat_le, Chain.entryCount, hcount, toNat_saturatingAdd hfit]
    omega
  simp only [verifyCheckpointAgainstChain, hanchor]
  rw [guard_bind_ok, guard_bind_ok, guard_bind_ok, guard_bind_ok, guard_bind_ok, bind_ok]
  simp only [guard_bind_ok, mapError_ok, failIf_ok, verifyCheckpoint_ok, ne_eq, not_not,
    UInt64.not_lt]
  refine ⟨⟨pk, hsign⟩, hsign.2.1, ⟨_, hbase⟩, hle, h, c.headHash, ?_, rfl, ?_⟩
  · rw [residentHead_ok hle (by omega), hc, Nat.add_sub_cancel_left]
    exact hd
  · refine chain.signCheckpoint_extends hcorrect hlink hcount hhead hbase (hcount ▸ hfit) ?_
    show base.timestampUnixSecs ≤ if now ≤ base.timestampUnixSecs then base.timestampUnixSecs else now
    split_ifs with hnow
    · exact UInt64.le_refl _
    · exact UInt64.le_of_lt (UInt64.not_le.mp hnow)

lemma liesOn_drop_iff {k : Nat} (hk : k ≤ entries.length)
    (h : LinkedFrom C pk 0 zeroHash entries) :
    LiesOn C pk k (ledgerLinks.headAfter zeroHash (entries.take k)) (entries.drop k) c ↔
      k ≤ c.entryCount.toNat ∧ LiesOn C pk 0 zeroHash entries c := by
  have hspl : ∀ n, entries.take (k + n) = entries.take k ++ (entries.drop k).take n :=
    fun n => List.take_add
  constructor
  · rintro ⟨n, hn, hc, -, hd⟩
    rw [List.length_drop] at hn
    refine ⟨by omega, k + n, by omega, by omega, ?_, ?_⟩
    · rw [← List.take_append_drop (k + n) entries] at h
      exact (Links.linked_append.mp h).1
    · rw [hspl, Links.headAfter_append]
      exact hd
  · rintro ⟨hle, n, hn, hc, htake, hd⟩
    obtain ⟨m, rfl⟩ := Nat.exists_eq_add_of_le (show k ≤ n by omega)
    rw [hspl] at htake hd
    rw [Links.headAfter_append] at hd
    refine ⟨m, by rw [List.length_drop]; omega, by omega, ?_, hd⟩
    have hrest := (Links.linked_append.mp htake).2
    rwa [List.length_take_of_le hk, Nat.zero_add] at hrest

end Resident

/-! ## The retained checkpoint and its successor -/

section Advance

variable {previous candidate : LedgerCheckpoint} {later t : UInt64}

lemma extends_of_liesOn {start : Nat} {head : FixedBytes 32} {key : C.ed25519.VerifyingKey}
    (hlink : LinkedFrom C key start head chain.entries)
    (hcount : (chain.signCheckpoint t).entryCount.toNat = start + chain.entries.length)
    (hhead : chain.baseHeadHash = head) (hon : LiesOn C key start head chain.entries previous)
    (hkey : SignedBy C key previous ∨ key = chain.verifyingKey)
    (hmono : verifyCheckpointMonotonic C previous (chain.signCheckpoint t) = .ok ()) :
    ∃ suffix, verifyCheckpointExtension C previous (chain.signCheckpoint t) suffix = .ok () := by
  obtain ⟨pk, hp, hc, htime, -⟩ := verifyCheckpointMonotonic_ok.mp hmono
  obtain rfl : pk = key := by
    rcases hkey with hkey | rfl
    · exact hp.unique hkey
    · exact hc.eq_of_key rfl
  obtain ⟨n, hn, hpco, -, hphe⟩ := hon
  rw [← List.take_append_drop n chain.entries, LinkedFrom, Links.linked_append,
    List.length_take_of_le hn, ← hpco, hphe] at hlink
  refine ⟨chain.entries.drop n, verifyCheckpointExtension_ok.mpr
    ⟨pk, hp, hc, htime, ?_, hlink.2, ?_⟩⟩
  · rw [hcount, hpco, List.length_drop]
    omega
  · rw [← hphe, ← Links.headAfter_append, List.take_append_drop]
    exact (hhead ▸ chain.lastHash_eq_headAfter).symm

lemma extends_of_retained
    (hanchor : (chain.baseEntryCount.toNat, chain.baseHeadHash) = anchorStart chain.baseCheckpoint)
    (hlen : chain.entries.length < 2 ^ 64)
    (hagainst : verifyCheckpointAgainstChain previous chain pk later = .ok ())
    (hmono : verifyCheckpointMonotonic C previous (chain.signCheckpoint t) = .ok ()) :
    ∃ suffix, verifyCheckpointExtension C previous (chain.signCheckpoint t) suffix = .ok () := by
  cases hbase : chain.baseCheckpoint with
  | none =>
    rw [hbase] at hanchor
    obtain ⟨hcount, hhead⟩ := Prod.mk.inj hanchor
    simp only [verifyCheckpointAgainstChain, hbase, mapError_ok] at hagainst
    obtain ⟨hsig, hon⟩ := liesOn_of_prefix hagainst
    have hlin := (verifyCheckpointPrefix_ok.mp hagainst).2.1
    refine extends_of_liesOn hlin ?_ hhead hon (.inl hsig) hmono
    exact (toNat_saturatingAdd (by omega)).trans (by omega)
  | some base =>
    rw [hbase] at hanchor
    obtain ⟨hcount, hhead⟩ := Prod.mk.inj hanchor
    obtain ⟨-, hlin, hfit, hon⟩ := liesOn_of_against hbase (UInt64.toNat_inj.mp hcount) hagainst
    refine extends_of_liesOn hlin ?_ hhead hon (.inr rfl) hmono
    exact (toNat_saturatingAdd (by omega)).trans (by omega)

variable (C) in
/-- Some suffix of a ledger leads from one checkpoint to the other. -/
def Extends (previous candidate : LedgerCheckpoint) : Prop :=
  ∃ suffix, verifyCheckpointExtension C previous candidate suffix = .ok ()

section Store

variable (json : TextFormat LedgerCheckpoint) (path : String) (processId nanos : Nat)
  (faults : Call → Verdict) (fs fs' : FileSystem)

/-- The file is as before, or it holds the candidate, and that extends the retained checkpoint. -/
def KeptOrExtended (previous candidate : LedgerCheckpoint) : Prop :=
  AgreesAt (pathOf path) fs fs' ∨
    ∃ text, json.toVec candidate = some text ∧ Renamed path (text ++ [10]) fs' ∧
      Extends C previous candidate

/-- Nothing stops the write of the candidate before its rename. -/
def Rewrites (candidate : LedgerCheckpoint) : Prop :=
  ∃ text, json.toVec candidate = some text ∧ text.length < maxRetainedCheckpointBytes ∧
    ReachesRename faults ∧ Writable fs path (temporaryPath path processId nanos) (text ++ [10])

/-- The file holds the candidate if the write gets to its rename, and is as before if not. -/
def Stored (candidate : LedgerCheckpoint) : Prop :=
  Rewrites json path processId nanos faults fs candidate ∧ (∃ text, json.toVec candidate =
      some text ∧ Renamed path (text ++ [10]) fs') ∨
    ¬ Rewrites json path processId nanos faults fs candidate ∧ AgreesAt (pathOf path) fs fs'

variable {json path processId nanos faults fs fs'}

lemma wp_storeCandidate {n : Nat} : wp (fun _ => World faults)
    (storeCandidate json path candidate processId nanos)
    (.always (Stored json path processId nanos faults fs · candidate)) fs n := by
  by_cases hrewrites : Rewrites json path processId nanos faults fs candidate
  · obtain ⟨text, htext, hfits, hreaches, hwritable⟩ := hrewrites
    have hend : ∀ fs', Renamed path (text ++ [10]) fs' →
        Stored json path processId nanos faults fs fs' candidate :=
      fun fs' h => .inl ⟨⟨text, htext, hfits, hreaches, hwritable⟩, text, htext, h⟩
    refine wp_bind (wp_ok (okOr_ok.mpr htext) (wp_bind (wp_ok (a := ()) (failIf_ok.mpr ?_) ?_)))
    · simp
      omega
    · exact wp_bind (wp_mono (wp_persist_after_rename hreaches hwritable)
        (fun _ _ _ h => wp_pure (hend _ h.1)) (fun _ _ _ h => hend _ h.1) (fun _ h => hend _ h.1))
  · have hsame : ∀ fs', AgreesAt (pathOf path) fs fs' →
        Stored json path processId nanos faults fs fs' candidate := fun fs' h => .inr ⟨hrewrites, h⟩
    refine wp_check (fun text htext => ?_) (fun _ _ => hsame fs .refl)
    refine wp_check (fun _ hfits => ?_) (fun _ _ => hsame fs .refl)
    simp only [failIf_ok, List.length_append, List.length_singleton] at hfits
    refine wp_bind (wp_mono (wp_persist_before_rename fun h => ?_) (fun _ _ _ => False.elim)
      (fun _ fs' _ h => hsame fs' h) hsame)
    exact hrewrites ⟨text, okOr_ok.mp htext, by omega, h⟩

lemma Stored.keptOrExtended (hextends : Extends C previous candidate)
    (h : Stored json path processId nanos faults fs fs' candidate) :
    KeptOrExtended (C := C) json path fs fs' previous candidate := by
  rcases h with ⟨-, text, htext, hrenamed⟩ | ⟨-, hagrees⟩
  · exact .inr ⟨text, htext, hrenamed, hextends⟩
  · exact .inl hagrees

variable {n : Nat}

lemma wp_advance_checked (hstat : ∀ k, faults .stat ≠ .fail k)
    (hanchor : (chain.baseEntryCount.toNat, chain.baseHeadHash) = anchorStart chain.baseCheckpoint)
    (hlen : chain.entries.length < 2 ^ 64)
    (hkept : readBoundedJson json fs path maxRetainedCheckpointBytes "retained checkpoint" =
      .ok previous) :
    wp (fun _ => World faults) (advanceRetainedCheckpoint json path chain pk t now later processId
      nanos) (.always (KeptOrExtended (C := C) json path fs · previous (chain.signCheckpoint t)))
      fs n := by
  have hsame : KeptOrExtended (C := C) json path fs fs previous (chain.signCheckpoint t) :=
    .inl .refl
  obtain ⟨hp, bytes, hnode, -⟩ := readBoundedJson_ok.mp hkept
  have hexists := pathExists_of_readFile? (readFile?_eq_some.mpr ⟨hp, hnode⟩)
  refine wp_bind (wp_look (fun _ hev => hev.meddle_eq) ?_
    (fun _ k hev hk => absurd (hev.verdict_eq ▸ hk) (hstat k)) (fun _ _ _ _ => hsame))
  intro _ _ _
  rw [Post.result_ok, hexists]
  refine wp_bind (wp_look (fun _ hev => hev.meddle_eq) ?_ (fun _ _ _ _ => hsame)
    (fun _ _ _ _ => hsame))
  intro _ _ _
  cases hverify : verifyRetainedCheckpoint json fs path chain pk now later with
  | error e => exact hsame
  | ok retained =>
    simp only [verifyRetainedCheckpoint, hkept, bind_ok, Except.ok.injEq, exists_eq_left',
      pure_ok] at hverify
    obtain ⟨-, -, -, -, _, haga, rfl⟩ := hverify
    refine wp_check (fun _ hmon => ?_) (fun _ _ => hsame)
    have hext := extends_of_retained hanchor hlen haga (mapError_ok.mp hmon)
    exact wp_mono wp_storeCandidate (fun _ _ _ h => h.keptOrExtended hext)
      (fun _ _ _ h => h.keptOrExtended hext) (fun _ h => h.keptOrExtended hext)

lemma wp_advance_unseen {k : Nat} (hstat : faults .stat = .fail k) :
    wp (fun _ => World faults) (advanceRetainedCheckpoint json path chain pk t now later processId
      nanos) (.always (Stored json path processId nanos faults fs · (chain.signCheckpoint t)))
      fs n := by
  refine wp_bind (wp_look (fun _ hev => hev.meddle_eq) ?_ ?_ ?_)
  · intro ev hev hk
    rw [hev.verdict_eq, hstat] at hk
    cases hk
  · exact fun _ _ _ _ => wp_bind (wp_pure (wp_bind (wp_ok rfl wp_storeCandidate)))
  · intro ev _ hev hk
    rw [hev.verdict_eq, hstat] at hk
    cases hk

lemma extends_self (hcorrect : C.ed25519.Correct) :
    Extends C (chain.signCheckpoint t) (chain.signCheckpoint t) := by
  have hsigned : SignedBy C chain.verifyingKey (chain.signCheckpoint t) :=
    ⟨rfl, rfl, hcorrect chain.signingKey _⟩
  exact ⟨[], verifyCheckpointExtension_ok.mpr ⟨chain.verifyingKey, hsigned, hsigned,
    UInt64.le_refl _, rfl, trivial, rfl⟩⟩

lemma keptOrExtended_iff_of_rewritten (hcorrect : C.ed25519.Correct)
    (hkept : readBoundedJson json fs path maxRetainedCheckpointBytes "retained checkpoint" =
      .ok previous) (hstored : ∃ text, json.toVec (chain.signCheckpoint t) = some text ∧
      Renamed path (text ++ [10]) fs') :
    KeptOrExtended (C := C) json path fs fs' previous (chain.signCheckpoint t) ↔
      Extends C previous (chain.signCheckpoint t) := by
  obtain ⟨text, htext, hrenamed⟩ := hstored
  constructor
  · rintro (hagrees | ⟨-, -, -, h⟩)
    · -- the file was the candidate before
      obtain ⟨-, bytes, hnode, -, hread⟩ := readBoundedJson_ok.mp hkept
      rw [← hagrees.1, hrenamed.2] at hnode
      cases hnode
      rw [json.fromSlice_toVec htext] at hread
      cases hread
      exact extends_self hcorrect
    · exact h
  · exact fun h => .inr ⟨text, htext, hrenamed, h⟩

end Store

end Advance

/-- **Retained checkpoints.** On a ledger that verifies, cut at one of its checkpoints, a checkpoint
is accepted on the resident part exactly when it does not precede the cut and is accepted on the
whole. An advance, whatever fails in it, leaves the retained checkpoint or one that extends it,
exactly if the signed checkpoint extends the retained one wherever the `stat` fails and the write
gets to its rename. -/
theorem retained_checkpoint_extends (hcorrect : C.ed25519.Correct) (key : C.ed25519.SigningKey) :
    (∀ (entries : List LedgerEntry) (base c : LedgerCheckpoint) (now : UInt64),
      entries.length < 2 ^ 64 →
      verifyCheckpointPrefix C base entries (C.ed25519.verifyingKey key) = .ok () →
      (verifyCheckpointAgainstChain c
          (.fromCheckpointSuffix base (entries.drop base.entryCount.toNat) key)
          (C.ed25519.verifyingKey key) now = .ok () ↔
        base.entryCount ≤ c.entryCount ∧
          verifyCheckpointPrefix C c entries (C.ed25519.verifyingKey key) = .ok ())) ∧
    (∀ (json : TextFormat LedgerCheckpoint) (path : String) (chain : Chain C)
      (publicKey : C.ed25519.VerifyingKey) (t now later : UInt64) (processId nanos : Nat)
      (faults : Call → Verdict) (fs : FileSystem) (previous : LedgerCheckpoint),
      (chain.baseEntryCount.toNat, chain.baseHeadHash) = anchorStart chain.baseCheckpoint →
      chain.entries.length < 2 ^ 64 →
      readBoundedJson json fs path maxRetainedCheckpointBytes "retained checkpoint" =
        .ok previous →
      (KeptOrExtended (C := C) json path fs
          ((advanceRetainedCheckpoint json path chain publicKey t now later processId nanos).run
            (worldEnv faults) fs).state previous (chain.signCheckpoint t) ↔
        ((∃ k, faults .stat = .fail k) →
          Rewrites json path processId nanos faults fs (chain.signCheckpoint t) →
          Extends C previous (chain.signCheckpoint t)))) := by
  constructor
  · intro entries base c now hlength hbase
    obtain ⟨hsigned, hlinked, hcount, hhead⟩ := verifyCheckpointPrefix_ok.mp hbase
    have hresident := hlinked
    rw [← List.take_append_drop base.entryCount.toNat entries, LinkedFrom, Links.linked_append,
      List.length_take_of_le hcount, Nat.zero_add, hhead] at hresident
    have hiff := liesOn_drop_iff (c := c) hcount hlinked
    rw [hhead] at hiff
    constructor
    · intro h
      obtain ⟨hc, -, -, hon⟩ := liesOn_of_against rfl rfl h
      obtain ⟨hle, hon⟩ := hiff.mp hon
      exact ⟨UInt64.le_iff_toNat_le.mpr hle, prefix_of_liesOn hc hlinked hon⟩
    · rintro ⟨hle, h⟩
      obtain ⟨hc, hon⟩ := liesOn_of_prefix h
      refine against_of_liesOn hcorrect rfl rfl rfl hsigned hresident.2 ?_ hc
        (hiff.mpr ⟨UInt64.le_iff_toNat_le.mp hle, hon⟩)
      show base.entryCount.toNat + (entries.drop base.entryCount.toNat).length < 2 ^ 64
      rw [List.length_drop]
      omega
  · intro json path chain publicKey t now later processId nanos faults fs previous hanchored hlength
      hretained
    by_cases hstat : ∃ k, faults .stat = .fail k
    · obtain ⟨k, hfail⟩ := hstat
      have hstored : Stored json path processId nanos faults fs ((advanceRetainedCheckpoint json path
          chain publicKey t now later processId nanos).run (worldEnv faults) fs).state
          (chain.signCheckpoint t) := state_of_wp (wp_advance_unseen hfail) (fun _ => rfl)
      rcases hstored with ⟨hrewrites, hstored⟩ | ⟨hstops, hagrees⟩
      · rw [keptOrExtended_iff_of_rewritten hcorrect hretained hstored]
        exact ⟨fun hext _ _ => hext, fun h => h ⟨k, hfail⟩ hrewrites⟩
      · exact iff_of_true (.inl hagrees) fun _ hrewrites => absurd hrewrites hstops
    · refine iff_of_true ?_ fun h => absurd h hstat
      exact state_of_wp (wp_advance_checked (fun k hk => hstat ⟨k, hk⟩) hanchored hlength hretained)
        (fun _ => rfl)

def sampleAnchor : LedgerCheckpoint :=
  sampleCheckpoint (sampleKey 7) ((sampleChain (sampleKey 7)).take 1) 10

/-- The disk with a checkpoint retained at `/pin`, and the format of it and of its successor. -/
def pinnedDisk : FileSystem := emptyDisk.setNode ["pin"] (some (.file [10]))

def pinFormat (pinned candidate : LedgerCheckpoint) : TextFormat LedgerCheckpoint :=
  .tabled [pinned, candidate]

theorem retained_checkpoint_extends_sample :
    let key : sampleCrypto.ed25519.SigningKey := (sampleKey 7).val
    let entries := sampleChain (sampleKey 7)
    let chain : Chain sampleCrypto :=
      .fromCheckpointSuffix sampleAnchor (entries.drop sampleAnchor.entryCount.toNat) key
    let json := pinFormat sampleAnchor (chain.signCheckpoint 30)
    verifyCheckpointAgainstChain (sampleCheckpoint (sampleKey 7) entries 20) chain
        (sampleCrypto.ed25519.verifyingKey key) 30 = .ok () ∧
      KeptOrExtended (C := sampleCrypto) json "/pin" pinnedDisk
        ((advanceRetainedCheckpoint json "/pin" chain (sampleKey 7) 30 40 50 1 2).run
          (worldEnv (failing .syncDir)) pinnedDisk).state sampleAnchor (chain.signCheckpoint 30) := by
  intro key entries chain json
  obtain ⟨hagainst, hadvance⟩ := retained_checkpoint_extends (C := sampleCrypto)
    (keyedScheme_correct _) key
  refine ⟨(hagainst entries sampleAnchor _ 30 (by decide +kernel) (by decide +kernel)).mpr
    ⟨by decide +kernel, by decide +kernel⟩, ?_⟩
  refine (hadvance json "/pin" chain (sampleKey 7) 30 40 50 1 2 (failing .syncDir) pinnedDisk
    sampleAnchor (by decide +kernel) (by decide +kernel) (by decide +kernel)).mpr ?_
  rintro ⟨k, hk⟩
  cases hk

/-- The retained checkpoint has two entries, the ledger is empty, and the `stat` fails: the call
succeeds and leaves the checkpoint of the empty ledger. -/
theorem unseen_checkpoint_replaced :
    let chain : Chain sampleCrypto := .new (sampleKey 7).val
    let pinned := sampleCheckpoint (sampleKey 7) (sampleChain (sampleKey 7)) 20
    let json := pinFormat pinned (chain.signCheckpoint 30)
    let ending := (advanceRetainedCheckpoint json "/pin" chain (sampleKey 7) 30 40 50 1 2).run
      (worldEnv (failing .stat)) pinnedDisk
    ending.outcome = .done (chain.signCheckpoint 30) ∧
      readBoundedJson json pinnedDisk "/pin" maxRetainedCheckpointBytes "" = .ok pinned ∧
      readBoundedJson json ending.state "/pin" maxRetainedCheckpointBytes "" =
        .ok (chain.signCheckpoint 30) ∧
      ¬ KeptOrExtended (C := sampleCrypto) json "/pin" pinnedDisk ending.state pinned
        (chain.signCheckpoint 30) := by
  intro chain pinned json ending
  refine ⟨by decide +kernel, by decide +kernel, by decide +kernel, ?_⟩
  rintro (⟨hnode, -⟩ | ⟨-, -, -, suffix, h⟩)
  · revert hnode
    decide +kernel
  · obtain ⟨-, -, -, -, hcount, -⟩ := verifyCheckpointExtension_ok.mp h
    have hempty : (chain.signCheckpoint 30).entryCount.toNat = 0 := by decide +kernel
    have htwo : pinned.entryCount.toNat = 2 := by decide +kernel
    omega

end XeniaPeer.Consent
