import XeniaPeer.Foundation.Words
import XeniaPeer.Ledger.Verify

/-!
# Signed checkpoints and the continuity verifiers

A checkpoint (`checkpoint.rs`) is a signed statement of how many entries a ledger has and what its
head is.

Main results: `checkpointExtension_composes`, `monotonic_steps_iff`, `prefix_within_iff`.
-/

namespace XeniaPeer.Ledger

open Foundation

/-! ## Checkpoints -/

def ledgerCheckpointSchema : String := "xenia-ledger-checkpoint-v1"

structure LedgerCheckpoint where
  schema : String
  entryCount : UInt64
  (headHash ledgerPublicKey : FixedBytes 32)
  timestampUnixSecs : UInt64
  signature : FixedBytes 64
deriving DecidableEq

def checkpointMessage (entryCount : UInt64) (headHash ledgerPublicKey : FixedBytes 32)
    (timestampUnixSecs : UInt64) : Bytes :=
  utf8 "xenia:ledger-checkpoint:v1" ++ [0] ++ utf8 ledgerCheckpointSchema ++ [0] ++
    u64Be entryCount ++ headHash.toList ++ ledgerPublicKey.toList ++ u64Be timestampUnixSecs

def LedgerCheckpoint.message (c : LedgerCheckpoint) : Bytes :=
  checkpointMessage c.entryCount c.headHash c.ledgerPublicKey c.timestampUnixSecs

inductive CheckpointError where
  | unsupportedSchema (schema : String)
  | badPublicKey
  | badSignature
deriving DecidableEq

inductive CheckpointContinuityError where
  | invalidCheckpoint (error : CheckpointError)
  | ledgerKeyChanged
  | timestampRegressed (previous candidate : UInt64)
  | entryCountRegressed (previous candidate : UInt64)
  | forkAtSameHeight (entryCount : UInt64)
  | trustedKeyMismatch
  | checkpointAheadOfLedger (checkpoint ledger : UInt64)
  | prefixHeadMismatch (entryCount : UInt64)
  | extensionLengthMismatch (previous suffix candidate : UInt64)
  | suffixOutOfOrder (index : Nat) (expected found : UInt64)
  | suffixBrokenLink (seq : UInt64)
  | suffixEntryHashMismatch (seq : UInt64)
  | suffixBadSignature (seq : UInt64)
  | candidateHeadMismatch
  | ledger (error : VerifyError)
deriving DecidableEq

variable (C : Crypto)

def verifyCheckpoint (checkpoint : LedgerCheckpoint) : Except CheckpointError Unit := do
  failIf (checkpoint.schema ≠ ledgerCheckpointSchema) (.unsupportedSchema checkpoint.schema)
  let publicKey ← okOr (C.ed25519.fromBytes checkpoint.ledgerPublicKey) .badPublicKey
  failIf (C.ed25519.verify publicKey checkpoint.message checkpoint.signature = false)
    .badSignature

def checkpointFingerprint (checkpoint : LedgerCheckpoint) :
    Except CheckpointError (FixedBytes 32) := do
  verifyCheckpoint C checkpoint
  pure (C.blake3 (checkpoint.message ++ checkpoint.signature.toList))

def LedgerCheckpoint.fingerprintInput (c : LedgerCheckpoint) : Bytes :=
  c.message ++ c.signature.toList

def LedgerCheckpoint.fingerprint (c : LedgerCheckpoint) : FixedBytes 32 :=
  C.blake3 c.fingerprintInput

/-! ## Continuity -/

def verifyCheckpointMonotonic (previous candidate : LedgerCheckpoint) :
    Except CheckpointContinuityError Unit := do
  (verifyCheckpoint C previous).mapError .invalidCheckpoint
  (verifyCheckpoint C candidate).mapError .invalidCheckpoint
  failIf (previous.ledgerPublicKey ≠ candidate.ledgerPublicKey) .ledgerKeyChanged
  failIf (candidate.timestampUnixSecs < previous.timestampUnixSecs)
    (.timestampRegressed previous.timestampUnixSecs candidate.timestampUnixSecs)
  failIf (candidate.entryCount < previous.entryCount)
    (.entryCountRegressed previous.entryCount candidate.entryCount)
  failIf (candidate.entryCount = previous.entryCount ∧ candidate.headHash ≠ previous.headHash)
    (.forkAtSameHeight candidate.entryCount)

/-- The `observed_head` of `verify_checkpoint_prefix`. Its caller has checked that `count` is
at most the length of the ledger, so the indexing never fails there. -/
def observedHead {ε : Type} (entries : List LedgerEntry) (count : UInt64) (aheadOfLedger : ε) :
    Except ε (FixedBytes 32) :=
  if count = 0 then .ok zeroHash
  else (okOr (entries[count.toNat - 1]?) aheadOfLedger).map LedgerEntry.entryHash

def verifyCheckpointPrefix (checkpoint : LedgerCheckpoint) (entries : List LedgerEntry)
    (publicKey : C.ed25519.VerifyingKey) : Except CheckpointContinuityError Unit := do
  (verifyCheckpoint C checkpoint).mapError .invalidCheckpoint
  failIf (checkpoint.ledgerPublicKey ≠ publicKey.val) .trustedKeyMismatch
  (verifyChain C entries publicKey).mapError .ledger
  let aheadOfLedger : CheckpointContinuityError :=
    .checkpointAheadOfLedger checkpoint.entryCount (UInt64.ofNat entries.length)
  failIf (entries.length < checkpoint.entryCount.toNat) aheadOfLedger
  let head ← observedHead entries checkpoint.entryCount aheadOfLedger
  failIf (head ≠ checkpoint.headHash) (.prefixHeadMismatch checkpoint.entryCount)

/-- The loop of `verify_checkpoint_extension` from `index` on. It returns the hash the
suffix ends with. `start + index` is compared as a number: the length check in front of the
loop keeps it below the candidate's count. -/
def verifySuffixFrom (publicKey : C.ed25519.VerifyingKey) (start : UInt64) :
    Nat → FixedBytes 32 → List LedgerEntry → Except CheckpointContinuityError (FixedBytes 32)
  | _, expectedPrev, [] => .ok expectedPrev
  | index, expectedPrev, entry :: rest => do
    failIf (entry.seq.toNat ≠ start.toNat + index)
      (.suffixOutOfOrder index (start + UInt64.ofNat index) entry.seq)
    failIf (entry.prevHash ≠ expectedPrev) (.suffixBrokenLink entry.seq)
    let recomputed ← (computeEntryHash C entry.preimage).mapError
      (fun _ => .suffixEntryHashMismatch entry.seq)
    failIf (recomputed ≠ entry.entryHash) (.suffixEntryHashMismatch entry.seq)
    failIf (C.ed25519.verify publicKey entry.entryHash.toList entry.signature = false)
      (.suffixBadSignature entry.seq)
    verifySuffixFrom publicKey start (index + 1) entry.entryHash rest

def verifyCheckpointExtension (previous candidate : LedgerCheckpoint)
    (suffix : List LedgerEntry) : Except CheckpointContinuityError Unit := do
  verifyCheckpointMonotonic C previous candidate
  failIf (suffix.length ≠ (candidate.entryCount - previous.entryCount).toNat)
    (.extensionLengthMismatch previous.entryCount (UInt64.ofNat suffix.length) candidate.entryCount)
  let publicKey ← okOr (C.ed25519.fromBytes candidate.ledgerPublicKey)
    (.invalidCheckpoint .badPublicKey)
  let head ← verifySuffixFrom C publicKey previous.entryCount 0 previous.headHash suffix
  failIf (head ≠ candidate.headHash) .candidateHeadMismatch

/-! ## What each verifier accepts -/

/-- A checkpoint with a valid signature by the key that it names. -/
def SignedBy (publicKey : C.ed25519.VerifyingKey) (c : LedgerCheckpoint) : Prop :=
  c.schema = ledgerCheckpointSchema ∧ c.ledgerPublicKey = publicKey.val ∧
    C.ed25519.verify publicKey c.message c.signature = true

variable {C} {pk pk' : C.ed25519.VerifyingKey} {c : LedgerCheckpoint}

lemma SignedBy.eq_of_key (h : SignedBy C pk c) (hkey : c.ledgerPublicKey = pk'.val) : pk = pk' :=
  Subtype.ext (h.2.1.symm.trans hkey)

lemma SignedBy.unique (h : SignedBy C pk c) (h' : SignedBy C pk' c) : pk = pk' :=
  h.eq_of_key h'.2.1

lemma verifyCheckpoint_ok : verifyCheckpoint C c = .ok () ↔ ∃ pk, SignedBy C pk c := by
  unfold verifyCheckpoint
  rw [guard_bind_ok, bind_ok]
  simp only [failIf_ok, okOr_ok, SignatureScheme.fromBytes_eq_some, ne_eq, not_not,
    Bool.not_eq_false]
  constructor
  · rintro ⟨hschema, pk, hkey, hsig⟩
    exact ⟨pk, hschema, hkey.symm, hsig⟩
  · rintro ⟨pk, hschema, hkey, hsig⟩
    exact ⟨hschema, pk, hkey.symm, hsig⟩

variable {d : FixedBytes 32}

lemma checkpointFingerprint_ok :
    checkpointFingerprint C c = .ok d ↔ (∃ pk, SignedBy C pk c) ∧ c.fingerprint C = d := by
  unfold checkpointFingerprint
  rw [guard_bind_ok, verifyCheckpoint_ok, pure_ok]
  rfl

variable {count : UInt64}

lemma checkpointMessage_inj {count' time time' : UInt64} {head head' key key' : FixedBytes 32}
    {s t : Bytes} (h : checkpointMessage count head key time ++ s =
      checkpointMessage count' head' key' time' ++ t) :
    (count = count' ∧ head = head' ∧ key = key' ∧ time = time') ∧ s = t := by
  simp only [checkpointMessage, List.append_assoc] at h
  have hfie := append_cancel_header h
  simp only [u64Be_append_inj, fixedBytes_append_inj] at hfie
  obtain ⟨hcount, hhead, hkey, htime, hrest⟩ := hfie
  exact ⟨⟨hcount, hhead, hkey, htime⟩, hrest⟩

lemma LedgerCheckpoint.eq_of_fingerprintInput {d : LedgerCheckpoint} (hc : SignedBy C pk c)
    (hd : SignedBy C pk' d) (h : c.fingerprintInput = d.fingerprintInput) : c = d := by
  obtain ⟨⟨hcount, hhead, hkey, htime⟩, hsig⟩ := checkpointMessage_inj h
  have hschema : c.schema = d.schema := hc.1.trans hd.1.symm
  cases c
  cases d
  simp only at hcount hhead hkey htime hsig hschema
  rw [hcount, hhead, hkey, htime, hschema, List.Vector.toList_injective hsig]

variable {a b : LedgerCheckpoint}

lemma verifyCheckpointMonotonic_ok : verifyCheckpointMonotonic C a b = .ok () ↔
      ∃ pk, SignedBy C pk a ∧ SignedBy C pk b ∧ a.timestampUnixSecs ≤ b.timestampUnixSecs ∧
        a.entryCount ≤ b.entryCount ∧ (b.entryCount = a.entryCount → b.headHash = a.headHash) := by
  unfold verifyCheckpointMonotonic
  simp only [guard_bind_ok, mapError_ok, failIf_ok, verifyCheckpoint_ok, ne_eq,
    not_not, UInt64.not_lt, not_and]
  constructor
  · rintro ⟨⟨pk, ha⟩, ⟨pk', hb⟩, hkey, htime, hcount, hfork⟩
    have hpk : pk = pk' := ha.eq_of_key (hkey.trans hb.2.1)
    subst hpk
    exact ⟨pk, ha, hb, htime, hcount, hfork⟩
  · rintro ⟨pk, ha, hb, htime, hcount, hfork⟩
    exact ⟨⟨pk, ha⟩, ⟨pk, hb⟩, ha.2.1.trans hb.2.1.symm, htime, hcount, hfork⟩

variable {entries : List LedgerEntry}

lemma verifySuffixFrom_ok {start : UInt64} {n : Nat} {h : FixedBytes 32} :
    verifySuffixFrom C pk start n h entries = .ok d ↔
      LinkedFrom C pk (start.toNat + n) h entries ∧ ledgerLinks.headAfter h entries = d := by
  induction entries generalizing n h with
  | nil => simp [verifySuffixFrom, Links.Linked, Links.headAfter]
  | cons e es ih =>
    simp only [verifySuffixFrom, guard_bind_ok, failIf_ok, sealChecks_ok, ne_eq,
      not_not, ih (n := n + 1) (h := e.entryHash), Links.Linked, Links.headAfter,
      ledgerLinks_seq, ledgerLinks_prev, ledgerLinks_digest, Nat.add_assoc, and_assoc]

variable {xs : List LedgerEntry}

lemma verifyCheckpointExtension_ok : verifyCheckpointExtension C a b xs = .ok () ↔
      ∃ pk, SignedBy C pk a ∧ SignedBy C pk b ∧ a.timestampUnixSecs ≤ b.timestampUnixSecs ∧
        a.entryCount.toNat + xs.length = b.entryCount.toNat ∧
        LinkedFrom C pk a.entryCount.toNat a.headHash xs ∧
        ledgerLinks.headAfter a.headHash xs = b.headHash := by
  unfold verifyCheckpointExtension
  rw [guard_bind_ok, guard_bind_ok, bind_ok]
  simp only [bind_ok, failIf_ok, okOr_ok, verifySuffixFrom_ok,
    verifyCheckpointMonotonic_ok, SignatureScheme.fromBytes_eq_some, ne_eq, not_not]
  constructor
  · rintro ⟨⟨pk, ha, hb, htime, hcount, -⟩, hlen, pk', hkey, d, ⟨hlin, hhead⟩, rfl⟩
    have hpk : pk' = pk := Subtype.ext (hkey.trans hb.2.1)
    subst hpk
    exact ⟨pk', ha, hb, htime, (toNat_sub_eq_iff hcount _).mp hlen, hlin, hhead⟩
  · rintro ⟨pk, ha, hb, htime, hlen, hlin, hhead⟩
    have hcount : a.entryCount ≤ b.entryCount := UInt64.le_iff_toNat_le.mpr (by omega)
    -- two checkpoints of one count have no entries between them, hence one head
    have hfork : b.entryCount = a.entryCount → b.headHash = a.headHash := by
      intro heq
      have hnil : xs = [] := List.length_eq_zero_iff.mp (by rw [heq] at hlen; omega)
      rw [← hhead, hnil]
      rfl
    exact ⟨⟨pk, ha, hb, htime, hcount, hfork⟩, (toNat_sub_eq_iff hcount _).mpr hlen, pk,
      hb.2.1.symm, _, ⟨hlin, hhead⟩, rfl⟩

lemma observedHead_ok {ε : Type} (hcount : count.toNat ≤ entries.length) {e : ε} :
    observedHead entries count e = .ok d ↔
      ledgerLinks.headAfter zeroHash (entries.take count.toNat) = d := by
  unfold observedHead
  by_cases hzero : count = 0
  · subst hzero
    simp [Links.headAfter]
  · have hpos : count.toNat ≠ 0 := fun h => hzero (UInt64.toNat_inj.mp h)
    obtain ⟨n, hn⟩ := Nat.exists_eq_succ_of_ne_zero hpos
    have hlt : n < entries.length := by omega
    have hget : entries[n]? = some entries[n] := List.getElem?_eq_getElem hlt
    have htake : entries.take (n + 1) = entries.take n ++ [entries[n]] :=
      (List.take_append_getElem hlt).symm
    rw [if_neg hzero, hn, htake, Links.headAfter_concat, Nat.succ_sub_one, hget]
    simp [okOr, Except.map]

lemma verifyCheckpointPrefix_ok : verifyCheckpointPrefix C c entries pk = .ok () ↔
      SignedBy C pk c ∧ LinkedFrom C pk 0 zeroHash entries ∧ c.entryCount.toNat ≤ entries.length ∧
        ledgerLinks.headAfter zeroHash (entries.take c.entryCount.toNat) = c.headHash := by
  unfold verifyCheckpointPrefix
  simp only [guard_bind_ok, mapError_ok, failIf_ok, verifyCheckpoint_ok,
    verifyChain_ok, ne_eq, not_not, Nat.not_lt]
  rw [bind_ok]
  simp only [failIf_ok, not_not]
  constructor
  · rintro ⟨⟨pk', hsig⟩, hkey, hlin, hcount, d, hd, hhead⟩
    have hpk : pk' = pk := hsig.eq_of_key hkey
    subst hpk
    exact ⟨hsig, hlin, hcount, ((observedHead_ok hcount).mp hd).trans hhead⟩
  · rintro ⟨hsig, hlin, hcount, hhead⟩
    exact ⟨⟨pk, hsig⟩, hsig.2.1, hlin, hcount, _, (observedHead_ok hcount).mpr rfl, hhead⟩

/-! ## Extensions compose -/

variable {ys : List LedgerEntry}

lemma extension_join (hab : verifyCheckpointExtension C a b xs = .ok ())
    (hbc : verifyCheckpointExtension C b c ys = .ok ()) :
    verifyCheckpointExtension C a c (xs ++ ys) = .ok () := by
  obtain ⟨pk, ha, hb, htime, hlen, hlin, hhead⟩ := verifyCheckpointExtension_ok.mp hab
  obtain ⟨pk', hb', hc, htime', hlen', hlin', hhead'⟩ := verifyCheckpointExtension_ok.mp hbc
  have hpk : pk' = pk := hb'.unique hb
  subst hpk
  rw [← hlen, ← hhead] at hlin'
  rw [← hhead, ← Links.headAfter_append] at hhead'
  refine verifyCheckpointExtension_ok.mpr ⟨pk', ha, hc, UInt64.le_trans htime htime', ?_,
    Links.linked_append.mpr ⟨hlin, hlin'⟩, hhead'⟩
  rw [List.length_append]
  omega

lemma extension_split (hac : verifyCheckpointExtension C a c (xs ++ ys) = .ok ())
    (hb : verifyCheckpoint C b = .ok ()) (hkey : b.ledgerPublicKey = a.ledgerPublicKey)
    (hcount : b.entryCount.toNat = a.entryCount.toNat + xs.length)
    (hhead : b.headHash = ledgerLinks.headAfter a.headHash xs)
    (hab : a.timestampUnixSecs ≤ b.timestampUnixSecs)
    (hbc : b.timestampUnixSecs ≤ c.timestampUnixSecs) :
    verifyCheckpointExtension C a b xs = .ok () ∧ verifyCheckpointExtension C b c ys = .ok () := by
  obtain ⟨pk, ha, hc, -, hlen, hlin, hfin⟩ := verifyCheckpointExtension_ok.mp hac
  obtain ⟨pk', hb⟩ := verifyCheckpoint_ok.mp hb
  have hpk : pk' = pk := hb.eq_of_key (hkey.trans ha.2.1)
  subst hpk
  obtain ⟨hxs, hys⟩ := Links.linked_append.mp hlin
  rw [← hcount, ← hhead] at hys
  rw [Links.headAfter_append, ← hhead] at hfin
  rw [List.length_append] at hlen
  refine ⟨verifyCheckpointExtension_ok.mpr ⟨pk', ha, hb, hab, hcount.symm, hxs, hhead.symm⟩,
    verifyCheckpointExtension_ok.mpr ⟨pk', hb, hc, hbc, ?_, hys, hfin⟩⟩
  omega

lemma extension_genesis_iff {base t : LedgerCheckpoint} {zs : List LedgerEntry}
    (hcount : base.entryCount = 0) (hhead : base.headHash = zeroHash) :
    verifyCheckpointExtension C base t zs = .ok () ↔
      ∃ pk, C.ed25519.fromBytes t.ledgerPublicKey = some pk ∧
        verifyChain C zs pk = .ok () ∧ verifyCheckpointMonotonic C base t = .ok () ∧
        t.entryCount.toNat = zs.length ∧ verifyCheckpointPrefix C t zs pk = .ok () := by
  have hzero : base.entryCount.toNat = 0 := by rw [hcount]; rfl
  rw [verifyCheckpointExtension_ok]
  simp only [verifyChain_ok, verifyCheckpointPrefix_ok, verifyCheckpointMonotonic_ok,
    SignatureScheme.fromBytes_eq_some, hzero, hhead, Nat.zero_add]
  constructor
  · rintro ⟨pk, hbase, ht, htime, hlen, hlin, hfin⟩
    have htake : zs.take t.entryCount.toNat = zs := List.take_of_length_le (by omega)
    have hfork : t.entryCount = base.entryCount → t.headHash = zeroHash := by
      intro heq
      have hnil : zs = [] := List.length_eq_zero_iff.mp (by rw [hlen, heq, hzero])
      rw [← hfin, hnil]
      rfl
    have hle : base.entryCount ≤ t.entryCount := by
      rw [UInt64.le_iff_toNat_le, hzero]
      exact Nat.zero_le _
    refine ⟨pk, ht.2.1.symm, hlin, ⟨pk, hbase, ht, htime, hle, hfork⟩, hlen.symm, ht,
      hlin, by omega, ?_⟩
    rw [htake]
    exact hfin
  · rintro ⟨pk, -, hlin, ⟨pk', hbase, ht', htime, -, -⟩, hlen, ht, -, -, hfin⟩
    have hpk : pk' = pk := ht'.unique ht
    subst hpk
    rw [List.take_of_length_le (by omega)] at hfin
    exact ⟨pk', hbase, ht, htime, hlen.symm, hlin, hfin⟩

/-- **Composition.** Extensions join at a checkpoint and split at every checkpoint of the same
key on the way, and from a genesis base extension verification is chain verification. -/
theorem checkpointExtension_composes (C : Crypto) :
    (∀ (a b c : LedgerCheckpoint) (xs ys : List LedgerEntry),
      verifyCheckpointExtension C a b xs = .ok () → verifyCheckpointExtension C b c ys = .ok () →
        verifyCheckpointExtension C a c (xs ++ ys) = .ok ()) ∧
    (∀ (a b c : LedgerCheckpoint) (xs ys : List LedgerEntry),
      verifyCheckpointExtension C a c (xs ++ ys) = .ok () → verifyCheckpoint C b = .ok () →
        b.ledgerPublicKey = a.ledgerPublicKey →
        b.entryCount.toNat = a.entryCount.toNat + xs.length →
        b.headHash = ledgerLinks.headAfter a.headHash xs →
        a.timestampUnixSecs ≤ b.timestampUnixSecs → b.timestampUnixSecs ≤ c.timestampUnixSecs →
        verifyCheckpointExtension C a b xs = .ok () ∧
          verifyCheckpointExtension C b c ys = .ok ()) ∧
    (∀ (base t : LedgerCheckpoint) (zs : List LedgerEntry),
      base.entryCount = 0 → base.headHash = zeroHash →
        (verifyCheckpointExtension C base t zs = .ok () ↔
          ∃ pk, C.ed25519.fromBytes t.ledgerPublicKey = some pk ∧
            verifyChain C zs pk = .ok () ∧ verifyCheckpointMonotonic C base t = .ok () ∧
            t.entryCount.toNat = zs.length ∧ verifyCheckpointPrefix C t zs pk = .ok ())) := by
  refine ⟨?_, ?_, ?_⟩
  · intro a b c xs ys hab hbc
    exact extension_join hab hbc
  · intro a b c xs ys hac hb hkey hcount hhead hab hbc
    exact extension_split hac hb hkey hcount hhead hab hbc
  · intro base t zs hcount hhead
    exact extension_genesis_iff hcount hhead

def sampleCheckpoint (key : sampleCrypto.ed25519.VerifyingKey) (entries : List LedgerEntry)
    (time : UInt64) : LedgerCheckpoint :=
  let entryCount := UInt64.ofNat entries.length
  let headHash := ledgerLinks.headAfter zeroHash entries
  ⟨ledgerCheckpointSchema, entryCount, headHash, key.val, time,
    sampleCrypto.ed25519.sign key.val (checkpointMessage entryCount headHash key.val time)⟩

/-- The sample chain cut after its first entry: joined, split again, and read from genesis. -/
theorem checkpointExtension_composes_sample :
    let key := sampleKey 7
    let xs := (sampleChain key).take 1
    let ys := (sampleChain key).drop 1
    let a := sampleCheckpoint key [] 10
    let b := sampleCheckpoint key xs 20
    let c := sampleCheckpoint key (xs ++ ys) 30
    verifyCheckpointExtension sampleCrypto a c (xs ++ ys) = .ok () ∧
      (verifyCheckpointExtension sampleCrypto a b xs = .ok () ∧
        verifyCheckpointExtension sampleCrypto b c ys = .ok ()) ∧
      verifyChain sampleCrypto (xs ++ ys) key = .ok () := by
  intro key xs ys a b c
  have hjoin : verifyCheckpointExtension sampleCrypto a c (xs ++ ys) = .ok () :=
    (checkpointExtension_composes sampleCrypto).1 a b c xs ys (by decide +kernel)
      (by decide +kernel)
  have hsplit := (checkpointExtension_composes sampleCrypto).2.1 a b c xs ys hjoin
    (by decide +kernel) (by decide +kernel) (by decide +kernel) (by decide +kernel)
    (by decide +kernel) (by decide +kernel)
  obtain ⟨pk, hkey, hchain, -⟩ := ((checkpointExtension_composes sampleCrypto).2.2 a c (xs ++ ys)
    (by decide +kernel) (by decide +kernel)).mp hjoin
  have hpk : pk = key := Subtype.ext (SignatureScheme.fromBytes_eq_some.mp hkey)
  exact ⟨hjoin, hsplit, hpk ▸ hchain⟩

/-- **No fork by small steps.** Where each checkpoint was checked against the one before it only, it
passes the check against all before it. -/
theorem monotonic_steps_iff (C : Crypto) (cs : List LedgerCheckpoint) :
    cs.IsChain (fun a b => verifyCheckpointMonotonic C a b = .ok ()) ↔
      cs.Pairwise fun a b => verifyCheckpointMonotonic C a b = .ok () := by
  refine @List.isChain_iff_pairwise _ _ cs ⟨fun {a b c} hab hbc => ?_⟩
  rw [verifyCheckpointMonotonic_ok] at hab hbc ⊢
  obtain ⟨pk, ha, hb, htime, hcount, hfork⟩ := hab
  obtain ⟨pk', hb', hc, htime', hcount', hfork'⟩ := hbc
  obtain rfl := hb.unique hb'
  refine ⟨pk, ha, hc, UInt64.le_trans htime htime', UInt64.le_trans hcount hcount', fun heq => ?_⟩
  -- the heights between two equal ones are equal
  have hmid : b.entryCount = a.entryCount := UInt64.le_antisymm (heq ▸ hcount') hcount
  exact (hfork' (heq.trans hmid.symm)).trans (hfork hmid)

/-- **What a checkpoint says of a ledger.** Any verified entries may follow it or be missing. -/
theorem prefix_within_iff (C : Crypto) (c : LedgerCheckpoint) (xs ys : List LedgerEntry)
    (pk : C.ed25519.VerifyingKey) :
    verifyCheckpointPrefix C c (xs ++ ys) pk = .ok () ∧ c.entryCount.toNat ≤ xs.length ↔
      verifyCheckpointPrefix C c xs pk = .ok () ∧ verifyChain C (xs ++ ys) pk = .ok () := by
  rw [verifyCheckpointPrefix_ok, verifyCheckpointPrefix_ok, verifyChain_ok]
  constructor
  · rintro ⟨⟨hsig, hlinked, -, hhead⟩, hcount⟩
    rw [List.take_append_of_le_length hcount] at hhead
    exact ⟨⟨hsig, (Links.linked_append.mp hlinked).1, hcount, hhead⟩, hlinked⟩
  · rintro ⟨⟨hsig, -, hcount, hhead⟩, hlinked⟩
    rw [← List.take_append_of_le_length hcount] at hhead
    exact ⟨⟨hsig, hlinked, by simp; omega, hhead⟩, hcount⟩

end XeniaPeer.Ledger
