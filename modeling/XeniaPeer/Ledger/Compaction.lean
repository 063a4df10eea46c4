import XeniaPeer.Ledger.Chain

/-!
# Compaction manifests

A compaction manifest (`compaction.rs`) binds an archived checkpoint, the current checkpoint and two
digests under one signature.

Main results: `manifest_bound_iff`, `signed_manifest_accepted`.
-/

namespace XeniaPeer.Ledger

open Foundation

def ledgerCompactionManifestSchema : String := "xenia-ledger-compaction-manifest-v1"

structure LedgerCompactionManifest where
  schema : String
  (archivedThroughCheckpoint currentCheckpoint : LedgerCheckpoint)
  (archiveSequenceDigest recoverySummaryDigest : FixedBytes 32)
  timestampUnixSecs : UInt64
  signature : FixedBytes 64
deriving DecidableEq

def ledgerCompactionManifestMessage (archivedCheckpointFingerprint currentCheckpointFingerprint
    archiveSequenceDigest recoverySummaryDigest : FixedBytes 32) (timestampUnixSecs : UInt64) :
    Bytes :=
  utf8 "xenia:ledger-compaction-manifest:v1" ++ [0] ++ utf8 ledgerCompactionManifestSchema ++
    [0] ++ archivedCheckpointFingerprint.toList ++ currentCheckpointFingerprint.toList ++
    archiveSequenceDigest.toList ++ recoverySummaryDigest.toList ++ u64Be timestampUnixSecs

inductive LedgerCompactionError where
  | unsupportedSchema (schema : String)
  | checkpoint (error : CheckpointError)
  | ledgerKeyMismatch
  | manifestPredatesArchive
  | currentTimestampMismatch
  | currentBeforeArchive
  | forkAtArchiveBoundary
  | emptyDigest (field : String)
  | badSignature
  | continuity (error : CheckpointContinuityError)
  | checkpointPrecedesAnchor
deriving DecidableEq

variable (C : Crypto)

def verifyLedgerCompactionManifest (manifest : LedgerCompactionManifest) :
    Except LedgerCompactionError Unit := do
  failIf (manifest.schema ≠ ledgerCompactionManifestSchema) (.unsupportedSchema manifest.schema)
  (verifyCheckpoint C manifest.archivedThroughCheckpoint).mapError .checkpoint
  (verifyCheckpoint C manifest.currentCheckpoint).mapError .checkpoint
  failIf (manifest.archivedThroughCheckpoint.ledgerPublicKey ≠
    manifest.currentCheckpoint.ledgerPublicKey) .ledgerKeyMismatch
  failIf (manifest.timestampUnixSecs < manifest.archivedThroughCheckpoint.timestampUnixSecs)
    .manifestPredatesArchive
  failIf (manifest.currentCheckpoint.timestampUnixSecs ≠ manifest.timestampUnixSecs)
    .currentTimestampMismatch
  failIf (manifest.currentCheckpoint.entryCount < manifest.archivedThroughCheckpoint.entryCount)
    .currentBeforeArchive
  failIf (manifest.currentCheckpoint.entryCount = manifest.archivedThroughCheckpoint.entryCount ∧
    manifest.currentCheckpoint.headHash ≠ manifest.archivedThroughCheckpoint.headHash)
    .forkAtArchiveBoundary
  failIf (manifest.archiveSequenceDigest = zeroHash) (.emptyDigest "archive_sequence")
  failIf (manifest.recoverySummaryDigest = zeroHash) (.emptyDigest "recovery_summary")
  let archived ←
    (checkpointFingerprint C manifest.archivedThroughCheckpoint).mapError .checkpoint
  let current ← (checkpointFingerprint C manifest.currentCheckpoint).mapError .checkpoint
  let message := ledgerCompactionManifestMessage archived current
    manifest.archiveSequenceDigest manifest.recoverySummaryDigest manifest.timestampUnixSecs
  let key ← okOr (C.ed25519.fromBytes manifest.archivedThroughCheckpoint.ledgerPublicKey)
    (.checkpoint .badPublicKey)
  failIf (C.ed25519.verify key message manifest.signature = false) .badSignature

def verifyCheckpointExtendsAnchor (base checkpoint : LedgerCheckpoint)
    (entries : List LedgerEntry) : Except LedgerCompactionError Unit := do
  let relativeLen ← okOr (checkedSub checkpoint.entryCount base.entryCount)
    .checkpointPrecedesAnchor
  failIf (entries.length < relativeLen.toNat) .checkpointPrecedesAnchor
  (verifyCheckpointExtension C base checkpoint (entries.take relativeLen.toNat)).mapError
    .continuity

def verifyLedgerCompactionManifestAgainstEntries (manifest : LedgerCompactionManifest)
    (entries : List LedgerEntry) (publicKey : C.ed25519.VerifyingKey)
    (anchor : Option LedgerCheckpoint) : Except LedgerCompactionError Unit := do
  verifyLedgerCompactionManifest C manifest
  match anchor with
  | some base => do
    verifyCheckpointExtendsAnchor C base manifest.archivedThroughCheckpoint entries
    verifyCheckpointExtendsAnchor C base manifest.currentCheckpoint entries
  | none => do
    (verifyCheckpointPrefix C manifest.archivedThroughCheckpoint entries publicKey).mapError
      .continuity
    (verifyCheckpointPrefix C manifest.currentCheckpoint entries publicKey).mapError .continuity

section Signing

variable {C}

def Chain.verifyArchivedCheckpoint (chain : Chain C) (archived : LedgerCheckpoint) :
    Except LedgerCompactionError Unit :=
  match chain.baseCheckpoint with
  | some base => verifyCheckpointExtendsAnchor C base archived chain.entries
  | none => (verifyCheckpointPrefix C archived chain.entries
      (C.ed25519.verifyingKey chain.signingKey)).mapError .continuity

def Chain.signCompactionManifest (chain : Chain C) (archivedThroughCheckpoint : LedgerCheckpoint)
    (archiveSequenceDigest recoverySummaryDigest : FixedBytes 32) (timestampUnixSecs : UInt64) :
    Except LedgerCompactionError LedgerCompactionManifest := do
  failIf (archiveSequenceDigest = zeroHash) (.emptyDigest "archive_sequence")
  failIf (recoverySummaryDigest = zeroHash) (.emptyDigest "recovery_summary")
  chain.verifyArchivedCheckpoint archivedThroughCheckpoint
  failIf (timestampUnixSecs < archivedThroughCheckpoint.timestampUnixSecs)
    .manifestPredatesArchive
  let currentCheckpoint := chain.signCheckpoint timestampUnixSecs
  let archived ← (checkpointFingerprint C archivedThroughCheckpoint).mapError .checkpoint
  let current ← (checkpointFingerprint C currentCheckpoint).mapError .checkpoint
  let message := ledgerCompactionManifestMessage archived current archiveSequenceDigest
    recoverySummaryDigest timestampUnixSecs
  pure ⟨ledgerCompactionManifestSchema, archivedThroughCheckpoint, currentCheckpoint,
    archiveSequenceDigest, recoverySummaryDigest, timestampUnixSecs,
    C.ed25519.sign chain.signingKey message⟩

end Signing

/-! ## What an accepted manifest is bound to -/

def LedgerCompactionManifest.message (manifest : LedgerCompactionManifest) : Bytes :=
  let fingerprint (c : LedgerCheckpoint) := C.blake3 (c.message ++ c.signature.toList)
  ledgerCompactionManifestMessage (fingerprint manifest.archivedThroughCheckpoint)
    (fingerprint manifest.currentCheckpoint) manifest.archiveSequenceDigest
    manifest.recoverySummaryDigest manifest.timestampUnixSecs

structure ManifestSignedBy (publicKey : C.ed25519.VerifyingKey)
    (manifest : LedgerCompactionManifest) : Prop where
  archived : SignedBy C publicKey manifest.archivedThroughCheckpoint
  current : SignedBy C publicKey manifest.currentCheckpoint
  signature : C.ed25519.verify publicKey (manifest.message C) manifest.signature = true

def LiesOn (publicKey : C.ed25519.VerifyingKey) (start : Nat) (head : FixedBytes 32)
    (entries : List LedgerEntry) (c : LedgerCheckpoint) : Prop :=
  ∃ n ≤ entries.length, c.entryCount.toNat = start + n ∧
    LinkedFrom C publicKey start head (entries.take n) ∧
    ledgerLinks.headAfter head (entries.take n) = c.headHash

def anchorStart : Option LedgerCheckpoint → Nat × FixedBytes 32
  | some base => (base.entryCount.toNat, base.headHash)
  | none => (0, zeroHash)

/-- A manifest whose two checkpoints lie on the chain of the same key. -/
structure ManifestBound (publicKey : C.ed25519.VerifyingKey) (manifest : LedgerCompactionManifest)
    (entries : List LedgerEntry) (anchor : Option LedgerCheckpoint) : Prop where
  signed : ManifestSignedBy C publicKey manifest
  archivedOn : LiesOn C publicKey (anchorStart anchor).1 (anchorStart anchor).2 entries
    manifest.archivedThroughCheckpoint
  currentOn : LiesOn C publicKey (anchorStart anchor).1 (anchorStart anchor).2 entries
    manifest.currentCheckpoint

variable {C}

structure ManifestWellFormed (m : LedgerCompactionManifest) : Prop where
  schema : m.schema = ledgerCompactionManifestSchema
  archived_le : m.archivedThroughCheckpoint.timestampUnixSecs ≤ m.timestampUnixSecs
  current_eq : m.currentCheckpoint.timestampUnixSecs = m.timestampUnixSecs
  count_le : m.archivedThroughCheckpoint.entryCount ≤ m.currentCheckpoint.entryCount
  noFork : m.currentCheckpoint.entryCount = m.archivedThroughCheckpoint.entryCount →
    m.currentCheckpoint.headHash = m.archivedThroughCheckpoint.headHash
  archiveSequenceDigest : m.archiveSequenceDigest ≠ zeroHash
  recoverySummaryDigest : m.recoverySummaryDigest ≠ zeroHash

lemma ledgerCompactionManifestMessage_inj
    {archived archived' current current' sequence sequence' summary summary' : FixedBytes 32}
    {time time' : UInt64}
    (h : ledgerCompactionManifestMessage archived current sequence summary time =
      ledgerCompactionManifestMessage archived' current' sequence' summary' time') :
    archived = archived' ∧ current = current' ∧ sequence = sequence' ∧ summary = summary' ∧
      time = time' := by
  simp only [ledgerCompactionManifestMessage, List.append_assoc] at h
  have hfie := append_cancel_header h
  simp only [fixedBytes_append_inj] at hfie
  obtain ⟨harc, hcur, hseq, hsum, htime⟩ := hfie
  exact ⟨harc, hcur, hseq, hsum, prefixCodeOn_u64Be.injOn trivial trivial htime⟩

variable {m : LedgerCompactionManifest}

lemma verifyLedgerCompactionManifest_ok : verifyLedgerCompactionManifest C m = .ok () ↔
      ManifestWellFormed m ∧ ∃ pk, ManifestSignedBy C pk m := by
  unfold verifyLedgerCompactionManifest
  simp only [guard_bind_ok, mapError_ok, failIf_ok, verifyCheckpoint_ok, ne_eq,
    not_not, UInt64.not_lt, not_and]
  simp only [bind_ok, mapError_ok, checkpointFingerprint_ok, okOr_ok, failIf_ok,
    SignatureScheme.fromBytes_eq_some, Bool.not_eq_false]
  constructor
  · rintro ⟨hschema, -, ⟨pk', hcur⟩, hkeys, harc, htime, hcount, hfork, hd, hd', _,
      ⟨⟨pk, harch⟩, rfl⟩, _, ⟨-, rfl⟩, key, hkey, hsig⟩
    have hpk' : pk' = key := hcur.eq_of_key (hkeys.symm.trans hkey.symm)
    have hpk : pk = key := harch.eq_of_key hkey.symm
    subst hpk' hpk
    exact ⟨⟨hschema, harc, htime, hcount, hfork, hd, hd'⟩, _, harch, hcur, hsig⟩
  · rintro ⟨hform, pk, h⟩
    have hkeys := h.archived.2.1.trans h.current.2.1.symm
    exact ⟨hform.schema, ⟨pk, h.archived⟩, ⟨pk, h.current⟩, hkeys,
      hform.archived_le, hform.current_eq, hform.count_le, hform.noFork,
      hform.archiveSequenceDigest, hform.recoverySummaryDigest, _,
      ⟨⟨pk, h.archived⟩, rfl⟩, _, ⟨⟨pk, h.current⟩, rfl⟩, pk,
      h.archived.2.1.symm, h.signature⟩

variable {base c : LedgerCheckpoint} {entries : List LedgerEntry}

lemma verifyCheckpointExtendsAnchor_ok : verifyCheckpointExtendsAnchor C base c entries = .ok () ↔
      ∃ pk, SignedBy C pk base ∧ SignedBy C pk c ∧ base.timestampUnixSecs ≤ c.timestampUnixSecs ∧
        LiesOn C pk base.entryCount.toNat base.headHash entries c := by
  unfold verifyCheckpointExtendsAnchor
  rw [bind_ok]
  simp only [guard_bind_ok, okOr_ok, failIf_ok, mapError_ok, checkedSub_eq_some,
    verifyCheckpointExtension_ok, Nat.not_lt]
  constructor
  · rintro ⟨d, ⟨hle, rfl⟩, hd, pk, hbase, hc, htime, hlen, hlin, hhead⟩
    rw [List.length_take_of_le hd] at hlen
    exact ⟨pk, hbase, hc, htime, _, hd, hlen.symm, hlin, hhead⟩
  · rintro ⟨pk, hbase, hc, htime, n, hn, hcount, hlin, hhead⟩
    have hle : base.entryCount ≤ c.entryCount := UInt64.le_iff_toNat_le.mpr (by omega)
    have hsub : n = (c.entryCount - base.entryCount).toNat := (toNat_sub_eq_iff hle n).mpr hcount.symm
    subst hsub
    refine ⟨_, ⟨hle, rfl⟩, hn, pk, hbase, hc, htime, ?_, hlin, hhead⟩
    rw [List.length_take_of_le hn]
    exact hcount.symm

variable {pk : C.ed25519.VerifyingKey}

lemma liesOn_of_prefix (h : verifyCheckpointPrefix C c entries pk = .ok ()) :
    SignedBy C pk c ∧ LiesOn C pk 0 zeroHash entries c := by
  obtain ⟨hsig, hlin, hcount, hhead⟩ := verifyCheckpointPrefix_ok.mp h
  rw [← List.take_append_drop c.entryCount.toNat entries] at hlin
  exact ⟨hsig, c.entryCount.toNat, hcount, (Nat.zero_add _).symm,
    (Links.linked_append.mp hlin).1, hhead⟩

variable {anchor : Option LedgerCheckpoint}

section

variable (h : verifyLedgerCompactionManifestAgainstEntries C m entries pk anchor = .ok ())

include h

lemma bound_of_accepted :
    ∃ key, ManifestBound C key m entries anchor ∧ (anchor = none → key = pk) ∧
      ∀ base, anchor = some base → base.ledgerPublicKey = key.val := by
  unfold verifyLedgerCompactionManifestAgainstEntries at h
  rw [guard_bind_ok, verifyLedgerCompactionManifest_ok] at h
  obtain ⟨⟨-, key, hsig⟩, hche⟩ := h
  cases anchor with
  | none =>
    simp only [guard_bind_ok, mapError_ok] at hche
    obtain ⟨harch, harc⟩ := liesOn_of_prefix hche.1
    obtain ⟨-, hcur⟩ := liesOn_of_prefix hche.2
    have hkey : key = pk := hsig.archived.unique harch
    subst hkey
    exact ⟨key, ⟨hsig, harc, hcur⟩, fun _ => rfl, by simp⟩
  | some base =>
    simp only [guard_bind_ok, verifyCheckpointExtendsAnchor_ok] at hche
    obtain ⟨⟨k, hbase, harch, -, harc⟩, k', -, hcurr, -, hcur⟩ := hche
    have hk : k = key := harch.unique hsig.archived
    have hk' : k' = key := hcurr.unique hsig.current
    subst hk hk'
    refine ⟨k', ⟨hsig, harc, hcur⟩, by simp, ?_⟩
    rintro _ ⟨⟩
    exact hbase.2.1

lemma bound_iff_of_accepted : ManifestBound C pk m entries anchor ↔
      ∀ base, anchor = some base → base.ledgerPublicKey = pk.val := by
  obtain ⟨key, hbd, hnone, hsome⟩ := bound_of_accepted h
  constructor
  · intro hpk base hbase
    rw [hsome base hbase, hbd.signed.archived.unique hpk.signed.archived]
  · intro hanc
    have hkey : key = pk := by
      cases anchor with
      | none => exact hnone rfl
      | some base => exact Subtype.ext ((hsome base rfl).symm.trans (hanc base rfl))
    exact hkey ▸ hbd

end

/-! ## Manifests on top of a foreign anchor -/

def anchorManifest (C : Crypto) (signingKey : C.ed25519.SigningKey) (base : LedgerCheckpoint) :
    LedgerCompactionManifest :=
  let digest : FixedBytes 32 := .replicate 32 1
  let fingerprint := C.blake3 (base.message ++ base.signature.toList)
  ⟨ledgerCompactionManifestSchema, base, base, digest, digest, base.timestampUnixSecs,
    C.ed25519.sign signingKey (ledgerCompactionManifestMessage fingerprint fingerprint digest
      digest base.timestampUnixSecs)⟩

lemma anchorManifest_accepted (hcorrect : C.ed25519.Correct) {signingKey : C.ed25519.SigningKey}
    (hbase : SignedBy C (C.ed25519.verifyingKey signingKey) base) (pk : C.ed25519.VerifyingKey) :
    verifyLedgerCompactionManifestAgainstEntries C (anchorManifest C signingKey base) [] pk
      (some base) = .ok () := by
  have hdigest : (.replicate 32 1 : FixedBytes 32) ≠ zeroHash := by decide
  have hform : ManifestWellFormed (anchorManifest C signingKey base) :=
    ⟨rfl, UInt64.le_refl _, rfl, UInt64.le_refl _, fun _ => rfl, hdigest, hdigest⟩
  have hsig : ManifestSignedBy C (C.ed25519.verifyingKey signingKey)
      (anchorManifest C signingKey base) := ⟨hbase, hbase, hcorrect signingKey _⟩
  have h : verifyCheckpointExtendsAnchor C base base [] = .ok () :=
    verifyCheckpointExtendsAnchor_ok.mpr ⟨_, hbase, hbase, UInt64.le_refl _, 0,
      Nat.le_refl _, rfl, trivial, rfl⟩
  unfold verifyLedgerCompactionManifestAgainstEntries
  rw [guard_bind_ok, verifyLedgerCompactionManifest_ok]
  refine ⟨⟨hform, _, hsig⟩, ?_⟩
  rw [guard_bind_ok]
  exact ⟨h, h⟩

/-- **Key binding.** An accepted manifest is bound to the supplied key exactly when the anchor,
if there is one, is a checkpoint of that key; and for an anchor that a signing key made, every
accepted manifest is bound to the supplied key exactly when the two keys agree. -/
theorem manifest_bound_iff (C : Crypto) (pk : C.ed25519.VerifyingKey) :
    (∀ (m : LedgerCompactionManifest) (entries : List LedgerEntry)
      (anchor : Option LedgerCheckpoint),
      verifyLedgerCompactionManifestAgainstEntries C m entries pk anchor = .ok () →
        (ManifestBound C pk m entries anchor ↔
          ∀ base, anchor = some base → base.ledgerPublicKey = pk.val)) ∧
    (C.ed25519.Correct → ∀ (signingKey : C.ed25519.SigningKey) (base : LedgerCheckpoint),
      SignedBy C (C.ed25519.verifyingKey signingKey) base →
        ((∀ (m : LedgerCompactionManifest) (entries : List LedgerEntry),
          verifyLedgerCompactionManifestAgainstEntries C m entries pk (some base) = .ok () →
            ManifestBound C pk m entries (some base)) ↔ base.ledgerPublicKey = pk.val)) := by
  refine ⟨fun m entries anchor h => bound_iff_of_accepted h, ?_⟩
  intro hcorrect signingKey base hbase
  constructor
  · intro hall
    have haccepted := anchorManifest_accepted hcorrect hbase pk
    exact (bound_iff_of_accepted haccepted).mp (hall _ _ haccepted) base rfl
  · intro hkey m entries h
    refine (bound_iff_of_accepted h).mpr ?_
    rintro _ ⟨⟩
    exact hkey

def sampleManifest : LedgerCompactionManifest :=
  let chain := sampleChain (sampleKey 7)
  let archived := sampleCheckpoint (sampleKey 7) (chain.take 1) 20
  let current := sampleCheckpoint (sampleKey 7) chain 30
  let digest : FixedBytes 32 := .replicate 32 1
  let fingerprint (c : LedgerCheckpoint) := sampleCrypto.blake3 (c.message ++ c.signature.toList)
  ⟨ledgerCompactionManifestSchema, archived, current, digest, digest, 30,
    sampleCrypto.ed25519.sign (sampleKey 7).val (ledgerCompactionManifestMessage
      (fingerprint archived) (fingerprint current) digest digest 30)⟩

lemma sampleManifest_accepted (b : UInt8) :
    verifyLedgerCompactionManifestAgainstEntries sampleCrypto sampleManifest
      ((sampleChain (sampleKey 7)).drop 1) (sampleKey b)
      (some sampleManifest.archivedThroughCheckpoint) = .ok () := by
  have h : verifyLedgerCompactionManifestAgainstEntries sampleCrypto sampleManifest
      ((sampleChain (sampleKey 7)).drop 1) (sampleKey 7)
      (some sampleManifest.archivedThroughCheckpoint) = .ok () := by
    decide +kernel
  -- with an anchor the verifier runs the same checks for every supplied key
  exact h

/-- The manifest bound to its own key, and to every key its anchor belongs to. -/
theorem manifest_bound_iff_sample :
    ManifestBound sampleCrypto (sampleKey 7) sampleManifest
        ((sampleChain (sampleKey 7)).drop 1) (some sampleManifest.archivedThroughCheckpoint) ∧
      ∀ (m : LedgerCompactionManifest) (entries : List LedgerEntry),
        verifyLedgerCompactionManifestAgainstEntries sampleCrypto m entries (sampleKey 7)
          (some sampleManifest.archivedThroughCheckpoint) = .ok () →
        ManifestBound sampleCrypto (sampleKey 7) m entries
          (some sampleManifest.archivedThroughCheckpoint) := by
  have hkey : sampleManifest.archivedThroughCheckpoint.ledgerPublicKey = (sampleKey 7).val := by
    decide +kernel
  have hsigned : SignedBy sampleCrypto (sampleCrypto.ed25519.verifyingKey (sampleKey 7).val)
      sampleManifest.archivedThroughCheckpoint := ⟨rfl, hkey, by decide +kernel⟩
  refine ⟨((manifest_bound_iff sampleCrypto (sampleKey 7)).1 _ _ _
    (sampleManifest_accepted 7)).mpr ?_, ?_⟩
  · rintro _ ⟨⟩
    exact hkey
  · exact ((manifest_bound_iff sampleCrypto (sampleKey 7)).2 (keyedScheme_correct _)
      (sampleKey 7).val _ hsigned).mpr hkey

/-- Key `8` is supplied, the anchor and the manifest are of key `7`: the manifest is accepted,
and nothing in it verifies under the supplied key. -/
theorem manifest_accepted_under_foreign_key :
    verifyLedgerCompactionManifestAgainstEntries sampleCrypto sampleManifest
        ((sampleChain (sampleKey 7)).drop 1) (sampleKey 8)
        (some sampleManifest.archivedThroughCheckpoint) = .ok () ∧
      sampleCrypto.ed25519.verify (sampleKey 8) (sampleManifest.message sampleCrypto)
        sampleManifest.signature = false ∧
      sampleCrypto.ed25519.verify (sampleKey 8) sampleManifest.archivedThroughCheckpoint.message
        sampleManifest.archivedThroughCheckpoint.signature = false ∧
      ¬ ManifestBound sampleCrypto (sampleKey 8) sampleManifest
        ((sampleChain (sampleKey 7)).drop 1) (some sampleManifest.archivedThroughCheckpoint) := by
  have h : sampleCrypto.ed25519.verify (sampleKey 8) (sampleManifest.message sampleCrypto)
      sampleManifest.signature = false := by
    decide +kernel
  refine ⟨sampleManifest_accepted 8, h, by decide +kernel, ?_⟩
  intro hbound
  rw [hbound.signed.signature] at h
  cases h

/-! ## What a chain signs is accepted -/

/-- The resident entries pass the verifier that fits the chain, under the chain's own key: the
chain verifier from genesis, the extension verifier from the anchor. -/
def Chain.Verified (chain : Chain C) : Prop :=
  match chain.baseCheckpoint with
  | none => chain.baseEntryCount = 0 ∧ chain.baseHeadHash = zeroHash ∧
      verifyChain C chain.entries chain.verifyingKey = .ok ()
  | some base => chain.baseEntryCount = base.entryCount ∧ chain.baseHeadHash = base.headHash ∧
      base.ledgerPublicKey = chain.verifyingKey.val ∧
      ∃ candidate, verifyCheckpointExtension C base candidate chain.entries = .ok ()

variable {chain : Chain C}

lemma Chain.Verified.linked (h : chain.Verified) :
    chain.baseEntryCount.toNat = (anchorStart chain.baseCheckpoint).1 ∧
      chain.baseHeadHash = (anchorStart chain.baseCheckpoint).2 ∧ chain.ResidentLinked ∧
      ∀ base, chain.baseCheckpoint = some base → SignedBy C chain.verifyingKey base ∧
        base.entryCount.toNat + chain.entries.length < 2 ^ 64 := by
  unfold Verified at h
  unfold ResidentLinked
  cases hbase : chain.baseCheckpoint with
  | none =>
    simp only [hbase] at h
    obtain ⟨hcount, hhead, hcha⟩ := h
    rw [hcount, hhead]
    refine ⟨rfl, rfl, verifyChain_ok.mp hcha, ?_⟩
    nofun
  | some base =>
    simp only [hbase] at h
    obtain ⟨hcount, hhead, hkey, candidate, hext⟩ := h
    obtain ⟨pk, hsig, -, -, hlen, hlin, -⟩ := verifyCheckpointExtension_ok.mp hext
    have hpk : pk = chain.verifyingKey := hsig.eq_of_key hkey
    subst hpk
    rw [hcount, hhead]
    refine ⟨rfl, rfl, hlin, ?_⟩
    rintro _ ⟨⟩
    exact ⟨hsig, hlen ▸ candidate.entryCount.toNat_lt⟩

lemma prefix_of_liesOn (hsign : SignedBy C pk c)
    (hlink : LinkedFrom C pk 0 zeroHash entries) (hon : LiesOn C pk 0 zeroHash entries c) :
    verifyCheckpointPrefix C c entries pk = .ok () := by
  obtain ⟨n, hn, hcount, -, hhead⟩ := hon
  rw [Nat.zero_add] at hcount
  subst hcount
  exact verifyCheckpointPrefix_ok.mpr ⟨hsign, hlink, hn, hhead⟩

lemma Chain.signCheckpoint_liesOn (hcount : chain.baseEntryCount.toNat = (anchorStart anchor).1)
    (hhead : chain.baseHeadHash = (anchorStart anchor).2) (hlink : chain.ResidentLinked)
    (hfit : chain.baseEntryCount.toNat + chain.entries.length < 2 ^ 64) (t : UInt64) :
    (chain.signCheckpoint t).entryCount.toNat = (anchorStart anchor).1 + chain.entries.length ∧
      LiesOn C chain.verifyingKey (anchorStart anchor).1 (anchorStart anchor).2 chain.entries
        (chain.signCheckpoint t) := by
  have hsum : (chain.signCheckpoint t).entryCount.toNat =
      (anchorStart anchor).1 + chain.entries.length := by
    rw [← hcount]
    exact toNat_saturatingAdd hfit
  refine ⟨hsum, chain.entries.length, Nat.le_refl _, hsum, ?_, ?_⟩
  · rw [List.take_length, ← hcount, ← hhead]
    exact hlink
  · rw [List.take_length, ← hhead]
    exact chain.lastHash_eq_headAfter.symm

variable {archived : LedgerCheckpoint}

lemma signCompactionManifest_ok {sequenceDigest summaryDigest : FixedBytes 32} {t : UInt64} :
    chain.signCompactionManifest archived sequenceDigest summaryDigest t = .ok m ↔
      sequenceDigest ≠ zeroHash ∧ summaryDigest ≠ zeroHash ∧
        chain.verifyArchivedCheckpoint archived = .ok () ∧ archived.timestampUnixSecs ≤ t ∧
        (∃ pk, SignedBy C pk archived) ∧ (∃ pk, SignedBy C pk (chain.signCheckpoint t)) ∧
        m = ⟨ledgerCompactionManifestSchema, archived, chain.signCheckpoint t, sequenceDigest,
          summaryDigest, t, C.ed25519.sign chain.signingKey (ledgerCompactionManifestMessage
            (archived.fingerprint C) ((chain.signCheckpoint t).fingerprint C) sequenceDigest
            summaryDigest t)⟩ := by
  simp only [Chain.signCompactionManifest, guard_bind_ok, failIf_ok, UInt64.not_lt, ne_eq]
  simp only [bind_ok, mapError_ok, checkpointFingerprint_ok, pure_ok]
  constructor
  · rintro ⟨hd, hd', harc, htime, _, ⟨hsig, rfl⟩, _, ⟨hcur, rfl⟩, rfl⟩
    exact ⟨hd, hd', harc, htime, hsig, hcur, rfl⟩
  · rintro ⟨hd, hd', harc, htime, hsig, hcur, rfl⟩
    exact ⟨hd, hd', harc, htime, _, ⟨hsig, rfl⟩, _, ⟨hcur, rfl⟩, rfl⟩

lemma Chain.Verified.archived_liesOn (hverified : chain.Verified)
    (h : chain.verifyArchivedCheckpoint archived = .ok ()) :
    SignedBy C chain.verifyingKey archived ∧
      LiesOn C chain.verifyingKey (anchorStart chain.baseCheckpoint).1
        (anchorStart chain.baseCheckpoint).2 chain.entries archived := by
  obtain ⟨-, -, -, hbase⟩ := hverified.linked
  unfold verifyArchivedCheckpoint at h
  cases hanc : chain.baseCheckpoint with
  | none =>
    simp only [hanc, mapError_ok] at h
    exact liesOn_of_prefix h
  | some base =>
    simp only [hanc] at h
    obtain ⟨pk, hsig, harc, -, hon⟩ := verifyCheckpointExtendsAnchor_ok.mp h
    have hpk : pk = chain.verifyingKey := hsig.unique (hbase base hanc).1
    subst hpk
    exact ⟨harc, hon⟩

lemma Chain.Verified.current_accepted (hverified : chain.Verified) {current : LedgerCheckpoint}
    (h : chain.verifyArchivedCheckpoint archived = .ok ())
    (htime : archived.timestampUnixSecs ≤ current.timestampUnixSecs)
    (hsign : SignedBy C chain.verifyingKey current)
    (hon : LiesOn C chain.verifyingKey (anchorStart chain.baseCheckpoint).1
      (anchorStart chain.baseCheckpoint).2 chain.entries current) :
    chain.verifyArchivedCheckpoint current = .ok () := by
  obtain ⟨hcount, hhead, hlin, hbase⟩ := hverified.linked
  unfold ResidentLinked at hlin
  unfold verifyArchivedCheckpoint at h ⊢
  cases hanc : chain.baseCheckpoint with
  | none =>
    rw [hcount, hhead, hanc] at hlin
    rw [hanc] at hon
    simp only [mapError_ok]
    exact prefix_of_liesOn hsign hlin hon
  | some base =>
    simp only [hanc] at h hon
    obtain ⟨-, -, -, htime', -⟩ := verifyCheckpointExtendsAnchor_ok.mp h
    exact verifyCheckpointExtendsAnchor_ok.mpr ⟨chain.verifyingKey, (hbase base hanc).1,
      hsign, UInt64.le_trans htime' htime, hon⟩

lemma manifest_accepted_of_chain (hm : verifyLedgerCompactionManifest C m = .ok ())
    (harchive : chain.verifyArchivedCheckpoint m.archivedThroughCheckpoint = .ok ())
    (hcur : chain.verifyArchivedCheckpoint m.currentCheckpoint = .ok ()) :
    verifyLedgerCompactionManifestAgainstEntries C m chain.entries chain.verifyingKey
      chain.baseCheckpoint = .ok () := by
  unfold verifyLedgerCompactionManifestAgainstEntries
  unfold Chain.verifyArchivedCheckpoint at harchive hcur
  rw [guard_bind_ok]
  refine ⟨hm, ?_⟩
  cases h : chain.baseCheckpoint with
  | none =>
    simp only [h] at harchive hcur
    exact guard_bind_ok.mpr ⟨harchive, hcur⟩
  | some base =>
    simp only [h] at harchive hcur
    exact guard_bind_ok.mpr ⟨harchive, hcur⟩

/-- **Signed manifests verify.** Whatever `signCompactionManifest` returns on a chain whose
entries are verified under its own key, both manifest verifiers accept for the chain's entries,
key and anchor. A chain holds fewer than `2 ^ 64` entries, as every vector does. -/
theorem signed_manifest_accepted (hcorrect : C.ed25519.Correct) {chain : Chain C}
    (hverified : chain.Verified) (hlen : chain.entries.length < 2 ^ 64)
    {archived : LedgerCheckpoint} {sequenceDigest summaryDigest : FixedBytes 32} {t : UInt64}
    {m : LedgerCompactionManifest}
    (h : chain.signCompactionManifest archived sequenceDigest summaryDigest t = .ok m) :
    verifyLedgerCompactionManifest C m = .ok () ∧
      verifyLedgerCompactionManifestAgainstEntries C m chain.entries chain.verifyingKey
        chain.baseCheckpoint = .ok () := by
  obtain ⟨hd, hd', harchived, htime, -, -, hmeq⟩ := signCompactionManifest_ok.mp h
  obtain ⟨hcount, hhead, hlinked, hbase⟩ := hverified.linked
  obtain ⟨hsigned, n, hn, harchcount, -, harchhead⟩ := hverified.archived_liesOn harchived
  have hfit : chain.baseEntryCount.toNat + chain.entries.length < 2 ^ 64 := by
    cases hanchor : chain.baseCheckpoint with
    | none =>
      rw [hcount, hanchor]
      simpa [anchorStart] using hlen
    | some base =>
      rw [hcount, hanchor]
      exact (hbase base hanchor).2
  obtain ⟨hcurrcount, hon⟩ := Chain.signCheckpoint_liesOn hcount hhead hlinked hfit t
  have hcurrent : SignedBy C chain.verifyingKey (chain.signCheckpoint t) :=
    ⟨rfl, rfl, hcorrect chain.signingKey _⟩
  have hle : archived.entryCount ≤ (chain.signCheckpoint t).entryCount := by
    rw [UInt64.le_iff_toNat_le]
    omega
  -- at one height the archived checkpoint counts every entry, so it has the chain's head
  have hfork : (chain.signCheckpoint t).entryCount = archived.entryCount →
      (chain.signCheckpoint t).headHash = archived.headHash := by
    intro heq
    rw [heq] at hcurrcount
    have hall : n = chain.entries.length := by omega
    rw [hall, List.take_length, ← hhead] at harchhead
    exact chain.lastHash_eq_headAfter.trans harchhead
  have hm : verifyLedgerCompactionManifest C m = .ok () := by
    subst hmeq
    exact verifyLedgerCompactionManifest_ok.mpr ⟨⟨rfl, htime, rfl, hle, hfork, hd, hd'⟩,
      chain.verifyingKey, hsigned, hcurrent, hcorrect chain.signingKey _⟩
  subst hmeq
  exact ⟨hm, manifest_accepted_of_chain hm harchived
    (hverified.current_accepted harchived htime hcurrent hon)⟩

/-- The sample ledger as a complete chain and as a chain anchored after its first entry: both
sign a manifest, archived up to the first entry and up to the second. -/
theorem signed_manifest_accepted_sample :
    let digest : FixedBytes 32 := .replicate 32 1
    let entries := sampleChain (sampleKey 7)
    let middle := sampleCheckpoint (sampleKey 7) (entries.take 1) 20
    let complete : Chain sampleCrypto := .fromEntries entries (sampleKey 7).val
    let anchored : Chain sampleCrypto :=
      .fromCheckpointSuffix middle (entries.drop 1) (sampleKey 7).val
    let last := sampleCheckpoint (sampleKey 7) entries 25
    ((complete.signCompactionManifest middle digest digest 30).isOk = true ∧
      (anchored.signCompactionManifest last digest digest 30).isOk = true) ∧
    (∀ m, complete.signCompactionManifest middle digest digest 30 = .ok m →
      verifyLedgerCompactionManifestAgainstEntries sampleCrypto m entries (sampleKey 7) none =
        .ok ()) ∧
    ∀ m, anchored.signCompactionManifest last digest digest 30 = .ok m →
      verifyLedgerCompactionManifestAgainstEntries sampleCrypto m (entries.drop 1) (sampleKey 7)
        (some middle) = .ok () := by
  intro digest entries middle complete anchored last
  have hcomplete : complete.Verified := ⟨rfl, rfl, by decide +kernel⟩
  have hanchored : anchored.Verified := ⟨rfl, rfl, rfl, last, by decide +kernel⟩
  refine ⟨by decide +kernel, ?_, ?_⟩
  · intro m hm
    exact (signed_manifest_accepted (keyedScheme_correct _) hcomplete (by decide +kernel) hm).2
  · intro m hm
    exact (signed_manifest_accepted (keyedScheme_correct _) hanchored (by decide +kernel) hm).2

end XeniaPeer.Ledger
