import XeniaPeer.Consent.Recovery

/-!
# Compaction bundles and snapshots

The way from a live ledger to one that has only its suffix left (`consent_compaction.rs`). A bundle
puts an archive, its recovery summary and a manifest signed by the ledger's key together; a snapshot
keeps the summary, the manifest and the entries after the archive.
-/

namespace XeniaPeer.Consent

open Foundation Ledger

def consentCompactionBundleSchema : String := "xenia-consent-compaction-bundle-v1"

def consentCompactedSnapshotSchema : String := "xenia-consent-compacted-snapshot-v1"

def maxConsentCompactedSuffixEntries : Nat := 100000

structure ConsentCompactionBundleV1 where
  schema : String
  archiveSegments : List LedgerArchiveSegment
  recoverySummary : ConsentRecoverySummaryV1
  manifest : LedgerCompactionManifest

structure ConsentCompactedSnapshotV1 where
  schema : String
  recoverySummary : ConsentRecoverySummaryV1
  manifest : LedgerCompactionManifest
  suffixEntries : List LedgerEntry
  snapshotDigest : FixedBytes 32
deriving DecidableEq

def entriesFrom (entries : List LedgerEntry) (start : Nat) : Option (List LedgerEntry) :=
  if start ≤ entries.length then some (entries.drop start) else none

def localSuffixStart (absoluteEntryCount : UInt64) (anchor : Option LedgerCheckpoint) :
    Except ConsentRecoveryError Nat :=
  let offset := (anchor.map LedgerCheckpoint.entryCount).getD 0
  okOr ((checkedSub absoluteEntryCount offset).map UInt64.toNat) .summaryMismatch

variable (C : Crypto)

/-! ## Bundles -/

namespace ConsentCompactionBundleV1

def verifySuffixCompatibility (bundle : ConsentCompactionBundleV1) (entries : List LedgerEntry)
    (anchor : Option LedgerCheckpoint) : Except ConsentRecoveryError Unit := do
  let localStart ← localSuffixStart bundle.recoverySummary.archivedEntryCount anchor
  let suffix ← okOr (entriesFrom entries localStart) .summaryMismatch
  verifyRecoverySuffixCompatibility bundle.recoverySummary.index suffix

def build (chain : Chain C) (archiveSegments : List LedgerArchiveSegment)
    (timestampUnixSecs : UInt64) : Except ConsentRecoveryError ConsentCompactionBundleV1 := do
  let recoverySummary ← ConsentRecoverySummaryV1.fromArchiveSequence C archiveSegments
  let manifest ← (chain.signCompactionManifest recoverySummary.throughCheckpoint
    recoverySummary.archiveSequenceDigest recoverySummary.summaryDigest
    timestampUnixSecs).mapError .manifest
  let bundle : ConsentCompactionBundleV1 :=
    ⟨consentCompactionBundleSchema, archiveSegments, recoverySummary, manifest⟩
  bundle.verifySuffixCompatibility chain.entries chain.baseCheckpoint
  pure bundle

end ConsentCompactionBundleV1

def verifyManifestBinds (manifest : LedgerCompactionManifest)
    (summary : ConsentRecoverySummaryV1) : Except ConsentRecoveryError Unit := do
  failIf (manifest.archiveSequenceDigest ≠ summary.archiveSequenceDigest) .manifestArchiveMismatch
  failIf (manifest.recoverySummaryDigest ≠ summary.summaryDigest) .manifestRecoveryMismatch
  failIf (manifest.archivedThroughCheckpoint ≠ summary.throughCheckpoint)
    .manifestBoundaryMismatch

def ConsentCompactionBundleV1.verifyAgainstLiveLedger (bundle : ConsentCompactionBundleV1)
    (entries : List LedgerEntry) (publicKey : C.ed25519.VerifyingKey)
    (anchor : Option LedgerCheckpoint) : Except ConsentRecoveryError Unit := do
  failIf (bundle.schema ≠ consentCompactionBundleSchema) (.unsupportedBundleSchema bundle.schema)
  bundle.recoverySummary.verifyAgainstArchive C bundle.archiveSegments
  verifyManifestBinds bundle.manifest bundle.recoverySummary
  (verifyLedgerCompactionManifestAgainstEntries C bundle.manifest entries publicKey
    anchor).mapError .manifest
  bundle.verifySuffixCompatibility entries anchor

/-! ## Snapshots -/

def entriesDigestInput (entries : List LedgerEntry) : Bytes :=
  beBytes 8 entries.length ++ entries.flatMap LedgerEntry.stamp

namespace ConsentCompactedSnapshotV1

def digestInput (snapshot : ConsentCompactedSnapshotV1) (archived current : FixedBytes 32) :
    Bytes :=
  utf8 "xenia:consent-compacted-snapshot:v1" ++ ([0] ++ (utf8 snapshot.schema ++ ([0] ++
    (snapshot.recoverySummary.summaryDigest.toList ++
    (snapshot.recoverySummary.archiveSequenceDigest.toList ++ (archived.toList ++
    (current.toList ++ (snapshot.manifest.signature.toList ++
    entriesDigestInput snapshot.suffixEntries))))))))

end ConsentCompactedSnapshotV1

def consentCompactedSnapshotDigest (snapshot : ConsentCompactedSnapshotV1) :
    Except ConsentRecoveryError (FixedBytes 32) := do
  failIf (snapshot.schema ≠ consentCompactedSnapshotSchema)
    (.unsupportedSnapshotSchema snapshot.schema)
  let archived ←
    (checkpointFingerprint C snapshot.manifest.archivedThroughCheckpoint).mapError .checkpoint
  let current ← (checkpointFingerprint C snapshot.manifest.currentCheckpoint).mapError .checkpoint
  pure (C.blake3 (snapshot.digestInput archived current))

structure RestoredConsentStateV1 where
  chain : Chain C
  (archivedReplayActionIds archivedTerminalSessions : Std.TreeSet Uuid compareBytes)

namespace ConsentCompactedSnapshotV1

def build (bundle : ConsentCompactionBundleV1) (entries : List LedgerEntry)
    (publicKey : C.ed25519.VerifyingKey) (anchor : Option LedgerCheckpoint) :
    Except ConsentRecoveryError ConsentCompactedSnapshotV1 := do
  bundle.verifyAgainstLiveLedger C entries publicKey anchor
  let localStart ← localSuffixStart bundle.recoverySummary.archivedEntryCount anchor
  let suffixEntries ← okOr (entriesFrom entries localStart) .summaryMismatch
  failIf (maxConsentCompactedSuffixEntries < suffixEntries.length)
    (.tooManySuffixEntries suffixEntries.length maxConsentCompactedSuffixEntries)
  let snapshot : ConsentCompactedSnapshotV1 :=
    ⟨consentCompactedSnapshotSchema, bundle.recoverySummary, bundle.manifest, suffixEntries,
      zeroHash⟩
  let snapshotDigest ← consentCompactedSnapshotDigest C snapshot
  pure { snapshot with snapshotDigest := snapshotDigest }

def verifyWith (verifySummary : Except ConsentRecoveryError Unit)
    (snapshot : ConsentCompactedSnapshotV1) (publicKey : C.ed25519.VerifyingKey) :
    Except ConsentRecoveryError Unit := do
  failIf (snapshot.schema ≠ consentCompactedSnapshotSchema)
    (.unsupportedSnapshotSchema snapshot.schema)
  failIf (maxConsentCompactedSuffixEntries < snapshot.suffixEntries.length)
    (.tooManySuffixEntries snapshot.suffixEntries.length maxConsentCompactedSuffixEntries)
  let digest ← consentCompactedSnapshotDigest C snapshot
  failIf (digest ≠ snapshot.snapshotDigest) .snapshotDigestMismatch
  verifySummary
  verifyManifestBinds snapshot.manifest snapshot.recoverySummary
  (verifyLedgerCompactionManifest C snapshot.manifest).mapError .manifest
  failIf (snapshot.manifest.currentCheckpoint.ledgerPublicKey ≠ publicKey.val) .summaryMismatch
  (verifyCheckpointExtension C snapshot.recoverySummary.throughCheckpoint
    snapshot.manifest.currentCheckpoint snapshot.suffixEntries).mapError .continuity
  verifyRecoverySuffixCompatibility snapshot.recoverySummary.index snapshot.suffixEntries

def verify (snapshot : ConsentCompactedSnapshotV1) (archiveSegments : List LedgerArchiveSegment)
    (publicKey : C.ed25519.VerifyingKey) : Except ConsentRecoveryError Unit :=
  snapshot.verifyWith C (snapshot.recoverySummary.verifyAgainstArchive C archiveSegments) publicKey

def verifySignedFrontier (snapshot : ConsentCompactedSnapshotV1)
    (publicKey : C.ed25519.VerifyingKey) : Except ConsentRecoveryError Unit :=
  snapshot.verifyWith C (snapshot.recoverySummary.verifySelf C) publicKey

variable {C} in
def restoreState (snapshot : ConsentCompactedSnapshotV1)
    (archiveSegments : List LedgerArchiveSegment) (signingKey : C.ed25519.SigningKey) :
    Except ConsentRecoveryError (RestoredConsentStateV1 C) := do
  let publicKey := C.ed25519.verifyingKey signingKey
  failIf (snapshot.manifest.currentCheckpoint.ledgerPublicKey ≠ publicKey.val)
    .restoreSigningKeyMismatch
  snapshot.verify C archiveSegments publicKey
  pure ⟨.fromCheckpointSuffix snapshot.recoverySummary.throughCheckpoint snapshot.suffixEntries
      signingKey,
    .ofList snapshot.recoverySummary.replayActionIds compareBytes,
    .ofList (snapshot.recoverySummary.sessions.map ConsentRecoverySessionV1.sessionId)
      compareBytes⟩

end ConsentCompactedSnapshotV1

/-! ## What is accepted -/

variable {C} {entries : List LedgerEntry} {start : Nat}

lemma entriesFrom_eq_some {suffix : List LedgerEntry} : entriesFrom entries start = some suffix ↔
      start ≤ entries.length ∧ entries.drop start = suffix := by
  unfold entriesFrom
  split <;> simp_all

variable {anchor : Option LedgerCheckpoint}

lemma localSuffixStart_ok {count : UInt64} : localSuffixStart count anchor = .ok start ↔
      (anchorStart anchor).1 + start = count.toNat := by
  have h : (anchorStart anchor).1 = ((anchor.map LedgerCheckpoint.entryCount).getD 0).toNat := by
    cases anchor <;> rfl
  simp only [localSuffixStart, okOr_ok, Option.map_eq_some_iff, checkedSub_eq_some, h]
  constructor
  · rintro ⟨d, ⟨hle, rfl⟩, rfl⟩
    exact (toNat_sub_eq_iff hle _).mp rfl
  · intro hsum
    have hle : (anchor.map LedgerCheckpoint.entryCount).getD 0 ≤ count :=
      UInt64.le_iff_toNat_le.mpr (by omega)
    exact ⟨_, ⟨hle, rfl⟩, ((toNat_sub_eq_iff hle _).mpr hsum).symm⟩

variable {summary : ConsentRecoverySummaryV1}

lemma verifyManifestBinds_ok {manifest : LedgerCompactionManifest} :
    verifyManifestBinds manifest summary = .ok () ↔
      manifest.archiveSequenceDigest = summary.archiveSequenceDigest ∧
        manifest.recoverySummaryDigest = summary.summaryDigest ∧
        manifest.archivedThroughCheckpoint = summary.throughCheckpoint := by
  simp [verifyManifestBinds, guard_bind_ok]

variable {d : FixedBytes 32}

lemma consentRecoverySummaryDigest_ok : consentRecoverySummaryDigest C summary = .ok d ↔
      summary.schema = consentRecoverySummarySchema ∧
        (∃ pk, SignedBy C pk summary.throughCheckpoint) ∧
        C.blake3 (summary.digestInput (summary.throughCheckpoint.fingerprint C)) = d := by
  simp only [consentRecoverySummaryDigest, guard_bind_ok, failIf_ok, ne_eq, not_not]
  simp only [bind_ok, mapError_ok, checkpointFingerprint_ok, pure_ok]
  constructor
  · rintro ⟨hschema, _, ⟨hsig, rfl⟩, hdigest⟩
    exact ⟨hschema, hsig, hdigest⟩
  · rintro ⟨hschema, hsig, hdigest⟩
    exact ⟨hschema, _, ⟨hsig, rfl⟩, hdigest⟩

variable {snapshot : ConsentCompactedSnapshotV1}

lemma consentCompactedSnapshotDigest_ok : consentCompactedSnapshotDigest C snapshot = .ok d ↔
      snapshot.schema = consentCompactedSnapshotSchema ∧
        (∃ pk, SignedBy C pk snapshot.manifest.archivedThroughCheckpoint) ∧
        (∃ pk, SignedBy C pk snapshot.manifest.currentCheckpoint) ∧
        C.blake3 (snapshot.digestInput (snapshot.manifest.archivedThroughCheckpoint.fingerprint C)
          (snapshot.manifest.currentCheckpoint.fingerprint C)) = d := by
  simp only [consentCompactedSnapshotDigest, guard_bind_ok, failIf_ok, ne_eq, not_not]
  simp only [bind_ok, mapError_ok, checkpointFingerprint_ok, pure_ok]
  constructor
  · rintro ⟨hschema, _, ⟨harc, rfl⟩, _, ⟨hcur, rfl⟩, hdigest⟩
    exact ⟨hschema, harc, hcur, hdigest⟩
  · rintro ⟨hschema, harc, hcur, hdigest⟩
    exact ⟨hschema, _, ⟨harc, rfl⟩, _, ⟨hcur, rfl⟩, hdigest⟩

variable (C) in
structure FrontierAccepted (publicKey : C.ed25519.VerifyingKey)
    (snapshot : ConsentCompactedSnapshotV1) : Prop where
  schema : snapshot.schema = consentCompactedSnapshotSchema
  length_le : snapshot.suffixEntries.length ≤ maxConsentCompactedSuffixEntries
  digest : C.blake3 (snapshot.digestInput
    (snapshot.manifest.archivedThroughCheckpoint.fingerprint C)
    (snapshot.manifest.currentCheckpoint.fingerprint C)) = snapshot.snapshotDigest
  archiveDigest :
    snapshot.manifest.archiveSequenceDigest = snapshot.recoverySummary.archiveSequenceDigest
  summaryDigest :
    snapshot.manifest.recoverySummaryDigest = snapshot.recoverySummary.summaryDigest
  boundary :
    snapshot.manifest.archivedThroughCheckpoint = snapshot.recoverySummary.throughCheckpoint
  wellFormed : ManifestWellFormed snapshot.manifest
  signed : ManifestSignedBy C publicKey snapshot.manifest
  extends_ : verifyCheckpointExtension C snapshot.recoverySummary.throughCheckpoint
    snapshot.manifest.currentCheckpoint snapshot.suffixEntries = .ok ()
  compatible : verifyRecoverySuffixCompatibility snapshot.recoverySummary.index
    snapshot.suffixEntries = .ok ()

variable {pk : C.ed25519.VerifyingKey}

lemma verifyWith_ok {verifySummary : Except ConsentRecoveryError Unit} :
    snapshot.verifyWith C verifySummary pk = .ok () ↔
      verifySummary = .ok () ∧ FrontierAccepted C pk snapshot := by
  simp only [ConsentCompactedSnapshotV1.verifyWith, guard_bind_ok, failIf_ok, ne_eq,
    not_not, Nat.not_lt]
  rw [bind_ok]
  simp only [guard_bind_ok, failIf_ok, mapError_ok, not_not,
    consentCompactedSnapshotDigest_ok, verifyManifestBinds_ok, verifyLedgerCompactionManifest_ok]
  constructor
  · rintro ⟨hschema, hlen, _, ⟨-, -, -, hdigest⟩, rfl, hsum, ⟨harc, hrecovery, hbou⟩,
      ⟨hform, key, hsig⟩, hkey, hext, hcom⟩
    have hpk : key = pk := hsig.current.eq_of_key hkey
    subst hpk
    exact ⟨hsum, hschema, hlen, hdigest, harc, hrecovery, hbou, hform, hsig, hext, hcom⟩
  · rintro ⟨hsum, h⟩
    exact ⟨h.schema, h.length_le, _, ⟨h.schema, ⟨pk, h.signed.archived⟩, ⟨pk, h.signed.current⟩,
      h.digest⟩, rfl, hsum, ⟨h.archiveDigest, h.summaryDigest, h.boundary⟩,
      ⟨h.wellFormed, pk, h.signed⟩, h.signed.current.2.1, h.extends_, h.compatible⟩

/-! ## Building and restoring -/

variable {segments : List LedgerArchiveSegment} {bundle : ConsentCompactionBundleV1}

lemma bundle_of_build {chain : Chain C} {t : UInt64}
    (h : ConsentCompactionBundleV1.build C chain segments t = .ok bundle) :
    ConsentRecoverySummaryV1.fromArchiveSequence C segments = .ok bundle.recoverySummary ∧
      chain.verifyArchivedCheckpoint bundle.recoverySummary.throughCheckpoint = .ok () := by
  simp only [ConsentCompactionBundleV1.build, bind_ok, mapError_ok, pure_ok,
    signCompactionManifest_ok] at h
  obtain ⟨summary, hsum, manifest, ⟨-, -, harc, -⟩, -, -, rfl⟩ := h
  exact ⟨hsum, harc⟩

lemma snapshot_of_build
    (h : ConsentCompactedSnapshotV1.build C bundle entries pk anchor = .ok snapshot) :
    snapshot.recoverySummary = bundle.recoverySummary ∧ ∃ start ≤ entries.length,
        (anchorStart anchor).1 + start = bundle.recoverySummary.archivedEntryCount.toNat ∧
        snapshot.suffixEntries = entries.drop start := by
  simp only [ConsentCompactedSnapshotV1.build, bind_ok, okOr_ok, failIf_ok, pure_ok,
    localSuffixStart_ok, entriesFrom_eq_some] at h
  obtain ⟨-, -, start, hstart, suffix, ⟨hle, rfl⟩, -, -, digest, -, rfl⟩ := h
  exact ⟨rfl, start, hle, hstart, rfl⟩

lemma snapshot_restoreState_ok {sk : C.ed25519.SigningKey}
    {restored : RestoredConsentStateV1 C} (h : snapshot.restoreState segments sk = .ok restored) :
    restored.chain =
      .fromCheckpointSuffix snapshot.recoverySummary.throughCheckpoint snapshot.suffixEntries sk := by
  simp only [ConsentCompactedSnapshotV1.restoreState, bind_ok, pure_ok] at h
  obtain ⟨-, -, -, -, rfl⟩ := h
  rfl

end XeniaPeer.Consent
