import XeniaPeer.Consent.Snapshot

/-!
# Compacted active states and their pins

After the cutover the ledger lives on as an active state (`consent_compaction.rs`): the snapshot it
was activated from, a signed receipt of the cutover, and the resident entries, which grow with every
append while a generation counts the steps.

Main result: `activated_restores_ledger`.
-/

namespace XeniaPeer.Consent

open Foundation Ledger

def consentCompactedActiveStateSchema : String := "xenia-consent-compacted-active-state-v2"

def consentCompactedCutoverReceiptSchema : String := "xenia-consent-compacted-cutover-receipt-v1"

def consentCompactedStatePinSchema : String := "xenia-consent-compacted-state-pin-v1"

structure ConsentCompactedCutoverReceiptV1 where
  schema : String
  (ledgerEpochId activationSnapshotDigest archiveSequenceDigest recoverySummaryDigest : FixedBytes 32)
  (sourceCompleteCheckpoint activatedCheckpoint : LedgerCheckpoint)
  activatedAtUnixSecs : UInt64
  signature : FixedBytes 64
deriving DecidableEq

structure ConsentCompactedStatePinV1 where
  schema : String
  (ledgerEpochId cutoverReceiptFingerprint : FixedBytes 32)
  generation : UInt64
  activeStateDigest : FixedBytes 32
  checkpoint : LedgerCheckpoint
  createdAtUnixSecs : UInt64
  signature : FixedBytes 64

structure ConsentCompactedActiveStateV1 where
  schema : String
  activationSnapshot : ConsentCompactedSnapshotV1
  cutoverReceipt : ConsentCompactedCutoverReceiptV1
  generation : UInt64
  previousStateDigest : FixedBytes 32
  currentCheckpoint : LedgerCheckpoint
  residentEntries : List LedgerEntry
  (archivedReplayActionIds archivedTerminalSessions : List Uuid)
  stateDigest : FixedBytes 32
deriving DecidableEq

variable (C : Crypto)

/-! ## Cutover receipts -/

def consentLedgerEpochId (ledgerPublicKey : FixedBytes 32) : FixedBytes 32 :=
  C.blake3 (utf8 "xenia:consent-ledger-epoch:v1" ++ ([0] ++ ledgerPublicKey.toList))

namespace ConsentCompactedCutoverReceiptV1

def messageInput (receipt : ConsentCompactedCutoverReceiptV1)
    (source activated : FixedBytes 32) : Bytes :=
  utf8 "xenia:consent-compacted-cutover-receipt:v1" ++ ([0] ++ (utf8 receipt.schema ++ ([0] ++
    (receipt.ledgerEpochId.toList ++ (receipt.activationSnapshotDigest.toList ++
    (receipt.archiveSequenceDigest.toList ++ (receipt.recoverySummaryDigest.toList ++
    (source.toList ++ (activated.toList ++ u64Be receipt.activatedAtUnixSecs)))))))))

end ConsentCompactedCutoverReceiptV1

def consentCompactedCutoverReceiptMessage (receipt : ConsentCompactedCutoverReceiptV1) :
    Except ConsentRecoveryError Bytes := do
  failIf (receipt.schema ≠ consentCompactedCutoverReceiptSchema)
    (.unsupportedCutoverReceiptSchema receipt.schema)
  let source ← (checkpointFingerprint C receipt.sourceCompleteCheckpoint).mapError .checkpoint
  let activated ← (checkpointFingerprint C receipt.activatedCheckpoint).mapError .checkpoint
  pure (receipt.messageInput source activated)

def consentCompactedCutoverReceiptFingerprint (receipt : ConsentCompactedCutoverReceiptV1) :
    Except ConsentRecoveryError (FixedBytes 32) := do
  let message ← consentCompactedCutoverReceiptMessage C receipt
  pure (C.blake3 (message ++ receipt.signature.toList))

namespace ConsentCompactedCutoverReceiptV1

def verify (receipt : ConsentCompactedCutoverReceiptV1) (publicKey : C.ed25519.VerifyingKey)
    (snapshot : ConsentCompactedSnapshotV1) : Except ConsentRecoveryError Unit := do
  let source := receipt.sourceCompleteCheckpoint
  let activated := receipt.activatedCheckpoint
  failIf (receipt.schema ≠ consentCompactedCutoverReceiptSchema)
    (.unsupportedCutoverReceiptSchema receipt.schema)
  (verifyCheckpoint C source).mapError .checkpoint
  (verifyCheckpoint C activated).mapError .checkpoint
  failIf (source.ledgerPublicKey ≠ publicKey.val ∨ activated.ledgerPublicKey ≠ publicKey.val ∨
    source.ledgerPublicKey ≠ activated.ledgerPublicKey) .crossEpochCutover
  failIf (receipt.ledgerEpochId ≠ consentLedgerEpochId C publicKey.val) .crossEpochCutover
  failIf (source.entryCount ≠ activated.entryCount ∨ source.headHash ≠ activated.headHash)
    .cutoverHeadMismatch
  failIf (receipt.activatedAtUnixSecs < source.timestampUnixSecs ∨
    activated.timestampUnixSecs < source.timestampUnixSecs) .cutoverTimestampRegressed
  failIf (receipt.activationSnapshotDigest ≠ snapshot.snapshotDigest ∨
    receipt.archiveSequenceDigest ≠ snapshot.recoverySummary.archiveSequenceDigest ∨
    receipt.recoverySummaryDigest ≠ snapshot.recoverySummary.summaryDigest ∨
    source ≠ snapshot.manifest.currentCheckpoint) .cutoverSnapshotMismatch
  let message ← consentCompactedCutoverReceiptMessage C receipt
  failIf (C.ed25519.verify publicKey message receipt.signature = false)
    .invalidCutoverReceiptSignature

variable {C} in
def sign (snapshot : ConsentCompactedSnapshotV1) (activatedCheckpoint : LedgerCheckpoint)
    (signingKey : C.ed25519.SigningKey) (activatedAtUnixSecs : UInt64) :
    Except ConsentRecoveryError ConsentCompactedCutoverReceiptV1 := do
  let source := snapshot.manifest.currentCheckpoint
  let unsigned : ConsentCompactedCutoverReceiptV1 :=
    ⟨consentCompactedCutoverReceiptSchema, consentLedgerEpochId C source.ledgerPublicKey,
      snapshot.snapshotDigest, snapshot.recoverySummary.archiveSequenceDigest,
      snapshot.recoverySummary.summaryDigest, source, activatedCheckpoint, activatedAtUnixSecs,
      .replicate 64 0⟩
  let message ← consentCompactedCutoverReceiptMessage C unsigned
  let receipt := { unsigned with signature := C.ed25519.sign signingKey message }
  receipt.verify C (C.ed25519.verifyingKey signingKey) snapshot
  pure receipt

end ConsentCompactedCutoverReceiptV1

/-! ## Active states -/

namespace ConsentCompactedActiveStateV1

def digestInput (state : ConsentCompactedActiveStateV1)
    (receipt activation current : FixedBytes 32) : Bytes :=
  utf8 "xenia:consent-compacted-active-state:v1" ++ ([0] ++ (utf8 state.schema ++ ([0] ++
    (state.activationSnapshot.snapshotDigest.toList ++ (receipt.toList ++
    (u64Be state.generation ++ (state.previousStateDigest.toList ++ (activation.toList ++
    (current.toList ++ (entriesDigestInput state.residentEntries ++
    ((beBytes 8 state.archivedReplayActionIds.length ++
      state.archivedReplayActionIds.flatMap List.Vector.toList) ++
    (beBytes 8 state.archivedTerminalSessions.length ++
      state.archivedTerminalSessions.flatMap List.Vector.toList))))))))))))

end ConsentCompactedActiveStateV1

def consentCompactedActiveStateDigest (state : ConsentCompactedActiveStateV1) :
    Except ConsentRecoveryError (FixedBytes 32) := do
  failIf (state.schema ≠ consentCompactedActiveStateSchema)
    (.unsupportedActiveStateSchema state.schema)
  let activation ← (checkpointFingerprint C
    state.activationSnapshot.manifest.currentCheckpoint).mapError .checkpoint
  let current ← (checkpointFingerprint C state.currentCheckpoint).mapError .checkpoint
  let receipt ← consentCompactedCutoverReceiptFingerprint C state.cutoverReceipt
  pure (C.blake3 (state.digestInput receipt activation current))

namespace ConsentCompactedActiveStateV1

def verify (state : ConsentCompactedActiveStateV1) (publicKey : C.ed25519.VerifyingKey) :
    Except ConsentRecoveryError Unit := do
  let summary := state.activationSnapshot.recoverySummary
  failIf (state.schema ≠ consentCompactedActiveStateSchema)
    (.unsupportedActiveStateSchema state.schema)
  failIf (maxConsentCompactedSuffixEntries < state.residentEntries.length)
    (.tooManySuffixEntries state.residentEntries.length maxConsentCompactedSuffixEntries)
  let digest ← consentCompactedActiveStateDigest C state
  failIf (digest ≠ state.stateDigest) .activeStateDigestMismatch
  failIf ((state.generation = 0 ∧ state.previousStateDigest ≠ zeroHash) ∨
    (0 < state.generation ∧ state.previousStateDigest = zeroHash)) .activeGenerationMismatch
  state.activationSnapshot.verifySignedFrontier C publicKey
  state.cutoverReceipt.verify C publicKey state.activationSnapshot
  failIf (state.currentCheckpoint.ledgerPublicKey ≠ publicKey.val) .restoreSigningKeyMismatch
  failIf (state.archivedReplayActionIds ≠ summary.replayActionIds) .activeReplayIndexMismatch
  failIf (state.archivedTerminalSessions ≠
    summary.sessions.map ConsentRecoverySessionV1.sessionId) .activeTerminalIndexMismatch
  failIf (state.currentCheckpoint.entryCount < summary.throughCheckpoint.entryCount)
    .activeAnchorMismatch
  (verifyCheckpointExtension C summary.throughCheckpoint state.currentCheckpoint
    state.residentEntries).mapError .continuity
  let activationLen := state.activationSnapshot.suffixEntries.length
  failIf (state.residentEntries.length < activationLen) .activationSuffixMismatch
  failIf (state.residentEntries.take activationLen ≠ state.activationSnapshot.suffixEntries)
    .activationSuffixMismatch
  verifyRecoverySuffixCompatibility summary.index state.residentEntries

variable {C}

def activate (snapshot : ConsentCompactedSnapshotV1)
    (archiveSegments : List LedgerArchiveSegment) (signingKey : C.ed25519.SigningKey)
    (timestampUnixSecs : UInt64) :
    Except ConsentRecoveryError ConsentCompactedActiveStateV1 := do
  let restored ← snapshot.restoreState archiveSegments signingKey
  let currentCheckpoint := restored.chain.signCheckpoint timestampUnixSecs
  let cutoverReceipt ← ConsentCompactedCutoverReceiptV1.sign snapshot currentCheckpoint signingKey
    timestampUnixSecs
  let state : ConsentCompactedActiveStateV1 :=
    ⟨consentCompactedActiveStateSchema, snapshot, cutoverReceipt, 0, zeroHash, currentCheckpoint,
      restored.chain.entries, restored.archivedReplayActionIds.toList,
      restored.archivedTerminalSessions.toList, zeroHash⟩
  let stateDigest ← consentCompactedActiveStateDigest C state
  let state := { state with stateDigest := stateDigest }
  state.verify C (C.ed25519.verifyingKey signingKey)
  pure state

def advanceFromChain (state : ConsentCompactedActiveStateV1) (chain : Chain C)
    (timestampUnixSecs : UInt64) : Except ConsentRecoveryError ConsentCompactedActiveStateV1 := do
  failIf (chain.baseCheckpoint ≠
    some state.activationSnapshot.recoverySummary.throughCheckpoint) .activeAnchorMismatch
  let generation ← okOr (checkedAdd state.generation 1) .activeGenerationOverflow
  let next : ConsentCompactedActiveStateV1 :=
    ⟨consentCompactedActiveStateSchema, state.activationSnapshot, state.cutoverReceipt, generation,
      state.stateDigest, chain.signCheckpoint timestampUnixSecs, chain.entries,
      state.archivedReplayActionIds, state.archivedTerminalSessions, zeroHash⟩
  let stateDigest ← consentCompactedActiveStateDigest C next
  let next := { next with stateDigest := stateDigest }
  let publicKey ← okOr (C.ed25519.fromBytes next.currentCheckpoint.ledgerPublicKey)
    .summaryMismatch
  next.verify C publicKey
  pure next

def restoreState (state : ConsentCompactedActiveStateV1) (signingKey : C.ed25519.SigningKey) :
    Except ConsentRecoveryError (RestoredConsentStateV1 C) := do
  state.verify C (C.ed25519.verifyingKey signingKey)
  pure ⟨.fromCheckpointSuffix state.activationSnapshot.recoverySummary.throughCheckpoint
      state.residentEntries signingKey,
    .ofList state.archivedReplayActionIds compareBytes,
    .ofList state.archivedTerminalSessions compareBytes⟩

end ConsentCompactedActiveStateV1

/-! ## What is accepted -/

namespace ConsentCompactedCutoverReceiptV1

def message (receipt : ConsentCompactedCutoverReceiptV1) : Bytes :=
  receipt.messageInput (receipt.sourceCompleteCheckpoint.fingerprint C)
    (receipt.activatedCheckpoint.fingerprint C)

def fingerprintInput (receipt : ConsentCompactedCutoverReceiptV1) : Bytes :=
  receipt.message C ++ receipt.signature.toList

end ConsentCompactedCutoverReceiptV1

def ConsentCompactedActiveStateV1.hashInput (state : ConsentCompactedActiveStateV1) : Bytes :=
  state.digestInput (C.blake3 (state.cutoverReceipt.fingerprintInput C))
    (state.activationSnapshot.manifest.currentCheckpoint.fingerprint C)
    (state.currentCheckpoint.fingerprint C)

structure ReceiptAccepted (publicKey : C.ed25519.VerifyingKey)
    (snapshot : ConsentCompactedSnapshotV1) (receipt : ConsentCompactedCutoverReceiptV1) :
    Prop where
  schema : receipt.schema = consentCompactedCutoverReceiptSchema
  source : SignedBy C publicKey receipt.sourceCompleteCheckpoint
  activated : SignedBy C publicKey receipt.activatedCheckpoint
  epoch : receipt.ledgerEpochId = consentLedgerEpochId C publicKey.val
  count : receipt.sourceCompleteCheckpoint.entryCount = receipt.activatedCheckpoint.entryCount
  head : receipt.sourceCompleteCheckpoint.headHash = receipt.activatedCheckpoint.headHash
  activatedAt :
    receipt.sourceCompleteCheckpoint.timestampUnixSecs ≤ receipt.activatedAtUnixSecs
  time : receipt.sourceCompleteCheckpoint.timestampUnixSecs ≤
    receipt.activatedCheckpoint.timestampUnixSecs
  snapshotDigest : receipt.activationSnapshotDigest = snapshot.snapshotDigest
  archiveDigest : receipt.archiveSequenceDigest = snapshot.recoverySummary.archiveSequenceDigest
  summaryDigest : receipt.recoverySummaryDigest = snapshot.recoverySummary.summaryDigest
  sourceEq : receipt.sourceCompleteCheckpoint = snapshot.manifest.currentCheckpoint
  signature : C.ed25519.verify publicKey (receipt.message C) receipt.signature = true

structure StateAccepted (publicKey : C.ed25519.VerifyingKey)
    (state : ConsentCompactedActiveStateV1) : Prop where
  schema : state.schema = consentCompactedActiveStateSchema
  length_le : state.residentEntries.length ≤ maxConsentCompactedSuffixEntries
  digest : C.blake3 (state.hashInput C) = state.stateDigest
  generation : state.generation = 0 ↔ state.previousStateDigest = zeroHash
  summary : state.activationSnapshot.recoverySummary.verifySelf C = .ok ()
  frontier : FrontierAccepted C publicKey state.activationSnapshot
  receipt : ReceiptAccepted C publicKey state.activationSnapshot state.cutoverReceipt
  current : SignedBy C publicKey state.currentCheckpoint
  replayIds : state.archivedReplayActionIds =
    state.activationSnapshot.recoverySummary.replayActionIds
  terminal : state.archivedTerminalSessions =
    state.activationSnapshot.recoverySummary.sessions.map ConsentRecoverySessionV1.sessionId
  extends_ : verifyCheckpointExtension C
    state.activationSnapshot.recoverySummary.throughCheckpoint state.currentCheckpoint
    state.residentEntries = .ok ()
  activation : state.residentEntries.take state.activationSnapshot.suffixEntries.length =
    state.activationSnapshot.suffixEntries
  compatible : verifyRecoverySuffixCompatibility state.activationSnapshot.recoverySummary.index
    state.residentEntries = .ok ()

variable {C} {receipt : ConsentCompactedCutoverReceiptV1}

lemma consentCompactedCutoverReceiptMessage_ok {m : Bytes} :
    consentCompactedCutoverReceiptMessage C receipt = .ok m ↔
      receipt.schema = consentCompactedCutoverReceiptSchema ∧
        (∃ pk, SignedBy C pk receipt.sourceCompleteCheckpoint) ∧
        (∃ pk, SignedBy C pk receipt.activatedCheckpoint) ∧ receipt.message C = m := by
  simp only [consentCompactedCutoverReceiptMessage, guard_bind_ok, failIf_ok, ne_eq, not_not]
  simp only [bind_ok, mapError_ok, checkpointFingerprint_ok, pure_ok]
  constructor
  · rintro ⟨hschema, _, ⟨hsrc, rfl⟩, _, ⟨hact, rfl⟩, hmsg⟩
    exact ⟨hschema, hsrc, hact, hmsg⟩
  · rintro ⟨hschema, hsrc, hact, hmsg⟩
    exact ⟨hschema, _, ⟨hsrc, rfl⟩, _, ⟨hact, rfl⟩, hmsg⟩

variable {d : FixedBytes 32}

lemma consentCompactedCutoverReceiptFingerprint_ok :
    consentCompactedCutoverReceiptFingerprint C receipt = .ok d ↔
      receipt.schema = consentCompactedCutoverReceiptSchema ∧
        (∃ pk, SignedBy C pk receipt.sourceCompleteCheckpoint) ∧
        (∃ pk, SignedBy C pk receipt.activatedCheckpoint) ∧
        C.blake3 (receipt.fingerprintInput C) = d := by
  simp only [consentCompactedCutoverReceiptFingerprint, bind_ok, pure_ok,
    consentCompactedCutoverReceiptMessage_ok]
  constructor
  · rintro ⟨_, ⟨hschema, hsrc, hact, rfl⟩, hdigest⟩
    exact ⟨hschema, hsrc, hact, hdigest⟩
  · rintro ⟨hschema, hsrc, hact, hdigest⟩
    exact ⟨_, ⟨hschema, hsrc, hact, rfl⟩, hdigest⟩

variable {pk : C.ed25519.VerifyingKey} {snapshot : ConsentCompactedSnapshotV1}

lemma receipt_verify_ok :
    receipt.verify C pk snapshot = .ok () ↔ ReceiptAccepted C pk snapshot receipt := by
  simp only [ConsentCompactedCutoverReceiptV1.verify, guard_bind_ok, failIf_ok,
    mapError_ok, verifyCheckpoint_ok, ne_eq, not_or, not_not, UInt64.not_lt]
  simp only [bind_ok, consentCompactedCutoverReceiptMessage_ok, failIf_ok, Bool.not_eq_false]
  constructor
  · rintro ⟨hschema, ⟨key, hsrc⟩, ⟨key', hact⟩, ⟨hkey, hkey', -⟩, hepo,
      ⟨hcount, hhead⟩, ⟨hat, htime⟩, ⟨hsnapshot, harc, hsum, heq⟩, _, ⟨-, -, -, rfl⟩, hsig⟩
    have hpk : key = pk := hsrc.eq_of_key hkey
    have hpk' : key' = pk := hact.eq_of_key hkey'
    subst hpk
    subst hpk'
    exact ⟨hschema, hsrc, hact, hepo, hcount, hhead, hat, htime, hsnapshot, harc, hsum, heq, hsig⟩
  · intro h
    exact ⟨h.schema, ⟨pk, h.source⟩, ⟨pk, h.activated⟩, ⟨h.source.2.1, h.activated.2.1,
      h.source.2.1.trans h.activated.2.1.symm⟩, h.epoch, ⟨h.count, h.head⟩,
      ⟨h.activatedAt, h.time⟩, ⟨h.snapshotDigest, h.archiveDigest, h.summaryDigest, h.sourceEq⟩, _,
      ⟨h.schema, ⟨pk, h.source⟩, ⟨pk, h.activated⟩, rfl⟩, h.signature⟩

variable {state : ConsentCompactedActiveStateV1}

lemma consentCompactedActiveStateDigest_ok : consentCompactedActiveStateDigest C state = .ok d ↔
      state.schema = consentCompactedActiveStateSchema ∧
        (∃ pk, SignedBy C pk state.activationSnapshot.manifest.currentCheckpoint) ∧
        (∃ pk, SignedBy C pk state.currentCheckpoint) ∧
        (state.cutoverReceipt.schema = consentCompactedCutoverReceiptSchema ∧
          (∃ pk, SignedBy C pk state.cutoverReceipt.sourceCompleteCheckpoint) ∧
          ∃ pk, SignedBy C pk state.cutoverReceipt.activatedCheckpoint) ∧
        C.blake3 (state.hashInput C) = d := by
  simp only [consentCompactedActiveStateDigest, guard_bind_ok, failIf_ok, ne_eq, not_not]
  simp only [bind_ok, mapError_ok, checkpointFingerprint_ok, pure_ok,
    consentCompactedCutoverReceiptFingerprint_ok]
  constructor
  · rintro ⟨hschema, _, ⟨hact, rfl⟩, _, ⟨hcur, rfl⟩, _, ⟨hrecovery, hsrc, hacd, rfl⟩, hdigest⟩
    exact ⟨hschema, hact, hcur, ⟨hrecovery, hsrc, hacd⟩, hdigest⟩
  · rintro ⟨hschema, hact, hcur, ⟨hrecovery, hsrc, hacd⟩, hdigest⟩
    exact ⟨hschema, _, ⟨hact, rfl⟩, _, ⟨hcur, rfl⟩, _, ⟨hrecovery, hsrc, hacd, rfl⟩, hdigest⟩

lemma generation_guard_iff {generation : UInt64} {digest : FixedBytes 32} :
    ¬((generation = 0 ∧ digest ≠ zeroHash) ∨ (0 < generation ∧ digest = zeroHash)) ↔
      (generation = 0 ↔ digest = zeroHash) := by
  have hpos : 0 < generation ↔ generation ≠ 0 := by
    rw [UInt64.lt_iff_toNat_lt, ne_eq, ← UInt64.toNat_inj]
    exact Nat.pos_iff_ne_zero
  rw [hpos]
  tauto

lemma state_verify_ok : state.verify C pk = .ok () ↔ StateAccepted C pk state := by
  simp only [ConsentCompactedActiveStateV1.verify, guard_bind_ok, failIf_ok, ne_eq, not_not,
    Nat.not_lt]
  rw [bind_ok]
  simp only [guard_bind_ok, failIf_ok, mapError_ok, not_not, Nat.not_lt, UInt64.not_lt,
    consentCompactedActiveStateDigest_ok, generation_guard_iff, receipt_verify_ok,
    ConsentCompactedSnapshotV1.verifySignedFrontier, verifyWith_ok]
  constructor
  · rintro ⟨hschema, hlen, _, ⟨-, -, ⟨key, hcur⟩, -, hdigest⟩, rfl, hgen,
      ⟨hsum, hfro⟩, hreceipt, hkey, hrep, hter, -, hext, -, hact, hcom⟩
    have hpk : key = pk := hcur.eq_of_key hkey
    subst hpk
    exact ⟨hschema, hlen, hdigest, hgen, hsum, hfro, hreceipt, hcur, hrep, hter, hext, hact, hcom⟩
  · intro h
    obtain ⟨-, -, -, -, hcount, -, -⟩ := verifyCheckpointExtension_ok.mp h.extends_
    have hle : state.activationSnapshot.recoverySummary.throughCheckpoint.entryCount ≤
        state.currentCheckpoint.entryCount := UInt64.le_iff_toNat_le.mpr (by omega)
    have hlen := congrArg List.length h.activation
    rw [List.length_take] at hlen
    exact ⟨h.schema, h.length_le, _, ⟨h.schema, ⟨pk, h.frontier.signed.current⟩, ⟨pk, h.current⟩,
      ⟨h.receipt.schema, ⟨pk, h.receipt.source⟩, ⟨pk, h.receipt.activated⟩⟩, h.digest⟩, rfl,
      h.generation, ⟨h.summary, h.frontier⟩, h.receipt, h.current.2.1, h.replayIds, h.terminal, hle,
      h.extends_, by omega, h.activation, h.compatible⟩

/-! ## Activation and restoring -/

variable {segments : List LedgerArchiveSegment} {sk : C.ed25519.SigningKey}

lemma state_of_activate {t : UInt64}
    (h : ConsentCompactedActiveStateV1.activate snapshot segments sk t = .ok state) :
    state.activationSnapshot = snapshot ∧ state.residentEntries = snapshot.suffixEntries ∧
      state.verify C (C.ed25519.verifyingKey sk) = .ok () := by
  simp only [ConsentCompactedActiveStateV1.activate, bind_ok, pure_ok] at h
  obtain ⟨restored, hres, receipt, -, digest, -, ⟨⟩, hverify, rfl⟩ := h
  exact ⟨rfl, congrArg Chain.entries (snapshot_restoreState_ok hres), hverify⟩

lemma restoreState_ok {restored : RestoredConsentStateV1 C} :
    state.restoreState sk = .ok restored ↔ state.verify C (C.ed25519.verifyingKey sk) = .ok () ∧
      ⟨.fromCheckpointSuffix state.activationSnapshot.recoverySummary.throughCheckpoint
          state.residentEntries sk, .ofList state.archivedReplayActionIds compareBytes,
        .ofList state.archivedTerminalSessions compareBytes⟩ = restored := by
  rw [ConsentCompactedActiveStateV1.restoreState, guard_bind_ok, pure_ok]

variable {chain : Chain C} {t : UInt64}

section Advance

variable {next : ConsentCompactedActiveStateV1}

lemma advance_of_ok (h : state.advanceFromChain chain t = .ok next) :
    next.activationSnapshot = state.activationSnapshot ∧
      next.cutoverReceipt = state.cutoverReceipt ∧
      next.generation.toNat = state.generation.toNat + 1 ∧
      next.residentEntries = chain.entries ∧
      next.currentCheckpoint = chain.signCheckpoint t ∧ ∃ key, StateAccepted C key next := by
  simp only [ConsentCompactedActiveStateV1.advanceFromChain, bind_ok, okOr_ok, pure_ok] at h
  obtain ⟨-, -, generation, hgen, digest, -, key, -, ⟨⟩, hverify, rfl⟩ := h
  exact ⟨rfl, rfl, toNat_of_checkedAdd hgen, rfl, rfl, key, state_verify_ok.mp hverify⟩

lemma StateAccepted.advance (hstate : StateAccepted C pk state)
    (h : state.advanceFromChain chain t = .ok next) : StateAccepted C pk next := by
  obtain ⟨hsnapshot, -, -, -, -, key, hnext⟩ := advance_of_ok h
  have hkey := hnext.frontier.signed.current
  rw [hsnapshot] at hkey
  exact hkey.unique hstate.frontier.signed.current ▸ hnext

end Advance

lemma archive_linked_of_summary {summary : ConsentRecoverySummaryV1}
    (h : ConsentRecoverySummaryV1.fromArchiveSequence C segments = .ok summary) :
    ∃ pk, LinkedFrom C pk 0 zeroHash (archivedEntries segments) ∧
      (archivedEntries segments).length = summary.throughCheckpoint.entryCount.toNat ∧
      ledgerLinks.headAfter zeroHash (archivedEntries segments) =
        summary.throughCheckpoint.headHash := by
  have harc := compactable_of_ok h
  obtain ⟨last, hlast, hthr⟩ := (summarises_of_ok h).through
  obtain ⟨first, rest, rfl⟩ := List.exists_cons_of_ne_nil harc.nonempty
  obtain ⟨hcount, hhead⟩ := harc.genesis first rfl
  obtain ⟨pk, -, -, -, hlen, hlin, hfin⟩ :=
    verifyCheckpointExtension_ok.mp (archive_extends harc.verified)
  rw [List.getLast?_eq_some_getLast (List.cons_ne_nil _ _), Option.mem_some_iff] at hlast
  rw [hlast, ← hthr] at hlen hfin
  rw [hcount] at hlen hlin
  rw [hhead] at hlin hfin
  refine ⟨pk, hlin, ?_, hfin⟩
  rw [← hlen]
  exact (Nat.zero_add _).symm

variable (C) in
/-- `ledger` is the whole ledger of a verified chain: what earlier rounds archived, and then the
resident entries. For a complete chain these are all. -/
structure LedgerOf (chain : Chain C) (ledger : List LedgerEntry) : Prop where
  verified : chain.Verified
  complete : verifyChain C ledger chain.verifyingKey = .ok ()
  resident : ∃ past, past ++ chain.entries = ledger ∧
    past.length = chain.baseEntryCount.toNat ∧
    ledgerLinks.headAfter zeroHash past = chain.baseHeadHash

section Restore

variable {ledger : List LedgerEntry} {bundle : ConsentCompactionBundleV1}

section

variable (hverified : chain.Verified)
  (hbundle : ConsentCompactionBundleV1.build C chain segments t = .ok bundle) (hsnapshot :
  ConsentCompactedSnapshotV1.build C bundle chain.entries pk chain.baseCheckpoint = .ok snapshot)

include hverified hbundle hsnapshot

lemma snapshot_splits_chain :
    ConsentRecoverySummaryV1.fromArchiveSequence C segments = .ok snapshot.recoverySummary ∧
      ∃ n ≤ chain.entries.length, snapshot.suffixEntries = chain.entries.drop n ∧
        snapshot.recoverySummary.throughCheckpoint.entryCount.toNat =
          chain.baseEntryCount.toNat + n ∧
        ledgerLinks.headAfter chain.baseHeadHash (chain.entries.take n) =
          snapshot.recoverySummary.throughCheckpoint.headHash := by
  obtain ⟨hsum, harc⟩ := bundle_of_build hbundle
  obtain ⟨hsame, start, -, hstr, hsuf⟩ := snapshot_of_build hsnapshot
  obtain ⟨hcount, hhead, -, -⟩ := hverified.linked
  obtain ⟨-, n, hn, hthr, -, hlies⟩ := hverified.archived_liesOn harc
  rw [(summarises_of_ok hsum).count] at hstr
  have hstart : start = n := by omega
  subst hstart
  rw [hsame, hcount, hhead]
  exact ⟨hsum, start, hn, hsuf, hthr, hlies⟩

lemma snapshot_sameFrontier (key : C.ed25519.SigningKey) :
    (Chain.fromCheckpointSuffix snapshot.recoverySummary.throughCheckpoint
      snapshot.suffixEntries key).SameFrontier chain := by
  obtain ⟨-, n, hn, hsuf, hcount, hhead⟩ := snapshot_splits_chain hverified hbundle hsnapshot
  constructor
  · simp only [Chain.fromCheckpointSuffix, hsuf, List.length_drop]
    omega
  · rw [Chain.lastHash_eq_headAfter, Chain.lastHash_eq_headAfter]
    simp only [Chain.fromCheckpointSuffix, hsuf]
    rw [← hhead, ← Links.headAfter_append, List.take_append_drop]

end

lemma snapshot_splits_ledger (hledger : LedgerOf C chain ledger)
    (hbundle : ConsentCompactionBundleV1.build C chain segments t = .ok bundle)
    (hsnapshot : ConsentCompactedSnapshotV1.build C bundle chain.entries pk
      chain.baseCheckpoint = .ok snapshot) : (archivedEntries segments <+: ledger →
      archivedEntries segments ++ snapshot.suffixEntries = ledger) ∧
    (CollisionFreeOn C (preimages (archivedEntries segments ++ ledger)) →
      List.Forall₂ SameContent (archivedEntries segments ++ snapshot.suffixEntries) ledger) := by
  obtain ⟨hsum, n, hn, hsuf, hcount, hhead⟩ := snapshot_splits_chain hledger.verified hbundle hsnapshot
  obtain ⟨key, harc, hlen, hard⟩ := archive_linked_of_summary hsum
  obtain ⟨past, hpast, hpas, hpst⟩ := hledger.resident
  have hdrop : ledger.drop (archivedEntries segments).length = snapshot.suffixEntries := by
    rw [← hpast, hlen, hcount, ← hpas, hsuf, List.drop_length_add_append]
  have htake : ledger.take (archivedEntries segments).length = past ++ chain.entries.take n := by
    rw [← hpast, hlen, hcount, ← hpas, List.take_length_add_append]
  constructor
  · intro hpre
    conv_lhs => rw [List.prefix_iff_eq_take.mp hpre]
    rw [← hdrop, List.take_append_drop]
  · intro hfree
    have h := verifyChain_ok.mp hledger.complete
    rw [← List.take_append_drop (archivedEntries segments).length ledger] at h
    have hfr := (Links.linked_append.mp h).1
    have hcon : ∀ x ∈ archivedEntries segments, ∀ y ∈ ledger.take (archivedEntries segments).length,
        ledgerLinks.digest x = ledgerLinks.digest y → SameContent x y := by
      intro x hx y hy hdigest
      exact sameContent_of_sealed (harc.good_of_mem hx) (hfr.good_of_mem hy) hfree
        (preimage_mem (List.mem_append_left _ hx))
        (preimage_mem (List.mem_append_right _ (List.mem_of_mem_take hy))) hdigest
    have hlng : (archivedEntries segments).length =
        (ledger.take (archivedEntries segments).length).length := by
      rw [htake, hlen, hcount, List.length_append, List.length_take_of_le hn, hpas]
    have hhea : ledgerLinks.headAfter zeroHash (archivedEntries segments) =
        ledgerLinks.headAfter zeroHash (ledger.take (archivedEntries segments).length) := by
      rw [htake, Links.headAfter_append, hpst, hhead, hard]
    have hall := harc.commits_of_length (fun x y hxy => hxy.2.2.2.1) hfr hcon hlng hhea
    rw [← hdrop]
    conv_rhs => rw [← List.take_append_drop (archivedEntries segments).length ledger]
    exact List.rel_append hall (List.forall₂_same.mpr fun _ _ => ⟨rfl, rfl, rfl, rfl, rfl⟩)

/-- **Activation keeps the ledger.** Where building the bundle, building the snapshot and
activating succeed, the active state can be restored, and every chain restored from it stands
where the original one does: one count, one head, the archived entries in front of the resident
ones are the ledger, and every later append has the same outcome on both. -/
theorem activated_restores_ledger (hledger : LedgerOf C chain ledger)
    (hbundle : ConsentCompactionBundleV1.build C chain segments t = .ok bundle)
    (hsnapshot : ConsentCompactedSnapshotV1.build C bundle chain.entries pk
      chain.baseCheckpoint = .ok snapshot)
    {sk : C.ed25519.SigningKey} {t' : UInt64} {state : ConsentCompactedActiveStateV1}
    (hactivate : ConsentCompactedActiveStateV1.activate snapshot segments sk t' = .ok state) :
    (∃ restored, state.restoreState sk = .ok restored) ∧
    ∀ (key : C.ed25519.SigningKey) (restored : RestoredConsentStateV1 C),
      state.restoreState key = .ok restored →
      restored.chain.entryCount = chain.entryCount ∧
      restored.chain.lastHash = chain.lastHash ∧
      (archivedEntries segments <+: ledger →
        archivedEntries segments ++ restored.chain.entries = ledger) ∧
      (CollisionFreeOn C (preimages (archivedEntries segments ++ ledger)) →
        List.Forall₂ SameContent (archivedEntries segments ++ restored.chain.entries) ledger) ∧
      ∀ (calls : List (ConsentEventRecord × SystemTime)) (event : ConsentEventRecord)
        (now : SystemTime), Chain.SameOutcome ((restored.chain.appendAll calls).append event now).1
          ((chain.appendAll calls).append event now).1 := by
  obtain ⟨hstate, hresident, hverify⟩ := state_of_activate hactivate
  refine ⟨⟨_, restoreState_ok.mpr ⟨hverify, rfl⟩⟩, ?_⟩
  intro key restored hrestored
  obtain ⟨-, rfl⟩ := restoreState_ok.mp hrestored
  have hfrontier := snapshot_sameFrontier hledger.verified hbundle hsnapshot key
  obtain ⟨hexact, hcontent⟩ := snapshot_splits_ledger hledger hbundle hsnapshot
  rw [hstate, hresident]
  refine ⟨hfrontier.entryCount_eq, hfrontier.head, hexact, hcontent, ?_⟩
  intro calls event now
  exact ((hfrontier.appendAll calls).append event now).1

end Restore

def sampleRounds : List LedgerEntry :=
  sampleEntries 0 zeroHash [sampleConsentEvent 9 1 .denial, sampleConsentEvent 4 2 .denial,
    sampleConsentEvent 5 3 .request]

def sampleRoundCheckpoint (count : Nat) (time : UInt64) : LedgerCheckpoint :=
  sampleCheckpoint (sampleKey 7) (sampleRounds.take count) time

def sampleRoundArchive : List LedgerArchiveSegment :=
  [sampleSegment (sampleRoundCheckpoint 0 10) (sampleRounds.take 1) (sampleRoundCheckpoint 1 20),
    sampleSegment (sampleRoundCheckpoint 1 20) ((sampleRounds.drop 1).take 1)
      (sampleRoundCheckpoint 2 30)]

def sampleComplete : Chain sampleCrypto := .fromEntries sampleRounds (sampleKey 7).val

def sampleAnchored : Chain sampleCrypto :=
  .fromCheckpointSuffix (sampleRoundCheckpoint 1 20) (sampleRounds.drop 1) (sampleKey 7).val

def sampleRound (chain : Chain sampleCrypto) (segments : List LedgerArchiveSegment) :
    Except ConsentRecoveryError (ConsentCompactionBundleV1 × ConsentCompactedSnapshotV1 ×
      ConsentCompactedActiveStateV1) := do
  let bundle ← ConsentCompactionBundleV1.build sampleCrypto chain segments 40
  let snapshot ← ConsentCompactedSnapshotV1.build sampleCrypto bundle chain.entries (sampleKey 7)
    chain.baseCheckpoint
  let state ← ConsentCompactedActiveStateV1.activate (C := sampleCrypto) snapshot segments
    (sampleKey 7).val 50
  pure (bundle, snapshot, state)

/-- A first round on the complete chain and a second one on the anchored chain. -/
theorem activated_restores_ledger_sample :
    (∃ bundle snapshot state restored,
      sampleRound sampleComplete (sampleRoundArchive.take 1) = .ok (bundle, snapshot, state) ∧
      state.restoreState (C := sampleCrypto) (sampleKey 7).val = .ok restored ∧
      archivedEntries (sampleRoundArchive.take 1) ++ restored.chain.entries = sampleRounds) ∧
    ∃ bundle snapshot state restored,
      sampleRound sampleAnchored sampleRoundArchive = .ok (bundle, snapshot, state) ∧
      state.restoreState (C := sampleCrypto) (sampleKey 7).val = .ok restored ∧
      archivedEntries sampleRoundArchive ++ restored.chain.entries = sampleRounds := by
  have hround : ∀ (chain : Chain sampleCrypto) (segments : List LedgerArchiveSegment),
      LedgerOf sampleCrypto chain sampleRounds → archivedEntries segments <+: sampleRounds →
      (sampleRound chain segments).isOk = true → ∃ bundle snapshot state restored,
        sampleRound chain segments = .ok (bundle, snapshot, state) ∧
        state.restoreState (C := sampleCrypto) (sampleKey 7).val = .ok restored ∧
        archivedEntries segments ++ restored.chain.entries = sampleRounds := by
    intro chain segments hledger hpre hok
    cases hresult : sampleRound chain segments with
    | error e =>
      rw [hresult] at hok
      cases hok
    | ok artifacts =>
      obtain ⟨bundle, snapshot, state⟩ := artifacts
      have hsteps := hresult
      simp only [sampleRound, bind_ok, pure_ok] at hsteps
      obtain ⟨_, hbundle, _, hsnapshot, _, hactivate, ⟨⟩⟩ := hsteps
      obtain ⟨⟨restored, hrestored⟩, hall⟩ :=
        activated_restores_ledger hledger hbundle hsnapshot hactivate
      exact ⟨bundle, snapshot, state, restored, rfl, hrestored,
        (hall _ restored hrestored).2.2.1 hpre⟩
  have hchain : verifyChain sampleCrypto sampleRounds (sampleKey 7) = .ok () := by
    decide +kernel
  have hextends : verifyCheckpointExtension sampleCrypto (sampleRoundCheckpoint 1 20)
      (sampleRoundCheckpoint 3 40) (sampleRounds.drop 1) = .ok () := by
    decide +kernel
  have hcomplete : LedgerOf sampleCrypto sampleComplete sampleRounds :=
    ⟨⟨rfl, rfl, hchain⟩, hchain, [], rfl, rfl, rfl⟩
  have hanchored : LedgerOf sampleCrypto sampleAnchored sampleRounds :=
    ⟨⟨rfl, rfl, rfl, _, hextends⟩, hchain, sampleRounds.take 1, List.take_append_drop 1 _,
      by decide +kernel, by decide +kernel⟩
  refine ⟨hround _ _ hcomplete ?_ (by decide +kernel), hround _ _ hanchored ?_ (by decide +kernel)⟩
  · exact List.isPrefixOf_iff_prefix.mp (by decide +kernel)
  · exact List.isPrefixOf_iff_prefix.mp (by decide +kernel)

end XeniaPeer.Consent
