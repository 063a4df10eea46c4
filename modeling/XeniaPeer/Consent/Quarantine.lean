import XeniaPeer.Consent.Persistence
import XeniaPeer.Consent.Retirement

/-!
# Moving retired files into quarantine

The transaction of `consent_retirement.rs`. A journal is written before the first rename and after
each of them, a receipt when all files are in quarantine; what is found in between is rolled back,
by the run itself after an error and by a recovery after a crash.
-/

namespace XeniaPeer.Consent

open Foundation Foundation.FileSystem Ledger

variable [HexLibrary] (C : Crypto)

/-! ## Observing files -/

section

variable (role : ConsentRetirementArtifactRoleV1) (path : String) (fs : FileSystem)

def observeRetirementArtifact : Except ConsentRetirementError ConsentRetirementArtifactV1 := do
  let p ← okOr (resolve path) .io
  failIf (fs.hasDir p = true) (.artifactNotRegular path)
  match fs.node? p with
  | some (.file bytes) => do
    failIf (maxRetirementArtifactBytes < bytes.length)
      (.artifactTooLarge path maxRetirementArtifactBytes)
    validateAbsoluteNormalPath (Path.text p)
    pure ⟨role, Path.text p, UInt64.ofNat bytes.length, C.blake3 bytes⟩
  | some (.other _) => .error (.artifactNotRegular path)
  | none => .error .io

def observeCall : Prog ConsentRetirementError ConsentRetirementArtifactV1 :=
  look .read (observeRetirementArtifact C role path) (.error .io)

def canonicalQuarantineRoot : Except ConsentRetirementError String := do
  let p ← okOr (resolve path) (.invalidQuarantineRoot path)
  let dir ← okOr (fs.dirs p) (.invalidQuarantineRoot path)
  failIf (dir.mode &&& 0o077 ≠ 0)
    (.insecureQuarantineRootPermissions path (dir.mode &&& 0o777))
  validateAbsoluteNormalPath (Path.text p)
  pure (Path.text p)

def retirementParent : Except ConsentRetirementError String := do
  failIf (pathOf path = []) (.nonCanonicalPath path)
  pure (parentText path)

def checkRegularFile : Except ConsentRetirementError Unit := do
  let p ← okOr (resolve path) .io
  failIf (fs.hasDir p = true) (.artifactNotRegular path)
  match fs.node? p with
  | some (.file _) => pure ()
  | some (.other _) => .error (.artifactNotRegular path)
  | none => .error .io

end

/-! ## The files of a transaction -/

structure RetirementFormats where
  journal : TextFormat ConsentRetirementJournalV1
  receipt : TextFormat ConsentRetirementQuarantineReceiptV1

def persistRetirementJson {α : Type} (format : TextFormat α) (path : String) (value : α) :
    Prog ConsentRetirementError Unit := do
  let text ← .ofExcept (okOr (format.toVec value) .json)
  let bytes := text ++ [10]
  .ofExcept (failIf (maxRetirementTransactionBytes < bytes.length)
    (.artifactTooLarge path maxRetirementTransactionBytes))
  replaceCall .store path bytes

def readRetirementJson {α : Type} (format : TextFormat α) (path label : String) :
    Prog ConsentRetirementError α :=
  look .read (fun fs => (readBoundedJson format fs path maxRetirementTransactionBytes
    label).mapError (fun _ => .store)) (.error .store)

def retirementJournalPath (plan : ConsentRetirementPlanV1) : String :=
  joinPath (quarantineTransactionDirectory plan) "journal.json"

def retirementReceiptPath (plan : ConsentRetirementPlanV1) : String :=
  joinPath (quarantineTransactionDirectory plan) "receipt.json"

variable (formats : RetirementFormats)

/-! ## Rolling back -/

def restoreFromQuarantine (entry : ConsentRetirementJournalEntryV1) :
    Prog ConsentRetirementError Unit := do
  let observed ← observeCall C entry.artifact.role entry.quarantinePath
  .ofExcept (failIf (observed.matchesContent entry.artifact = false)
    (.artifactChanged entry.quarantinePath))
  renameCall .io entry.quarantinePath entry.artifact.canonicalPath
  let originalParent ← .ofExcept (retirementParent entry.artifact.canonicalPath)
  syncDirCall .io originalParent
  let quarantineParent ← .ofExcept (retirementParent entry.quarantinePath)
  syncDirCall .io quarantineParent

def checkInPlace (entry : ConsentRetirementJournalEntryV1) : Prog ConsentRetirementError Unit := do
  let observed ← observeCall C entry.artifact.role entry.artifact.canonicalPath
  .ofExcept (failIf (observed ≠ entry.artifact) (.artifactChanged entry.artifact.canonicalPath))

def restoreEntry (entry : ConsentRetirementJournalEntryV1) :
    Prog ConsentRetirementError Unit := do
  let original ← existsCall entry.artifact.canonicalPath
  let quarantined ← existsCall entry.quarantinePath
  match original, quarantined with
  | true, false => checkInPlace C entry
  | false, true => restoreFromQuarantine C entry
  | true, true => .ofExcept (.error
      (.rollbackArtifactPresentInBoth entry.artifact.canonicalPath entry.quarantinePath))
  | false, false => .ofExcept (.error
      (.rollbackArtifactMissing entry.artifact.canonicalPath entry.quarantinePath))

/-- The rollback loop, from the last entry to the first: `todo` are the entries not yet visited,
the last one first, and `restored` those behind them. -/
def restoreEntries (journalPath : String) (nowUnixSecs : UInt64)
    (journal : ConsentRetirementJournalV1) :
    List ConsentRetirementJournalEntryV1 → List ConsentRetirementJournalEntryV1 →
      Prog ConsentRetirementError (List ConsentRetirementJournalEntryV1)
  | [], restored => pure restored
  | entry :: todo, restored => do
    restoreEntry C entry
    persistRetirementJson formats.journal journalPath
      { journal with
        entries := todo.reverse ++ { entry with state := .restored } :: restored
        updatedAtUnixSecs := nowUnixSecs }
    restoreEntries journalPath nowUnixSecs journal todo ({ entry with state := .restored } :: restored)

def rollbackRetirementJournal (journalPath : String) (plan : ConsentRetirementPlanV1)
    (approvals : ConsentRetirementApprovalBundleV1) (trustedWitnessKeys : List (FixedBytes 32))
    (minimumQuorum : Nat) (publicKey : C.ed25519.VerifyingKey) (nowUnixSecs : UInt64) :
    Prog ConsentRetirementError Unit := do
  .ofExcept (plan.verifyAuthoritySignature C publicKey)
  .ofExcept (verifyRetirementQuorum C approvals plan trustedWitnessKeys minimumQuorum)
  let journal ← readRetirementJson formats.journal journalPath "consent retirement journal"
  .ofExcept (verifyRetirementJournalIdentity C journal plan approvals journalPath)
  .ofExcept (failIf (journal.state = .committed ∨ journal.state = .rolledBack) .invalidJournalState)
  let receipted ← existsCall (retirementReceiptPath plan)
  .ofExcept (failIf (receipted = true) .receiptAlreadyExists)
  let restored ← restoreEntries C formats journalPath nowUnixSecs journal journal.entries.reverse []
  persistRetirementJson formats.journal journalPath
    { journal with
      state := .rolledBack
      updatedAtUnixSecs := nowUnixSecs
      entries := restored }

/-! ## Executing a plan -/

def createTransactionDirectory (path : String) : Prog ConsentRetirementError Unit :=
  changeWith .makeDir
    (fun fs => if (resolve path).any (fun p => fs.hasDir p || (fs.node? p).isSome) then
      .transactionAlreadyExists path else .io)
    .io (fun fs => fs.makeDir? path 0o700)

def openTransaction (plan : ConsentRetirementPlanV1)
    (approvals : ConsentRetirementApprovalBundleV1) (nowUnixSecs : UInt64) :
    Prog ConsentRetirementError ConsentRetirementJournalV1 := do
  let root ← look .read (canonicalQuarantineRoot plan.quarantineRoot) (.error .io)
  .ofExcept (failIf (root ≠ plan.quarantineRoot) (.invalidQuarantineRoot plan.quarantineRoot))
  let transactionDirectory := quarantineTransactionDirectory plan
  createTransactionDirectory transactionDirectory
  syncDirCall .io plan.quarantineRoot
  let planFingerprint ← .ofExcept (consentRetirementPlanFingerprint C plan)
  let bundleFingerprint ← .ofExcept (consentRetirementApprovalBundleFingerprint C approvals)
  let journal : ConsentRetirementJournalV1 :=
    ⟨consentRetirementJournalSchema, planFingerprint, bundleFingerprint, transactionDirectory,
      .prepared, nowUnixSecs, nowUnixSecs, retirementJournalEntriesForPlan plan⟩
  persistRetirementJson formats.journal (retirementJournalPath plan) journal
  persistRetirementJson formats.journal (retirementJournalPath plan)
    { journal with state := .moving }
  pure { journal with state := .moving }

def moveCandidate (entry : ConsentRetirementJournalEntryV1) :
    Prog ConsentRetirementError Unit := do
  let observed ← observeCall C entry.artifact.role entry.artifact.canonicalPath
  .ofExcept (failIf (observed ≠ entry.artifact) (.artifactChanged entry.artifact.canonicalPath))
  let taken ← existsCall entry.quarantinePath
  .ofExcept (failIf (taken = true) (.quarantineTargetExists entry.quarantinePath))
  renameCall .io entry.artifact.canonicalPath entry.quarantinePath

def recordMove (plan : ConsentRetirementPlanV1) (entry : ConsentRetirementJournalEntryV1)
    (journal : ConsentRetirementJournalV1) : Prog ConsentRetirementError Unit := do
  let parent ← .ofExcept (retirementParent entry.artifact.canonicalPath)
  syncDirCall .io parent
  syncDirCall .io (quarantineTransactionDirectory plan)
  persistRetirementJson formats.journal (retirementJournalPath plan) journal

def moveCandidates (plan : ConsentRetirementPlanV1) (nowUnixSecs : UInt64)
    (journal : ConsentRetirementJournalV1) :
    List ConsentRetirementJournalEntryV1 → List ConsentRetirementJournalEntryV1 →
      Prog (ConsentRetirementError × Bool) (List ConsentRetirementJournalEntryV1)
  | moved, [] => pure moved
  | moved, entry :: rest => do
    (moveCandidate C entry).mapError (fun e => (e, decide (moved ≠ [])))
    (recordMove formats plan entry { journal with
        entries := moved ++ { entry with state := .moved } :: rest
        updatedAtUnixSecs := nowUnixSecs }).mapError (fun e => (e, true))
    moveCandidates plan nowUnixSecs journal (moved ++ [{ entry with state := .moved }]) rest

def verifyQuarantinedEntry (entry : ConsentRetirementJournalEntryV1) :
    Prog ConsentRetirementError Unit := do
  let reappeared ← existsCall entry.artifact.canonicalPath
  .ofExcept (failIf (reappeared = true)
    (.quarantinedOriginalReappeared entry.artifact.canonicalPath))
  let observed ← (observeCall C entry.artifact.role entry.quarantinePath).mapError
    (fun _ => .quarantinedArtifactMismatch entry.quarantinePath)
  .ofExcept (failIf (observed.byteLength ≠ entry.artifact.byteLength ∨
    observed.blake3Digest ≠ entry.artifact.blake3Digest)
    (.quarantinedArtifactMismatch entry.quarantinePath))

def verifyQuarantinedReceiptFiles (receipt : ConsentRetirementQuarantineReceiptV1) :
    Prog ConsentRetirementError Unit :=
  receipt.entries.forM (verifyQuarantinedEntry C)

def receiptOf (journal : ConsentRetirementJournalV1) (nowUnixSecs : UInt64) :
    ConsentRetirementQuarantineReceiptV1 :=
  ⟨consentRetirementReceiptSchema, journal.planFingerprint, journal.approvalBundleFingerprint,
    journal.transactionDirectory, journal.startedAtUnixSecs, nowUnixSecs, journal.entries,
    .replicate 64 0⟩

variable {C}

section

variable (plan : ConsentRetirementPlanV1) (approvals : ConsentRetirementApprovalBundleV1)

def commitTransaction (signingKey : C.ed25519.SigningKey) (nowUnixSecs : UInt64)
    (journal : ConsentRetirementJournalV1) :
    Prog ConsentRetirementError ConsentRetirementQuarantineReceiptV1 := do
  let unsigned := receiptOf journal nowUnixSecs
  let message ← .ofExcept (consentRetirementReceiptMessage unsigned)
  let receipt := { unsigned with signature := C.ed25519.sign signingKey message }
  .ofExcept (receipt.verify C plan approvals (C.ed25519.verifyingKey signingKey))
  persistRetirementJson formats.receipt (retirementReceiptPath plan) receipt
  verifyQuarantinedReceiptFiles C receipt
  persistRetirementJson formats.journal (retirementJournalPath plan)
    { journal with state := .committed, updatedAtUnixSecs := nowUnixSecs }
  syncDirCall .io (quarantineTransactionDirectory plan)
  pure receipt

def abandonTransaction (trustedWitnessKeys : List (FixedBytes 32)) (minimumQuorum : Nat)
    (publicKey : C.ed25519.VerifyingKey) (nowUnixSecs : UInt64)
    (journal : ConsentRetirementJournalV1) (error : ConsentRetirementError) (renamed : Bool) :
    Prog ConsentRetirementError ConsentRetirementQuarantineReceiptV1 := do
  let undone ← Program.attempt (if renamed then
      rollbackRetirementJournal C formats (retirementJournalPath plan) plan approvals
        trustedWitnessKeys minimumQuorum publicKey nowUnixSecs
    else
      persistRetirementJson formats.journal (retirementJournalPath plan)
        { journal with state := .rolledBack, updatedAtUnixSecs := nowUnixSecs })
  match undone with
  | .ok () => .ofExcept (.error error)
  | .error rollbackError => .ofExcept (.error (.rollbackFailed error rollbackError))

def executeRetirementQuarantine (activeState : ConsentCompactedActiveStateV1)
    (statePin : ConsentCompactedStatePinV1) (gcCertificate : ConsentCompactionGcCertificateV1)
    (archiveSegments : List LedgerArchiveSegment) (trustedWitnessKeys : List (FixedBytes 32))
    (minimumQuorum : Nat) (signingKey : C.ed25519.SigningKey) (nowUnixSecs : UInt64) :
    Prog ConsentRetirementError ConsentRetirementQuarantineReceiptV1 := do
  let publicKey := C.ed25519.verifyingKey signingKey
  .ofExcept (plan.verify C activeState statePin gcCertificate archiveSegments publicKey nowUnixSecs)
  .ofExcept (verifyRetirementQuorum C approvals plan trustedWitnessKeys minimumQuorum)
  let journal ← openTransaction C formats plan approvals nowUnixSecs
  let execution ← Program.attempt
    (moveCandidates C formats plan nowUnixSecs journal [] journal.entries)
  match execution with
  | .ok entries =>
    commitTransaction formats plan approvals signingKey nowUnixSecs
      { journal with entries := entries, updatedAtUnixSecs := nowUnixSecs }
  | .error (error, renamed) =>
    abandonTransaction formats plan approvals trustedWitnessKeys minimumQuorum publicKey
      nowUnixSecs journal error renamed

end

/-! ## Recovery -/

variable (C)

def verifyRolledBackEntry (entry : ConsentRetirementJournalEntryV1) :
    Prog ConsentRetirementError Unit := do
  let quarantined ← existsCall entry.quarantinePath
  .ofExcept (failIf (quarantined = true)
    (.rollbackArtifactPresentInBoth entry.artifact.canonicalPath entry.quarantinePath))
  let original ← existsCall entry.artifact.canonicalPath
  .ofExcept (failIf (original = false)
    (.rollbackArtifactMissing entry.artifact.canonicalPath entry.quarantinePath))
  match entry.state with
  | .restored => checkInPlace C entry
  | .pending => look .stat (checkRegularFile entry.artifact.canonicalPath) (.error .io)
  | .moved => .ofExcept (.error .invalidJournalState)

def verifyRolledBackJournalFiles (journal : ConsentRetirementJournalV1) :
    Prog ConsentRetirementError Unit :=
  journal.entries.forM (verifyRolledBackEntry C)

def finalizeReceipted (journalPath : String) (plan : ConsentRetirementPlanV1)
    (approvals : ConsentRetirementApprovalBundleV1) (publicKey : C.ed25519.VerifyingKey)
    (nowUnixSecs : UInt64) (journal : ConsentRetirementJournalV1) :
    Prog ConsentRetirementError ConsentRetirementRecoveryOutcomeV1 := do
  let receipt ← readRetirementJson formats.receipt (retirementReceiptPath plan)
    "consent retirement quarantine receipt"
  .ofExcept (receipt.verify C plan approvals publicKey)
  verifyQuarantinedReceiptFiles C receipt
  .ofExcept (failIf (journal.state = .rolledBack) .invalidJournalState)
  if journal.state = .committed then pure .alreadyCommitted
  else do
    persistRetirementJson formats.journal journalPath
      { journal with state := .committed, updatedAtUnixSecs := nowUnixSecs }
    pure .finalizedCommitted

def recoverRetirementTransaction (journalPath : String) (plan : ConsentRetirementPlanV1)
    (approvals : ConsentRetirementApprovalBundleV1) (trustedWitnessKeys : List (FixedBytes 32))
    (minimumQuorum : Nat) (publicKey : C.ed25519.VerifyingKey) (nowUnixSecs : UInt64) :
    Prog ConsentRetirementError ConsentRetirementRecoveryOutcomeV1 := do
  .ofExcept (plan.verifyAuthoritySignature C publicKey)
  .ofExcept (verifyRetirementQuorum C approvals plan trustedWitnessKeys minimumQuorum)
  let journal ← readRetirementJson formats.journal journalPath "consent retirement journal"
  .ofExcept (verifyRetirementJournalIdentity C journal plan approvals journalPath)
  let receipted ← existsCall (retirementReceiptPath plan)
  if receipted = true then
    finalizeReceipted C formats journalPath plan approvals publicKey nowUnixSecs journal
  else match journal.state with
    | .committed => .ofExcept (.error .missingCommittedReceipt)
    | .rolledBack => do
      verifyRolledBackJournalFiles C journal
      pure .alreadyRolledBack
    | .prepared | .moving => do
      rollbackRetirementJournal C formats journalPath plan approvals trustedWitnessKeys
        minimumQuorum publicKey nowUnixSecs
      pure .rolledBack

variable {C} {formats}

/-! ## What the checks say -/

variable {path : String} {role : ConsentRetirementArtifactRoleV1} {fs : FileSystem}

omit [HexLibrary] in
lemma observe_ok {a : ConsentRetirementArtifactV1} :
    observeRetirementArtifact C role path fs = .ok a ↔ ∃ p bytes, resolve path = some p ∧
      fs.hasDir p = false ∧ fs.node? p = some (.file bytes) ∧
      bytes.length ≤ maxRetirementArtifactBytes ∧ validateAbsoluteNormalPath p.text = .ok () ∧
      (⟨role, p.text, UInt64.ofNat bytes.length, C.blake3 bytes⟩ : ConsentRetirementArtifactV1) =
        a := by
  simp only [observeRetirementArtifact, bind_ok, okOr_ok, failIf_ok, Bool.not_eq_true]
  constructor
  · rintro ⟨p, hp, _, hdir, h⟩
    split at h
    · rename_i bytes hnode
      simp only [bind_ok, failIf_ok, not_lt, pure_ok] at h
      obtain ⟨_, hlen, _, hval, rfl⟩ := h
      exact ⟨p, bytes, hp, hdir, hnode, hlen, hval, rfl⟩
    · cases h
    · cases h
  · rintro ⟨p, bytes, hp, hdir, hnode, hlen, hval, rfl⟩
    refine ⟨p, hp, (), hdir, ?_⟩
    rw [hnode]
    simp only [bind_ok, failIf_ok, not_lt, pure_ok]
    exact ⟨(), hlen, (), hval, trivial⟩

omit [HexLibrary] in
lemma observe_congr {fs' : FileSystem} (h : AgreesAt (pathOf path) fs fs') :
    observeRetirementArtifact C role path fs' = observeRetirementArtifact C role path fs := by
  unfold observeRetirementArtifact
  cases hp : resolve path with
  | none => rfl
  | some p =>
    obtain rfl := pathOf_of_resolve hp
    simp only [okOr, bind, Except.bind, h.1, h.2]

omit [HexLibrary] in
lemma sameEntry_iff {observed expected : ConsentRetirementJournalEntryV1}
    (h : expected.state = .pending) :
    sameEntry observed expected = true ↔ observed.planned = expected := by
  cases observed
  cases expected
  simp only at h
  simp [sameEntry, ConsentRetirementJournalEntryV1.planned, h]

omit [HexLibrary] in
lemma forall_sameEntry_iff {observed expected : List ConsentRetirementJournalEntryV1}
    (hlen : observed.length = expected.length) (hstate : ∀ e ∈ expected, e.state = .pending) :
    (∀ pair ∈ observed.zip expected, sameEntry pair.1 pair.2 = true) ↔
      observed.map .planned = expected := by
  induction observed generalizing expected with
  | nil =>
    cases expected with
    | nil => simp
    | cons => simp at hlen
  | cons o os ih =>
    cases expected with
    | nil => simp at hlen
    | cons e es =>
      rw [List.forall_mem_cons] at hstate
      rw [List.zip_cons_cons, List.forall_mem_cons, ih (by simpa using hlen) hstate.2,
        sameEntry_iff hstate.1, List.map_cons, List.cons.injEq]

section Identity

variable {plan : ConsentRetirementPlanV1} {approvals : ConsentRetirementApprovalBundleV1}
  {journal : ConsentRetirementJournalV1} {journalPath : String}

lemma length_retirementJournalEntriesForPlan :
    (retirementJournalEntriesForPlan plan).length = plan.candidates.length := by
  simp [retirementJournalEntriesForPlan]

lemma pending_of_mem {e : ConsentRetirementJournalEntryV1}
    (h : e ∈ retirementJournalEntriesForPlan plan) : e.state = .pending := by
  obtain ⟨i, a, -, rfl⟩ := mem_retirementJournalEntriesForPlan.mp h
  rfl

variable {u : Unit}

lemma journalIdentity_ok :
    verifyRetirementJournalIdentity C journal plan approvals journalPath = .ok u ↔
      journal.schema = consentRetirementJournalSchema ∧
      samePath journalPath (retirementJournalPath plan) = true ∧
      consentRetirementPlanFingerprint C plan = .ok journal.planFingerprint ∧
      consentRetirementApprovalBundleFingerprint C approvals =
        .ok journal.approvalBundleFingerprint ∧
      journal.transactionDirectory = quarantineTransactionDirectory plan ∧
      journal.entries.map .planned = retirementJournalEntriesForPlan plan := by
  have hent : (journal.entries.length = plan.candidates.length ∧
      ∀ pair ∈ journal.entries.zip (retirementJournalEntriesForPlan plan),
        sameEntry pair.1 pair.2 = true) ↔
      journal.entries.map .planned = retirementJournalEntriesForPlan plan := by
    constructor
    · rintro ⟨hlen, hsame⟩
      rw [← length_retirementJournalEntriesForPlan] at hlen
      exact (forall_sameEntry_iff hlen fun e he => pending_of_mem he).mp hsame
    · intro h
      have hlen : journal.entries.length = (retirementJournalEntriesForPlan plan).length := by
        rw [← h, List.length_map]
      exact ⟨hlen.trans length_retirementJournalEntriesForPlan,
        (forall_sameEntry_iff hlen fun e he => pending_of_mem he).mpr h⟩
  simp only [verifyRetirementJournalIdentity, bind_ok, failIf_ok, forM_ok, ne_eq, not_not,
    not_or, Bool.not_eq_false, exists_const, ← hent, retirementJournalPath]
  constructor
  · rintro ⟨hschema, hpath, fp, hfp, rfl, bfp, hbfp, ⟨rfl, hdir, hlen⟩, hsame⟩
    exact ⟨hschema, hpath, hfp, hbfp, hdir, hlen, hsame⟩
  · rintro ⟨hschema, hpath, hfp, hbfp, hdir, hlen, hsame⟩
    exact ⟨hschema, hpath, _, hfp, rfl, _, hbfp, ⟨rfl, hdir, hlen⟩, hsame⟩

lemma receiptVerify_ok {publicKey : C.ed25519.VerifyingKey}
    {receipt : ConsentRetirementQuarantineReceiptV1} :
    receipt.verify C plan approvals publicKey = .ok u ↔
      receipt.schema = consentRetirementReceiptSchema ∧
      consentRetirementPlanFingerprint C plan = .ok receipt.planFingerprint ∧
      consentRetirementApprovalBundleFingerprint C approvals =
        .ok receipt.approvalBundleFingerprint ∧
      receipt.transactionDirectory = quarantineTransactionDirectory plan ∧
      receipt.entries.map .planned = retirementJournalEntriesForPlan plan ∧
      (∀ e ∈ receipt.entries, e.state = .moved) ∧
      receipt.startedAtUnixSecs ≤ receipt.completedAtUnixSecs ∧
      ∃ message, consentRetirementReceiptMessage receipt = .ok message ∧
        C.ed25519.verify publicKey message receipt.signature = true := by
  simp only [ConsentRetirementQuarantineReceiptV1.verify, bind_ok, forM_ok]
  constructor
  · rintro ⟨_, hschema, fp, hplan, _, hfp, bfp, hbun, _, hide, _, hent, message, hmsg, hsig⟩
    simp only [failIf_ok, not_or, ne_eq, not_not, UInt64.not_lt, Bool.not_eq_false]
      at hschema hfp hide hent hsig
    obtain ⟨rfl, hdir, hlen, htim⟩ := hide
    subst hfp
    have hlen := hlen.trans length_retirementJournalEntriesForPlan.symm
    have hsame := (forall_sameEntry_iff hlen fun e he => pending_of_mem he).mp
      (fun pair hpair => (hent pair hpair).1)
    refine ⟨hschema, hplan, hbun, hdir, hsame, fun e he => ?_, htim, message, hmsg, hsig⟩
    obtain ⟨i, hi, rfl⟩ := List.mem_iff_getElem.mp he
    have hmem : (receipt.entries[i], (retirementJournalEntriesForPlan plan)[i]) ∈
        receipt.entries.zip (retirementJournalEntriesForPlan plan) :=
      List.mem_iff_getElem.mpr ⟨i, by simpa [← hlen] using hi, by simp⟩
    exact (hent _ hmem).2
  · rintro ⟨hschema, hplan, hbun, hdir, hsame, hmov, htim, message, hmsg, hsig⟩
    have hlen : receipt.entries.length = (retirementJournalEntriesForPlan plan).length := by
      rw [← hsame, List.length_map]
    refine ⟨(), failIf_ok.mpr (by simp [hschema]), _, hplan, (), failIf_ok.mpr (by simp), _,
      hbun, (), failIf_ok.mpr ?_, (), fun pair hpair => failIf_ok.mpr ?_, message, hmsg,
      failIf_ok.mpr (by simp [hsig])⟩
    · simpa [hdir] using ⟨hlen.trans length_retirementJournalEntriesForPlan, htim⟩
    · have h := (forall_sameEntry_iff hlen fun e he => pending_of_mem he).mpr hsame pair hpair
      simp [h, hmov _ (List.of_mem_zip hpair).1]

end Identity

end XeniaPeer.Consent
