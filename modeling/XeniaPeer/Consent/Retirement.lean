import XeniaPeer.Consent.StatePin
import XeniaPeer.Foundation.Files

/-!
# Retirement plans, approvals and receipts

What authorises the retirement of superseded files (`consent_retirement.rs`). A plan lists the files
with their length and digest, is signed by the ledger authority and rests on a certificate that
state and archives suffice for recovery (`consent_compaction.rs`). Independent keys approve exactly
that plan.

Main result: `candidates_apart_iff`.
-/

namespace XeniaPeer.Consent

open Foundation Ledger

/-! ## Shared checks -/

section Shared

variable {ε : Type}

def appendBytes (overflow : ε) (bytes : Bytes) : Except ε Bytes := do
  failIf (2 ^ 32 ≤ bytes.length) overflow
  pure (beBytes 4 bytes.length ++ bytes)

def countBytes (overflow : ε) (count : Nat) : Except ε Bytes := do
  failIf (2 ^ 32 ≤ count) overflow
  pure (beBytes 4 count)

def isAbsolute (path : String) : Bool := path.toList.head? = some '/'

def validatePathWith (tooLong nonCanonical : String → ε) (maximum : Nat) (path : String) :
    Except ε Unit := do
  failIf (maximum < path.utf8ByteSize) (tooLong path)
  failIf (isAbsolute path = false ∨ ".." ∈ pathOf path) (nonCanonical path)

/-- One key's approval of a plan: `ConsentRetirementApprovalV1`, `ConsentPurgeApprovalV1` and
`ConsentFinalDestructionApprovalV1` have the same fields. -/
structure ApprovalV1 where
  witnessPublicKey : FixedBytes 32
  approvedAtUnixSecs : UInt64
  signature : FixedBytes 64

structure ApprovalBundleV1 where
  schema : String
  planFingerprint : FixedBytes 32
  approvals : List ApprovalV1

structure ApprovalErrors (ε : Type) where
  unsupportedSchema : String → ε
  zeroQuorum : ε
  tooMany : Nat → Nat → ε
  planMismatch : ε
  outsidePlanWindow : ε
  duplicateKey : ε
  untrustedKey : ε
  badPublicKey : ε
  badSignature : ε
  quorumNotMet : Nat → Nat → ε

variable (C : Crypto)

def checkApproval (errors : ApprovalErrors ε) (issuedAt expiresAt : UInt64)
    (trusted : List (FixedBytes 32)) (message : FixedBytes 32 → UInt64 → Bytes)
    (before : List ApprovalV1) (approval : ApprovalV1) : Except ε Unit := do
  failIf (approval.approvedAtUnixSecs < issuedAt ∨ expiresAt ≤ approval.approvedAtUnixSecs)
    errors.outsidePlanWindow
  failIf (approval.witnessPublicKey ∈ before.map ApprovalV1.witnessPublicKey) errors.duplicateKey
  failIf (approval.witnessPublicKey ∉ trusted) errors.untrustedKey
  let publicKey ← okOr (C.ed25519.fromBytes approval.witnessPublicKey) errors.badPublicKey
  failIf (C.ed25519.verify publicKey
    (message approval.witnessPublicKey approval.approvedAtUnixSecs) approval.signature = false)
    errors.badSignature

def verifyQuorumWith (errors : ApprovalErrors ε) (schema : String) (maximum : Nat)
    (fingerprint : Except ε (FixedBytes 32)) (issuedAt expiresAt : UInt64)
    (message : FixedBytes 32 → FixedBytes 32 → UInt64 → Bytes) (bundle : ApprovalBundleV1)
    (trustedWitnessKeys : List (FixedBytes 32)) (minimumQuorum : Nat) : Except ε Unit := do
  failIf (bundle.schema ≠ schema) (errors.unsupportedSchema bundle.schema)
  failIf (minimumQuorum = 0) errors.zeroQuorum
  failIf (maximum < bundle.approvals.length) (errors.tooMany bundle.approvals.length maximum)
  let expectedPlan ← fingerprint
  failIf (bundle.planFingerprint ≠ expectedPlan) errors.planMismatch
  checkEach (checkApproval C errors issuedAt expiresAt trustedWitnessKeys
    (message bundle.planFingerprint)) [] bundle.approvals
  failIf (bundle.approvals.length < minimumQuorum)
    (errors.quorumNotMet bundle.approvals.length minimumQuorum)

end Shared

variable (C : Crypto)

/-! ## Certificates that old files are no longer needed -/

def consentCompactionGcCertificateSchema : String := "xenia-consent-compaction-gc-certificate-v1"

structure ConsentCompactionGcCertificateV1 where
  schema : String
  (ledgerEpochId cutoverReceiptFingerprint archiveSequenceDigest : FixedBytes 32)
  (recoverySummaryDigest activeStateDigest statePinFingerprint : FixedBytes 32)
  (archiveThroughCheckpoint currentCheckpoint : LedgerCheckpoint)
  issuedAtUnixSecs : UInt64
  signature : FixedBytes 64

def consentCompactedStatePinFingerprint (pin : ConsentCompactedStatePinV1) :
    Except ConsentRecoveryError (FixedBytes 32) := do
  let message ← consentCompactedStatePinMessage C pin
  pure (C.blake3 (message ++ pin.signature.toList))

section

variable (certificate : ConsentCompactionGcCertificateV1)

def consentCompactionGcCertificateMessage : Except ConsentRecoveryError Bytes := do
  failIf (certificate.schema ≠ consentCompactionGcCertificateSchema)
    (.unsupportedGcCertificateSchema certificate.schema)
  let archive ← (checkpointFingerprint C certificate.archiveThroughCheckpoint).mapError .checkpoint
  let current ← (checkpointFingerprint C certificate.currentCheckpoint).mapError .checkpoint
  pure (utf8 "xenia:consent-compaction-gc-certificate:v1" ++ ([0] ++ (utf8 certificate.schema ++
    ([0] ++ (certificate.ledgerEpochId.toList ++ (certificate.cutoverReceiptFingerprint.toList ++
    (certificate.archiveSequenceDigest.toList ++ (certificate.recoverySummaryDigest.toList ++
    (certificate.activeStateDigest.toList ++ (certificate.statePinFingerprint.toList ++
    (archive.toList ++ (current.toList ++ u64Be certificate.issuedAtUnixSecs))))))))))))

def consentCompactionGcCertificateFingerprint : Except ConsentRecoveryError (FixedBytes 32) := do
  let message ← consentCompactionGcCertificateMessage C certificate
  pure (C.blake3 (utf8 "xenia:consent-compaction-gc-certificate-fingerprint:v1" ++ (message ++
    certificate.signature.toList)))

def ConsentCompactionGcCertificateV1.verify (state : ConsentCompactedActiveStateV1)
    (statePin : ConsentCompactedStatePinV1) (archiveSegments : List LedgerArchiveSegment)
    (publicKey : C.ed25519.VerifyingKey) : Except ConsentRecoveryError Unit := do
  failIf (certificate.schema ≠ consentCompactionGcCertificateSchema)
    (.unsupportedGcCertificateSchema certificate.schema)
  state.verify C publicKey
  state.activationSnapshot.verify C archiveSegments publicKey
  statePin.verifyAgainstState C state publicKey
  let last ← okOr archiveSegments.getLast? (.archive .emptySequence)
  let archiveDigest ← (ledgerArchiveSequenceDigest C archiveSegments).mapError .archive
  failIf (certificate.archiveSequenceDigest ≠ archiveDigest ∨
    certificate.archiveThroughCheckpoint ≠ last.terminalCheckpoint ∨
    certificate.archiveThroughCheckpoint ≠
      state.activationSnapshot.recoverySummary.throughCheckpoint) .gcCertificateArchiveMismatch
  -- one condition in the source; the fingerprints are computed only when they are compared
  failIf (certificate.ledgerEpochId ≠ state.cutoverReceipt.ledgerEpochId)
    .gcCertificateStateMismatch
  let receipt ← consentCompactedCutoverReceiptFingerprint C state.cutoverReceipt
  failIf (certificate.cutoverReceiptFingerprint ≠ receipt ∨
    certificate.recoverySummaryDigest ≠ state.activationSnapshot.recoverySummary.summaryDigest ∨
    certificate.activeStateDigest ≠ state.stateDigest) .gcCertificateStateMismatch
  let pin ← consentCompactedStatePinFingerprint C statePin
  failIf (certificate.statePinFingerprint ≠ pin ∨
    certificate.currentCheckpoint ≠ state.currentCheckpoint) .gcCertificateStateMismatch
  failIf (certificate.issuedAtUnixSecs < certificate.currentCheckpoint.timestampUnixSecs)
    .gcCertificateTimestampRegressed
  let message ← consentCompactionGcCertificateMessage C certificate
  failIf (C.ed25519.verify publicKey message certificate.signature = false)
    .invalidGcCertificateSignature

end

/-! ## Plans -/

def consentRetirementPlanSchema : String := "xenia-consent-retirement-plan-v1"

def maxRetirementCandidates : Nat := 32

def maxRetirementPlanLifetimeSecs : UInt64 := 24 * 60 * 60

def maxRetirementPathBytes : Nat := 4096

def consentRetirementApprovalBundleSchema : String :=
  "xenia-consent-retirement-approval-bundle-v1"

def maxRetirementApprovals : Nat := 64

def consentRetirementJournalSchema : String := "xenia-consent-retirement-journal-v1"

def consentRetirementReceiptSchema : String := "xenia-consent-retirement-quarantine-receipt-v1"

def maxRetirementArtifactBytes : Nat := 256 * 1024 * 1024

def maxRetirementTransactionBytes : Nat := 1024 * 1024

inductive ConsentRetirementArtifactRoleV1 where
  | supersededCompleteLedger
  | supersededCompactionBundle
  | supersededCompactedSnapshot
deriving DecidableEq

def ConsentRetirementArtifactRoleV1.tag : ConsentRetirementArtifactRoleV1 → UInt8
  | .supersededCompleteLedger => 1
  | .supersededCompactionBundle => 2
  | .supersededCompactedSnapshot => 3

structure ConsentRetirementArtifactV1 where
  role : ConsentRetirementArtifactRoleV1
  canonicalPath : String
  byteLength : UInt64
  blake3Digest : FixedBytes 32
deriving DecidableEq

def ConsentRetirementArtifactV1.matchesContent (a b : ConsentRetirementArtifactV1) : Bool :=
  a.role = b.role ∧ a.byteLength = b.byteLength ∧ a.blake3Digest = b.blake3Digest

inductive ConsentRetirementJournalStateV1 where
  | prepared
  | moving
  | committed
  | rolledBack
deriving DecidableEq

inductive ConsentRetirementJournalEntryStateV1 where
  | pending
  | moved
  | restored
deriving DecidableEq

inductive ConsentRetirementRecoveryOutcomeV1 where
  | finalizedCommitted
  | rolledBack
  | alreadyCommitted
  | alreadyRolledBack

structure ConsentRetirementJournalEntryV1 where
  artifact : ConsentRetirementArtifactV1
  quarantinePath : String
  state : ConsentRetirementJournalEntryStateV1
deriving DecidableEq

structure ConsentRetirementJournalV1 where
  schema : String
  (planFingerprint approvalBundleFingerprint : FixedBytes 32)
  transactionDirectory : String
  state : ConsentRetirementJournalStateV1
  (startedAtUnixSecs updatedAtUnixSecs : UInt64)
  entries : List ConsentRetirementJournalEntryV1
deriving DecidableEq

structure ConsentRetirementQuarantineReceiptV1 where
  schema : String
  (planFingerprint approvalBundleFingerprint : FixedBytes 32)
  transactionDirectory : String
  (startedAtUnixSecs completedAtUnixSecs : UInt64)
  entries : List ConsentRetirementJournalEntryV1
  signature : FixedBytes 64
deriving DecidableEq

structure ConsentRetirementPlanV1 where
  schema : String
  planId : FixedBytes 16
  (ledgerEpochId activeStateDigest statePinFingerprint gcCertificateFingerprint : FixedBytes 32)
  quarantineRoot : String
  candidates : List ConsentRetirementArtifactV1
  (issuedAtUnixSecs expiresAtUnixSecs : UInt64)
  signature : FixedBytes 64

inductive ConsentRetirementError where
  | unsupportedPlanSchema (schema : String)
  | invalidCandidateCount (maximum : Nat)
  | nonCanonicalPath (path : String)
  | pathTooLong (path : String) (maximum : Nat)
  | duplicateCandidatePath (path : String)
  | zeroCandidateDigest (path : String)
  | candidateOrderMismatch
  | invalidPlanWindow
  | planWindowTooLong (maximum : UInt64)
  | planPredatesCertificate
  | activeStateMismatch
  | statePinMismatch
  | gcCertificateMismatch
  | invalidPlanSignature
  | planFromFuture
  | planExpired
  | encodingLengthOverflow
  | artifactTooLarge (path : String) (maximum : Nat)
  | artifactNotRegular (path : String)
  | artifactChanged (path : String)
  | invalidQuarantineRoot (path : String)
  | insecureQuarantineRootPermissions (path : String) (mode : Nat)
  | transactionAlreadyExists (path : String)
  | quarantineTargetExists (path : String)
  | unsupportedJournalSchema (schema : String)
  | journalIdentityMismatch
  | invalidJournalState
  | receiptAlreadyExists
  | rollbackArtifactPresentInBoth (original quarantine : String)
  | rollbackArtifactMissing (original quarantine : String)
  | rollbackFailed (execution rollback : ConsentRetirementError)
  | unsupportedReceiptSchema (schema : String)
  | receiptIdentityMismatch
  | invalidReceiptSignature
  | quarantinedArtifactMismatch (path : String)
  | quarantinedOriginalReappeared (path : String)
  | missingCommittedReceipt
  | io
  | store
  | json
  | unsupportedApprovalBundleSchema (schema : String)
  | approvalPlanMismatch
  | approvalOutsidePlanWindow
  | badApprovalPublicKey
  | badApprovalSignature
  | duplicateApprovalKey
  | untrustedApprovalKey
  | tooManyApprovals (count maximum : Nat)
  | zeroApprovalQuorum
  | approvalQuorumNotMet (verified required : Nat)
  | recovery (error : ConsentRecoveryError)
deriving DecidableEq

def validateAbsoluteNormalPath (path : String) : Except ConsentRetirementError Unit :=
  validatePathWith (fun path => .pathTooLong path maxRetirementPathBytes) .nonCanonicalPath
    maxRetirementPathBytes path

def ConsentRetirementArtifactV1.stamp (candidate : ConsentRetirementArtifactV1) :
    Except ConsentRetirementError Bytes := do
  let path ← appendBytes .encodingLengthOverflow (utf8 candidate.canonicalPath)
  pure (candidate.role.tag :: (path ++ (u64Be candidate.byteLength ++
    candidate.blake3Digest.toList)))

def consentRetirementPlanMessage (plan : ConsentRetirementPlanV1) :
    Except ConsentRetirementError Bytes := do
  let schema ← appendBytes .encodingLengthOverflow (utf8 plan.schema)
  let root ← appendBytes .encodingLengthOverflow (utf8 plan.quarantineRoot)
  let count ← countBytes .encodingLengthOverflow plan.candidates.length
  let stamps ← plan.candidates.mapM ConsentRetirementArtifactV1.stamp
  pure (utf8 "xenia:consent-retirement-plan:v1" ++ (schema ++ (plan.planId.toList ++
    (plan.ledgerEpochId.toList ++ (plan.activeStateDigest.toList ++
    (plan.statePinFingerprint.toList ++ (plan.gcCertificateFingerprint.toList ++ (root ++
    (count ++ (stamps.flatten ++ (u64Be plan.issuedAtUnixSecs ++
    u64Be plan.expiresAtUnixSecs)))))))))))

def consentRetirementPlanFingerprint (plan : ConsentRetirementPlanV1) :
    Except ConsentRetirementError (FixedBytes 32) := do
  let message ← consentRetirementPlanMessage plan
  pure (C.blake3 (utf8 "xenia:consent-retirement-plan-fingerprint:v1" ++ (message ++
    plan.signature.toList)))

def checkRetirementCandidate (before : List ConsentRetirementArtifactV1)
    (candidate : ConsentRetirementArtifactV1) : Except ConsentRetirementError Unit := do
  validateAbsoluteNormalPath candidate.canonicalPath
  failIf (candidate.blake3Digest = zeroHash) (.zeroCandidateDigest candidate.canonicalPath)
  failIf (candidate.canonicalPath ∈ before.map ConsentRetirementArtifactV1.canonicalPath)
    (.duplicateCandidatePath candidate.canonicalPath)
  failIf (∃ previous ∈ before.head?, candidate.canonicalPath < previous.canonicalPath ∨
      (candidate.canonicalPath = previous.canonicalPath ∧ candidate.role.tag < previous.role.tag))
    .candidateOrderMismatch

namespace ConsentRetirementPlanV1

section

variable (plan : ConsentRetirementPlanV1) (publicKey : C.ed25519.VerifyingKey)

def validateShape : Except ConsentRetirementError Unit := do
  failIf (plan.candidates = [] ∨ maxRetirementCandidates < plan.candidates.length)
    (.invalidCandidateCount maxRetirementCandidates)
  failIf (plan.expiresAtUnixSecs ≤ plan.issuedAtUnixSecs) .invalidPlanWindow
  failIf (maxRetirementPlanLifetimeSecs < plan.expiresAtUnixSecs - plan.issuedAtUnixSecs)
    (.planWindowTooLong maxRetirementPlanLifetimeSecs)
  validateAbsoluteNormalPath plan.quarantineRoot
  checkEach checkRetirementCandidate [] plan.candidates

def verifyAuthoritySignature : Except ConsentRetirementError Unit := do
  failIf (plan.schema ≠ consentRetirementPlanSchema) (.unsupportedPlanSchema plan.schema)
  plan.validateShape
  let message ← consentRetirementPlanMessage plan
  failIf (C.ed25519.verify publicKey message plan.signature = false) .invalidPlanSignature

def verifyAuthoritySignatureAndWindow (nowUnixSecs : UInt64) :
    Except ConsentRetirementError Unit := do
  plan.verifyAuthoritySignature C publicKey
  failIf (nowUnixSecs < plan.issuedAtUnixSecs) .planFromFuture
  failIf (plan.expiresAtUnixSecs ≤ nowUnixSecs) .planExpired

def verify (activeState : ConsentCompactedActiveStateV1) (statePin : ConsentCompactedStatePinV1)
    (gcCertificate : ConsentCompactionGcCertificateV1) (archiveSegments : List LedgerArchiveSegment)
    (publicKey : C.ed25519.VerifyingKey) (nowUnixSecs : UInt64) :
    Except ConsentRetirementError Unit := do
  plan.verifyAuthoritySignatureAndWindow C publicKey nowUnixSecs
  (gcCertificate.verify C activeState statePin archiveSegments publicKey).mapError .recovery
  failIf (plan.ledgerEpochId ≠ activeState.cutoverReceipt.ledgerEpochId ∨
    plan.activeStateDigest ≠ activeState.stateDigest) .activeStateMismatch
  let pin ← (consentCompactedStatePinFingerprint C statePin).mapError .recovery
  failIf (plan.statePinFingerprint ≠ pin) .statePinMismatch
  let certificate ← (consentCompactionGcCertificateFingerprint C gcCertificate).mapError .recovery
  failIf (plan.gcCertificateFingerprint ≠ certificate) .gcCertificateMismatch
  failIf (plan.issuedAtUnixSecs < gcCertificate.issuedAtUnixSecs) .planPredatesCertificate

end

end ConsentRetirementPlanV1

/-! ## Approvals -/

def retirementApprovalErrors : ApprovalErrors ConsentRetirementError where
  unsupportedSchema := .unsupportedApprovalBundleSchema
  zeroQuorum := .zeroApprovalQuorum
  tooMany := .tooManyApprovals
  planMismatch := .approvalPlanMismatch
  outsidePlanWindow := .approvalOutsidePlanWindow
  duplicateKey := .duplicateApprovalKey
  untrustedKey := .untrustedApprovalKey
  badPublicKey := .badApprovalPublicKey
  badSignature := .badApprovalSignature
  quorumNotMet := .approvalQuorumNotMet

def consentRetirementApprovalMessage (planFingerprint witnessPublicKey : FixedBytes 32)
    (approvedAtUnixSecs : UInt64) : Bytes :=
  utf8 "xenia:consent-retirement-approval:v1" ++ (utf8 consentRetirementApprovalBundleSchema ++
    ([0] ++ (planFingerprint.toList ++ (witnessPublicKey.toList ++ u64Be approvedAtUnixSecs))))

abbrev ConsentRetirementApprovalBundleV1 := ApprovalBundleV1

def verifyRetirementQuorum (approvals : ConsentRetirementApprovalBundleV1)
    (plan : ConsentRetirementPlanV1) (trustedWitnessKeys : List (FixedBytes 32))
    (minimumQuorum : Nat) : Except ConsentRetirementError Unit :=
  verifyQuorumWith C retirementApprovalErrors consentRetirementApprovalBundleSchema
    maxRetirementApprovals (consentRetirementPlanFingerprint C plan) plan.issuedAtUnixSecs
    plan.expiresAtUnixSecs consentRetirementApprovalMessage approvals trustedWitnessKeys
    minimumQuorum

def approvalStamps (approvals : List ApprovalV1) : Bytes :=
  approvals.flatMap (fun approval => approval.witnessPublicKey.toList ++
    (u64Be approval.approvedAtUnixSecs ++ approval.signature.toList))

def consentRetirementApprovalBundleFingerprint (bundle : ConsentRetirementApprovalBundleV1) :
    Except ConsentRetirementError (FixedBytes 32) := do
  failIf (bundle.schema ≠ consentRetirementApprovalBundleSchema)
    (.unsupportedApprovalBundleSchema bundle.schema)
  let count ← countBytes .encodingLengthOverflow bundle.approvals.length
  pure (C.blake3 (utf8 "xenia:consent-retirement-approval-bundle-fingerprint:v1" ++
    (bundle.planFingerprint.toList ++ (count ++ approvalStamps bundle.approvals))))

/-! ## The files of a transaction -/

section Transaction

variable [HexLibrary]

def quarantineTransactionDirectory (plan : ConsentRetirementPlanV1) : String :=
  joinPath plan.quarantineRoot (hexEncode plan.planId.toList)

def padDigits (width n : Nat) : String :=
  String.ofList ((Nat.toDigits 10 n).leftpad width '0')

def fileName (path : String) : Option String :=
  (pathOf path).getLast?.filter (· ≠ "..")

def quarantineName (index : Nat) (artifact : ConsentRetirementArtifactV1) : String :=
  padDigits 2 index ++ "-" ++ hexEncode (artifact.blake3Digest.toList.take 8) ++ "-" ++
    (fileName artifact.canonicalPath).getD "artifact"

def journalEntryFor (plan : ConsentRetirementPlanV1) (index : Nat)
    (artifact : ConsentRetirementArtifactV1) : ConsentRetirementJournalEntryV1 :=
  ⟨artifact, joinPath (quarantineTransactionDirectory plan) (quarantineName index artifact),
    .pending⟩

def retirementJournalEntriesForPlan (plan : ConsentRetirementPlanV1) :
    List ConsentRetirementJournalEntryV1 :=
  plan.candidates.mapIdx (journalEntryFor plan)

def samePath (path path' : String) : Bool :=
  pathOf path = pathOf path' ∧ isAbsolute path = isAbsolute path'

def sameEntry (observed expected : ConsentRetirementJournalEntryV1) : Bool :=
  observed.artifact = expected.artifact ∧ observed.quarantinePath = expected.quarantinePath

def verifyRetirementJournalIdentity (journal : ConsentRetirementJournalV1)
    (plan : ConsentRetirementPlanV1) (approvals : ConsentRetirementApprovalBundleV1)
    (journalPath : String) : Except ConsentRetirementError Unit := do
  failIf (journal.schema ≠ consentRetirementJournalSchema)
    (.unsupportedJournalSchema journal.schema)
  let transactionDirectory := quarantineTransactionDirectory plan
  failIf (samePath journalPath (joinPath transactionDirectory "journal.json") = false)
    .journalIdentityMismatch
  let planFingerprint ← consentRetirementPlanFingerprint C plan
  failIf (journal.planFingerprint ≠ planFingerprint) .journalIdentityMismatch
  let bundleFingerprint ← consentRetirementApprovalBundleFingerprint C approvals
  failIf (journal.approvalBundleFingerprint ≠ bundleFingerprint ∨
    journal.transactionDirectory ≠ transactionDirectory ∨
    journal.entries.length ≠ plan.candidates.length) .journalIdentityMismatch
  (journal.entries.zip (retirementJournalEntriesForPlan plan)).forM (fun pair =>
    failIf (sameEntry pair.1 pair.2 = false) .journalIdentityMismatch)

/-! ## Receipts -/

def ConsentRetirementJournalEntryStateV1.tag : ConsentRetirementJournalEntryStateV1 → UInt8
  | .pending => 1
  | .moved => 2
  | .restored => 3

def ConsentRetirementJournalEntryV1.stamp (entry : ConsentRetirementJournalEntryV1) :
    Except ConsentRetirementError Bytes := do
  let path ← appendBytes .encodingLengthOverflow (utf8 entry.artifact.canonicalPath)
  let quarantine ← appendBytes .encodingLengthOverflow (utf8 entry.quarantinePath)
  pure (entry.artifact.role.tag :: (path ++ (quarantine ++ (u64Be entry.artifact.byteLength ++
    (entry.artifact.blake3Digest.toList ++ [entry.state.tag])))))

section

variable (receipt : ConsentRetirementQuarantineReceiptV1)

def consentRetirementReceiptMessage : Except ConsentRetirementError Bytes := do
  failIf (receipt.schema ≠ consentRetirementReceiptSchema)
    (.unsupportedReceiptSchema receipt.schema)
  let schema ← appendBytes .encodingLengthOverflow (utf8 receipt.schema)
  let directory ← appendBytes .encodingLengthOverflow (utf8 receipt.transactionDirectory)
  let count ← countBytes .encodingLengthOverflow receipt.entries.length
  let stamps ← receipt.entries.mapM ConsentRetirementJournalEntryV1.stamp
  pure (utf8 "xenia:consent-retirement-quarantine-receipt:v1" ++ (schema ++
    (receipt.planFingerprint.toList ++ (receipt.approvalBundleFingerprint.toList ++ (directory ++
    (u64Be receipt.startedAtUnixSecs ++ (u64Be receipt.completedAtUnixSecs ++ (count ++
    stamps.flatten))))))))

def consentRetirementReceiptFingerprint : Except ConsentRetirementError (FixedBytes 32) := do
  let message ← consentRetirementReceiptMessage receipt
  pure (C.blake3 (utf8 "xenia:consent-retirement-quarantine-receipt-fingerprint:v1" ++ (message ++
    receipt.signature.toList)))

def ConsentRetirementQuarantineReceiptV1.verify (plan : ConsentRetirementPlanV1)
    (approvals : ConsentRetirementApprovalBundleV1) (publicKey : C.ed25519.VerifyingKey) :
    Except ConsentRetirementError Unit := do
  failIf (receipt.schema ≠ consentRetirementReceiptSchema)
    (.unsupportedReceiptSchema receipt.schema)
  let planFingerprint ← consentRetirementPlanFingerprint C plan
  failIf (receipt.planFingerprint ≠ planFingerprint) .receiptIdentityMismatch
  let bundleFingerprint ← consentRetirementApprovalBundleFingerprint C approvals
  failIf (receipt.approvalBundleFingerprint ≠ bundleFingerprint ∨
    receipt.transactionDirectory ≠ quarantineTransactionDirectory plan ∨
    receipt.entries.length ≠ plan.candidates.length ∨
    receipt.completedAtUnixSecs < receipt.startedAtUnixSecs) .receiptIdentityMismatch
  (receipt.entries.zip (retirementJournalEntriesForPlan plan)).forM (fun pair =>
    failIf (sameEntry pair.1 pair.2 = false ∨ pair.1.state ≠ .moved) .receiptIdentityMismatch)
  let message ← consentRetirementReceiptMessage receipt
  failIf (C.ed25519.verify publicKey message receipt.signature = false) .invalidReceiptSignature

end

end Transaction

/-! ## What the shape of a plan says -/

lemma validatePathWith_ok {ε : Type} {tooLong nonCanonical : String → ε} {maximum : Nat}
    {path : String} {u : Unit} : validatePathWith tooLong nonCanonical maximum path = .ok u ↔
      path.utf8ByteSize ≤ maximum ∧ isAbsolute path = true ∧ ".." ∉ pathOf path := by
  simp [validatePathWith, guard_bind_ok]

section Shape

variable {plan : ConsentRetirementPlanV1} (h : plan.validateShape = .ok ())

include h

lemma candidates_of_shape : plan.candidates.length ≤ maxRetirementCandidates ∧
      (plan.candidates.map ConsentRetirementArtifactV1.canonicalPath).Nodup ∧
      ∀ a ∈ plan.candidates, isAbsolute a.canonicalPath = true := by
  simp only [ConsentRetirementPlanV1.validateShape, guard_bind_ok, failIf_ok, not_or, not_lt] at h
  obtain ⟨⟨-, hcount⟩, -, -, -, heach⟩ := h
  refine ⟨hcount, (nodup_of_checkEach ?_ heach List.nodup_nil).1, forall_of_checkEach ?_ heach⟩
  all_goals
    intro before a ha
    simp only [checkRetirementCandidate, validateAbsoluteNormalPath, validatePathWith_ok,
      guard_bind_ok, failIf_ok] at ha
  · exact ha.2.2.1
  · exact ha.1.2.1

/-- **Two spellings of one path.** In a plan of an accepted shape the candidates have different
components exactly when no candidate's text becomes that of another one by putting in and taking
out doubled separators and dots between separators. -/
theorem candidates_apart_iff :
    plan.candidates.Pairwise (fun a b => samePath a.canonicalPath b.canonicalPath = false) ↔
      plan.candidates.Pairwise (fun a b => ¬ Respelled a.canonicalPath b.canonicalPath) := by
  obtain ⟨-, hnodup, habsolute⟩ := candidates_of_shape h
  have hsame : ∀ {a b}, a ∈ plan.candidates → b ∈ plan.candidates →
      (samePath a.canonicalPath b.canonicalPath = true ↔
        Relation.EqvGen Padded a.canonicalPath.toList b.canonicalPath.toList) := by
    intro a b ha hb
    rw [padded_iff (of_decide_eq_true (habsolute a ha)) (of_decide_eq_true (habsolute b hb)),
      samePath, decide_eq_true_iff, habsolute a ha, habsolute b hb, and_iff_left rfl, pathOf_eq,
      pathOf_eq, (List.map_injective_iff.mpr fun _ _ => String.ofList_injective).eq_iff]
  constructor
  · intro hapart
    refine hapart.imp_of_mem fun ha hb hdiff hspelled => ?_
    rw [(hsame ha hb).mpr hspelled.2] at hdiff
    cases hdiff
  · intro hspelled
    refine ((List.pairwise_map.mp hnodup).and hspelled).imp_of_mem fun ha hb hdiff => ?_
    rw [Bool.eq_false_iff]
    exact fun heq => hdiff.2 ⟨hdiff.1, (hsame ha hb).mp heq⟩

end Shape

def spelledPlan (paths : List String) : ConsentRetirementPlanV1 :=
  ⟨consentRetirementPlanSchema, .replicate 16 0, zeroHash, zeroHash, zeroHash, zeroHash, "/retired",
    paths.map (⟨.supersededCompleteLedger, ·, 0, .replicate 32 1⟩), 0, 1, .replicate 64 0⟩

theorem candidates_apart_iff_sample :
    (spelledPlan ["/a/b", "/a/c"]).validateShape = .ok () ∧
      (spelledPlan ["/a/b", "/a/c"]).candidates.Pairwise
        (fun a b => ¬ Respelled a.canonicalPath b.canonicalPath) := by
  have hshape : (spelledPlan ["/a/b", "/a/c"]).validateShape = .ok () := by decide +kernel
  exact ⟨hshape, (candidates_apart_iff hshape).mp (by decide +kernel)⟩

theorem spellings_accepted :
    (spelledPlan ["/a/./b", "/a//b", "/a/b"]).validateShape = .ok () ∧
      ¬ (spelledPlan ["/a/./b", "/a//b", "/a/b"]).candidates.Pairwise
        (fun a b => samePath a.canonicalPath b.canonicalPath = false) := by
  decide +kernel

/-! ## Where the files of a transaction are -/

namespace ConsentRetirementJournalEntryV1

section

variable (entry : ConsentRetirementJournalEntryV1)

def original : Path := pathOf entry.artifact.canonicalPath

def quarantined : Path := pathOf entry.quarantinePath

def planned : ConsentRetirementJournalEntryV1 :=
  { entry with state := .pending }

end

end ConsentRetirementJournalEntryV1

lemma slash_not_mem_padDigits (width n : Nat) : '/' ∉ (padDigits width n).toList := by
  have hzero : ('/' : Char) ≠ '0' := by decide
  simp [padDigits, List.leftpad, List.mem_replicate, hzero]

lemma padDigits_two : ∀ i < 32, (padDigits 2 i).toList.length = 2 ∧
      (padDigits 2 i).toList.head? ≠ some 'j' ∧ (padDigits 2 i).toList.head? ≠ some 'r' ∧
      ∀ j < 32, (padDigits 2 i).toList = (padDigits 2 j).toList → i = j := by
  decide +kernel

section Names

variable [HexLibrary] {plan : ConsentRetirementPlanV1} {i j : Nat} {a b : ConsentRetirementArtifactV1}

lemma toList_quarantineName :
    ∃ rest, (quarantineName i a).toList = (padDigits 2 i).toList ++ '-' :: rest :=
  ⟨_, by simp [quarantineName, String.toList_append]; rfl⟩

lemma simpleName_quarantineName : SimpleName (quarantineName i a) := by
  refine simpleName_of_length ?_ ?_
  · have hfile : '/' ∉ ((fileName a.canonicalPath).getD "artifact").toList := by
      cases hname : fileName a.canonicalPath with
      | none => decide
      | some name =>
        obtain ⟨hlast, -⟩ := Option.filter_eq_some_iff.mp hname
        exact (simpleName_of_mem_pathOf (List.mem_of_getLast? hlast)).1
    simp [quarantineName, String.toList_append, slash_not_mem_padDigits, hfile]
  · obtain ⟨rest, hrest⟩ := toList_quarantineName (i := i) (a := a)
    have hdigits : 2 ≤ (padDigits 2 i).toList.length := by
      simp only [padDigits, String.toList_ofList, List.length_leftpad]
      omega
    rw [hrest, List.length_append]
    omega

lemma quarantineName_injective (hi : i < 32) (hj : j < 32)
    (h : quarantineName i a = quarantineName j b) : i = j := by
  obtain ⟨hlen, -, -, hinj⟩ := padDigits_two i hi
  obtain ⟨hlen', -⟩ := padDigits_two j hj
  obtain ⟨rest, hrest⟩ := toList_quarantineName (i := i) (a := a)
  obtain ⟨rest', hrest'⟩ := toList_quarantineName (i := j) (a := b)
  rw [h, hrest'] at hrest
  exact hinj j hj (List.append_inj_left hrest (by rw [hlen, hlen'])).symm

lemma quarantineName_ne (hi : i < 32) :
    quarantineName i a ≠ "journal.json" ∧ quarantineName i a ≠ "receipt.json" := by
  obtain ⟨hlen, hj, hr, -⟩ := padDigits_two i hi
  obtain ⟨rest, hrest⟩ := toList_quarantineName (i := i) (a := a)
  have hhead : (quarantineName i a).toList.head? = (padDigits 2 i).toList.head? := by
    rw [hrest, List.head?_append_of_ne_nil]
    intro hnil
    simp [hnil] at hlen
  constructor
  · intro h
    rw [h] at hhead
    exact hj (hhead ▸ rfl)
  · intro h
    rw [h] at hhead
    exact hr (hhead ▸ rfl)

lemma quarantined_journalEntryFor : (journalEntryFor plan i a).quarantined =
      pathOf (quarantineTransactionDirectory plan) ++ [quarantineName i a] :=
  pathOf_joinPath simpleName_quarantineName

lemma mem_retirementJournalEntriesForPlan {entry : ConsentRetirementJournalEntryV1} :
    entry ∈ retirementJournalEntriesForPlan plan ↔
      ∃ i a, plan.candidates[i]? = some a ∧ journalEntryFor plan i a = entry := by
  simp [retirementJournalEntriesForPlan, List.mem_iff_getElem?]

end Names

end XeniaPeer.Consent
