import Mathlib.Data.List.Sort
import XeniaPeer.Consent.Quarantine

/-!
# Purging quarantined files

The ceremony of `consent_purge.rs`, which removes what a retirement put into quarantine. A plan is
bound to one quarantine receipt that has aged long enough, is signed by the ledger authority and
approved by independent keys.
-/

namespace XeniaPeer.Consent

open Foundation Foundation.FileSystem Ledger

/-! ## Records -/

def consentPurgePlanSchema : String := "xenia-consent-purge-plan-v1"

def maxPurgeCandidates : Nat := 32

def minPurgeQuarantineAgeSecs : UInt64 := 24 * 60 * 60

def maxPurgeQuarantineAgeSecs : UInt64 := 365 * 24 * 60 * 60

def maxPurgePlanLifetimeSecs : UInt64 := 60 * 60

def maxPurgePathBytes : Nat := 4096

def maxPurgeTransactionBytes : Nat := 1024 * 1024

def consentPurgeApprovalBundleSchema : String := "xenia-consent-purge-approval-bundle-v1"

def maxPurgeApprovals : Nat := 64

def consentPurgeRollbackPackageSchema : String := "xenia-consent-purge-rollback-package-v1"

def consentPurgeJournalSchema : String := "xenia-consent-purge-journal-v1"

def consentPurgeReceiptSchema : String := "xenia-consent-purge-receipt-v1"

def maxPurgeArtifactBytes : Nat := 256 * 1024 * 1024

structure ConsentPurgeArtifactV1 where
  role : ConsentRetirementArtifactRoleV1
  (quarantinePath rollbackPath : String)
  byteLength : UInt64
  blake3Digest : FixedBytes 32
deriving DecidableEq

abbrev ConsentPurgeApprovalBundleV1 := ApprovalBundleV1

structure ConsentPurgeRollbackPackageV1 where
  schema : String
  (planFingerprint approvalBundleFingerprint : FixedBytes 32)
  packageDirectory : String
  createdAtUnixSecs : UInt64
  entries : List ConsentPurgeArtifactV1
  signature : FixedBytes 64
deriving DecidableEq

inductive ConsentPurgeJournalStateV1 where
  | prepared
  | deleting
  | committed
  | rolledBack
deriving DecidableEq

inductive ConsentPurgeJournalEntryStateV1 where
  | pending
  | deleted
  | restored
deriving DecidableEq

structure ConsentPurgeJournalEntryV1 where
  artifact : ConsentPurgeArtifactV1
  state : ConsentPurgeJournalEntryStateV1
deriving DecidableEq

structure ConsentPurgeJournalV1 where
  schema : String
  (planFingerprint approvalBundleFingerprint rollbackPackageFingerprint : FixedBytes 32)
  transactionDirectory : String
  state : ConsentPurgeJournalStateV1
  (startedAtUnixSecs updatedAtUnixSecs : UInt64)
  entries : List ConsentPurgeJournalEntryV1
deriving DecidableEq

structure ConsentPurgeReceiptV1 where
  schema : String
  (planFingerprint approvalBundleFingerprint rollbackPackageFingerprint : FixedBytes 32)
  transactionDirectory : String
  (startedAtUnixSecs completedAtUnixSecs : UInt64)
  entries : List ConsentPurgeJournalEntryV1
  signature : FixedBytes 64
deriving DecidableEq

inductive ConsentPurgeRecoveryOutcomeV1 where
  | finalizedCommitted
  | rolledBack
  | alreadyCommitted
  | alreadyRolledBack

structure ConsentPurgePlanV1 where
  schema : String
  purgeId : FixedBytes 16
  (ledgerEpochId retirementPlanFingerprint retirementApprovalBundleFingerprint : FixedBytes 32)
  quarantineReceiptFingerprint : FixedBytes 32
  (quarantineTransactionDirectory rollbackRoot : String)
  candidates : List ConsentPurgeArtifactV1
  (quarantineCompletedAtUnixSecs minimumQuarantineAgeSecs issuedAtUnixSecs expiresAtUnixSecs : UInt64)
  signature : FixedBytes 64

inductive ConsentPurgeError where
  | unsupportedPlanSchema (schema : String)
  | invalidCandidateCount (maximum : Nat)
  | nonCanonicalPath (path : String)
  | pathTooLong (path : String) (maximum : Nat)
  | duplicateCandidatePath (path : String)
  | zeroCandidateDigest (path : String)
  | candidateOrderMismatch
  | rollbackRootOverlapsQuarantine
  | invalidMinimumAge (minimum maximum : UInt64)
  | quarantineAgeNotMet
  | invalidPlanWindow
  | planWindowTooLong (maximum : UInt64)
  | invalidPlanSignature
  | planFromFuture
  | planExpired
  | retirementPlanMismatch
  | retirementApprovalsMismatch
  | quarantineReceiptMismatch
  | encodingLengthOverflow
  | unsupportedApprovalBundleSchema (schema : String)
  | approvalPlanMismatch
  | approvalOutsidePlanWindow
  | duplicateApprovalKey
  | untrustedApprovalKey
  | badApprovalPublicKey
  | invalidApprovalSignature
  | zeroApprovalQuorum
  | approvalQuorumNotMet (observed required : Nat)
  | tooManyApprovals (count maximum : Nat)
  | unsupportedRollbackPackageSchema (schema : String)
  | unsupportedJournalSchema (schema : String)
  | unsupportedReceiptSchema (schema : String)
  | invalidRollbackPackageSignature
  | invalidReceiptSignature
  | rollbackPackageIdentityMismatch
  | journalIdentityMismatch
  | receiptIdentityMismatch
  | transactionAlreadyExists (path : String)
  | artifactNotRegular (path : String)
  | artifactTooLarge (path : String) (maximum : Nat)
  | artifactChanged (path : String)
  | rollbackCopyMismatch (path : String)
  | missingCommittedReceipt
  | invalidJournalState
  | ambiguousFilesystemState (quarantine rollback : String)
  | io
  | json
  | retirement (error : ConsentRetirementError)

def validatePurgePath (path : String) : Except ConsentPurgeError Unit :=
  validatePathWith (fun path => .pathTooLong path maxPurgePathBytes) .nonCanonicalPath
    maxPurgePathBytes path

/-! ## Messages and fingerprints -/

def ConsentPurgeArtifactV1.stamp (artifact : ConsentPurgeArtifactV1) :
    Except ConsentPurgeError Bytes := do
  let quarantine ← appendBytes .encodingLengthOverflow (utf8 artifact.quarantinePath)
  let rollback ← appendBytes .encodingLengthOverflow (utf8 artifact.rollbackPath)
  pure (artifact.role.tag :: (quarantine ++ (rollback ++ (u64Be artifact.byteLength ++
    artifact.blake3Digest.toList))))

def appendPurgeArtifacts (artifacts : List ConsentPurgeArtifactV1) :
    Except ConsentPurgeError Bytes := do
  let count ← countBytes .encodingLengthOverflow artifacts.length
  let stamps ← artifacts.mapM ConsentPurgeArtifactV1.stamp
  pure (count ++ stamps.flatten)

def consentPurgePlanMessage (plan : ConsentPurgePlanV1) : Except ConsentPurgeError Bytes := do
  failIf (plan.schema ≠ consentPurgePlanSchema) (.unsupportedPlanSchema plan.schema)
  let schema ← appendBytes .encodingLengthOverflow (utf8 plan.schema)
  let quarantine ← appendBytes .encodingLengthOverflow (utf8 plan.quarantineTransactionDirectory)
  let root ← appendBytes .encodingLengthOverflow (utf8 plan.rollbackRoot)
  let candidates ← appendPurgeArtifacts plan.candidates
  pure (utf8 "xenia:consent-purge-plan:v1" ++ (schema ++ (plan.purgeId.toList ++
    (plan.ledgerEpochId.toList ++ (plan.retirementPlanFingerprint.toList ++
    (plan.retirementApprovalBundleFingerprint.toList ++
    (plan.quarantineReceiptFingerprint.toList ++ (quarantine ++ (root ++ (candidates ++
    (u64Be plan.quarantineCompletedAtUnixSecs ++ (u64Be plan.minimumQuarantineAgeSecs ++
    (u64Be plan.issuedAtUnixSecs ++ u64Be plan.expiresAtUnixSecs)))))))))))))

def consentPurgeRollbackPackageMessage (package : ConsentPurgeRollbackPackageV1) :
    Except ConsentPurgeError Bytes := do
  failIf (package.schema ≠ consentPurgeRollbackPackageSchema)
    (.unsupportedRollbackPackageSchema package.schema)
  let schema ← appendBytes .encodingLengthOverflow (utf8 package.schema)
  let directory ← appendBytes .encodingLengthOverflow (utf8 package.packageDirectory)
  let entries ← appendPurgeArtifacts package.entries
  pure (utf8 "xenia:consent-purge-rollback-package:v1" ++ (schema ++
    (package.planFingerprint.toList ++ (package.approvalBundleFingerprint.toList ++ (directory ++
    (u64Be package.createdAtUnixSecs ++ entries))))))

def ConsentPurgeJournalEntryStateV1.tag : ConsentPurgeJournalEntryStateV1 → UInt8
  | .pending => 1
  | .deleted => 2
  | .restored => 3

def ConsentPurgeJournalEntryV1.stamp (entry : ConsentPurgeJournalEntryV1) :
    Except ConsentPurgeError Bytes := do
  let artifact ← entry.artifact.stamp
  pure (artifact ++ [entry.state.tag])

def consentPurgeReceiptMessage (receipt : ConsentPurgeReceiptV1) :
    Except ConsentPurgeError Bytes := do
  failIf (receipt.schema ≠ consentPurgeReceiptSchema) (.unsupportedReceiptSchema receipt.schema)
  let schema ← appendBytes .encodingLengthOverflow (utf8 receipt.schema)
  let directory ← appendBytes .encodingLengthOverflow (utf8 receipt.transactionDirectory)
  let count ← countBytes .encodingLengthOverflow receipt.entries.length
  let stamps ← receipt.entries.mapM ConsentPurgeJournalEntryV1.stamp
  pure (utf8 "xenia:consent-purge-receipt:v1" ++ (schema ++ (receipt.planFingerprint.toList ++
    (receipt.approvalBundleFingerprint.toList ++ (receipt.rollbackPackageFingerprint.toList ++
    (directory ++ (u64Be receipt.startedAtUnixSecs ++ (u64Be receipt.completedAtUnixSecs ++
    (count ++ stamps.flatten)))))))))

variable [HexLibrary] (C : Crypto)

def consentPurgePlanFingerprint (plan : ConsentPurgePlanV1) :
    Except ConsentPurgeError (FixedBytes 32) := do
  let message ← consentPurgePlanMessage plan
  pure (C.blake3 (utf8 "xenia:consent-purge-plan-fingerprint:v1" ++ (message ++
    plan.signature.toList)))

def consentPurgeRollbackPackageFingerprint (package : ConsentPurgeRollbackPackageV1) :
    Except ConsentPurgeError (FixedBytes 32) := do
  let message ← consentPurgeRollbackPackageMessage package
  pure (C.blake3 (utf8 "xenia:consent-purge-rollback-package-fingerprint:v1" ++ (message ++
    package.signature.toList)))

def consentPurgeApprovalBundleFingerprint (bundle : ConsentPurgeApprovalBundleV1) :
    Except ConsentPurgeError (FixedBytes 32) := do
  failIf (bundle.schema ≠ consentPurgeApprovalBundleSchema)
    (.unsupportedApprovalBundleSchema bundle.schema)
  pure (C.blake3 (utf8 "xenia:consent-purge-approval-bundle-fingerprint:v1" ++
    (utf8 bundle.schema ++ (bundle.planFingerprint.toList ++
    (beBytes 8 bundle.approvals.length ++ approvalStamps bundle.approvals)))))

/-! ## Plans -/

def purgeTransactionDirectory (plan : ConsentPurgePlanV1) : String :=
  joinPath plan.rollbackRoot (hexEncode plan.purgeId.toList)

def purgeJournalPath (plan : ConsentPurgePlanV1) : String :=
  joinPath (purgeTransactionDirectory plan) "journal.json"

def rollbackPackagePath (plan : ConsentPurgePlanV1) : String :=
  joinPath (purgeTransactionDirectory plan) "rollback-package.json"

def purgeReceiptPath (plan : ConsentPurgePlanV1) : String :=
  joinPath (purgeTransactionDirectory plan) "purge-receipt.json"

def rollbackName (index : Nat) : String := padDigits 4 index ++ "-artifact.bin"

def ConsentPurgeArtifactV1.Before (left right : ConsentPurgeArtifactV1) : Prop :=
  left.quarantinePath < right.quarantinePath ∨
    (left.quarantinePath = right.quarantinePath ∧ left.role.tag ≤ right.role.tag)

instance : DecidableRel ConsentPurgeArtifactV1.Before :=
  fun _ _ => inferInstanceAs (Decidable (_ ∨ _))

def expectedPurgeCandidates (directory : String)
    (receipt : ConsentRetirementQuarantineReceiptV1) : List ConsentPurgeArtifactV1 :=
  let candidates := receipt.entries.mapIdx (fun index entry =>
    (⟨entry.artifact.role, entry.quarantinePath, joinPath directory (rollbackName index),
      entry.artifact.byteLength, entry.artifact.blake3Digest⟩ : ConsentPurgeArtifactV1))
  (candidates.insertionSort ConsentPurgeArtifactV1.Before).mapIdx (fun index candidate =>
    { candidate with rollbackPath := joinPath directory (rollbackName index) })

def checkPurgeCandidate (directory : String) (before : List ConsentPurgeArtifactV1)
    (candidate : ConsentPurgeArtifactV1) : Except ConsentPurgeError Unit := do
  validatePurgePath candidate.quarantinePath
  validatePurgePath candidate.rollbackPath
  failIf (candidate.blake3Digest = zeroHash) (.zeroCandidateDigest candidate.quarantinePath)
  failIf (candidate.quarantinePath ∈ before.map ConsentPurgeArtifactV1.quarantinePath)
    (.duplicateCandidatePath candidate.quarantinePath)
  failIf (samePath candidate.rollbackPath (joinPath directory (rollbackName before.length)) = false)
    .candidateOrderMismatch
  failIf (∃ previous ∈ before.head?, candidate.quarantinePath < previous.quarantinePath ∨
      (candidate.quarantinePath = previous.quarantinePath ∧ candidate.role.tag < previous.role.tag))
    .candidateOrderMismatch

def startsWith (path base : String) : Bool := (pathOf base).isPrefixOf (pathOf path)

namespace ConsentPurgePlanV1

variable (plan : ConsentPurgePlanV1) (retirementPlan : ConsentRetirementPlanV1)
  (retirementApprovals : ConsentRetirementApprovalBundleV1)
  (quarantineReceipt : ConsentRetirementQuarantineReceiptV1) (publicKey : C.ed25519.VerifyingKey)
  (nowUnixSecs : UInt64)

def validateShape : Except ConsentPurgeError Unit := do
  failIf (plan.candidates = [] ∨ maxPurgeCandidates < plan.candidates.length)
    (.invalidCandidateCount maxPurgeCandidates)
  validatePurgePath plan.quarantineTransactionDirectory
  validatePurgePath plan.rollbackRoot
  failIf (startsWith plan.quarantineTransactionDirectory plan.rollbackRoot = true ∨
    startsWith plan.rollbackRoot plan.quarantineTransactionDirectory = true)
    .rollbackRootOverlapsQuarantine
  failIf (plan.minimumQuarantineAgeSecs < minPurgeQuarantineAgeSecs ∨
    maxPurgeQuarantineAgeSecs < plan.minimumQuarantineAgeSecs)
    (.invalidMinimumAge minPurgeQuarantineAgeSecs maxPurgeQuarantineAgeSecs)
  -- `checked_add`
  failIf (2 ^ 64 ≤ plan.quarantineCompletedAtUnixSecs.toNat + plan.minimumQuarantineAgeSecs.toNat)
    .quarantineAgeNotMet
  failIf (plan.issuedAtUnixSecs < plan.quarantineCompletedAtUnixSecs +
    plan.minimumQuarantineAgeSecs) .quarantineAgeNotMet
  failIf (plan.expiresAtUnixSecs ≤ plan.issuedAtUnixSecs) .invalidPlanWindow
  failIf (maxPurgePlanLifetimeSecs < plan.expiresAtUnixSecs - plan.issuedAtUnixSecs)
    (.planWindowTooLong maxPurgePlanLifetimeSecs)
  checkEach (checkPurgeCandidate (purgeTransactionDirectory plan)) [] plan.candidates

def verifyAuthoritySignature : Except ConsentPurgeError Unit := do
  failIf (plan.schema ≠ consentPurgePlanSchema) (.unsupportedPlanSchema plan.schema)
  plan.validateShape
  let message ← consentPurgePlanMessage plan
  failIf (C.ed25519.verify publicKey message plan.signature = false) .invalidPlanSignature

def verifyAuthoritySignatureAndWindow : Except ConsentPurgeError Unit := do
  plan.verifyAuthoritySignature C publicKey
  failIf (nowUnixSecs < plan.issuedAtUnixSecs) .planFromFuture
  failIf (plan.expiresAtUnixSecs ≤ nowUnixSecs) .planExpired

def verifyInputs : Except ConsentPurgeError Unit := do
  plan.verifyAuthoritySignatureAndWindow C publicKey nowUnixSecs
  (retirementPlan.verifyAuthoritySignature C publicKey).mapError .retirement
  (quarantineReceipt.verify C retirementPlan retirementApprovals publicKey).mapError .retirement

def verifyBinding : Except ConsentPurgeError Unit := do
  failIf (plan.ledgerEpochId ≠ retirementPlan.ledgerEpochId) .retirementPlanMismatch
  let retirement ← (consentRetirementPlanFingerprint C retirementPlan).mapError .retirement
  failIf (plan.retirementPlanFingerprint ≠ retirement) .retirementPlanMismatch
  let bundle ← (consentRetirementApprovalBundleFingerprint C retirementApprovals).mapError
    .retirement
  failIf (plan.retirementApprovalBundleFingerprint ≠ bundle) .retirementApprovalsMismatch
  let receipt ← (consentRetirementReceiptFingerprint C quarantineReceipt).mapError .retirement
  failIf (plan.quarantineReceiptFingerprint ≠ receipt ∨
    plan.quarantineTransactionDirectory ≠ quarantineReceipt.transactionDirectory ∨
    plan.quarantineCompletedAtUnixSecs ≠ quarantineReceipt.completedAtUnixSecs)
    .quarantineReceiptMismatch
  failIf (plan.candidates ≠
    expectedPurgeCandidates (purgeTransactionDirectory plan) quarantineReceipt)
    .quarantineReceiptMismatch

def verify : Prog ConsentPurgeError Unit := do
  .ofExcept (plan.verifyInputs C retirementPlan retirementApprovals quarantineReceipt publicKey
    nowUnixSecs)
  (verifyQuarantinedReceiptFiles C quarantineReceipt).mapError .retirement
  .ofExcept (plan.verifyBinding C retirementPlan retirementApprovals quarantineReceipt)

end ConsentPurgePlanV1

def verifyPurgePrerequisiteIdentity (plan : ConsentPurgePlanV1)
    (retirementPlan : ConsentRetirementPlanV1)
    (retirementApprovals : ConsentRetirementApprovalBundleV1)
    (quarantineReceipt : ConsentRetirementQuarantineReceiptV1)
    (publicKey : C.ed25519.VerifyingKey) : Except ConsentPurgeError Unit := do
  (retirementPlan.verifyAuthoritySignature C publicKey).mapError .retirement
  (quarantineReceipt.verify C retirementPlan retirementApprovals publicKey).mapError .retirement
  let retirement ← (consentRetirementPlanFingerprint C retirementPlan).mapError .retirement
  failIf (plan.retirementPlanFingerprint ≠ retirement) .quarantineReceiptMismatch
  let bundle ← (consentRetirementApprovalBundleFingerprint C retirementApprovals).mapError
    .retirement
  failIf (plan.retirementApprovalBundleFingerprint ≠ bundle) .quarantineReceiptMismatch
  let receipt ← (consentRetirementReceiptFingerprint C quarantineReceipt).mapError .retirement
  failIf (plan.quarantineReceiptFingerprint ≠ receipt) .quarantineReceiptMismatch

/-! ## Approvals -/

def purgeApprovalErrors : ApprovalErrors ConsentPurgeError where
  unsupportedSchema := .unsupportedApprovalBundleSchema
  zeroQuorum := .zeroApprovalQuorum
  tooMany := .tooManyApprovals
  planMismatch := .approvalPlanMismatch
  outsidePlanWindow := .approvalOutsidePlanWindow
  duplicateKey := .duplicateApprovalKey
  untrustedKey := .untrustedApprovalKey
  badPublicKey := .badApprovalPublicKey
  badSignature := .invalidApprovalSignature
  quorumNotMet := .approvalQuorumNotMet

def consentPurgeApprovalMessage (planFingerprint witnessPublicKey : FixedBytes 32)
    (approvedAtUnixSecs : UInt64) : Bytes :=
  utf8 "xenia:consent-purge-approval:v1" ++ (planFingerprint.toList ++
    (witnessPublicKey.toList ++ u64Be approvedAtUnixSecs))

def verifyPurgeQuorum (approvals : ConsentPurgeApprovalBundleV1) (plan : ConsentPurgePlanV1)
    (trustedWitnessKeys : List (FixedBytes 32)) (minimumQuorum : Nat) :
    Except ConsentPurgeError Unit :=
  verifyQuorumWith C purgeApprovalErrors consentPurgeApprovalBundleSchema maxPurgeApprovals
    (consentPurgePlanFingerprint C plan) plan.issuedAtUnixSecs plan.expiresAtUnixSecs
    consentPurgeApprovalMessage approvals trustedWitnessKeys minimumQuorum

/-! ## Rollback packages, journals and receipts -/

def ConsentPurgeRollbackPackageV1.verify (package : ConsentPurgeRollbackPackageV1)
    (plan : ConsentPurgePlanV1) (approvals : ConsentPurgeApprovalBundleV1)
    (publicKey : C.ed25519.VerifyingKey) : Except ConsentPurgeError Unit := do
  failIf (package.schema ≠ consentPurgeRollbackPackageSchema)
    (.unsupportedRollbackPackageSchema package.schema)
  let planFingerprint ← consentPurgePlanFingerprint C plan
  failIf (package.planFingerprint ≠ planFingerprint) .rollbackPackageIdentityMismatch
  let bundleFingerprint ← consentPurgeApprovalBundleFingerprint C approvals
  failIf (package.approvalBundleFingerprint ≠ bundleFingerprint ∨
    package.packageDirectory ≠ purgeTransactionDirectory plan ∨
    package.entries ≠ plan.candidates ∨
    package.createdAtUnixSecs < plan.issuedAtUnixSecs) .rollbackPackageIdentityMismatch
  let message ← consentPurgeRollbackPackageMessage package
  failIf (C.ed25519.verify publicKey message package.signature = false)
    .invalidRollbackPackageSignature

variable {C} in
def signRollbackPackage (plan : ConsentPurgePlanV1) (approvals : ConsentPurgeApprovalBundleV1)
    (signingKey : C.ed25519.SigningKey) (createdAtUnixSecs : UInt64) :
    Except ConsentPurgeError ConsentPurgeRollbackPackageV1 := do
  let planFingerprint ← consentPurgePlanFingerprint C plan
  let bundleFingerprint ← consentPurgeApprovalBundleFingerprint C approvals
  let unsigned : ConsentPurgeRollbackPackageV1 :=
    ⟨consentPurgeRollbackPackageSchema, planFingerprint, bundleFingerprint,
      purgeTransactionDirectory plan, createdAtUnixSecs, plan.candidates,
      .replicate 64 0⟩
  let message ← consentPurgeRollbackPackageMessage unsigned
  let package := { unsigned with signature := C.ed25519.sign signingKey message }
  package.verify C plan approvals (C.ed25519.verifyingKey signingKey)
  pure package

def purgeEntries (plan : ConsentPurgePlanV1) (state : ConsentPurgeJournalEntryStateV1) :
    List ConsentPurgeJournalEntryV1 :=
  plan.candidates.map (⟨·, state⟩)

def ConsentPurgeReceiptV1.verify (receipt : ConsentPurgeReceiptV1) (plan : ConsentPurgePlanV1)
    (approvals : ConsentPurgeApprovalBundleV1) (rollbackPackage : ConsentPurgeRollbackPackageV1)
    (publicKey : C.ed25519.VerifyingKey) : Except ConsentPurgeError Unit := do
  failIf (receipt.schema ≠ consentPurgeReceiptSchema) (.unsupportedReceiptSchema receipt.schema)
  let planFingerprint ← consentPurgePlanFingerprint C plan
  failIf (receipt.planFingerprint ≠ planFingerprint) .receiptIdentityMismatch
  let bundleFingerprint ← consentPurgeApprovalBundleFingerprint C approvals
  failIf (receipt.approvalBundleFingerprint ≠ bundleFingerprint) .receiptIdentityMismatch
  let packageFingerprint ← consentPurgeRollbackPackageFingerprint C rollbackPackage
  failIf (receipt.rollbackPackageFingerprint ≠ packageFingerprint ∨
    receipt.transactionDirectory ≠ purgeTransactionDirectory plan ∨
    receipt.entries ≠ purgeEntries plan .deleted ∨
    receipt.completedAtUnixSecs < receipt.startedAtUnixSecs) .receiptIdentityMismatch
  let message ← consentPurgeReceiptMessage receipt
  failIf (C.ed25519.verify publicKey message receipt.signature = false) .invalidReceiptSignature

def verifyPurgeJournal (journal : ConsentPurgeJournalV1) (plan : ConsentPurgePlanV1)
    (approvals : ConsentPurgeApprovalBundleV1) (rollbackPackage : ConsentPurgeRollbackPackageV1) :
    Except ConsentPurgeError Unit := do
  failIf (journal.schema ≠ consentPurgeJournalSchema) (.unsupportedJournalSchema journal.schema)
  let planFingerprint ← consentPurgePlanFingerprint C plan
  failIf (journal.planFingerprint ≠ planFingerprint) .journalIdentityMismatch
  let bundleFingerprint ← consentPurgeApprovalBundleFingerprint C approvals
  failIf (journal.approvalBundleFingerprint ≠ bundleFingerprint) .journalIdentityMismatch
  let packageFingerprint ← consentPurgeRollbackPackageFingerprint C rollbackPackage
  failIf (journal.rollbackPackageFingerprint ≠ packageFingerprint ∨
    journal.transactionDirectory ≠ purgeTransactionDirectory plan) .journalIdentityMismatch

def canonicalize (path : String) (fs : FileSystem) : Option String :=
  ((resolve path).filter fs.reachable).map Path.text

def verifyPurgeJournalIdentity (journal : ConsentPurgeJournalV1) (plan : ConsentPurgePlanV1)
    (approvals : ConsentPurgeApprovalBundleV1) (rollbackPackage : ConsentPurgeRollbackPackageV1)
    (journalPath : String) : Prog ConsentPurgeError Unit := do
  .ofExcept (verifyPurgeJournal C journal plan approvals rollbackPackage)
  let given ← look .stat (fun fs => .ok (canonicalize journalPath fs)) (.ok none)
  let expected ← look .stat (fun fs => .ok (canonicalize (purgeJournalPath plan) fs)) (.ok none)
  .ofExcept (failIf (given ≠ expected ∨
    journal.entries.map ConsentPurgeJournalEntryV1.artifact ≠ plan.candidates)
    .journalIdentityMismatch)

/-! ## Files -/

def verifyExactFile (path : String) (artifact : ConsentPurgeArtifactV1) (rollbackCopy : Bool)
    (fs : FileSystem) : Except ConsentPurgeError Unit :=
  let mismatch : ConsentPurgeError :=
    if rollbackCopy then .rollbackCopyMismatch path else .artifactChanged path
  do
    let p ← okOr (resolve path) mismatch
    failIf (fs.hasDir p = true) (.artifactNotRegular path)
    match fs.node? p with
    | some (.file bytes) => do
      failIf (maxPurgeArtifactBytes < bytes.length) (.artifactTooLarge path maxPurgeArtifactBytes)
      failIf (UInt64.ofNat bytes.length ≠ artifact.byteLength ∨
        C.blake3 bytes ≠ artifact.blake3Digest) mismatch
    | some (.other _) => .error (.artifactNotRegular path)
    | none => .error mismatch

def exactCall (path : String) (artifact : ConsentPurgeArtifactV1) (rollbackCopy : Bool) :
    Prog ConsentPurgeError Unit :=
  look .read (verifyExactFile C path artifact rollbackCopy) (.error .io)

def copyOwnerOnlyExact (source target : String) (artifact : ConsentPurgeArtifactV1) :
    Prog ConsentPurgeError Unit := do
  let taken ← existsCall target
  .ofExcept (failIf (taken = true) (.transactionAlreadyExists target))
  let bytes ← readCall .io source
  createCall .io target
  writeCall .io target bytes
  .ofExcept (failIf (UInt64.ofNat bytes.length ≠ artifact.byteLength) (.artifactChanged source))
  syncCall .io
  exactCall C target artifact true

def canonicalPrivateRoot (path : String) (fs : FileSystem) : Except ConsentPurgeError String := do
  let p ← okOr ((resolve path).filter fs.reachable) (.nonCanonicalPath path)
  let dir ← okOr (fs.dirs p) (.nonCanonicalPath (Path.text p))
  failIf (dir.mode &&& 0o077 ≠ 0) (.nonCanonicalPath (Path.text p))
  validatePurgePath (Path.text p)
  pure (Path.text p)

def purgeParent (path : String) : Except ConsentPurgeError String := do
  failIf (pathOf path = []) (.nonCanonicalPath path)
  pure (parentText path)

structure PurgeFormats where
  package : TextFormat ConsentPurgeRollbackPackageV1
  journal : TextFormat ConsentPurgeJournalV1
  receipt : TextFormat ConsentPurgeReceiptV1

def persistPurgeJson {α : Type} (format : TextFormat α) (path : String) (value : α) :
    Prog ConsentPurgeError Unit := do
  let text ← .ofExcept (okOr (format.toVec value) .json)
  let bytes := text ++ [10]
  .ofExcept (failIf (maxPurgeTransactionBytes < bytes.length)
    (.artifactTooLarge path maxPurgeTransactionBytes))
  replaceCall .io path bytes

def readPurgeJson {α : Type} (format : TextFormat α) (path label : String) :
    Prog ConsentPurgeError α :=
  look .read (fun fs => (readBoundedJson format fs path maxPurgeTransactionBytes label).mapError
    (fun _ => .io)) (.error .io)

def verifyRollbackPackageFiles (package : ConsentPurgeRollbackPackageV1) :
    Prog ConsentPurgeError Unit :=
  package.entries.forM (fun artifact => exactCall C artifact.rollbackPath artifact true)

def verifyPurgedEntry (entry : ConsentPurgeJournalEntryV1) : Prog ConsentPurgeError Unit := do
  let there ← existsCall entry.artifact.quarantinePath
  .ofExcept (failIf (there = true) (.ambiguousFilesystemState entry.artifact.quarantinePath
    entry.artifact.rollbackPath))
  exactCall C entry.artifact.rollbackPath entry.artifact true
  .ofExcept (failIf (entry.state ≠ .deleted) .receiptIdentityMismatch)

def verifyPurgeReceiptFiles (receipt : ConsentPurgeReceiptV1) : Prog ConsentPurgeError Unit :=
  receipt.entries.forM (verifyPurgedEntry C)

def verifyRolledBackPurgeEntry (entry : ConsentPurgeJournalEntryV1) :
    Prog ConsentPurgeError Unit := do
  exactCall C entry.artifact.quarantinePath entry.artifact false
  exactCall C entry.artifact.rollbackPath entry.artifact true
  .ofExcept (failIf (entry.state ≠ .restored) .invalidJournalState)

def verifyRolledBackPurgeFiles (journal : ConsentPurgeJournalV1) : Prog ConsentPurgeError Unit :=
  journal.entries.forM (verifyRolledBackPurgeEntry C)

/-! ## Executing a plan -/

variable (formats : PurgeFormats)

/-- A new UUID in the text form of the `uuid` crate. -/
structure UuidText where
  text : String
  slash_not_mem_text : '/' ∉ text.toList
  length_text : text.toList.length = 36

def temporaryName (plan : ConsentPurgePlanV1) (uuid : UuidText) : String :=
  ".purge-" ++ hexEncode plan.purgeId.toList ++ "-" ++ uuid.text ++ ".tmp"

def purgeTemporaryDirectory (plan : ConsentPurgePlanV1) (uuid : UuidText) : String :=
  joinPath plan.rollbackRoot (temporaryName plan uuid)

def copyCandidates (directory : String) : Nat → List ConsentPurgeArtifactV1 →
    Prog ConsentPurgeError Unit
  | _, [] => pure ()
  | index, artifact :: rest => do
    exactCall C artifact.quarantinePath artifact false
    copyOwnerOnlyExact C artifact.quarantinePath (joinPath directory (rollbackName index)) artifact
    copyCandidates directory (index + 1) rest

def preparedPurgeJournal (plan : ConsentPurgePlanV1) (approvals : ConsentPurgeApprovalBundleV1)
    (rollbackPackage : ConsentPurgeRollbackPackageV1) (nowUnixSecs : UInt64) :
    Except ConsentPurgeError ConsentPurgeJournalV1 := do
  let planFingerprint ← consentPurgePlanFingerprint C plan
  let bundleFingerprint ← consentPurgeApprovalBundleFingerprint C approvals
  let packageFingerprint ← consentPurgeRollbackPackageFingerprint C rollbackPackage
  pure ⟨consentPurgeJournalSchema, planFingerprint, bundleFingerprint, packageFingerprint,
    purgeTransactionDirectory plan, .prepared, nowUnixSecs, nowUnixSecs,
    purgeEntries plan .pending⟩

variable {C}

def preparePackage (plan : ConsentPurgePlanV1) (approvals : ConsentPurgeApprovalBundleV1)
    (signingKey : C.ed25519.SigningKey) (nowUnixSecs : UInt64) (temporaryDirectory : String) :
    Prog ConsentPurgeError (ConsentPurgeRollbackPackageV1 × ConsentPurgeJournalV1) := do
  copyCandidates C temporaryDirectory 0 plan.candidates
  let rollbackPackage ← .ofExcept (signRollbackPackage plan approvals signingKey nowUnixSecs)
  persistPurgeJson formats.package (joinPath temporaryDirectory "rollback-package.json")
    rollbackPackage
  let journal ← .ofExcept (preparedPurgeJournal C plan approvals rollbackPackage nowUnixSecs)
  persistPurgeJson formats.journal (joinPath temporaryDirectory "journal.json") journal
  syncDirCall .io temporaryDirectory
  renameDirCall .io temporaryDirectory (purgeTransactionDirectory plan)
  syncDirCall .io plan.rollbackRoot
  pure (rollbackPackage, journal)

def abandonPackage {α : Type} (temporaryDirectory : String) (error : ConsentPurgeError) :
    Prog ConsentPurgeError α := do
  let _ ← Program.attempt (removeTreeCall ConsentPurgeError.io temporaryDirectory)
  .ofExcept (.error error)

variable (C)

def deleteEntry (entry : ConsentPurgeJournalEntryV1) : Prog ConsentPurgeError Unit := do
  exactCall C entry.artifact.quarantinePath entry.artifact false
  exactCall C entry.artifact.rollbackPath entry.artifact true
  unlinkCall .io entry.artifact.quarantinePath
  let parent ← .ofExcept (purgeParent entry.artifact.quarantinePath)
  syncDirCall .io parent

def deleteEntries (journalPath : String) (nowUnixSecs : UInt64) (journal : ConsentPurgeJournalV1) :
    List ConsentPurgeJournalEntryV1 → List ConsentPurgeJournalEntryV1 →
      Prog ConsentPurgeError (List ConsentPurgeJournalEntryV1)
  | deleted, [] => pure deleted
  | deleted, entry :: rest => do
    deleteEntry C entry
    persistPurgeJson formats.journal journalPath
      { journal with
        entries := deleted ++ { entry with state := .deleted } :: rest
        updatedAtUnixSecs := nowUnixSecs }
    deleteEntries journalPath nowUnixSecs journal (deleted ++ [{ entry with state := .deleted }])
      rest

def purgeReceiptOf (journal : ConsentPurgeJournalV1) (nowUnixSecs : UInt64) :
    ConsentPurgeReceiptV1 :=
  ⟨consentPurgeReceiptSchema, journal.planFingerprint, journal.approvalBundleFingerprint,
    journal.rollbackPackageFingerprint, journal.transactionDirectory, journal.startedAtUnixSecs,
    nowUnixSecs, journal.entries, .replicate 64 0⟩

variable {C}

section

variable (plan : ConsentPurgePlanV1) (approvals : ConsentPurgeApprovalBundleV1)
  (retirementPlan : ConsentRetirementPlanV1)
  (retirementApprovals : ConsentRetirementApprovalBundleV1)
  (quarantineReceipt : ConsentRetirementQuarantineReceiptV1)
  (trustedWitnessKeys : List (FixedBytes 32)) (minimumQuorum : Nat)

def commitPurge (rollbackPackage : ConsentPurgeRollbackPackageV1) (signingKey : C.ed25519.SigningKey)
    (nowUnixSecs : UInt64) (journal : ConsentPurgeJournalV1) :
    Prog ConsentPurgeError ConsentPurgeReceiptV1 := do
  let unsigned := purgeReceiptOf journal nowUnixSecs
  let message ← .ofExcept (consentPurgeReceiptMessage unsigned)
  let receipt := { unsigned with signature := C.ed25519.sign signingKey message }
  .ofExcept (receipt.verify C plan approvals rollbackPackage (C.ed25519.verifyingKey signingKey))
  persistPurgeJson formats.receipt (purgeReceiptPath plan) receipt
  persistPurgeJson formats.journal (purgeJournalPath plan)
    { journal with state := .committed, updatedAtUnixSecs := nowUnixSecs }
  verifyPurgeReceiptFiles C receipt
  pure receipt

def authorizePurge (publicKey : C.ed25519.VerifyingKey) (nowUnixSecs : UInt64) :
    Prog ConsentPurgeError Unit := do
  plan.verify C retirementPlan retirementApprovals quarantineReceipt publicKey nowUnixSecs
  .ofExcept (verifyPurgeQuorum C approvals plan trustedWitnessKeys minimumQuorum)
  let root ← look .stat (canonicalPrivateRoot plan.rollbackRoot)
    (.error (.nonCanonicalPath plan.rollbackRoot))
  .ofExcept (failIf (root ≠ plan.rollbackRoot) (.nonCanonicalPath plan.rollbackRoot))
  let taken ← existsCall (purgeTransactionDirectory plan)
  .ofExcept (failIf (taken = true) (.transactionAlreadyExists (purgeTransactionDirectory plan)))

def deleteQuarantined (signingKey : C.ed25519.SigningKey) (nowUnixSecs : UInt64)
    (rollbackPackage : ConsentPurgeRollbackPackageV1) (prepared : ConsentPurgeJournalV1) :
    Prog ConsentPurgeError ConsentPurgeReceiptV1 := do
  verifyRollbackPackageFiles C rollbackPackage
  let journal := { prepared with state := .deleting }
  persistPurgeJson formats.journal (purgeJournalPath plan) journal
  let entries ← deleteEntries C formats (purgeJournalPath plan) nowUnixSecs journal []
    journal.entries
  commitPurge formats plan approvals rollbackPackage signingKey nowUnixSecs
    { journal with entries := entries, updatedAtUnixSecs := nowUnixSecs }

def executeConsentPurge (signingKey : C.ed25519.SigningKey) (nowUnixSecs : UInt64) (uuid : UuidText) :
    Prog ConsentPurgeError ConsentPurgeReceiptV1 := do
  authorizePurge plan approvals retirementPlan retirementApprovals quarantineReceipt
    trustedWitnessKeys minimumQuorum (C.ed25519.verifyingKey signingKey) nowUnixSecs
  let temporaryDirectory := purgeTemporaryDirectory plan uuid
  makeDirCall .io temporaryDirectory 0o700
  syncDirCall .io plan.rollbackRoot
  let preparation ← Program.attempt
    (preparePackage formats plan approvals signingKey nowUnixSecs temporaryDirectory)
  match preparation with
  | .ok (rollbackPackage, journal) =>
    deleteQuarantined formats plan approvals signingKey nowUnixSecs rollbackPackage journal
  | .error error => abandonPackage temporaryDirectory error

end

/-! ## Recovery -/

variable (C)

def restorePurged (entry : ConsentPurgeJournalEntryV1) : Prog ConsentPurgeError Unit := do
  exactCall C entry.artifact.rollbackPath entry.artifact true
  let there ← existsCall entry.artifact.quarantinePath
  if there = true then exactCall C entry.artifact.quarantinePath entry.artifact false
  else do
    copyOwnerOnlyExact C entry.artifact.rollbackPath entry.artifact.quarantinePath entry.artifact
    let parent ← .ofExcept (purgeParent entry.artifact.quarantinePath)
    syncDirCall .io parent

/-- The rollback loop, from the last entry to the first: `todo` are the entries not yet visited,
the last one first, and `restored` those behind them. -/
def restorePurgedEntries (journalPath : String) (nowUnixSecs : UInt64)
    (journal : ConsentPurgeJournalV1) :
    List ConsentPurgeJournalEntryV1 → List ConsentPurgeJournalEntryV1 →
      Prog ConsentPurgeError (List ConsentPurgeJournalEntryV1)
  | [], restored => pure restored
  | entry :: todo, restored => do
    restorePurged C entry
    persistPurgeJson formats.journal journalPath
      { journal with
        entries := todo.reverse ++ { entry with state := .restored } :: restored
        updatedAtUnixSecs := nowUnixSecs }
    restorePurgedEntries journalPath nowUnixSecs journal todo
      ({ entry with state := .restored } :: restored)

def rollbackIncompletePurge (journal : ConsentPurgeJournalV1) (journalPath : String)
    (nowUnixSecs : UInt64) : Prog ConsentPurgeError Unit := do
  let restored ← restorePurgedEntries C formats journalPath nowUnixSecs journal
    journal.entries.reverse []
  persistPurgeJson formats.journal journalPath
    { journal with
      state := .rolledBack
      updatedAtUnixSecs := nowUnixSecs
      entries := restored }

def finalizePurge (journalPath : String) (plan : ConsentPurgePlanV1)
    (approvals : ConsentPurgeApprovalBundleV1) (rollbackPackage : ConsentPurgeRollbackPackageV1)
    (publicKey : C.ed25519.VerifyingKey) (nowUnixSecs : UInt64) (journal : ConsentPurgeJournalV1) :
    Prog ConsentPurgeError ConsentPurgeRecoveryOutcomeV1 := do
  let receipt ← readPurgeJson formats.receipt (purgeReceiptPath plan) "consent purge receipt"
  .ofExcept (receipt.verify C plan approvals rollbackPackage publicKey)
  verifyPurgeReceiptFiles C receipt
  .ofExcept (failIf (journal.state = .rolledBack) .invalidJournalState)
  if journal.state = .committed then pure .alreadyCommitted
  else do
    persistPurgeJson formats.journal journalPath
      { journal with state := .committed, updatedAtUnixSecs := nowUnixSecs }
    pure .finalizedCommitted

def rollbackPurge (journalPath : String) (nowUnixSecs : UInt64) (journal : ConsentPurgeJournalV1) :
    Prog ConsentPurgeError ConsentPurgeRecoveryOutcomeV1 :=
  match journal.state with
  | .committed => .ofExcept (.error .missingCommittedReceipt)
  | .rolledBack => do
    verifyRolledBackPurgeFiles C journal
    pure .alreadyRolledBack
  | .prepared | .deleting => do
    rollbackIncompletePurge C formats journal journalPath nowUnixSecs
    pure .rolledBack

def recoverConsentPurge (journalPath : String) (plan : ConsentPurgePlanV1)
    (approvals : ConsentPurgeApprovalBundleV1) (retirementPlan : ConsentRetirementPlanV1)
    (retirementApprovals : ConsentRetirementApprovalBundleV1)
    (quarantineReceipt : ConsentRetirementQuarantineReceiptV1)
    (trustedWitnessKeys : List (FixedBytes 32)) (minimumQuorum : Nat)
    (publicKey : C.ed25519.VerifyingKey) (nowUnixSecs : UInt64) :
    Prog ConsentPurgeError ConsentPurgeRecoveryOutcomeV1 := do
  .ofExcept (plan.verifyAuthoritySignature C publicKey)
  .ofExcept (verifyPurgePrerequisiteIdentity C plan retirementPlan retirementApprovals
    quarantineReceipt publicKey)
  .ofExcept (verifyPurgeQuorum C approvals plan trustedWitnessKeys minimumQuorum)
  let rollbackPackage ← readPurgeJson formats.package (rollbackPackagePath plan)
    "consent purge rollback package"
  .ofExcept (rollbackPackage.verify C plan approvals publicKey)
  verifyRollbackPackageFiles C rollbackPackage
  let journal ← readPurgeJson formats.journal journalPath "consent purge journal"
  verifyPurgeJournalIdentity C journal plan approvals rollbackPackage journalPath
  let receipted ← existsCall (purgeReceiptPath plan)
  if receipted = true then
    finalizePurge C formats journalPath plan approvals rollbackPackage publicKey nowUnixSecs journal
  else rollbackPurge C formats journalPath nowUnixSecs journal

end XeniaPeer.Consent
