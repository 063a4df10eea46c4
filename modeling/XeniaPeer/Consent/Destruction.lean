import XeniaPeer.Consent.Custody

/-!
# Readiness for final destruction

`consent_final_destruction.rs`: when the retention of a rollback package is over, the ledger
authority signs a plan that names its whole inventory, independent witnesses approve the plan, and a
readiness certificate records that all of this was in order. Nothing is deleted here.

Main results: `no_plan_before_presented_deadline`, `signed_plan_stays_valid`.
-/

namespace XeniaPeer.Consent

open Foundation Foundation.FileSystem Ledger

/-! ## Records -/

def consentFinalDestructionPlanSchema : String := "xenia-consent-final-destruction-plan-v1"

def consentFinalDestructionApprovalBundleSchema : String :=
  "xenia-consent-final-destruction-approval-bundle-v1"

def consentFinalDestructionReadinessSchema : String :=
  "xenia-consent-final-destruction-readiness-v1"

def maxFinalDestructionCandidates : Nat := 64

def maxFinalDestructionApprovals : Nat := 64

def maxFinalDestructionPlanLifetimeSecs : UInt64 := 60 * 60

structure ConsentFinalDestructionPlanV1 where
  schema : String
  destructionId : FixedBytes 16
  (ledgerEpochId retentionBaseCertificateFingerprint retentionObligationFingerprint : FixedBytes 32)
  (retentionAnchorFingerprint custodyBundleFingerprint protectedInventoryDigest : FixedBytes 32)
  packageDirectory : String
  candidates : List ConsentPurgeProtectedArtifactV1
  (retentionSatisfiedAtUnixSecs issuedAtUnixSecs expiresAtUnixSecs : UInt64)
  signature : FixedBytes 64
deriving DecidableEq

abbrev ConsentFinalDestructionApprovalBundleV1 := ApprovalBundleV1

structure ConsentFinalDestructionReadinessV1 where
  schema : String
  ledgerEpochId : FixedBytes 32
  destructionId : FixedBytes 16
  (planFingerprint approvalBundleFingerprint custodyBundleFingerprint : FixedBytes 32)
  protectedInventoryDigest : FixedBytes 32
  packageDirectory : String
  candidateCount : UInt32
  (readyAtUnixSecs expiresAtUnixSecs : UInt64)
  signature : FixedBytes 64

inductive ConsentFinalDestructionError where
  | unsupportedPlanSchema (schema : String)
  | unsupportedApprovalBundleSchema (schema : String)
  | unsupportedReadinessSchema (schema : String)
  | zeroDestructionId
  | incompleteCandidateInventory
  | tooManyCandidates (count maximum : Nat)
  | candidateOrderMismatch
  | candidateOutsidePackage (path : String)
  | zeroCandidateDigest (path : String)
  | candidateInventoryDigestMismatch
  | duplicateCandidatePath (path : String)
  | retentionSubjectMismatch
  | retentionStillActive
  | invalidPlanWindow
  | planWindowTooLong (maximum : UInt64)
  | planFromFuture
  | planExpired
  | invalidPlanSignature
  | approvalPlanMismatch
  | duplicateApprovalKey
  | approvalOrderMismatch
  | untrustedApprovalKey
  | badApprovalPublicKey
  | invalidApprovalSignature
  | approvalOutsidePlanWindow
  | approvalAfterReadiness
  | zeroApprovalQuorum
  | approvalQuorumNotMet (observed required : Nat)
  | tooManyApprovals (count maximum : Nat)
  | readinessIdentityMismatch
  | invalidReadinessSignature
  | encodingLengthOverflow
  | retention (error : ConsentPurgeRetentionError)
  | custody (error : ConsentPurgeCustodyError)
deriving DecidableEq

variable (C : Crypto)

/-! ## Plans -/

def consentFinalDestructionPlanMessage (plan : ConsentFinalDestructionPlanV1) :
    Except ConsentFinalDestructionError Bytes := do
  failIf (plan.schema ≠ consentFinalDestructionPlanSchema) (.unsupportedPlanSchema plan.schema)
  let schema ← appendBytes .encodingLengthOverflow (utf8 plan.schema)
  let directory ← appendBytes .encodingLengthOverflow (utf8 plan.packageDirectory)
  let candidates ← inventoryBytes .encodingLengthOverflow plan.candidates
  pure (utf8 "xenia:consent-final-destruction-plan:v1" ++ (schema ++ (plan.destructionId.toList ++
    (plan.ledgerEpochId.toList ++ (plan.retentionBaseCertificateFingerprint.toList ++
    (plan.retentionObligationFingerprint.toList ++ (plan.retentionAnchorFingerprint.toList ++
    (plan.custodyBundleFingerprint.toList ++ (plan.protectedInventoryDigest.toList ++
    (directory ++ (candidates ++ (u64Be plan.retentionSatisfiedAtUnixSecs ++
    (u64Be plan.issuedAtUnixSecs ++ u64Be plan.expiresAtUnixSecs)))))))))))))

def consentFinalDestructionPlanFingerprint (plan : ConsentFinalDestructionPlanV1) :
    Except ConsentFinalDestructionError (FixedBytes 32) := do
  let message ← consentFinalDestructionPlanMessage plan
  pure (C.blake3 (utf8 "xenia:consent-final-destruction-plan-fingerprint:v1" ++ (message ++
    plan.signature.toList)))

/-- The check of a candidate against those before it. Unlike the certificate's
(`checkProtectedArtifact`) it asks for the package first and for duplicates then. -/
def checkDestructionCandidate (packageDirectory : String)
    (before : List ConsentPurgeProtectedArtifactV1) (candidate : ConsentPurgeProtectedArtifactV1) :
    Except ConsentFinalDestructionError Unit := do
  failIf (candidate.blake3Digest = zeroHash) (.zeroCandidateDigest candidate.path)
  failIf (startsWith candidate.path packageDirectory = false)
    (.candidateOutsidePackage candidate.path)
  failIf (candidate.path ∈ before.map ConsentPurgeProtectedArtifactV1.path)
    (.duplicateCandidatePath candidate.path)
  failIf (∃ previous ∈ before.head?, ¬ previous.Below candidate) .candidateOrderMismatch

def verifyCertificateMatchesSubject (certificate : ConsentPurgeRetentionCertificateV1)
    (subject : ConsentPurgeRetentionSubjectV1) : Except ConsentFinalDestructionError Unit := do
  failIf (certificate.ledgerEpochId ≠ subject.ledgerEpochId) .retentionSubjectMismatch
  let fingerprint ← (consentPurgeRetentionCertificateFingerprint C certificate).mapError .retention
  failIf (fingerprint ≠ subject.baseCertificateFingerprint ∨
    certificate.packageDirectory ≠ subject.packageDirectory) .retentionSubjectMismatch
  let inventoryDigest ←
    (protectedInventoryDigest C certificate.protectedArtifacts).mapError .retention
  failIf (inventoryDigest ≠ subject.protectedInventoryDigest) .retentionSubjectMismatch

def verifyRetentionEvidence (fs : FileSystem) (certificate : ConsentPurgeRetentionCertificateV1)
    (subject : ConsentPurgeRetentionSubjectV1) (publicKey : C.ed25519.VerifyingKey) :
    Except ConsentFinalDestructionError Unit := do
  (certificate.verifyAuthoritySignature C publicKey).mapError .retention
  (verifyProtectedInventoryFiles C fs certificate).mapError .retention
  verifyCertificateMatchesSubject C certificate subject

namespace ConsentFinalDestructionPlanV1

def validateShape (plan : ConsentFinalDestructionPlanV1) :
    Except ConsentFinalDestructionError Unit := do
  failIf (plan.schema ≠ consentFinalDestructionPlanSchema) (.unsupportedPlanSchema plan.schema)
  failIf (plan.destructionId = .replicate 16 0) .zeroDestructionId
  failIf (plan.candidates = []) .incompleteCandidateInventory
  failIf (maxFinalDestructionCandidates < plan.candidates.length)
    (.tooManyCandidates plan.candidates.length maxFinalDestructionCandidates)
  failIf (plan.expiresAtUnixSecs ≤ plan.issuedAtUnixSecs) .invalidPlanWindow
  -- the difference does not wrap: the expiry is after the issue
  failIf (maxFinalDestructionPlanLifetimeSecs < plan.expiresAtUnixSecs - plan.issuedAtUnixSecs)
    (.planWindowTooLong maxFinalDestructionPlanLifetimeSecs)
  failIf (plan.issuedAtUnixSecs < plan.retentionSatisfiedAtUnixSecs) .retentionStillActive
  checkEach (checkDestructionCandidate plan.packageDirectory) [] plan.candidates
  let inventoryDigest ← (Consent.protectedInventoryDigest C plan.candidates).mapError .retention
  failIf (inventoryDigest ≠ plan.protectedInventoryDigest) .candidateInventoryDigestMismatch

def verifyAuthoritySignature (plan : ConsentFinalDestructionPlanV1)
    (publicKey : C.ed25519.VerifyingKey) : Except ConsentFinalDestructionError Unit := do
  plan.validateShape C
  let message ← consentFinalDestructionPlanMessage plan
  failIf (C.ed25519.verify publicKey message plan.signature = false) .invalidPlanSignature

def sign (fs : FileSystem) (destructionId : FixedBytes 16)
    (certificate : ConsentPurgeRetentionCertificateV1) (subject : ConsentPurgeRetentionSubjectV1)
    (custodyBundle : ConsentPurgeCustodyBundleV1) (trustedCustodianKeys : List (FixedBytes 32))
    (custodyQuorum : Nat) (signingKey : C.ed25519.SigningKey) (issuedAt expiresAt : UInt64) :
    Except ConsentFinalDestructionError ConsentFinalDestructionPlanV1 := do
  verifyRetentionEvidence C fs certificate subject (C.ed25519.verifyingKey signingKey)
  failIf (issuedAt < subject.retainUntilUnixSecs) .retentionStillActive
  (custodyBundle.verifyQuorum C subject trustedCustodianKeys custodyQuorum issuedAt
    maxPurgeCustodyFutureSkewSecs expiresAt).mapError .custody
  let custodyFingerprint ←
    (consentPurgeCustodyBundleFingerprint C custodyBundle).mapError .custody
  let plan : ConsentFinalDestructionPlanV1 :=
    { schema := consentFinalDestructionPlanSchema
      destructionId := destructionId
      ledgerEpochId := subject.ledgerEpochId
      retentionBaseCertificateFingerprint := subject.baseCertificateFingerprint
      retentionObligationFingerprint := subject.obligationFingerprint
      retentionAnchorFingerprint := subject.anchorFingerprint
      custodyBundleFingerprint := custodyFingerprint
      protectedInventoryDigest := subject.protectedInventoryDigest
      packageDirectory := subject.packageDirectory
      candidates := certificate.protectedArtifacts
      retentionSatisfiedAtUnixSecs := subject.retainUntilUnixSecs
      issuedAtUnixSecs := issuedAt
      expiresAtUnixSecs := expiresAt
      signature := .replicate 64 0 }
  plan.validateShape C
  let message ← consentFinalDestructionPlanMessage plan
  let signed := { plan with signature := C.ed25519.sign signingKey message }
  signed.verifyAuthoritySignature C (C.ed25519.verifyingKey signingKey)
  pure signed

def verifyIdentity (plan : ConsentFinalDestructionPlanV1)
    (certificate : ConsentPurgeRetentionCertificateV1) (subject : ConsentPurgeRetentionSubjectV1)
    (custodyBundle : ConsentPurgeCustodyBundleV1) : Except ConsentFinalDestructionError Unit := do
  failIf (plan.ledgerEpochId ≠ subject.ledgerEpochId ∨
    plan.retentionBaseCertificateFingerprint ≠ subject.baseCertificateFingerprint ∨
    plan.retentionObligationFingerprint ≠ subject.obligationFingerprint ∨
    plan.retentionAnchorFingerprint ≠ subject.anchorFingerprint) .retentionSubjectMismatch
  let custodyFingerprint ←
    (consentPurgeCustodyBundleFingerprint C custodyBundle).mapError .custody
  failIf (plan.custodyBundleFingerprint ≠ custodyFingerprint ∨
    plan.protectedInventoryDigest ≠ subject.protectedInventoryDigest ∨
    plan.packageDirectory ≠ subject.packageDirectory ∨
    plan.candidates ≠ certificate.protectedArtifacts ∨
    plan.retentionSatisfiedAtUnixSecs ≠ subject.retainUntilUnixSecs) .retentionSubjectMismatch

def verify (plan : ConsentFinalDestructionPlanV1) (fs : FileSystem)
    (certificate : ConsentPurgeRetentionCertificateV1) (subject : ConsentPurgeRetentionSubjectV1)
    (custodyBundle : ConsentPurgeCustodyBundleV1) (trustedCustodianKeys : List (FixedBytes 32))
    (custodyQuorum : Nat) (publicKey : C.ed25519.VerifyingKey) (nowUnixSecs : UInt64) :
    Except ConsentFinalDestructionError Unit := do
  plan.verifyAuthoritySignature C publicKey
  verifyRetentionEvidence C fs certificate subject publicKey
  (custodyBundle.verifyQuorum C subject trustedCustodianKeys custodyQuorum nowUnixSecs
    maxPurgeCustodyFutureSkewSecs plan.expiresAtUnixSecs).mapError .custody
  failIf (nowUnixSecs < plan.issuedAtUnixSecs) .planFromFuture
  failIf (plan.expiresAtUnixSecs < nowUnixSecs) .planExpired
  plan.verifyIdentity C certificate subject custodyBundle

end ConsentFinalDestructionPlanV1

/-! ## Approvals -/

def consentFinalDestructionApprovalMessage (planFingerprint : FixedBytes 32)
    (approvedAt : UInt64) : Bytes :=
  utf8 "xenia:consent-final-destruction-approval:v1" ++ (planFingerprint.toList ++ u64Be approvedAt)

section

variable (approvals : ConsentFinalDestructionApprovalBundleV1)
  (plan : ConsentFinalDestructionPlanV1)

def consentFinalDestructionApprovalBundleFingerprint :
    Except ConsentFinalDestructionError (FixedBytes 32) := do
  failIf (approvals.schema ≠ consentFinalDestructionApprovalBundleSchema)
    (.unsupportedApprovalBundleSchema approvals.schema)
  let count ← countBytes .encodingLengthOverflow approvals.approvals.length
  pure (C.blake3 (utf8 "xenia:consent-final-destruction-approval-bundle-fingerprint:v1" ++
    (approvals.planFingerprint.toList ++ (count ++ approvals.approvals.flatMap (fun approval =>
      approval.witnessPublicKey.toList ++ (u64Be approval.approvedAtUnixSecs ++
        approval.signature.toList))))))

/-- The check of an approval against those before it. Unlike in the earlier ceremonies
(`checkApproval`) the keys are in order and an approval at the moment of the expiry counts. -/
def checkDestructionApproval (planFingerprint : FixedBytes 32)
    (trustedWitnessKeys : List (FixedBytes 32)) (before : List ApprovalV1) (approval : ApprovalV1) :
    Except ConsentFinalDestructionError Unit := do
  failIf (∃ previous ∈ before.head?,
    ¬ previous.witnessPublicKey.toList < approval.witnessPublicKey.toList) .approvalOrderMismatch
  failIf (approval.witnessPublicKey ∈ before.map ApprovalV1.witnessPublicKey)
    .duplicateApprovalKey
  failIf (approval.witnessPublicKey ∉ trustedWitnessKeys) .untrustedApprovalKey
  failIf (approval.approvedAtUnixSecs < plan.issuedAtUnixSecs ∨
    plan.expiresAtUnixSecs < approval.approvedAtUnixSecs) .approvalOutsidePlanWindow
  let publicKey ← okOr (C.ed25519.fromBytes approval.witnessPublicKey) .badApprovalPublicKey
  failIf (C.ed25519.verify publicKey
    (consentFinalDestructionApprovalMessage planFingerprint approval.approvedAtUnixSecs)
    approval.signature = false) .invalidApprovalSignature

def verifyFinalDestructionQuorum (trustedWitnessKeys : List (FixedBytes 32)) (minimumQuorum : Nat) :
    Except ConsentFinalDestructionError Unit := do
  failIf (approvals.schema ≠ consentFinalDestructionApprovalBundleSchema)
    (.unsupportedApprovalBundleSchema approvals.schema)
  let planFingerprint ← consentFinalDestructionPlanFingerprint C plan
  failIf (approvals.planFingerprint ≠ planFingerprint) .approvalPlanMismatch
  failIf (minimumQuorum = 0) .zeroApprovalQuorum
  failIf (maxFinalDestructionApprovals < approvals.approvals.length)
    (.tooManyApprovals approvals.approvals.length maxFinalDestructionApprovals)
  checkEach (checkDestructionApproval C plan approvals.planFingerprint trustedWitnessKeys) []
    approvals.approvals
  failIf (approvals.approvals.length < minimumQuorum)
    (.approvalQuorumNotMet approvals.approvals.length minimumQuorum)

end

/-! ## Readiness -/

def consentFinalDestructionReadinessMessage (readiness : ConsentFinalDestructionReadinessV1) :
    Except ConsentFinalDestructionError Bytes := do
  failIf (readiness.schema ≠ consentFinalDestructionReadinessSchema)
    (.unsupportedReadinessSchema readiness.schema)
  let schema ← appendBytes .encodingLengthOverflow (utf8 readiness.schema)
  let directory ← appendBytes .encodingLengthOverflow (utf8 readiness.packageDirectory)
  pure (utf8 "xenia:consent-final-destruction-readiness:v1" ++ (schema ++
    (readiness.ledgerEpochId.toList ++ (readiness.destructionId.toList ++
    (readiness.planFingerprint.toList ++ (readiness.approvalBundleFingerprint.toList ++
    (readiness.custodyBundleFingerprint.toList ++ (readiness.protectedInventoryDigest.toList ++
    (directory ++ (beBytes 4 readiness.candidateCount.toNat ++
    (u64Be readiness.readyAtUnixSecs ++ u64Be readiness.expiresAtUnixSecs)))))))))))

def candidateCount (plan : ConsentFinalDestructionPlanV1) :
    Except ConsentFinalDestructionError UInt32 := do
  failIf (2 ^ 32 ≤ plan.candidates.length) .encodingLengthOverflow
  pure (UInt32.ofNat plan.candidates.length)

namespace ConsentFinalDestructionReadinessV1

def verify (readiness : ConsentFinalDestructionReadinessV1)
    (plan : ConsentFinalDestructionPlanV1) (approvals : ConsentFinalDestructionApprovalBundleV1)
    (custodyBundle : ConsentPurgeCustodyBundleV1) (trustedWitnessKeys : List (FixedBytes 32))
    (destructionQuorum : Nat) (publicKey : C.ed25519.VerifyingKey) :
    Except ConsentFinalDestructionError Unit := do
  failIf (readiness.schema ≠ consentFinalDestructionReadinessSchema)
    (.unsupportedReadinessSchema readiness.schema)
  plan.verifyAuthoritySignature C publicKey
  verifyFinalDestructionQuorum C approvals plan trustedWitnessKeys destructionQuorum
  failIf (∃ approval ∈ approvals.approvals,
    readiness.readyAtUnixSecs < approval.approvedAtUnixSecs) .approvalAfterReadiness
  let count ← Consent.candidateCount plan
  -- one condition in the source; the fingerprints are computed only when they are compared
  failIf (readiness.ledgerEpochId ≠ plan.ledgerEpochId ∨
    readiness.destructionId ≠ plan.destructionId) .readinessIdentityMismatch
  let expectedPlan ← consentFinalDestructionPlanFingerprint C plan
  failIf (readiness.planFingerprint ≠ expectedPlan) .readinessIdentityMismatch
  let expectedApprovals ← consentFinalDestructionApprovalBundleFingerprint C approvals
  failIf (readiness.approvalBundleFingerprint ≠ expectedApprovals) .readinessIdentityMismatch
  let expectedCustody ← (consentPurgeCustodyBundleFingerprint C custodyBundle).mapError .custody
  failIf (readiness.custodyBundleFingerprint ≠ expectedCustody ∨
    readiness.protectedInventoryDigest ≠ plan.protectedInventoryDigest ∨
    readiness.packageDirectory ≠ plan.packageDirectory ∨
    readiness.candidateCount ≠ count ∨
    readiness.readyAtUnixSecs < plan.issuedAtUnixSecs ∨
    plan.expiresAtUnixSecs < readiness.readyAtUnixSecs ∨
    readiness.expiresAtUnixSecs ≠ plan.expiresAtUnixSecs) .readinessIdentityMismatch
  let message ← consentFinalDestructionReadinessMessage readiness
  failIf (C.ed25519.verify publicKey message readiness.signature = false)
    .invalidReadinessSignature

end ConsentFinalDestructionReadinessV1

/-! ## A sample package -/

namespace SamplePackage

def digest (m : Bytes) : FixedBytes 32 := sumDigest 32 m

def signature : FixedBytes 64 := .replicate 64 0

def blank : Crypto := bincodeCrypto (recordScheme signature []) digest

def authority : FixedBytes 32 := .replicate 32 7

def custodian : FixedBytes 32 := .replicate 32 8

def witness : FixedBytes 32 := .replicate 32 9

def disk : FileSystem where
  dirs p :=
    if p = [] then some ⟨0o755, fun _ => none⟩
    else if p = ["p"] then
      some ⟨0o700, fun name => if name = "a" then some (.file [0]) else none⟩
    else none
  removals := []
  root := rfl
  closed := by
    intro p name h
    cases p with
    | nil => rfl
    | cons c p => simp at h

def artifact : ConsentPurgeProtectedArtifactV1 := ⟨.rollbackArtifact, "/p/a", 1, digest [0]⟩

def certificate : ConsentPurgeRetentionCertificateV1 :=
  ⟨consentPurgeRetentionCertificateSchema, zeroHash, zeroHash, zeroHash, zeroHash, zeroHash, "/p",
    [artifact], 0, 86400, 0, signature⟩

def certificateFingerprint : FixedBytes 32 :=
  (consentPurgeRetentionCertificateFingerprint blank certificate).toOption.getD zeroHash

def inventoryDigest : FixedBytes 32 :=
  (protectedInventoryDigest blank [artifact]).toOption.getD zeroHash

def anchor : ConsentPurgeRetentionAnchorV1 :=
  ⟨consentPurgeRetentionAnchorSchema, zeroHash, certificateFingerprint, zeroHash, inventoryDigest,
    "/p", 86400, 10, signature⟩

def renewal : ConsentPurgeRetentionRenewalV1 :=
  ⟨consentPurgeRetentionRenewalSchema, zeroHash, certificateFingerprint, zeroHash, 1,
    inventoryDigest, "/p", 86400, 172800, 80000, signature⟩

def subject : ConsentPurgeRetentionSubjectV1 where
  ledgerEpochId := zeroHash
  baseCertificateFingerprint := certificateFingerprint
  anchorFingerprint :=
    (consentPurgeRetentionAnchorFingerprint blank anchor).toOption.getD zeroHash
  obligationFingerprint := certificateFingerprint
  protectedInventoryDigest := inventoryDigest
  packageDirectory := "/p"
  retainUntilUnixSecs := 86400

def attestation : ConsentPurgeCustodyAttestationV1 :=
  ⟨consentPurgeCustodyAttestationSchema, zeroHash, certificateFingerprint,
    subject.anchorFingerprint, inventoryDigest, "/p", .remoteVault, .replicate 32 1,
    .replicate 16 1, 85000, 100000, custodian, signature⟩

def custody : ConsentPurgeCustodyBundleV1 :=
  ⟨consentPurgeCustodyBundleSchema, certificateFingerprint, inventoryDigest, [attestation]⟩

def plan : ConsentFinalDestructionPlanV1 where
  schema := consentFinalDestructionPlanSchema
  destructionId := .replicate 16 5
  ledgerEpochId := zeroHash
  retentionBaseCertificateFingerprint := certificateFingerprint
  retentionObligationFingerprint := certificateFingerprint
  retentionAnchorFingerprint := subject.anchorFingerprint
  custodyBundleFingerprint :=
    (consentPurgeCustodyBundleFingerprint blank custody).toOption.getD zeroHash
  protectedInventoryDigest := inventoryDigest
  packageDirectory := "/p"
  candidates := [artifact]
  retentionSatisfiedAtUnixSecs := 86400
  issuedAtUnixSecs := 90000
  expiresAtUnixSecs := 93600
  signature := signature

def planFingerprint : FixedBytes 32 :=
  (consentFinalDestructionPlanFingerprint blank plan).toOption.getD zeroHash

def approvals : ConsentFinalDestructionApprovalBundleV1 :=
  ⟨consentFinalDestructionApprovalBundleSchema, planFingerprint, [⟨witness, 90500, signature⟩]⟩

def readiness : ConsentFinalDestructionReadinessV1 where
  schema := consentFinalDestructionReadinessSchema
  ledgerEpochId := zeroHash
  destructionId := .replicate 16 5
  planFingerprint := planFingerprint
  approvalBundleFingerprint :=
    (consentFinalDestructionApprovalBundleFingerprint blank approvals).toOption.getD zeroHash
  custodyBundleFingerprint := plan.custodyBundleFingerprint
  protectedInventoryDigest := inventoryDigest
  packageDirectory := "/p"
  candidateCount := 1
  readyAtUnixSecs := 91000
  expiresAtUnixSecs := 93600
  signature := signature

def log : List (FixedBytes 32 × Bytes) :=
  [(authority, (consentPurgeRetentionCertificateMessage certificate).toOption.getD []),
    (authority, (consentPurgeRetentionAnchorMessage anchor).toOption.getD []),
    (authority, (consentPurgeRetentionRenewalMessage renewal).toOption.getD []),
    (custodian, (consentPurgeCustodyAttestationMessage attestation).toOption.getD []),
    (authority, (consentFinalDestructionPlanMessage plan).toOption.getD []),
    (witness, consentFinalDestructionApprovalMessage planFingerprint 90500),
    (authority, (consentFinalDestructionReadinessMessage readiness).toOption.getD [])]

def crypto : Crypto := bincodeCrypto (recordScheme signature log) digest

def key : crypto.ed25519.VerifyingKey := ⟨authority, rfl⟩

lemma chain_verifies :
    verifyRetentionRenewalChain crypto disk certificate anchor [renewal] key 90000 =
      .ok 172800 := by
  decide +kernel

lemma subject_without_renewal :
    verifyRetentionSubject crypto disk certificate anchor [] key 90000 = .ok subject := by
  decide +kernel

lemma plan_signed :
    ConsentFinalDestructionPlanV1.sign crypto disk (.replicate 16 5) certificate subject
      custody [custodian] 1 authority 90000 93600 = .ok plan := by
  decide +kernel

lemma readiness_verifies :
    readiness.verify crypto plan approvals custody [witness] 1 key = .ok () := by
  decide +kernel

end SamplePackage

/-! ## The deadline that a plan keeps to -/

section Deadlines

variable {C} {plan : ConsentFinalDestructionPlanV1} {fs : FileSystem}
  {certificate : ConsentPurgeRetentionCertificateV1} {subject : ConsentPurgeRetentionSubjectV1}
  {custody : ConsentPurgeCustodyBundleV1} {trusted : List (FixedBytes 32)} {quorum : Nat}
  {publicKey : C.ed25519.VerifyingKey} {now : UInt64}

lemma retentionSatisfied_le_issued (h : plan.verifyAuthoritySignature C publicKey = .ok ()) :
    plan.retentionSatisfiedAtUnixSecs ≤ plan.issuedAtUnixSecs := by
  simp only [ConsentFinalDestructionPlanV1.verifyAuthoritySignature,
    ConsentFinalDestructionPlanV1.validateShape, bind_ok, failIf_ok, UInt64.not_lt] at h
  obtain ⟨_, ⟨_, -, _, -, _, -, _, -, _, -, _, -, _, hiss, -⟩, -⟩ := h
  exact hiss

lemma plan_verify_ok :
    plan.verify C fs certificate subject custody trusted quorum publicKey now = .ok () ↔
      plan.verifyAuthoritySignature C publicKey = .ok () ∧
      verifyRetentionEvidence C fs certificate subject publicKey = .ok () ∧
      custody.verifyQuorum C subject trusted quorum now maxPurgeCustodyFutureSkewSecs
        plan.expiresAtUnixSecs = .ok () ∧
      plan.issuedAtUnixSecs ≤ now ∧ now ≤ plan.expiresAtUnixSecs ∧
      plan.verifyIdentity C certificate subject custody = .ok () := by
  unfold ConsentFinalDestructionPlanV1.verify
  simp only [guard_bind_ok, failIf_ok, mapError_ok, UInt64.not_lt]

lemma verifyIdentity_ok : plan.verifyIdentity C certificate subject custody = .ok () ↔
      (plan.ledgerEpochId = subject.ledgerEpochId ∧
        plan.retentionBaseCertificateFingerprint = subject.baseCertificateFingerprint ∧
        plan.retentionObligationFingerprint = subject.obligationFingerprint ∧
        plan.retentionAnchorFingerprint = subject.anchorFingerprint) ∧
      consentPurgeCustodyBundleFingerprint C custody = .ok plan.custodyBundleFingerprint ∧
      plan.protectedInventoryDigest = subject.protectedInventoryDigest ∧
      plan.packageDirectory = subject.packageDirectory ∧
      plan.candidates = certificate.protectedArtifacts ∧
      plan.retentionSatisfiedAtUnixSecs = subject.retainUntilUnixSecs := by
  unfold ConsentFinalDestructionPlanV1.verifyIdentity
  rw [guard_bind_ok]
  simp only [bind_ok, failIf_ok, mapError_ok, not_or, not_not, ne_eq]
  constructor
  · rintro ⟨hsub, _, hcus, rfl, hrest⟩
    exact ⟨hsub, hcus, hrest⟩
  · rintro ⟨hsub, hcus, hrest⟩
    exact ⟨hsub, _, hcus, rfl, hrest⟩

lemma retainUntil_le_issued
    (h : plan.verify C fs certificate subject custody trusted quorum publicKey now = .ok ()) :
    subject.retainUntilUnixSecs ≤ plan.issuedAtUnixSecs := by
  obtain ⟨hsig, _, _, _, _, hide⟩ := plan_verify_ok.mp h
  obtain ⟨_, _, _, _, _, hsat⟩ := verifyIdentity_ok.mp hide
  rw [← hsat]
  exact retentionSatisfied_le_issued hsig

end Deadlines

variable {C} in
/-- Renewals out of a chain that verifies are a subject's only as a beginning of the chain. The
subject then has the deadline that this beginning reaches, which is the one of the chain exactly
when nothing is left out, and no plan for it is from before its deadline. -/
theorem no_plan_before_presented_deadline {fs fs' : FileSystem}
    {certificate : ConsentPurgeRetentionCertificateV1} {anchor : ConsentPurgeRetentionAnchorV1}
    {renewals presented : List ConsentPurgeRetentionRenewalV1}
    {publicKey : C.ed25519.VerifyingKey} {now now' deadline : UInt64}
    {subject : ConsentPurgeRetentionSubjectV1}
    (hchain : verifyRetentionRenewalChain C fs certificate anchor renewals publicKey now =
      .ok deadline)
    (hpart : ∀ renewal ∈ presented, renewal ∈ renewals)
    (hsubject : verifyRetentionSubject C fs' certificate anchor presented publicKey now' =
      .ok subject) :
    presented <+: renewals ∧
    subject.retainUntilUnixSecs = lastDeadline certificate.retainUntilUnixSecs presented ∧
    certificate.retainUntilUnixSecs ≤ subject.retainUntilUnixSecs ∧
    subject.retainUntilUnixSecs ≤ deadline ∧
    (subject.retainUntilUnixSecs = deadline ↔ presented = renewals) ∧
    ∀ (plan : ConsentFinalDestructionPlanV1) (fs'' : FileSystem)
      (custody : ConsentPurgeCustodyBundleV1) (trusted : List (FixedBytes 32)) (quorum : Nat)
      (publicKey' : C.ed25519.VerifyingKey) (now'' : UInt64),
      plan.verify C fs'' certificate subject custody trusted quorum publicKey' now'' = .ok () →
      subject.retainUntilUnixSecs ≤ plan.issuedAtUnixSecs := by
  obtain ⟨_, _, _, base, inventory, hbase, hinventory, hrenewals⟩ :=
    verifyRetentionRenewalChain_ok.mp hchain
  obtain ⟨_, _, _, base', inventory', hbase', hinventory', hpresented⟩ :=
    verifyRetentionRenewalChain_ok.mp (retainUntil_of_verifyRetentionSubject hsubject)
  obtain rfl : base = base' := Except.ok.inj (hbase.symm.trans hbase')
  obtain rfl : inventory = inventory' := Except.ok.inj (hinventory.symm.trans hinventory')
  have hlast := deadline_eq_last hpresented
  have h := prefix_of_verifyRenewals hrenewals hpresented hpart
  -- what is left out of the chain is checked from the deadline of the subject on
  obtain ⟨more, rfl⟩ := h
  obtain ⟨_, next, _, hmore⟩ := verifyRenewals_append.mp hrenewals
  rw [← hlast] at hmore
  refine ⟨⟨more, rfl⟩, hlast, start_le_deadline hpresented, start_le_deadline hmore, ?_, ?_⟩
  · constructor
    · intro heq
      by_contra hne
      have hleft : more ≠ [] := by
        rintro rfl
        exact hne (List.append_nil presented).symm
      have hlt := deadline_lt_of_ne_nil hmore hleft
      rw [heq] at hlt
      exact UInt64.lt_irrefl _ hlt
    · intro heq
      obtain rfl : more = [] := List.append_right_eq_self.mp heq.symm
      cases hmore
      rfl
  · intro plan fs'' custody trusted quorum publicKey' now'' hplan
    exact retainUntil_le_issued hplan

namespace SamplePackage

/-- With the renewal the package is kept for a second day. Who does not present it gets a subject
from which a plan of that second day is accepted. -/
theorem plan_accepted_before_renewed_deadline :
    verifyRetentionRenewalChain crypto disk certificate anchor [renewal] key 90000 = .ok 172800 ∧
    verifyRetentionSubject crypto disk certificate anchor [] key 90000 = .ok subject ∧
    plan.issuedAtUnixSecs < 172800 ∧
    plan.verify crypto disk certificate subject custody [custodian] 1 key 90000 = .ok () :=
  ⟨chain_verifies, subject_without_renewal, by decide, by decide +kernel⟩

theorem no_plan_before_presented_deadline_sample :
    ([] : List ConsentPurgeRetentionRenewalV1) <+: [renewal] ∧
    ¬ subject.retainUntilUnixSecs = 172800 ∧
    ∀ (plan : ConsentFinalDestructionPlanV1) (fs : FileSystem)
      (custody : ConsentPurgeCustodyBundleV1) (trusted : List (FixedBytes 32)) (quorum : Nat)
      (now : UInt64),
      plan.verify crypto fs certificate subject custody trusted quorum key now = .ok () →
      86400 ≤ plan.issuedAtUnixSecs := by
  obtain ⟨hpre, _, _, _, hwhole, hplans⟩ := no_plan_before_presented_deadline chain_verifies
    (fun _ hmem => (by cases hmem)) subject_without_renewal
  refine ⟨hpre, ?_, ?_⟩
  · intro heq
    cases hwhole.mp heq
  · intro plan fs custody trusted quorum now hplan
    exact hplans plan fs custody trusted quorum key now hplan

end SamplePackage

/-! ## Plans and readiness certificates that verify -/

/-- A quorum of witnesses: enough different trusted keys, each with a signed approval of this plan
from the time of the plan. -/
structure WitnessedBy (plan : ConsentFinalDestructionPlanV1) (trusted : List (FixedBytes 32))
    (minimumQuorum : Nat) (approvals : ConsentFinalDestructionApprovalBundleV1) : Prop where
  bound : consentFinalDestructionPlanFingerprint C plan = .ok approvals.planFingerprint
  positive : 0 < minimumQuorum
  enough : minimumQuorum ≤ approvals.approvals.length
  distinct : (approvals.approvals.map ApprovalV1.witnessPublicKey).Nodup
  each : ∀ a ∈ approvals.approvals, a.witnessPublicKey ∈ trusted ∧
    (plan.issuedAtUnixSecs ≤ a.approvedAtUnixSecs ∧ a.approvedAtUnixSecs ≤ plan.expiresAtUnixSecs) ∧
    C.ed25519.verifyBytes a.witnessPublicKey
      (consentFinalDestructionApprovalMessage approvals.planFingerprint a.approvedAtUnixSecs)
      a.signature = true

section Readiness

variable {C} {plan : ConsentFinalDestructionPlanV1} {fs fs' : FileSystem}
  {certificate : ConsentPurgeRetentionCertificateV1} {subject : ConsentPurgeRetentionSubjectV1}
  {custody presented : ConsentPurgeCustodyBundleV1} {trusted : List (FixedBytes 32)}
  {quorum : Nat} {publicKey : C.ed25519.VerifyingKey}
  {approvals : ConsentFinalDestructionApprovalBundleV1}
  {readiness : ConsentFinalDestructionReadinessV1} {fingerprint : FixedBytes 32}
  {before : List ApprovalV1} {a : ApprovalV1}

lemma checkDestructionApproval_ok :
    checkDestructionApproval C plan fingerprint trusted before a = .ok () ↔
      (¬ ∃ previous ∈ before.head?,
        ¬ previous.witnessPublicKey.toList < a.witnessPublicKey.toList) ∧
      a.witnessPublicKey ∉ before.map ApprovalV1.witnessPublicKey ∧ a.witnessPublicKey ∈ trusted ∧
      (plan.issuedAtUnixSecs ≤ a.approvedAtUnixSecs ∧
        a.approvedAtUnixSecs ≤ plan.expiresAtUnixSecs) ∧ C.ed25519.verifyBytes a.witnessPublicKey
        (consentFinalDestructionApprovalMessage fingerprint a.approvedAtUnixSecs) a.signature =
          true := by
  rw [SignatureScheme.verifyBytes_eq_true]
  unfold checkDestructionApproval
  rw [guard_bind_ok, guard_bind_ok, guard_bind_ok, guard_bind_ok, bind_ok]
  simp

lemma verifyFinalDestructionQuorum_ok :
    verifyFinalDestructionQuorum C approvals plan trusted quorum = .ok () ↔
      approvals.schema = consentFinalDestructionApprovalBundleSchema ∧
      consentFinalDestructionPlanFingerprint C plan = .ok approvals.planFingerprint ∧
      quorum ≠ 0 ∧ approvals.approvals.length ≤ maxFinalDestructionApprovals ∧
      checkEach (checkDestructionApproval C plan approvals.planFingerprint trusted) []
        approvals.approvals = .ok () ∧ quorum ≤ approvals.approvals.length := by
  unfold verifyFinalDestructionQuorum
  rw [guard_bind_ok, bind_ok]
  simp only [guard_bind_ok, failIf_ok, ne_eq, not_not, not_lt]
  grind

lemma witnessedBy_of_verifyQuorum
    (h : verifyFinalDestructionQuorum C approvals plan trusted quorum = .ok ()) :
    WitnessedBy C plan trusted quorum approvals := by
  obtain ⟨_, hfin, hpos, _, heach, heno⟩ := verifyFinalDestructionQuorum_ok.mp h
  refine ⟨hfin, Nat.pos_of_ne_zero hpos, heno, ?_, ?_⟩
  · exact (nodup_of_checkEach (fun _ _ hchk => (checkDestructionApproval_ok.mp hchk).2.1) heach
      List.nodup_nil).1
  · exact forall_of_checkEach (fun _ _ hchk => (checkDestructionApproval_ok.mp hchk).2.2) heach

lemma of_readiness_verify
    (h : readiness.verify C plan approvals presented trusted quorum publicKey = .ok ()) :
    WitnessedBy C plan trusted quorum approvals ∧
    (∀ a ∈ approvals.approvals, a.approvedAtUnixSecs ≤ readiness.readyAtUnixSecs) ∧
    (plan.issuedAtUnixSecs ≤ readiness.readyAtUnixSecs ∧
      readiness.readyAtUnixSecs ≤ plan.expiresAtUnixSecs) ∧
    ∃ message, consentFinalDestructionReadinessMessage readiness = .ok message ∧
      C.ed25519.verify publicKey message readiness.signature = true := by
  simp only [ConsentFinalDestructionReadinessV1.verify, bind_ok, failIf_ok, mapError_ok,
    not_or, not_exists, not_and, UInt64.not_lt, Bool.not_eq_false] at h
  obtain ⟨_, -, _, -, _, hquo, _, hafter, _, -, _, -, _, -, _, -, _, -, _, -, _, -, _,
    ⟨-, -, -, -, hiss, hexp, -⟩, message, hmsg, hverify⟩ := h
  exact ⟨witnessedBy_of_verifyQuorum hquo, hafter, ⟨hiss, hexp⟩, message, hmsg, hverify⟩

lemma verifyRetentionEvidence_congr (hfiles : PackageUnchanged certificate fs fs')
    (h : verifyRetentionEvidence C fs certificate subject publicKey = .ok ()) :
    verifyRetentionEvidence C fs' certificate subject publicKey = .ok () := by
  unfold verifyRetentionEvidence at h ⊢
  simp only [guard_bind_ok, mapError_ok] at h ⊢
  exact ⟨h.1, verifyProtectedInventoryFiles_congr hfiles h.2.1, h.2.2⟩

lemma of_plan_sign {destructionId : FixedBytes 16} {signingKey : C.ed25519.SigningKey}
    {issuedAt expiresAt : UInt64}
    (h : ConsentFinalDestructionPlanV1.sign C fs destructionId certificate subject custody trusted
      quorum signingKey issuedAt expiresAt = .ok plan) :
    plan.issuedAtUnixSecs = issuedAt ∧ plan.expiresAtUnixSecs = expiresAt ∧
    plan.verifyAuthoritySignature C (C.ed25519.verifyingKey signingKey) = .ok () ∧
    verifyRetentionEvidence C fs certificate subject (C.ed25519.verifyingKey signingKey) = .ok () ∧
    custody.verifyQuorum C subject trusted quorum issuedAt maxPurgeCustodyFutureSkewSecs
      expiresAt = .ok () ∧ plan.verifyIdentity C certificate subject custody = .ok () := by
  simp only [ConsentFinalDestructionPlanV1.sign, bind_ok, failIf_ok, mapError_ok, pure_ok] at h
  obtain ⟨_, hevi, _, -, _, hquo, custodyFingerprint, hcus, _, -, message, -, _, hsig, rfl⟩ := h
  exact ⟨rfl, rfl, hsig, hevi, hquo, verifyIdentity_ok.mpr
    ⟨⟨rfl, rfl, rfl, rfl⟩, hcus, rfl, rfl, rfl, rfl⟩⟩

end Readiness

variable {C} in
/-- A plan that could be signed verifies from its issue to its expiry, and a readiness certificate
that verifies for it comes with all that the plan and the approvals promise. -/
theorem signed_plan_stays_valid {signed : FixedBytes 32 → Set Bytes}
    (hunforgeable : C.ed25519.Unforgeable signed) {fs : FileSystem}
    {destructionId : FixedBytes 16} {certificate : ConsentPurgeRetentionCertificateV1}
    {subject : ConsentPurgeRetentionSubjectV1} {custody : ConsentPurgeCustodyBundleV1}
    {trustedCustodians : List (FixedBytes 32)} {custodyQuorum : Nat}
    {signingKey : C.ed25519.SigningKey} {issuedAt expiresAt : UInt64}
    {plan : ConsentFinalDestructionPlanV1}
    (hsign : ConsentFinalDestructionPlanV1.sign C fs destructionId certificate subject custody
      trustedCustodians custodyQuorum signingKey issuedAt expiresAt = .ok plan) :
    (plan.issuedAtUnixSecs = issuedAt ∧ plan.expiresAtUnixSecs = expiresAt) ∧
    (∀ (fs' : FileSystem) (now : UInt64), PackageUnchanged certificate fs fs' →
      issuedAt ≤ now → now ≤ expiresAt →
      plan.verify C fs' certificate subject custody trustedCustodians custodyQuorum
        (C.ed25519.verifyingKey signingKey) now = .ok ()) ∧
    ∀ (readiness : ConsentFinalDestructionReadinessV1)
      (approvals : ConsentFinalDestructionApprovalBundleV1)
      (presented : ConsentPurgeCustodyBundleV1) (trustedWitnesses : List (FixedBytes 32))
      (witnessQuorum : Nat),
      readiness.verify C plan approvals presented trustedWitnesses witnessQuorum
        (C.ed25519.verifyingKey signingKey) = .ok () →
      (issuedAt ≤ readiness.readyAtUnixSecs ∧ readiness.readyAtUnixSecs ≤ expiresAt) ∧
      (∀ a ∈ approvals.approvals, a.approvedAtUnixSecs ≤ readiness.readyAtUnixSecs) ∧
      subject.retainUntilUnixSecs ≤ issuedAt ∧
      plan.candidates = certificate.protectedArtifacts ∧
      InCustody C subject trustedCustodians custodyQuorum expiresAt custody ∧
      WitnessedBy C plan trustedWitnesses witnessQuorum approvals ∧
      (∃ message, consentFinalDestructionReadinessMessage readiness = .ok message ∧
        message ∈ signed (C.ed25519.verifyingKey signingKey).val) ∧
      (∀ a ∈ custody.attestations, ∃ message,
        consentPurgeCustodyAttestationMessage a = .ok message ∧
        message ∈ signed a.custodianPublicKey) ∧
      ∀ a ∈ approvals.approvals,
        consentFinalDestructionApprovalMessage approvals.planFingerprint a.approvedAtUnixSecs ∈
          signed a.witnessPublicKey := by
  obtain ⟨rfl, rfl, hsignature, hevidence, hquorum, hidentity⟩ := of_plan_sign hsign
  have hcustody := inCustody_of_verifyQuorum hquorum
  refine ⟨⟨rfl, rfl⟩, ?_, ?_⟩
  · intro fs' now hfiles hissued hexpires
    exact plan_verify_ok.mpr ⟨hsignature, verifyRetentionEvidence_congr hfiles hevidence,
      verifyQuorum_later hquorum hissued hexpires, hissued, hexpires, hidentity⟩
  · intro readiness approvals presented trustedWitnesses witnessQuorum hready
    obtain ⟨hwitnessed, hafter, hwindow, message, hmessage, hverify⟩ := of_readiness_verify hready
    obtain ⟨_, _, _, _, hcandidates, hsatisfied⟩ := verifyIdentity_ok.mp hidentity
    refine ⟨hwindow, hafter, ?_, hcandidates, hcustody, hwitnessed,
      ⟨message, hmessage, hunforgeable _ _ _ hverify⟩, ?_, ?_⟩
    · rw [← hsatisfied]
      exact retentionSatisfied_le_issued hsignature
    · intro a ha
      obtain ⟨_, _, _, _, attested, hattested, hsigned⟩ := hcustody.each a ha
      exact ⟨attested, hattested, hunforgeable.of_verifyBytes hsigned⟩
    · intro a ha
      exact hunforgeable.of_verifyBytes (hwitnessed.each a ha).2.2

namespace SamplePackage

theorem signed_plan_stays_valid_sample :
    plan.verify crypto disk certificate subject custody [custodian] 1 key 93600 = .ok () ∧
    readiness.verify crypto plan approvals custody [witness] 1 key = .ok () ∧
    InCustody crypto subject [custodian] 1 93600 custody ∧
    WitnessedBy crypto plan [witness] 1 approvals := by
  obtain ⟨_, hstays, hready⟩ :=
    signed_plan_stays_valid (recordScheme_unforgeable signature log) plan_signed
  obtain ⟨_, _, _, _, hcustody, hwitnessed, _⟩ :=
    hready readiness approvals custody [witness] 1 readiness_verifies
  exact ⟨hstays disk 93600 PackageUnchanged.refl (by decide) (by decide), readiness_verifies,
    hcustody, hwitnessed⟩

end SamplePackage

end XeniaPeer.Consent
