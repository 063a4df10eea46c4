import XeniaPeer.Consent.Purge

/-!
# Retention of rollback packages

`consent_purge_retention.rs`: the ledger authority signs which files of a rollback package are kept
and until when, an anchor joins that certificate with its witnesses, and renewals move the deadline.
-/

namespace XeniaPeer.Consent

open Foundation Foundation.FileSystem Ledger

/-! ## Records -/

def consentPurgeRetentionCertificateSchema : String :=
  "xenia-consent-purge-retention-certificate-v1"

def minPurgeRollbackRetentionSecs : UInt64 := 24 * 60 * 60

def maxPurgeRollbackRetentionSecs : Nat := 10 * 365 * 24 * 60 * 60

def maxPurgeRetentionArtifacts : Nat := 64

def consentPurgeRetentionAnchorSchema : String := "xenia-consent-purge-retention-anchor-v1"

def consentPurgeRetentionRenewalSchema : String := "xenia-consent-purge-retention-renewal-v1"

def maxPurgeRetentionRenewals : Nat := 64

def maxPurgeRetentionRenewalFutureSkewSecs : Nat := 5 * 60

inductive ConsentPurgeProtectedArtifactRoleV1 where
  | rollbackArtifact
  | rollbackPackageManifest
  | recoveryJournal
  | purgeReceipt
deriving DecidableEq

def ConsentPurgeProtectedArtifactRoleV1.tag : ConsentPurgeProtectedArtifactRoleV1 → UInt8
  | .rollbackArtifact => 1
  | .rollbackPackageManifest => 2
  | .recoveryJournal => 3
  | .purgeReceipt => 4

structure ConsentPurgeProtectedArtifactV1 where
  role : ConsentPurgeProtectedArtifactRoleV1
  path : String
  byteLength : UInt64
  blake3Digest : FixedBytes 32
deriving DecidableEq

structure ConsentPurgeRetentionAnchorV1 where
  schema : String
  (ledgerEpochId certificateFingerprint witnessBundleFingerprint : FixedBytes 32)
  protectedInventoryDigest : FixedBytes 32
  packageDirectory : String
  (retainUntilUnixSecs anchoredAtUnixSecs : UInt64)
  signature : FixedBytes 64

structure ConsentPurgeRetentionRenewalV1 where
  schema : String
  (ledgerEpochId baseCertificateFingerprint previousRenewalFingerprint : FixedBytes 32)
  sequence : UInt32
  protectedInventoryDigest : FixedBytes 32
  packageDirectory : String
  (previousRetainUntilUnixSecs retainUntilUnixSecs issuedAtUnixSecs : UInt64)
  signature : FixedBytes 64
deriving DecidableEq

structure ConsentPurgeRetentionSubjectV1 where
  (ledgerEpochId baseCertificateFingerprint anchorFingerprint obligationFingerprint : FixedBytes 32)
  protectedInventoryDigest : FixedBytes 32
  packageDirectory : String
  retainUntilUnixSecs : UInt64
deriving DecidableEq

structure ConsentPurgeRetentionCertificateV1 where
  schema : String
  (ledgerEpochId purgePlanFingerprint purgeApprovalBundleFingerprint : FixedBytes 32)
  (rollbackPackageFingerprint purgeReceiptFingerprint : FixedBytes 32)
  packageDirectory : String
  protectedArtifacts : List ConsentPurgeProtectedArtifactV1
  (retainedFromUnixSecs retainUntilUnixSecs issuedAtUnixSecs : UInt64)
  signature : FixedBytes 64

/-- The errors of the functions below; those of the witness bundle and the texts of system errors
are left out. -/
inductive ConsentPurgeRetentionError where
  | unsupportedCertificateSchema (schema : String)
  | invalidRetentionPeriod (minimum : UInt64) (maximum : Nat)
  | issuedBeforePurgeCompletion
  | retentionDeadlineBeforeIssuance
  | invalidCertificateSignature
  | invalidInventoryCount (maximum : Nat)
  | duplicateInventoryPath (path : String)
  | inventoryOrderMismatch
  | zeroInventoryDigest (path : String)
  | protectedArtifactMismatch (path : String)
  | protectedArtifactTooLarge (path : String) (maximum : Nat)
  | protectedArtifactOutsidePackage (path : String)
  | packageDirectoryNotPrivate (path : String)
  | unsupportedAnchorSchema (schema : String)
  | anchorIdentityMismatch
  | invalidAnchorSignature
  | unsupportedRenewalSchema (schema : String)
  | tooManyRenewals (count maximum : Nat)
  | renewalSequenceMismatch
  | renewalPredecessorMismatch
  | renewalIdentityMismatch
  | renewalAfterExpiry
  | renewalDoesNotExtend
  | renewalBeyondMaximumHorizon
  | renewalFromFuture
  | invalidRenewalSignature
  | encodingLengthOverflow
deriving DecidableEq

/-! ## Inventories -/

section Inventory

variable {ε : Type}

def ConsentPurgeProtectedArtifactV1.stamp (overflow : ε)
    (artifact : ConsentPurgeProtectedArtifactV1) : Except ε Bytes := do
  let path ← appendBytes overflow (utf8 artifact.path)
  pure ([artifact.role.tag] ++ (path ++ (u64Be artifact.byteLength ++
    artifact.blake3Digest.toList)))

def inventoryBytes (overflow : ε) (artifacts : List ConsentPurgeProtectedArtifactV1) :
    Except ε Bytes := do
  let count ← countBytes overflow artifacts.length
  let stamps ← artifacts.mapM (ConsentPurgeProtectedArtifactV1.stamp overflow)
  pure (count ++ stamps.flatten)

def ConsentPurgeProtectedArtifactV1.Below (a b : ConsentPurgeProtectedArtifactV1) : Prop :=
  a.path < b.path ∨ (a.path = b.path ∧ a.role.tag < b.role.tag)

instance (a b : ConsentPurgeProtectedArtifactV1) : Decidable (a.Below b) := by
  unfold ConsentPurgeProtectedArtifactV1.Below
  infer_instance

end Inventory

variable (C : Crypto)

def protectedInventoryDigest (artifacts : List ConsentPurgeProtectedArtifactV1) :
    Except ConsentPurgeRetentionError (FixedBytes 32) := do
  let bytes ← inventoryBytes .encodingLengthOverflow artifacts
  pure (C.blake3 (utf8 "xenia:consent-purge-protected-inventory:v1" ++ bytes))

/-! ## Certificates -/

def consentPurgeRetentionCertificateMessage (certificate : ConsentPurgeRetentionCertificateV1) :
    Except ConsentPurgeRetentionError Bytes := do
  failIf (certificate.schema ≠ consentPurgeRetentionCertificateSchema)
    (.unsupportedCertificateSchema certificate.schema)
  let schema ← appendBytes .encodingLengthOverflow (utf8 certificate.schema)
  let directory ← appendBytes .encodingLengthOverflow (utf8 certificate.packageDirectory)
  let inventory ← inventoryBytes .encodingLengthOverflow certificate.protectedArtifacts
  pure (utf8 "xenia:consent-purge-retention-certificate:v1" ++ (schema ++
    (certificate.ledgerEpochId.toList ++ (certificate.purgePlanFingerprint.toList ++
    (certificate.purgeApprovalBundleFingerprint.toList ++
    (certificate.rollbackPackageFingerprint.toList ++
    (certificate.purgeReceiptFingerprint.toList ++ (directory ++ (inventory ++
    (u64Be certificate.retainedFromUnixSecs ++ (u64Be certificate.retainUntilUnixSecs ++
    u64Be certificate.issuedAtUnixSecs)))))))))))

def consentPurgeRetentionCertificateFingerprint
    (certificate : ConsentPurgeRetentionCertificateV1) :
    Except ConsentPurgeRetentionError (FixedBytes 32) := do
  let message ← consentPurgeRetentionCertificateMessage certificate
  pure (C.blake3 (utf8 "xenia:consent-purge-retention-certificate-fingerprint:v1" ++ (message ++
    certificate.signature.toList)))

def checkProtectedArtifact (packageDirectory : String)
    (before : List ConsentPurgeProtectedArtifactV1) (artifact : ConsentPurgeProtectedArtifactV1) :
    Except ConsentPurgeRetentionError Unit := do
  failIf (artifact.blake3Digest = zeroHash) (.zeroInventoryDigest artifact.path)
  failIf (artifact.path ∈ before.map ConsentPurgeProtectedArtifactV1.path)
    (.duplicateInventoryPath artifact.path)
  failIf (startsWith artifact.path packageDirectory = false)
    (.protectedArtifactOutsidePackage artifact.path)
  failIf (∃ previous ∈ before.head?, ¬ previous.Below artifact) .inventoryOrderMismatch

namespace ConsentPurgeRetentionCertificateV1

def validateShape (certificate : ConsentPurgeRetentionCertificateV1) :
    Except ConsentPurgeRetentionError Unit := do
  failIf (certificate.schema ≠ consentPurgeRetentionCertificateSchema)
    (.unsupportedCertificateSchema certificate.schema)
  failIf (certificate.protectedArtifacts = [] ∨
    maxPurgeRetentionArtifacts < certificate.protectedArtifacts.length)
    (.invalidInventoryCount maxPurgeRetentionArtifacts)
  failIf (certificate.issuedAtUnixSecs < certificate.retainedFromUnixSecs)
    .issuedBeforePurgeCompletion
  failIf (certificate.retainUntilUnixSecs ≤ certificate.issuedAtUnixSecs)
    .retentionDeadlineBeforeIssuance
  let retentionSecs ← okOr
    (checkedSub certificate.retainUntilUnixSecs certificate.retainedFromUnixSecs)
    .retentionDeadlineBeforeIssuance
  failIf (retentionSecs < minPurgeRollbackRetentionSecs ∨
    maxPurgeRollbackRetentionSecs < retentionSecs.toNat)
    (.invalidRetentionPeriod minPurgeRollbackRetentionSecs maxPurgeRollbackRetentionSecs)
  checkEach (checkProtectedArtifact certificate.packageDirectory) []
    certificate.protectedArtifacts

def verifyAuthoritySignature (certificate : ConsentPurgeRetentionCertificateV1)
    (publicKey : C.ed25519.VerifyingKey) : Except ConsentPurgeRetentionError Unit := do
  certificate.validateShape
  let message ← consentPurgeRetentionCertificateMessage certificate
  failIf (C.ed25519.verify publicKey message certificate.signature = false)
    .invalidCertificateSignature

end ConsentPurgeRetentionCertificateV1

/-! ## The files on disk -/

def verifyPrivatePackageDirectory (path : String) (fs : FileSystem) :
    Except ConsentPurgeRetentionError Unit := do
  let canonical ← okOr (canonicalize path fs) (.packageDirectoryNotPrivate path)
  failIf (samePath canonical path = false) (.packageDirectoryNotPrivate path)
  let p ← okOr (resolve path) (.packageDirectoryNotPrivate path)
  let dir ← okOr (fs.dirs p) (.packageDirectoryNotPrivate path)
  failIf (dir.mode &&& 0o077 ≠ 0) (.packageDirectoryNotPrivate path)

def hashRegularFile (path : String) (fs : FileSystem) :
    Except ConsentPurgeRetentionError (UInt64 × FixedBytes 32) := do
  let p ← okOr (resolve path) (.protectedArtifactMismatch path)
  failIf (fs.hasDir p = true) (.protectedArtifactMismatch path)
  match fs.node? p with
  | some (.file bytes) => do
    failIf (maxPurgeArtifactBytes < bytes.length)
      (.protectedArtifactTooLarge path maxPurgeArtifactBytes)
    pure (UInt64.ofNat bytes.length, C.blake3 bytes)
  | _ => .error (.protectedArtifactMismatch path)

def verifyProtectedFile (fs : FileSystem) (artifact : ConsentPurgeProtectedArtifactV1) :
    Except ConsentPurgeRetentionError Unit := do
  let (byteLength, blake3Digest) ← hashRegularFile C artifact.path fs
  failIf (byteLength ≠ artifact.byteLength ∨ blake3Digest ≠ artifact.blake3Digest)
    (.protectedArtifactMismatch artifact.path)

def verifyProtectedInventoryFiles (fs : FileSystem)
    (certificate : ConsentPurgeRetentionCertificateV1) :
    Except ConsentPurgeRetentionError Unit := do
  certificate.validateShape
  verifyPrivatePackageDirectory certificate.packageDirectory fs
  certificate.protectedArtifacts.forM (verifyProtectedFile C fs)

/-! ## Anchors -/

section

variable (anchor : ConsentPurgeRetentionAnchorV1)

def consentPurgeRetentionAnchorMessage : Except ConsentPurgeRetentionError Bytes := do
  failIf (anchor.schema ≠ consentPurgeRetentionAnchorSchema)
    (.unsupportedAnchorSchema anchor.schema)
  let schema ← appendBytes .encodingLengthOverflow (utf8 anchor.schema)
  let directory ← appendBytes .encodingLengthOverflow (utf8 anchor.packageDirectory)
  pure (utf8 "xenia:consent-purge-retention-anchor:v1" ++ (schema ++
    (anchor.ledgerEpochId.toList ++ (anchor.certificateFingerprint.toList ++
    (anchor.witnessBundleFingerprint.toList ++ (anchor.protectedInventoryDigest.toList ++
    (directory ++ (u64Be anchor.retainUntilUnixSecs ++ u64Be anchor.anchoredAtUnixSecs))))))))

def consentPurgeRetentionAnchorFingerprint : Except ConsentPurgeRetentionError (FixedBytes 32) := do
  let message ← consentPurgeRetentionAnchorMessage anchor
  pure (C.blake3 (utf8 "xenia:consent-purge-retention-anchor-fingerprint:v1" ++ (message ++
    anchor.signature.toList)))

def ConsentPurgeRetentionAnchorV1.verifyAuthoritySignature (publicKey : C.ed25519.VerifyingKey) :
    Except ConsentPurgeRetentionError Unit := do
  failIf (anchor.schema ≠ consentPurgeRetentionAnchorSchema)
    (.unsupportedAnchorSchema anchor.schema)
  let message ← consentPurgeRetentionAnchorMessage anchor
  failIf (C.ed25519.verify publicKey message anchor.signature = false) .invalidAnchorSignature

end

def verifyRetentionAnchorIdentity (certificate : ConsentPurgeRetentionCertificateV1)
    (anchor : ConsentPurgeRetentionAnchorV1) (publicKey : C.ed25519.VerifyingKey) :
    Except ConsentPurgeRetentionError Unit := do
  certificate.verifyAuthoritySignature C publicKey
  anchor.verifyAuthoritySignature C publicKey
  -- one condition in the source; the fingerprints are computed only when they are compared
  failIf (anchor.ledgerEpochId ≠ certificate.ledgerEpochId) .anchorIdentityMismatch
  let certificateFingerprint ← consentPurgeRetentionCertificateFingerprint C certificate
  failIf (anchor.certificateFingerprint ≠ certificateFingerprint) .anchorIdentityMismatch
  let inventoryDigest ← protectedInventoryDigest C certificate.protectedArtifacts
  failIf (anchor.protectedInventoryDigest ≠ inventoryDigest ∨
    anchor.packageDirectory ≠ certificate.packageDirectory ∨
    anchor.retainUntilUnixSecs ≠ certificate.retainUntilUnixSecs) .anchorIdentityMismatch

/-! ## Renewals -/

def consentPurgeRetentionRenewalMessage (renewal : ConsentPurgeRetentionRenewalV1) :
    Except ConsentPurgeRetentionError Bytes := do
  failIf (renewal.schema ≠ consentPurgeRetentionRenewalSchema)
    (.unsupportedRenewalSchema renewal.schema)
  let schema ← appendBytes .encodingLengthOverflow (utf8 renewal.schema)
  let directory ← appendBytes .encodingLengthOverflow (utf8 renewal.packageDirectory)
  pure (utf8 "xenia:consent-purge-retention-renewal:v1" ++ (schema ++
    (renewal.ledgerEpochId.toList ++ (renewal.baseCertificateFingerprint.toList ++
    (renewal.previousRenewalFingerprint.toList ++ (beBytes 4 renewal.sequence.toNat ++
    (renewal.protectedInventoryDigest.toList ++ (directory ++
    (u64Be renewal.previousRetainUntilUnixSecs ++ (u64Be renewal.retainUntilUnixSecs ++
    u64Be renewal.issuedAtUnixSecs))))))))))

def consentPurgeRetentionRenewalFingerprint (renewal : ConsentPurgeRetentionRenewalV1) :
    Except ConsentPurgeRetentionError (FixedBytes 32) := do
  let message ← consentPurgeRetentionRenewalMessage renewal
  pure (C.blake3 (utf8 "xenia:consent-purge-retention-renewal-fingerprint:v1" ++ (message ++
    renewal.signature.toList)))

namespace ConsentPurgeRetentionRenewalV1

def verifyAuthoritySignature (renewal : ConsentPurgeRetentionRenewalV1)
    (publicKey : C.ed25519.VerifyingKey) : Except ConsentPurgeRetentionError Unit := do
  failIf (renewal.schema ≠ consentPurgeRetentionRenewalSchema)
    (.unsupportedRenewalSchema renewal.schema)
  let message ← consentPurgeRetentionRenewalMessage renewal
  failIf (C.ed25519.verify publicKey message renewal.signature = false) .invalidRenewalSignature

def validateShape (renewal : ConsentPurgeRetentionRenewalV1)
    (certificate : ConsentPurgeRetentionCertificateV1) :
    Except ConsentPurgeRetentionError Unit := do
  failIf (renewal.schema ≠ consentPurgeRetentionRenewalSchema)
    (.unsupportedRenewalSchema renewal.schema)
  failIf (renewal.sequence = 0) .renewalSequenceMismatch
  failIf (renewal.retainUntilUnixSecs ≤ renewal.previousRetainUntilUnixSecs)
    .renewalDoesNotExtend
  failIf (renewal.previousRetainUntilUnixSecs < renewal.issuedAtUnixSecs) .renewalAfterExpiry
  let maximumDeadline ← okOr
    (checkedAdd certificate.retainedFromUnixSecs maxPurgeRollbackRetentionSecs)
    .renewalBeyondMaximumHorizon
  failIf (maximumDeadline < renewal.retainUntilUnixSecs) .renewalBeyondMaximumHorizon

end ConsentPurgeRetentionRenewalV1

structure RenewalBase where
  (certificateFingerprint inventoryDigest : FixedBytes 32)

def verifyRenewal (certificate : ConsentPurgeRetentionCertificateV1) (base : RenewalBase)
    (publicKey : C.ed25519.VerifyingKey) (nowUnixSecs : UInt64) (index : Nat)
    (previousFingerprint : FixedBytes 32) (previousDeadline : UInt64)
    (renewal : ConsentPurgeRetentionRenewalV1) : Except ConsentPurgeRetentionError Unit := do
  renewal.verifyAuthoritySignature C publicKey
  renewal.validateShape certificate
  let expectedSequence ← okOr
    (if index + 1 < 2 ^ 32 then some (UInt32.ofNat (index + 1)) else none)
    .renewalSequenceMismatch
  failIf (renewal.sequence ≠ expectedSequence) .renewalSequenceMismatch
  failIf (renewal.baseCertificateFingerprint ≠ base.certificateFingerprint ∨
    renewal.ledgerEpochId ≠ certificate.ledgerEpochId ∨
    renewal.protectedInventoryDigest ≠ base.inventoryDigest ∨
    renewal.packageDirectory ≠ certificate.packageDirectory) .renewalIdentityMismatch
  failIf (renewal.previousRenewalFingerprint ≠ previousFingerprint ∨
    renewal.previousRetainUntilUnixSecs ≠ previousDeadline) .renewalPredecessorMismatch
  failIf (saturatingAdd nowUnixSecs maxPurgeRetentionRenewalFutureSkewSecs <
    renewal.issuedAtUnixSecs) .renewalFromFuture

def verifyRenewals (certificate : ConsentPurgeRetentionCertificateV1) (base : RenewalBase)
    (publicKey : C.ed25519.VerifyingKey) (nowUnixSecs : UInt64) :
    Nat → FixedBytes 32 → UInt64 → List ConsentPurgeRetentionRenewalV1 →
      Except ConsentPurgeRetentionError UInt64
  | _, _, previousDeadline, [] => .ok previousDeadline
  | index, previousFingerprint, previousDeadline, renewal :: renewals => do
    verifyRenewal C certificate base publicKey nowUnixSecs index previousFingerprint
      previousDeadline renewal
    let fingerprint ← consentPurgeRetentionRenewalFingerprint C renewal
    verifyRenewals certificate base publicKey nowUnixSecs (index + 1) fingerprint
      renewal.retainUntilUnixSecs renewals

def verifyRetentionRenewalChain (fs : FileSystem)
    (certificate : ConsentPurgeRetentionCertificateV1) (anchor : ConsentPurgeRetentionAnchorV1)
    (renewals : List ConsentPurgeRetentionRenewalV1) (publicKey : C.ed25519.VerifyingKey)
    (nowUnixSecs : UInt64) : Except ConsentPurgeRetentionError UInt64 := do
  failIf (maxPurgeRetentionRenewals < renewals.length)
    (.tooManyRenewals renewals.length maxPurgeRetentionRenewals)
  verifyRetentionAnchorIdentity C certificate anchor publicKey
  verifyProtectedInventoryFiles C fs certificate
  let certificateFingerprint ← consentPurgeRetentionCertificateFingerprint C certificate
  let inventoryDigest ← protectedInventoryDigest C certificate.protectedArtifacts
  verifyRenewals C certificate ⟨certificateFingerprint, inventoryDigest⟩ publicKey nowUnixSecs 0
    zeroHash certificate.retainUntilUnixSecs renewals

def consentPurgeRetentionObligationFingerprint (certificate : ConsentPurgeRetentionCertificateV1)
    (renewals : List ConsentPurgeRetentionRenewalV1) :
    Except ConsentPurgeRetentionError (FixedBytes 32) :=
  match renewals.getLast? with
  | some last => consentPurgeRetentionRenewalFingerprint C last
  | none => consentPurgeRetentionCertificateFingerprint C certificate

def verifyRetentionSubject (fs : FileSystem) (certificate : ConsentPurgeRetentionCertificateV1)
    (anchor : ConsentPurgeRetentionAnchorV1) (renewals : List ConsentPurgeRetentionRenewalV1)
    (publicKey : C.ed25519.VerifyingKey) (nowUnixSecs : UInt64) :
    Except ConsentPurgeRetentionError ConsentPurgeRetentionSubjectV1 := do
  let retainUntil ← verifyRetentionRenewalChain C fs certificate anchor renewals publicKey
    nowUnixSecs
  let base ← consentPurgeRetentionCertificateFingerprint C certificate
  let anchored ← consentPurgeRetentionAnchorFingerprint C anchor
  let obligation ← consentPurgeRetentionObligationFingerprint C certificate renewals
  let inventoryDigest ← protectedInventoryDigest C certificate.protectedArtifacts
  pure
    { ledgerEpochId := certificate.ledgerEpochId
      baseCertificateFingerprint := base
      anchorFingerprint := anchored
      obligationFingerprint := obligation
      protectedInventoryDigest := inventoryDigest
      packageDirectory := certificate.packageDirectory
      retainUntilUnixSecs := retainUntil }

/-! ## Files that stay as they are -/

def SameUnder (text : String) (fs fs' : FileSystem) : Prop :=
  ∀ p, resolve text = some p →
    fs'.node? p = fs.node? p ∧ (fs'.dirs p).map Directory.mode = (fs.dirs p).map Directory.mode

/-- The directory of the package and all protected files are as they were. -/
def PackageUnchanged (certificate : ConsentPurgeRetentionCertificateV1) (fs fs' : FileSystem) :
    Prop :=
  SameUnder certificate.packageDirectory fs fs' ∧
    ∀ artifact ∈ certificate.protectedArtifacts, SameUnder artifact.path fs fs'

variable {fs fs' : FileSystem} {certificate : ConsentPurgeRetentionCertificateV1}

section Unchanged

variable {C} {text : String}

lemma PackageUnchanged.refl : PackageUnchanged certificate fs fs :=
  ⟨fun _ _ => ⟨rfl, rfl⟩, fun _ _ _ _ => ⟨rfl, rfl⟩⟩

section

variable (h : SameUnder text fs fs')

include h

lemma SameUnder.hasDir {p : Path} (hp : resolve text = some p) : fs'.hasDir p = fs.hasDir p := by
  have hmode := congrArg Option.isSome (h p hp).2
  simpa [FileSystem.hasDir] using hmode

lemma SameUnder.canonicalize : Consent.canonicalize text fs' = Consent.canonicalize text fs := by
  unfold Consent.canonicalize
  cases hp : resolve text with
  | none => rfl
  | some p =>
    have hrea : fs'.reachable p = fs.reachable p := by
      unfold FileSystem.reachable
      rw [(h p hp).1, h.hasDir hp]
    simp only [Option.filter_some, hrea]

lemma hashRegularFile_congr : hashRegularFile C text fs' = hashRegularFile C text fs := by
  unfold hashRegularFile
  cases hp : resolve text with
  | none => rfl
  | some p =>
    show (failIf (fs'.hasDir p = true) _ >>= fun _ => _) = (failIf (fs.hasDir p = true) _ >>= _)
    rw [h.hasDir hp, (h p hp).1]

lemma verifyPrivatePackageDirectory_congr (hok : verifyPrivatePackageDirectory text fs = .ok ()) :
    verifyPrivatePackageDirectory text fs' = .ok () := by
  simp only [verifyPrivatePackageDirectory, bind_ok, failIf_ok, okOr_ok] at hok ⊢
  obtain ⟨canonical, hcan, _, hsame, p, hp, dir, hdir, hmode⟩ := hok
  have hmod := (h p hp).2
  rw [hdir, Option.map_some, Option.map_eq_some_iff] at hmod
  obtain ⟨dir', hdir', hmode'⟩ := hmod
  refine ⟨canonical, h.canonicalize.trans hcan, (), hsame, p, hp, dir', hdir', ?_⟩
  rw [hmode']
  exact hmode

end

lemma verifyProtectedInventoryFiles_congr (h : PackageUnchanged certificate fs fs')
    (hok : verifyProtectedInventoryFiles C fs certificate = .ok ()) :
    verifyProtectedInventoryFiles C fs' certificate = .ok () := by
  unfold verifyProtectedInventoryFiles at hok ⊢
  rw [guard_bind_ok, guard_bind_ok, forM_ok] at hok ⊢
  obtain ⟨hsha, hdir, hfil⟩ := hok
  refine ⟨hsha, verifyPrivatePackageDirectory_congr h.1 hdir, ?_⟩
  intro artifact hmem
  unfold verifyProtectedFile
  rw [hashRegularFile_congr (h.2 artifact hmem)]
  exact hfil artifact hmem

end Unchanged

/-! ## What the deadline of a list of renewals is -/

def lastDeadline (start : UInt64) (renewals : List ConsentPurgeRetentionRenewalV1) : UInt64 :=
  renewals.foldl (fun _ renewal => renewal.retainUntilUnixSecs) start

def lastFingerprint (start : FixedBytes 32) (renewals : List ConsentPurgeRetentionRenewalV1) :
    Except ConsentPurgeRetentionError (FixedBytes 32) :=
  renewals.foldlM (fun _ renewal => consentPurgeRetentionRenewalFingerprint C renewal) start

variable {publicKey : C.ed25519.VerifyingKey} {now deadline : UInt64}
  {renewals : List ConsentPurgeRetentionRenewalV1}

section Renewals

variable {C} {base : RenewalBase} {index : Nat} {fingerprint : FixedBytes 32} {start : UInt64}
  {renewal : ConsentPurgeRetentionRenewalV1} {more : List ConsentPurgeRetentionRenewalV1}

lemma renewal_validateShape_ok : renewal.validateShape certificate = .ok () ↔
    renewal.schema = consentPurgeRetentionRenewalSchema ∧ renewal.sequence ≠ 0 ∧
    renewal.previousRetainUntilUnixSecs < renewal.retainUntilUnixSecs ∧
    renewal.issuedAtUnixSecs ≤ renewal.previousRetainUntilUnixSecs ∧
    ∃ maximum, checkedAdd certificate.retainedFromUnixSecs maxPurgeRollbackRetentionSecs =
      some maximum ∧ renewal.retainUntilUnixSecs ≤ maximum := by
  unfold ConsentPurgeRetentionRenewalV1.validateShape
  rw [guard_bind_ok, guard_bind_ok, guard_bind_ok, guard_bind_ok, bind_ok]
  simp

/-- The check of one renewal: signature and shape, its place in the chain, what it is about, and
that it is not from the future. -/
lemma verifyRenewal_ok :
    verifyRenewal C certificate base publicKey now index fingerprint start renewal = .ok () ↔
      renewal.verifyAuthoritySignature C publicKey = .ok () ∧
      renewal.validateShape certificate = .ok () ∧ renewal.sequence.toNat = index + 1 ∧
      (renewal.baseCertificateFingerprint = base.certificateFingerprint ∧
        renewal.ledgerEpochId = certificate.ledgerEpochId ∧
        renewal.protectedInventoryDigest = base.inventoryDigest ∧
        renewal.packageDirectory = certificate.packageDirectory) ∧
      (renewal.previousRenewalFingerprint = fingerprint ∧
        renewal.previousRetainUntilUnixSecs = start) ∧
      renewal.issuedAtUnixSecs ≤ saturatingAdd now maxPurgeRetentionRenewalFutureSkewSecs := by
  have hsequence : (∃ expected, (if index + 1 < 2 ^ 32 then some (UInt32.ofNat (index + 1))
      else none) = some expected ∧ renewal.sequence = expected) ↔
        renewal.sequence.toNat = index + 1 := by
    constructor
    · rintro ⟨expected, hexpected, hseq⟩
      rw [hseq]
      split at hexpected
      · rename_i hlt
        cases hexpected
        exact UInt32.toNat_ofNat_of_lt' hlt
      · cases hexpected
    · intro hseq
      have hlt : index + 1 < 2 ^ 32 := hseq ▸ renewal.sequence.toNat_lt
      exact ⟨_, if_pos hlt, by rw [← hseq, UInt32.ofNat_toNat]⟩
  rw [← hsequence]
  unfold verifyRenewal
  rw [guard_bind_ok, guard_bind_ok, bind_ok]
  simp only [guard_bind_ok, okOr_ok, failIf_ok, ne_eq, not_or, not_not,
    UInt64.not_lt, ← exists_and_right, and_assoc]

lemma renewal_extends
    (h : verifyRenewal C certificate base publicKey now index fingerprint start renewal = .ok ()) :
    start < renewal.retainUntilUnixSecs := by
  obtain ⟨_, hshape, _, _, ⟨_, rfl⟩, _⟩ := verifyRenewal_ok.mp h
  exact (renewal_validateShape_ok.mp hshape).2.2.1

lemma verifyRenewals_cons :
    verifyRenewals C certificate base publicKey now index fingerprint start (renewal :: renewals) =
        .ok deadline ↔
      verifyRenewal C certificate base publicKey now index fingerprint start renewal = .ok () ∧
      ∃ next, consentPurgeRetentionRenewalFingerprint C renewal = .ok next ∧
        verifyRenewals C certificate base publicKey now (index + 1) next
          renewal.retainUntilUnixSecs renewals = .ok deadline := by
  rw [verifyRenewals, guard_bind_ok, bind_ok]

section

variable (h : verifyRenewals C certificate base publicKey now index fingerprint start renewals = .ok
  deadline)

include h

lemma deadline_eq_last : deadline = lastDeadline start renewals := by
  induction renewals generalizing index fingerprint start with
  | nil =>
    cases h
    rfl
  | cons renewal renewals ih =>
    obtain ⟨_, next, _, hrest⟩ := verifyRenewals_cons.mp h
    exact ih hrest

lemma deadline_lt_of_ne_nil (hne : renewals ≠ []) : start < deadline := by
  induction renewals generalizing index fingerprint start with
  | nil => exact absurd rfl hne
  | cons renewal renewals ih =>
    obtain ⟨hfirst, next, _, hrest⟩ := verifyRenewals_cons.mp h
    have hmov := renewal_extends hfirst
    by_cases hlast : renewals = []
    · subst hlast
      cases hrest
      exact hmov
    · exact UInt64.lt_trans hmov (ih hrest hlast)

lemma start_le_deadline : start ≤ deadline := by
  by_cases hnil : renewals = []
  · subst hnil
    cases h
    exact UInt64.le_refl _
  · exact UInt64.le_of_lt (deadline_lt_of_ne_nil h hnil)

lemma sequence_of_getElem? {i : Nat} (hi : renewals[i]? = some renewal) :
    renewal.sequence.toNat = index + i + 1 := by
  induction renewals generalizing index fingerprint start i with
  | nil => cases hi
  | cons first renewals ih =>
    obtain ⟨hfirst, next, _, hrest⟩ := verifyRenewals_cons.mp h
    cases i with
    | zero =>
      obtain rfl : first = renewal := by simpa using hi
      exact (verifyRenewal_ok.mp hfirst).2.2.1
    | succ i =>
      have hseq := ih hrest (by simpa using hi)
      omega

end

lemma verifyRenewals_append :
    verifyRenewals C certificate base publicKey now index fingerprint start (renewals ++ more) =
        .ok deadline ↔
      verifyRenewals C certificate base publicKey now index fingerprint start renewals =
        .ok (lastDeadline start renewals) ∧
      ∃ next, lastFingerprint C fingerprint renewals = .ok next ∧
        verifyRenewals C certificate base publicKey now (index + renewals.length) next
          (lastDeadline start renewals) more = .ok deadline := by
  induction renewals generalizing index fingerprint start with
  | nil => simp [verifyRenewals, lastDeadline, lastFingerprint]
  | cons renewal renewals ih =>
    have hindex : index + (renewal :: renewals).length = index + 1 + renewals.length := by
      rw [List.length_cons]
      omega
    have hlast : lastFingerprint C fingerprint (renewal :: renewals) =
        consentPurgeRetentionRenewalFingerprint C renewal >>= (lastFingerprint C · renewals) := rfl
    rw [List.cons_append, verifyRenewals_cons, verifyRenewals_cons, hindex, hlast]
    simp only [ih, bind_ok]
    constructor
    · rintro ⟨hfirst, next, hnext, hrest, last, hlast, hmore⟩
      exact ⟨⟨hfirst, next, hnext, hrest⟩, last, ⟨next, hnext, hlast⟩, hmore⟩
    · rintro ⟨⟨hfirst, next, hnext, hrest⟩, last, ⟨next', hnext', hlast⟩, hmore⟩
      obtain rfl := Except.ok.inj (hnext.symm.trans hnext')
      exact ⟨hfirst, next, hnext, hrest, last, hlast, hmore⟩

lemma prefix_of_verifyRenewals {presented : List ConsentPurgeRetentionRenewalV1}
    {now' start' deadline' : UInt64} {fingerprint' : FixedBytes 32}
    (h : verifyRenewals C certificate base publicKey now index fingerprint start renewals =
      .ok deadline)
    (hfirst : verifyRenewals C certificate base publicKey now' index fingerprint' start'
      presented = .ok deadline')
    (hpart : ∀ renewal ∈ presented, renewal ∈ renewals) : presented <+: renewals := by
  rw [List.prefix_iff_getElem?]
  intro i hi
  have hat : presented[i]? = some presented[i] := List.getElem?_eq_getElem hi
  obtain ⟨j, hj⟩ := List.mem_iff_getElem?.mp (hpart presented[i] (List.getElem_mem hi))
  -- the number of a renewal says where it stands in either list
  have hpl := sequence_of_getElem? hfirst hat
  have hpl' := sequence_of_getElem? h hj
  obtain rfl : i = j := by omega
  exact hj

end Renewals

section Chains

variable {C} {anchor : ConsentPurgeRetentionAnchorV1}

lemma verifyRetentionRenewalChain_ok :
    verifyRetentionRenewalChain C fs certificate anchor renewals publicKey now = .ok deadline ↔
      renewals.length ≤ maxPurgeRetentionRenewals ∧
      verifyRetentionAnchorIdentity C certificate anchor publicKey = .ok () ∧
      verifyProtectedInventoryFiles C fs certificate = .ok () ∧
      ∃ certificateFingerprint inventoryDigest,
        consentPurgeRetentionCertificateFingerprint C certificate = .ok certificateFingerprint ∧
        protectedInventoryDigest C certificate.protectedArtifacts = .ok inventoryDigest ∧
        verifyRenewals C certificate ⟨certificateFingerprint, inventoryDigest⟩ publicKey now 0
          zeroHash certificate.retainUntilUnixSecs renewals = .ok deadline := by
  unfold verifyRetentionRenewalChain
  rw [guard_bind_ok, guard_bind_ok, guard_bind_ok, failIf_ok, not_lt]
  simp only [bind_ok, exists_and_left]

lemma retainUntil_of_verifyRetentionSubject {subject : ConsentPurgeRetentionSubjectV1}
    (h : verifyRetentionSubject C fs certificate anchor renewals publicKey now = .ok subject) :
    verifyRetentionRenewalChain C fs certificate anchor renewals publicKey now =
      .ok subject.retainUntilUnixSecs := by
  simp only [verifyRetentionSubject, bind_ok, pure_ok] at h
  obtain ⟨retainUntil, hcha, _, -, _, -, _, -, _, -, rfl⟩ := h
  exact hcha

end Chains

end XeniaPeer.Consent
