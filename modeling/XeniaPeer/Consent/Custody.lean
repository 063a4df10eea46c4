import XeniaPeer.Consent.Retention

/-!
# Custody of rollback packages

`consent_purge_custody.rs`: independent custodians attest that they hold a copy of the package of
one retention obligation and until when it is available. A bundle of attestations makes a quorum
when enough different trusted keys have signed for different replicas.
-/

namespace XeniaPeer.Consent

open Foundation Ledger

/-! ## Records -/

def consentPurgeCustodyAttestationSchema : String := "xenia-consent-purge-custody-attestation-v1"

def consentPurgeCustodyBundleSchema : String := "xenia-consent-purge-custody-bundle-v1"

def maxPurgeCustodyAttestations : Nat := 64

def maxPurgeCustodyLocatorBytes : Nat := 1024

def maxPurgeCustodyFutureSkewSecs : Nat := 5 * 60

inductive ConsentPurgeCustodyClassV1 where
  | offlineMedia
  | remoteVault
  | hardwareProtected

def ConsentPurgeCustodyClassV1.tag : ConsentPurgeCustodyClassV1 → UInt8
  | .offlineMedia => 1
  | .remoteVault => 2
  | .hardwareProtected => 3

structure ConsentPurgeCustodyAttestationV1 where
  schema : String
  (ledgerEpochId obligationFingerprint retentionAnchorFingerprint : FixedBytes 32)
  protectedInventoryDigest : FixedBytes 32
  packageDirectory : String
  custodyClass : ConsentPurgeCustodyClassV1
  custodyLocatorDigest : FixedBytes 32
  replicaId : FixedBytes 16
  (observedAtUnixSecs availableUntilUnixSecs : UInt64)
  custodianPublicKey : FixedBytes 32
  signature : FixedBytes 64

structure ConsentPurgeCustodyBundleV1 where
  schema : String
  (obligationFingerprint protectedInventoryDigest : FixedBytes 32)
  attestations : List ConsentPurgeCustodyAttestationV1

inductive ConsentPurgeCustodyError where
  | unsupportedAttestationSchema (schema : String)
  | unsupportedBundleSchema (schema : String)
  | invalidLocator (maximum : Nat)
  | zeroReplicaId
  | subjectMismatch
  | availabilityTooShort
  | invalidAvailabilityWindow
  | availabilityExpired
  | observationFromFuture
  | badCustodianPublicKey
  | invalidCustodySignature
  | bundleSubjectMismatch
  | duplicateCustodianKey
  | attestationOrderMismatch
  | duplicateReplicaId
  | untrustedCustodianKey
  | zeroCustodyQuorum
  | custodyQuorumNotMet (observed required : Nat)
  | tooManyAttestations (count maximum : Nat)
  | encodingLengthOverflow
deriving DecidableEq

variable (C : Crypto)

/-! ## Attestations -/

def consentPurgeCustodyAttestationMessage (attestation : ConsentPurgeCustodyAttestationV1) :
    Except ConsentPurgeCustodyError Bytes := do
  failIf (attestation.schema ≠ consentPurgeCustodyAttestationSchema)
    (.unsupportedAttestationSchema attestation.schema)
  let schema ← appendBytes .encodingLengthOverflow (utf8 attestation.schema)
  let directory ← appendBytes .encodingLengthOverflow (utf8 attestation.packageDirectory)
  pure (utf8 "xenia:consent-purge-custody-attestation:v1" ++ (schema ++
    (attestation.ledgerEpochId.toList ++ (attestation.obligationFingerprint.toList ++
    (attestation.retentionAnchorFingerprint.toList ++
    (attestation.protectedInventoryDigest.toList ++ (directory ++
    ([attestation.custodyClass.tag] ++ (attestation.custodyLocatorDigest.toList ++
    (attestation.replicaId.toList ++ (u64Be attestation.observedAtUnixSecs ++
    (u64Be attestation.availableUntilUnixSecs ++ attestation.custodianPublicKey.toList))))))))))))

def consentPurgeCustodyAttestationFingerprint (attestation : ConsentPurgeCustodyAttestationV1) :
    Except ConsentPurgeCustodyError (FixedBytes 32) := do
  let message ← consentPurgeCustodyAttestationMessage attestation
  pure (C.blake3 (utf8 "xenia:consent-purge-custody-attestation-fingerprint:v1" ++ (message ++
    attestation.signature.toList)))

namespace ConsentPurgeCustodyAttestationV1

def validateShape (attestation : ConsentPurgeCustodyAttestationV1) :
    Except ConsentPurgeCustodyError Unit := do
  failIf (attestation.schema ≠ consentPurgeCustodyAttestationSchema)
    (.unsupportedAttestationSchema attestation.schema)
  failIf (attestation.custodyLocatorDigest = zeroHash) (.invalidLocator maxPurgeCustodyLocatorBytes)
  failIf (attestation.replicaId = .replicate 16 0) .zeroReplicaId
  failIf (attestation.availableUntilUnixSecs ≤ attestation.observedAtUnixSecs)
    .invalidAvailabilityWindow

def verify (attestation : ConsentPurgeCustodyAttestationV1)
    (subject : ConsentPurgeRetentionSubjectV1) (nowUnixSecs : UInt64)
    (maximumFutureSkewSecs : Nat) : Except ConsentPurgeCustodyError Unit := do
  attestation.validateShape
  failIf (attestation.ledgerEpochId ≠ subject.ledgerEpochId ∨
    attestation.obligationFingerprint ≠ subject.obligationFingerprint ∨
    attestation.retentionAnchorFingerprint ≠ subject.anchorFingerprint ∨
    attestation.protectedInventoryDigest ≠ subject.protectedInventoryDigest ∨
    attestation.packageDirectory ≠ subject.packageDirectory) .subjectMismatch
  failIf (attestation.availableUntilUnixSecs < subject.retainUntilUnixSecs) .availabilityTooShort
  failIf (saturatingAdd nowUnixSecs maximumFutureSkewSecs < attestation.observedAtUnixSecs)
    .observationFromFuture
  failIf (attestation.availableUntilUnixSecs < nowUnixSecs) .availabilityExpired
  let publicKey ← okOr (C.ed25519.fromBytes attestation.custodianPublicKey) .badCustodianPublicKey
  let message ← consentPurgeCustodyAttestationMessage attestation
  failIf (C.ed25519.verify publicKey message attestation.signature = false)
    .invalidCustodySignature

end ConsentPurgeCustodyAttestationV1

/-! ## Bundles -/

def consentPurgeCustodyBundleFingerprint (bundle : ConsentPurgeCustodyBundleV1) :
    Except ConsentPurgeCustodyError (FixedBytes 32) := do
  failIf (bundle.schema ≠ consentPurgeCustodyBundleSchema) (.unsupportedBundleSchema bundle.schema)
  let count ← countBytes .encodingLengthOverflow bundle.attestations.length
  let fingerprints ← bundle.attestations.mapM (consentPurgeCustodyAttestationFingerprint C)
  pure (C.blake3 (utf8 "xenia:consent-purge-custody-bundle-fingerprint:v1" ++
    (bundle.obligationFingerprint.toList ++ (bundle.protectedInventoryDigest.toList ++ (count ++
    fingerprints.flatMap List.Vector.toList)))))

def checkAttestation (subject : ConsentPurgeRetentionSubjectV1)
    (trustedCustodianKeys : List (FixedBytes 32)) (nowUnixSecs : UInt64)
    (maximumFutureSkewSecs : Nat) (requiredAvailableUntil : UInt64)
    (before : List ConsentPurgeCustodyAttestationV1)
    (attestation : ConsentPurgeCustodyAttestationV1) : Except ConsentPurgeCustodyError Unit := do
  failIf (∃ previous ∈ before.head?,
    ¬ previous.custodianPublicKey.toList < attestation.custodianPublicKey.toList)
    .attestationOrderMismatch
  failIf (attestation.custodianPublicKey ∈
    before.map ConsentPurgeCustodyAttestationV1.custodianPublicKey) .duplicateCustodianKey
  failIf (attestation.replicaId ∈ before.map ConsentPurgeCustodyAttestationV1.replicaId)
    .duplicateReplicaId
  failIf (attestation.custodianPublicKey ∉ trustedCustodianKeys) .untrustedCustodianKey
  attestation.verify C subject nowUnixSecs maximumFutureSkewSecs
  failIf (attestation.availableUntilUnixSecs < requiredAvailableUntil) .availabilityTooShort

namespace ConsentPurgeCustodyBundleV1

section

variable (bundle : ConsentPurgeCustodyBundleV1) (subject : ConsentPurgeRetentionSubjectV1)

def validateSubject : Except ConsentPurgeCustodyError Unit := do
  failIf (bundle.schema ≠ consentPurgeCustodyBundleSchema) (.unsupportedBundleSchema bundle.schema)
  failIf (bundle.obligationFingerprint ≠ subject.obligationFingerprint ∨
    bundle.protectedInventoryDigest ≠ subject.protectedInventoryDigest) .bundleSubjectMismatch

def verifyQuorum (trustedCustodianKeys : List (FixedBytes 32)) (minimumQuorum : Nat)
    (nowUnixSecs : UInt64) (maximumFutureSkewSecs : Nat) (requiredAvailableUntil : UInt64) :
    Except ConsentPurgeCustodyError Unit := do
  bundle.validateSubject subject
  failIf (minimumQuorum = 0) .zeroCustodyQuorum
  failIf (maxPurgeCustodyAttestations < bundle.attestations.length)
    (.tooManyAttestations bundle.attestations.length maxPurgeCustodyAttestations)
  checkEach (checkAttestation C subject trustedCustodianKeys nowUnixSecs maximumFutureSkewSecs
    requiredAvailableUntil) [] bundle.attestations
  failIf (bundle.attestations.length < minimumQuorum)
    (.custodyQuorumNotMet bundle.attestations.length minimumQuorum)

end

end ConsentPurgeCustodyBundleV1

/-! ## What a quorum is -/

/-- A quorum of custodians: enough different trusted keys for different replicas, each with a
signed attestation for the obligation that reaches as far as is asked for. -/
structure InCustody (subject : ConsentPurgeRetentionSubjectV1) (trusted : List (FixedBytes 32))
    (minimumQuorum : Nat) (requiredUntil : UInt64) (bundle : ConsentPurgeCustodyBundleV1) :
    Prop where
  positive : 0 < minimumQuorum
  enough : minimumQuorum ≤ bundle.attestations.length
  distinct : (bundle.attestations.map ConsentPurgeCustodyAttestationV1.custodianPublicKey).Nodup
  replicas : (bundle.attestations.map ConsentPurgeCustodyAttestationV1.replicaId).Nodup
  each : ∀ a ∈ bundle.attestations, a.custodianPublicKey ∈ trusted ∧
    a.obligationFingerprint = subject.obligationFingerprint ∧
    a.protectedInventoryDigest = subject.protectedInventoryDigest ∧
    requiredUntil ≤ a.availableUntilUnixSecs ∧
    ∃ message, consentPurgeCustodyAttestationMessage a = .ok message ∧
      C.ed25519.verifyBytes a.custodianPublicKey message a.signature = true

section Quorum

variable {C} {subject : ConsentPurgeRetentionSubjectV1} {trusted : List (FixedBytes 32)}
  {minimumQuorum skew : Nat} {now later required : UInt64} {bundle : ConsentPurgeCustodyBundleV1}
  {before : List ConsentPurgeCustodyAttestationV1} {a : ConsentPurgeCustodyAttestationV1}

lemma attestation_verify_ok : a.verify C subject now skew = .ok () ↔ a.validateShape = .ok () ∧
    (a.ledgerEpochId = subject.ledgerEpochId ∧
      a.obligationFingerprint = subject.obligationFingerprint ∧
      a.retentionAnchorFingerprint = subject.anchorFingerprint ∧
      a.protectedInventoryDigest = subject.protectedInventoryDigest ∧
      a.packageDirectory = subject.packageDirectory) ∧
    subject.retainUntilUnixSecs ≤ a.availableUntilUnixSecs ∧
    a.observedAtUnixSecs ≤ saturatingAdd now skew ∧ now ≤ a.availableUntilUnixSecs ∧
    ∃ message, consentPurgeCustodyAttestationMessage a = .ok message ∧
      C.ed25519.verifyBytes a.custodianPublicKey message a.signature = true := by
  unfold ConsentPurgeCustodyAttestationV1.verify
  simp only [failIf_ok, not_or, not_not, ne_eq, UInt64.not_lt, bind_ok, okOr_ok,
    Bool.not_eq_false, SignatureScheme.verifyBytes_eq_true]
  grind

lemma checkAttestation_ok :
    checkAttestation C subject trusted now skew required before a = .ok () ↔
      (¬ ∃ previous ∈ before.head?,
        ¬ previous.custodianPublicKey.toList < a.custodianPublicKey.toList) ∧
      a.custodianPublicKey ∉ before.map ConsentPurgeCustodyAttestationV1.custodianPublicKey ∧
      a.replicaId ∉ before.map ConsentPurgeCustodyAttestationV1.replicaId ∧
      a.custodianPublicKey ∈ trusted ∧ a.verify C subject now skew = .ok () ∧
      required ≤ a.availableUntilUnixSecs := by
  unfold checkAttestation
  simp [guard_bind_ok]

lemma verifyQuorum_ok :
    bundle.verifyQuorum C subject trusted minimumQuorum now skew required = .ok () ↔
      bundle.validateSubject subject = .ok () ∧ minimumQuorum ≠ 0 ∧
      bundle.attestations.length ≤ maxPurgeCustodyAttestations ∧
      checkEach (checkAttestation C subject trusted now skew required) [] bundle.attestations =
        .ok () ∧ minimumQuorum ≤ bundle.attestations.length := by
  unfold ConsentPurgeCustodyBundleV1.verifyQuorum
  simp [guard_bind_ok]

lemma inCustody_of_verifyQuorum
    (h : bundle.verifyQuorum C subject trusted minimumQuorum now skew required = .ok ()) :
    InCustody C subject trusted minimumQuorum required bundle := by
  obtain ⟨_, hpos, _, heach, heno⟩ := verifyQuorum_ok.mp h
  refine ⟨Nat.pos_of_ne_zero hpos, heno, ?_, ?_, ?_⟩
  · exact (nodup_of_checkEach (fun _ _ hchk => (checkAttestation_ok.mp hchk).2.1) heach
      List.nodup_nil).1
  · exact (nodup_of_checkEach (fun _ _ hchk => (checkAttestation_ok.mp hchk).2.2.1) heach
      List.nodup_nil).1
  · refine forall_of_checkEach (fun before a hchk => ?_) heach
    obtain ⟨_, _, _, htru, hverify, hava⟩ := checkAttestation_ok.mp hchk
    obtain ⟨_, ⟨_, hobl, _, hinv, _⟩, _, _, _, hsig⟩ := attestation_verify_ok.mp hverify
    exact ⟨htru, hobl, hinv, hava, hsig⟩

lemma attestation_verify_later (h : a.verify C subject now skew = .ok ()) (hlater : now ≤ later)
    (hopen : later ≤ a.availableUntilUnixSecs) : a.verify C subject later skew = .ok () := by
  rw [attestation_verify_ok] at h ⊢
  obtain ⟨hsha, hsub, hlong, hobs, _, hsig⟩ := h
  exact ⟨hsha, hsub, hlong, UInt64.le_trans hobs (saturatingAdd_mono hlater), hopen, hsig⟩

lemma verifyQuorum_later
    (h : bundle.verifyQuorum C subject trusted minimumQuorum now skew required = .ok ())
    (hlater : now ≤ later) (hneed : later ≤ required) :
    bundle.verifyQuorum C subject trusted minimumQuorum later skew required = .ok () := by
  rw [verifyQuorum_ok] at h ⊢
  obtain ⟨hsub, hpos, hcount, heach, heno⟩ := h
  refine ⟨hsub, hpos, hcount, ?_, heno⟩
  apply checkEach_imp _ heach
  intro before a hchk
  rw [checkAttestation_ok] at hchk ⊢
  obtain ⟨hord, hkey, hrep, htru, hverify, hava⟩ := hchk
  exact ⟨hord, hkey, hrep, htru,
    attestation_verify_later hverify hlater (UInt64.le_trans hneed hava), hava⟩

end Quorum

end XeniaPeer.Consent
