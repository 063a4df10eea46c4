import XeniaPeer.Evidence.PolicyRoots
import XeniaPeer.Foundation.Looks
import XeniaPeer.Ledger.Evidence

/-!
# Where the trust anchors come from

The verifier of sealed evidence takes its trust anchors, the fingerprints of the transcript key and
of the ledger key, from a trust policy file, which a policy root can sign
(`resolve_sealed_evidence_trust_anchors` in `evidence_verifier.rs`, `m1_runtime.rs`).

Main result: `trust_anchors_signed_iff`.
-/

namespace XeniaPeer.Evidence

open Foundation Ledger

/-! ## Documents -/

structure SealedEvidenceTrustPolicy where
  (schema profile signatureSuite trustedTranscriptKeyFingerprintHex : String)
  trustedLedgerKeyFingerprintHex : String
  (policyId operatorId : Option String)
  policyEpoch : Option UInt64
  (validFrom validUntil : Option String)
  revokedPolicyIds : List String

structure SealedEvidenceTrustPolicySignature where
  (schema policySchema profile signatureSuite policyBlake3 : String)
  rootPublicKeyBinding : EvidencePublicKeyBinding
  signature : SignatureEnvelope

structure SealedEvidenceTrustAnchors where
  (trustedTranscriptKeyFingerprint trustedLedgerKeyFingerprint : FixedBytes 32)
deriving DecidableEq

structure SealedEvidencePolicyRootReceipt where
  (policyRootsPath policyRootsBlake3 policyRootId policyRootKeyFingerprintHex : String)
  (policyRootValidFrom policyRootValidUntil policyRootSupersedesRootId : Option String)

structure SealedEvidenceTrustPolicySignatureReceipt where
  (policySignaturePath policySignatureBlake3 policyRootKeyFingerprintHex : String)

structure SealedEvidenceTrustPolicyReceipt where
  (schema source profile signatureSuite : String)
  (policyPath policyBlake3 policyId operatorId : Option String)
  policyEpoch : Option UInt64
  (validFrom validUntil policySignaturePath policySignatureBlake3 : Option String)
  (policyRootKeyFingerprintHex policyRootsPath policyRootsBlake3 policyRootId : Option String)
  (policyRootValidFrom policyRootValidUntil policyRootSupersedesRootId : Option String)

inductive EvidenceVerifierSuite where
  | ed25519Rfc8032
  | mlDsa65Fips204
  | mlDsa87Fips204

namespace EvidenceVerifierSuite

def stableLabel : EvidenceVerifierSuite → String
  | ed25519Rfc8032 => "ed25519-rfc8032"
  | mlDsa65Fips204 => "ml-dsa-65-fips204"
  | mlDsa87Fips204 => "ml-dsa-87-fips204"

def isPostQuantum : EvidenceVerifierSuite → Bool
  | ed25519Rfc8032 => false
  | _ => true

end EvidenceVerifierSuite

structure SealedEvidenceTrustInputs where
  (trustPolicyPath trustPolicySignaturePath trustedPolicyRootFingerprintHex : Option String)
  (policyRootsPath requiredPolicyRootId trustedTranscriptKeyFingerprintHex : Option String)
  trustedLedgerKeyFingerprintHex : Option String
  suite : EvidenceVerifierSuite
  minimumPolicyEpoch : Option UInt64
  requireSignedPolicy : Bool

structure ResolvedSealedEvidenceTrust where
  (trustedTranscriptKeyFingerprint trustedLedgerKeyFingerprint : FixedBytes 32)
  trustPolicy : Option SealedEvidenceTrustPolicyReceipt

def ResolvedSealedEvidenceTrust.anchors (r : ResolvedSealedEvidenceTrust) :
    SealedEvidenceTrustAnchors :=
  ⟨r.trustedTranscriptKeyFingerprint, r.trustedLedgerKeyFingerprint⟩

/-- What the verifier is built from: the texts of the libraries and of the errors of the ledger
crate, BLAKE3, the JSON readers, and the two backends of the feature `pqc-signatures`. -/
structure Verifier where
  lib : TextLibrary
  crypto : Crypto
  policyFromSlice : Bytes → Option SealedEvidenceTrustPolicy
  signatureFromSlice : Bytes → Option SealedEvidenceTrustPolicySignature
  rootsFromSlice : Bytes → Option SealedEvidencePolicyRoots
  (mlDsa65 mlDsa87 : EvidenceSignatureBackend)
  showBindingError : EvidencePublicKeyBindingError → String
  showEnvelopeError : SignatureEnvelopeError → String
  showBackendError : EvidenceSignatureBackendError → String
  debugSuite : SignatureSuite → String

structure World where
  shown : Nat → String → Option Bytes
  now : Nat → Int

/-! ## Looks -/

section Model

variable (V : Verifier) (w : World)

def readFile (path : String) : Look M1RuntimeError Bytes :=
  .look fun n => okOr (w.shown n path) .io

def utcNow : Look M1RuntimeError Int := .look fun n => .ok (w.now n)

def readJson {α : Type} (fromSlice : Bytes → Option α) (path : String) : Look M1RuntimeError α := do
  let bytes ← readFile w path
  .check (okOr (fromSlice bytes) .json)

def blake3Hex (bytes : Bytes) : String :=
  V.lib.hexEncode (V.crypto.blake3 bytes).toList

def blake3FileHex (path : String) : Look M1RuntimeError String := do
  let bytes ← readFile w path
  pure (blake3Hex V bytes)

/-! ## The policy -/

section

variable (policy : SealedEvidenceTrustPolicy) (expectedSignatureSuite : String)

def requireSealedEvidenceTrustPolicyMinimumEpoch (minimumPolicyEpoch : UInt64) :
    Except M1RuntimeError Unit := do
  failIf (minimumPolicyEpoch = 0)
    (.evidenceManifest "minimum sealed evidence policy epoch must be greater than zero")
  let policyEpoch ← okOr policy.policyEpoch (.evidenceManifest
    ("sealed evidence trust policy does not declare policy_epoch; required minimum is " ++
      toString minimumPolicyEpoch))
  failIf (policyEpoch < minimumPolicyEpoch)
    (.evidenceManifest ("sealed evidence trust policy policy_epoch " ++ toString policyEpoch ++
      " is below required minimum " ++ toString minimumPolicyEpoch))

def requireSealedEvidenceTrustPolicyAt (now : Int) : Except M1RuntimeError Unit := do
  failIf (policy.schema ≠ "xenia-sealed-evidence-trust-policy-v1")
    (.evidenceManifest ("unsupported sealed evidence trust policy schema " ++
      V.lib.debug policy.schema))
  failIf (policy.profile ≠ "full-pqc-v1")
    (.evidenceManifest ("sealed evidence trust policy must require profile full-pqc-v1, found " ++
        V.lib.debug policy.profile))
  failIf (policy.signatureSuite ≠ expectedSignatureSuite)
    (.evidenceManifest ("sealed evidence trust policy signature suite " ++
      V.lib.debug policy.signatureSuite ++ " did not match selected verifier suite " ++
      V.lib.debug expectedSignatureSuite))
  failIf (policy.policyEpoch = some 0)
    (.evidenceManifest "sealed evidence trust policy policy_epoch must be greater than zero")
  policy.policyId.forM fun policyId => failIf (policyId ∈ policy.revokedPolicyIds)
    (.evidenceManifest ("sealed evidence trust policy id " ++ V.lib.debug policyId ++
      " is revoked by policy"))
  requireValidity V.lib "trust policy" "sealed evidence trust policy is not valid until "
    "sealed evidence trust policy expired at " policy.validFrom policy.validUntil now

def requireSealedEvidenceTrustPolicy : Look M1RuntimeError Unit := do
  let now ← utcNow w
  .check (requireSealedEvidenceTrustPolicyAt V policy expectedSignatureSuite now)

def policyAnchors : Except M1RuntimeError SealedEvidenceTrustAnchors := do
  let transcript ← parseTrustPolicyFingerprintHex V.lib "transcript"
    policy.trustedTranscriptKeyFingerprintHex
  let ledger ← parseTrustPolicyFingerprintHex V.lib "ledger" policy.trustedLedgerKeyFingerprintHex
  pure ⟨transcript, ledger⟩

def sealedEvidenceTrustPolicyAnchors : Look M1RuntimeError SealedEvidenceTrustAnchors := do
  requireSealedEvidenceTrustPolicy V w policy expectedSignatureSuite
  .check (policyAnchors V policy)

end

def sealedEvidenceTrustPolicyReceiptFile (path : String) (policy : SealedEvidenceTrustPolicy)
    (expectedSignatureSuite : String) :
    Look M1RuntimeError SealedEvidenceTrustPolicyReceipt := do
  requireSealedEvidenceTrustPolicy V w policy expectedSignatureSuite
  let policyBlake3 ← blake3FileHex V w path
  pure {
    schema := "xenia-sealed-evidence-trust-policy-receipt-v1"
    source := "enrolled-policy"
    profile := policy.profile
    signatureSuite := policy.signatureSuite
    policyPath := some path
    policyBlake3 := some policyBlake3
    policyId := policy.policyId
    operatorId := policy.operatorId
    policyEpoch := policy.policyEpoch
    validFrom := policy.validFrom
    validUntil := policy.validUntil
    policySignaturePath := none
    policySignatureBlake3 := none
    policyRootKeyFingerprintHex := none
    policyRootsPath := none
    policyRootsBlake3 := none
    policyRootId := none
    policyRootValidFrom := none
    policyRootValidUntil := none
    policyRootSupersedesRootId := none }

/-! ## The signature -/

def sealedEvidenceTrustPolicySignatureMessage (signature : SealedEvidenceTrustPolicySignature) :
    Bytes :=
  utf8 "xenia:sealed-evidence-trust-policy-signature:v1" ++ [0] ++
    utf8 signature.policySchema ++ [0] ++ utf8 signature.profile ++ [0] ++
    utf8 signature.signatureSuite ++ [0] ++ utf8 signature.policyBlake3

def requireTrustedKeyFingerprint (surface : String) (trusted bundle : FixedBytes 32) :
    Except M1RuntimeError Unit :=
  failIf (trusted ≠ bundle) (.trustedKeyFingerprintMismatch surface trusted bundle)

def requireSignatureDocument (signature : SealedEvidenceTrustPolicySignature)
    (expectedSignatureSuite : String) (trustedPolicyRootFingerprint : FixedBytes 32)
    (backend : EvidenceSignatureBackend) : Except M1RuntimeError Unit := do
  failIf (signature.schema ≠ "xenia-sealed-evidence-trust-policy-signature-v1")
    (.evidenceManifest ("unsupported sealed evidence trust policy signature schema " ++
      V.lib.debug signature.schema))
  failIf (signature.policySchema ≠ "xenia-sealed-evidence-trust-policy-v1")
    (.evidenceManifest
      ("sealed evidence trust policy signature covers unsupported policy schema " ++
        V.lib.debug signature.policySchema))
  failIf (signature.profile ≠ "full-pqc-v1")
    (.evidenceManifest
      ("sealed evidence trust policy signature must require profile full-pqc-v1, found " ++
        V.lib.debug signature.profile))
  failIf (signature.signatureSuite ≠ expectedSignatureSuite)
    (.evidenceManifest ("sealed evidence trust policy signature suite " ++
      V.lib.debug signature.signatureSuite ++ " did not match selected verifier suite " ++
      V.lib.debug expectedSignatureSuite))
  let signatureSuite ← okOr (SignatureSuite.fromStableLabel signature.signatureSuite)
    (.evidenceManifest ("unsupported sealed evidence trust policy signature suite " ++
      V.lib.debug signature.signatureSuite))
  (signature.rootPublicKeyBinding.validateAgainstSignatureSuiteAndBackend V.crypto signatureSuite
    backend).mapError fun err => .evidenceManifest
      ("sealed evidence trust policy root public key binding rejected: " ++ V.showBindingError err)
  requireTrustedKeyFingerprint "trust-policy-root" trustedPolicyRootFingerprint
    signature.rootPublicKeyBinding.publicKeyFingerprint
  let envelopeSuite ← signature.signature.validateShape.mapError fun err => .evidenceManifest
    ("sealed evidence trust policy signature envelope rejected: " ++ V.showEnvelopeError err)
  failIf (envelopeSuite ≠ signatureSuite)
    (.evidenceManifest ("sealed evidence trust policy signature envelope suite " ++
      V.debugSuite envelopeSuite ++ " did not match signature suite " ++
      V.debugSuite signatureSuite))

def requireSealedEvidenceTrustPolicySignature (signature : SealedEvidenceTrustPolicySignature)
    (expectedSignatureSuite policyPath : String) (trustedPolicyRootFingerprint : FixedBytes 32)
    (backend : EvidenceSignatureBackend) : Look M1RuntimeError Unit := do
  .check (requireSignatureDocument V signature expectedSignatureSuite trustedPolicyRootFingerprint
    backend)
  let policyBlake3 ← blake3FileHex V w policyPath
  .check (failIf (policyBlake3 ≠ signature.policyBlake3)
    (.evidenceManifest ("sealed evidence trust policy signature policy_blake3 " ++
      V.lib.debug signature.policyBlake3 ++ " did not match current policy file " ++
      V.lib.debug policyBlake3)))
  .check ((backend.verifySignature signature.rootPublicKeyBinding.publicKey
    (sealedEvidenceTrustPolicySignatureMessage signature)
    signature.signature.signature).mapError fun err => .evidenceManifest
      ("sealed evidence trust policy signature verification failed: " ++ V.showBackendError err))

def verifySealedEvidenceTrustPolicySignatureFileWithBackend
    (policyPath signaturePath expectedSignatureSuite : String)
    (trustedPolicyRootFingerprint : FixedBytes 32) (backend : EvidenceSignatureBackend) :
    Look M1RuntimeError SealedEvidenceTrustPolicySignatureReceipt := do
  let signature ← readJson w V.signatureFromSlice signaturePath
  requireSealedEvidenceTrustPolicySignature V w signature expectedSignatureSuite policyPath
    trustedPolicyRootFingerprint backend
  let policySignatureBlake3 ← blake3FileHex V w signaturePath
  pure ⟨signaturePath, policySignatureBlake3,
    V.lib.hexEncode signature.rootPublicKeyBinding.publicKeyFingerprint.toList⟩

def sealedEvidencePolicyRootReceiptFileForSignature
    (rootsPath signaturePath expectedSignatureSuite : String) (requiredRootId : Option String) :
    Look M1RuntimeError SealedEvidencePolicyRootReceipt := do
  let signature ← readJson w V.signatureFromSlice signaturePath
  let roots ← readJson w V.rootsFromSlice rootsPath
  let rootFingerprintHex :=
    V.lib.hexEncode signature.rootPublicKeyBinding.publicKeyFingerprint.toList
  let now ← utcNow w
  let root ← .check (requireSealedEvidencePolicyRootAt V.lib roots expectedSignatureSuite
    rootFingerprintHex requiredRootId now)
  let policyRootsBlake3 ← blake3FileHex V w rootsPath
  pure ⟨rootsPath, policyRootsBlake3, root.rootId, root.rootKeyFingerprintHex, root.validFrom,
    root.validUntil, root.supersedesRootId⟩

/-! ## Resolving -/

inductive ResolveError where
  | runtime (error : M1RuntimeError)
  | hex (error : String)
  | text (text : String)

def parseEvidenceKeyFingerprintHex (hexText : String) : Except ResolveError (FixedBytes 32) := do
  let bytes ← (V.lib.hexDecode hexText).mapError .hex
  okOr (FixedBytes.ofBytes? 32 bytes)
    (.text ("evidence key fingerprint must be exactly 32 bytes, found " ++ toString bytes.length))

def verifySealedEvidenceTrustPolicySignatureWithSelectedSuite (policyPath signaturePath : String)
    (suite : EvidenceVerifierSuite) (trustedPolicyRootFingerprint : FixedBytes 32) :
    Look ResolveError SealedEvidenceTrustPolicySignatureReceipt :=
  match suite with
  | .ed25519Rfc8032 => .check (.error
      (.text "sealed full-PQC evidence verification requires an ML-DSA verifier suite"))
  | .mlDsa65Fips204 => .mapError .runtime
      (verifySealedEvidenceTrustPolicySignatureFileWithBackend V w policyPath signaturePath
        suite.stableLabel trustedPolicyRootFingerprint V.mlDsa65)
  | .mlDsa87Fips204 => .mapError .runtime
      (verifySealedEvidenceTrustPolicySignatureFileWithBackend V w policyPath signaturePath
        suite.stableLabel trustedPolicyRootFingerprint V.mlDsa87)

section

variable (inputs : SealedEvidenceTrustInputs)

def trustedPolicyRoot (signaturePath : String) :
    Look ResolveError (FixedBytes 32 × Option SealedEvidencePolicyRootReceipt) :=
  match inputs.policyRootsPath with
  | some rootsPath => do
    .check (failIf (inputs.trustedPolicyRootFingerprintHex.isSome = true)
      (.text ("use either --sealed-evidence-policy-roots or " ++
        "--trusted-sealed-evidence-policy-root-fingerprint-hex, not both")))
    let receipt ← .mapError .runtime (sealedEvidencePolicyRootReceiptFileForSignature V w rootsPath
      signaturePath inputs.suite.stableLabel inputs.requiredPolicyRootId)
    let fingerprint ← .check (parseEvidenceKeyFingerprintHex V receipt.policyRootKeyFingerprintHex)
    pure (fingerprint, some receipt)
  | none => do
    .check (failIf (inputs.requiredPolicyRootId.isSome = true)
      (.text ("--required-sealed-evidence-policy-root-id requires " ++
        "--sealed-evidence-policy-roots")))
    let hexText ← .check (okOr inputs.trustedPolicyRootFingerprintHex
      (.text ("--sealed-evidence-trust-policy-signature requires either " ++
        "--sealed-evidence-policy-roots or " ++
        "--trusted-sealed-evidence-policy-root-fingerprint-hex")))
    let fingerprint ← .check (parseEvidenceKeyFingerprintHex V hexText)
    pure (fingerprint, none)

def attachSignatureReceipt (receipt : SealedEvidenceTrustPolicyReceipt)
    (signatureReceipt : SealedEvidenceTrustPolicySignatureReceipt) :
    SealedEvidenceTrustPolicyReceipt :=
  { receipt with
    source := "signed-enrolled-policy"
    policySignaturePath := some signatureReceipt.policySignaturePath
    policySignatureBlake3 := some signatureReceipt.policySignatureBlake3
    policyRootKeyFingerprintHex := some signatureReceipt.policyRootKeyFingerprintHex }

def attachRootReceipt (receipt : SealedEvidenceTrustPolicyReceipt)
    (rootReceipt : SealedEvidencePolicyRootReceipt) : SealedEvidenceTrustPolicyReceipt :=
  { receipt with
    policyRootsPath := some rootReceipt.policyRootsPath
    policyRootsBlake3 := some rootReceipt.policyRootsBlake3
    policyRootId := some rootReceipt.policyRootId
    policyRootValidFrom := rootReceipt.policyRootValidFrom
    policyRootValidUntil := rootReceipt.policyRootValidUntil
    policyRootSupersedesRootId := rootReceipt.policyRootSupersedesRootId }

def resolveSignature (path : String) (receipt : SealedEvidenceTrustPolicyReceipt) :
    Look ResolveError SealedEvidenceTrustPolicyReceipt :=
  match inputs.trustPolicySignaturePath with
  | some signaturePath => do
    let (fingerprint, rootReceipt) ← trustedPolicyRoot V w inputs signaturePath
    let signatureReceipt ← verifySealedEvidenceTrustPolicySignatureWithSelectedSuite V w path
      signaturePath inputs.suite fingerprint
    let signed := attachSignatureReceipt receipt signatureReceipt
    pure (match rootReceipt with
      | some rootReceipt => attachRootReceipt signed rootReceipt
      | none => signed)
  | none => .check (do
    failIf (inputs.requireSignedPolicy = true)
      (.text ("--require-signed-sealed-evidence-trust-policy requires " ++
        "--sealed-evidence-trust-policy-signature"))
    failIf (inputs.trustedPolicyRootFingerprintHex.isSome = true)
      (.text ("--trusted-sealed-evidence-policy-root-fingerprint-hex requires " ++
        "--sealed-evidence-trust-policy-signature"))
    failIf (inputs.policyRootsPath.isSome = true)
      (.text "--sealed-evidence-policy-roots requires --sealed-evidence-trust-policy-signature")
    failIf (inputs.requiredPolicyRootId.isSome = true)
      (.text ("--required-sealed-evidence-policy-root-id requires " ++
        "--sealed-evidence-policy-roots"))
    pure receipt)

def resolvePolicy (path : String) : Look ResolveError ResolvedSealedEvidenceTrust := do
  let policy ← .mapError .runtime (readJson w V.policyFromSlice path)
  .check ((inputs.minimumPolicyEpoch.forM
    (requireSealedEvidenceTrustPolicyMinimumEpoch policy)).mapError .runtime)
  let anchors ← .mapError .runtime
    (sealedEvidenceTrustPolicyAnchors V w policy inputs.suite.stableLabel)
  let receipt ← .mapError .runtime
    (sealedEvidenceTrustPolicyReceiptFile V w path policy inputs.suite.stableLabel)
  let receipt ← resolveSignature V w inputs path receipt
  pure ⟨anchors.trustedTranscriptKeyFingerprint, anchors.trustedLedgerKeyFingerprint, some receipt⟩

def resolveManual : Except ResolveError ResolvedSealedEvidenceTrust := do
  failIf (inputs.trustPolicySignaturePath.isSome = true ∨
      inputs.trustedPolicyRootFingerprintHex.isSome = true ∨ inputs.policyRootsPath.isSome = true ∨
      inputs.requiredPolicyRootId.isSome = true ∨ inputs.requireSignedPolicy = true)
    (.text ("signed sealed evidence trust policy flags require " ++
      "--sealed-evidence-trust-policy"))
  let transcriptHex ← okOr inputs.trustedTranscriptKeyFingerprintHex
    (.text ("--verify-sealed-evidence-bundle requires either --sealed-evidence-trust-policy or " ++
      "--trusted-transcript-key-fingerprint-hex"))
  let ledgerHex ← okOr inputs.trustedLedgerKeyFingerprintHex
    (.text ("--verify-sealed-evidence-bundle requires either --sealed-evidence-trust-policy or " ++
      "--trusted-ledger-key-fingerprint-hex"))
  let transcript ← parseEvidenceKeyFingerprintHex V transcriptHex
  let ledger ← parseEvidenceKeyFingerprintHex V ledgerHex
  pure ⟨transcript, ledger, none⟩

def resolveSealedEvidenceTrustAnchors : Look ResolveError ResolvedSealedEvidenceTrust :=
  match inputs.trustPolicyPath with
  | some path => resolvePolicy V w inputs path
  | none => .check (resolveManual V inputs)

end

end Model

/-! ## Which bytes are signed -/

section Spec

variable {V : Verifier} {w : World} {inputs : SealedEvidenceTrustInputs} {path : String} {n m : Nat}
  {bytes : Bytes}

@[simp] lemma readFile_ok :
    readFile w path n = .ok (bytes, m) ↔ w.shown n path = some bytes ∧ n + 1 = m := by
  simp [readFile]

@[simp] lemma utcNow_ok {t : Int} : utcNow w n = .ok (t, m) ↔ w.now n = t ∧ n + 1 = m := by
  simp [utcNow]

@[simp] lemma readJson_ok {α : Type} {fromSlice : Bytes → Option α} {a : α} :
    readJson w fromSlice path n = .ok (a, m) ↔
      (w.shown n path).bind fromSlice = some a ∧ n + 1 = m := by
  simp only [readJson, Look.bind_ok, readFile_ok, Look.check_ok, okOr_ok, Option.bind_eq_some_iff]
  constructor
  · rintro ⟨bytes, _, ⟨hbytes, rfl⟩, ha, rfl⟩
    exact ⟨⟨bytes, hbytes, ha⟩, rfl⟩
  · rintro ⟨⟨bytes, hbytes, ha⟩, rfl⟩
    exact ⟨bytes, _, ⟨hbytes, rfl⟩, ha, rfl⟩

@[simp] lemma blake3FileHex_ok {digest : String} : blake3FileHex V w path n = .ok (digest, m) ↔
      (∃ bytes, w.shown n path = some bytes ∧ blake3Hex V bytes = digest) ∧ n + 1 = m := by
  simp only [blake3FileHex, Look.bind_ok, readFile_ok, Look.pure_ok, Prod.mk.injEq]
  constructor
  · rintro ⟨bytes, _, ⟨hbytes, rfl⟩, rfl, rfl⟩
    exact ⟨⟨bytes, hbytes, rfl⟩, rfl⟩
  · rintro ⟨⟨bytes, hbytes, rfl⟩, rfl⟩
    exact ⟨bytes, _, ⟨hbytes, rfl⟩, rfl, rfl⟩

structure SignedFor (V : Verifier) (suite : String) (trustedPolicyRootFingerprint : FixedBytes 32)
    (backend : EvidenceSignatureBackend) (signature : SealedEvidenceTrustPolicySignature)
    (bytes : Bytes) : Prop where
  document : requireSignatureDocument V signature suite trustedPolicyRootFingerprint backend = .ok ()
  digest : blake3Hex V bytes = signature.policyBlake3
  verified : backend.verifySignature signature.rootPublicKeyBinding.publicKey
    (sealedEvidenceTrustPolicySignatureMessage signature) signature.signature.signature = .ok ()

variable {root : FixedBytes 32}

lemma requireSealedEvidenceTrustPolicySignature_spec
    {signature : SealedEvidenceTrustPolicySignature} {suite : String}
    {backend : EvidenceSignatureBackend}
    (h : requireSealedEvidenceTrustPolicySignature V w signature suite path root backend n =
      .ok ((), m)) : n + 1 = m ∧ ∃ bytes, w.shown n path = some bytes ∧
      SignedFor V suite root backend signature bytes := by
  simp only [requireSealedEvidenceTrustPolicySignature, Look.bind_ok, Look.check_ok,
    blake3FileHex_ok, failIf_ok, mapError_ok, ne_eq, not_not] at h
  obtain ⟨_, _, ⟨hdoc, rfl⟩, _, _, ⟨⟨bytes, hbytes, rfl⟩, rfl⟩, _, _, ⟨hdigest, rfl⟩, hverify,
    rfl⟩ := h
  exact ⟨rfl, bytes, hbytes, hdoc, hdigest, hverify⟩

def Verifier.backend? (V : Verifier) : EvidenceVerifierSuite → Option EvidenceSignatureBackend
  | .ed25519Rfc8032 => none
  | .mlDsa65Fips204 => some V.mlDsa65
  | .mlDsa87Fips204 => some V.mlDsa87

variable {signaturePath : String}

lemma verifySignature_spec {suite : EvidenceVerifierSuite}
    {receipt : SealedEvidenceTrustPolicySignatureReceipt}
    (h : verifySealedEvidenceTrustPolicySignatureWithSelectedSuite V w path signaturePath suite root
      n = .ok (receipt, m)) : ∃ backend signature bytes, V.backend? suite = some backend ∧
      (w.shown n signaturePath).bind V.signatureFromSlice = some signature ∧
      w.shown (n + 1) path = some bytes ∧
      SignedFor V suite.stableLabel root backend signature bytes := by
  obtain ⟨backend, hbac, hrun⟩ : ∃ backend, V.backend? suite = some backend ∧
      verifySealedEvidenceTrustPolicySignatureFileWithBackend V w path signaturePath
        suite.stableLabel root backend n = .ok (receipt, m) := by
    cases suite with
    | ed25519Rfc8032 =>
      simp only [verifySealedEvidenceTrustPolicySignatureWithSelectedSuite, Look.check_ok] at h
      cases h.1
    | mlDsa65Fips204 => exact ⟨_, rfl, Look.mapError_ok.mp h⟩
    | mlDsa87Fips204 => exact ⟨_, rfl, Look.mapError_ok.mp h⟩
  simp only [verifySealedEvidenceTrustPolicySignatureFileWithBackend, Look.bind_ok,
    readJson_ok] at hrun
  obtain ⟨signature, _, ⟨hsig, rfl⟩, _, _, hche, -⟩ := hrun
  obtain ⟨-, bytes, hbytes, hsgn⟩ := requireSealedEvidenceTrustPolicySignature_spec hche
  exact ⟨backend, signature, bytes, hbac, hsig, hbytes, hsgn⟩

lemma trustedPolicyRoot_clock {r : FixedBytes 32 × Option SealedEvidencePolicyRootReceipt}
    (h : trustedPolicyRoot V w inputs signaturePath n = .ok (r, m)) :
    m = if inputs.policyRootsPath.isSome then n + 4 else n := by
  unfold trustedPolicyRoot at h
  cases hroo : inputs.policyRootsPath with
  | none =>
    rw [hroo] at h
    simp only [Look.bind_ok, Look.check_ok, Look.pure_ok, Prod.mk.injEq] at h
    obtain ⟨-, _, ⟨-, rfl⟩, -, _, ⟨-, rfl⟩, -, _, ⟨-, rfl⟩, -, rfl⟩ := h
    rfl
  | some rootsPath =>
    rw [hroo] at h
    simp only [Look.bind_ok, Look.check_ok, Look.pure_ok, Look.mapError_ok,
      sealedEvidencePolicyRootReceiptFileForSignature, readJson_ok, utcNow_ok,
      blake3FileHex_ok, Prod.mk.injEq] at h
    obtain ⟨-, _, ⟨-, rfl⟩, -, _, ⟨-, _, ⟨-, rfl⟩, -, _, ⟨-, rfl⟩, -, _, ⟨-, rfl⟩, -, _, ⟨-, rfl⟩,
      -, _, ⟨-, rfl⟩, -, rfl⟩, -, _, ⟨-, rfl⟩, -, rfl⟩ := h
    rfl

def anchorsOf (V : Verifier) (bytes : Bytes) : Option SealedEvidenceTrustAnchors :=
  (V.policyFromSlice bytes).bind fun policy => (policyAnchors V policy).toOption

def signatureLook (inputs : SealedEvidenceTrustInputs) : Nat :=
  if inputs.policyRootsPath.isSome then 9 else 5

/-- At its look the signature check saw these bytes of the policy file, and the signature document
shown just before, by a trusted root, was verified for them. -/
def VerifiedBytes (V : Verifier) (w : World) (inputs : SealedEvidenceTrustInputs) (path : String)
    (bytes : Bytes) : Prop :=
  ∃ signaturePath root receipt backend signature,
    inputs.trustPolicySignaturePath = some signaturePath ∧
    trustedPolicyRoot V w inputs signaturePath 4 = .ok ((root, receipt), signatureLook inputs - 1) ∧
    V.backend? inputs.suite = some backend ∧
    (w.shown (signatureLook inputs - 1) signaturePath).bind V.signatureFromSlice = some signature ∧
    w.shown (signatureLook inputs) path = some bytes ∧
    SignedFor V inputs.suite.stableLabel root backend signature bytes

lemma VerifiedBytes.shown (h : VerifiedBytes V w inputs path bytes) :
    w.shown (signatureLook inputs) path = some bytes := by
  obtain ⟨-, -, -, -, -, -, -, -, -, hbytes, -⟩ := h
  exact hbytes

lemma resolveSignature_spec {receipt signed : SealedEvidenceTrustPolicyReceipt}
    (hneed : inputs.requireSignedPolicy = true)
    (h : resolveSignature V w inputs path receipt 4 = .ok (signed, m)) :
    ∃ bytes, VerifiedBytes V w inputs path bytes := by
  unfold resolveSignature at h
  cases hpath : inputs.trustPolicySignaturePath with
  | none =>
    rw [hpath] at h
    simp [hneed, failIf, bind, Except.bind, Look.check, Except.map] at h
  | some signaturePath =>
    rw [hpath] at h
    simp only [Look.bind_ok] at h
    obtain ⟨⟨root, rootReceipt⟩, k, hroot, _, _, hverify, -⟩ := h
    have hclo := trustedPolicyRoot_clock hroot
    obtain ⟨backend, signature, bytes, hbac, hsgn, hbytes, hsig⟩ := verifySignature_spec hverify
    have hlook : signatureLook inputs = k + 1 := by
      rw [hclo, signatureLook]
      split <;> rfl
    have hbefore : signatureLook inputs - 1 = k := by omega
    refine ⟨bytes, signaturePath, root, rootReceipt, backend, signature, hpath, ?_, hbac, ?_, ?_,
      hsig⟩
    · rwa [hbefore]
    · rwa [hbefore]
    · rwa [hlook]

lemma resolvePolicy_spec {r : ResolvedSealedEvidenceTrust}
    (h : resolvePolicy V w inputs path 0 = .ok (r, m)) :
    (w.shown 0 path).bind (anchorsOf V) = some r.anchors ∧
      ∃ receipt signed, resolveSignature V w inputs path receipt 4 = .ok (signed, m) := by
  simp only [resolvePolicy, sealedEvidenceTrustPolicyAnchors, sealedEvidenceTrustPolicyReceiptFile,
    requireSealedEvidenceTrustPolicy, Look.bind_ok, Look.mapError_ok, Look.check_ok,
    Look.pure_ok, readJson_ok, utcNow_ok, blake3FileHex_ok, Prod.mk.injEq] at h
  obtain ⟨policy, _, ⟨hpol, rfl⟩, -, _, ⟨-, rfl⟩, anchors, _, ⟨_, _, ⟨_, _, ⟨-, rfl⟩, -, rfl⟩,
    hanc, rfl⟩, receipt, _, ⟨_, _, ⟨_, _, ⟨-, rfl⟩, -, rfl⟩, _, _, ⟨-, rfl⟩, -, rfl⟩, signed, _,
    hsig, rfl, rfl⟩ := h
  refine ⟨?_, receipt, signed, hsig⟩
  obtain ⟨bytes, hbytes, hdec⟩ := Option.bind_eq_some_iff.mp hpol
  rw [hbytes, Option.bind_some, anchorsOf, hdec, Option.bind_some, hanc]
  rfl

end Spec

/-- **Signed trust anchors.** Whatever the files show at each look: when anchors are resolved with a
required signature, they are those of the very bytes whose signature was verified exactly when the
policy file names the same anchors at the first look and at the look of the signature check. -/
theorem trust_anchors_signed_iff (V : Verifier) (w : World) (inputs : SealedEvidenceTrustInputs)
    (r : ResolvedSealedEvidenceTrust) (looks : Nat) (hrequired : inputs.requireSignedPolicy = true)
    (h : resolveSealedEvidenceTrustAnchors V w inputs 0 = .ok (r, looks)) :
    ∃ path, inputs.trustPolicyPath = some path ∧
      ((∃ bytes, VerifiedBytes V w inputs path bytes ∧ anchorsOf V bytes = some r.anchors) ↔
        (w.shown 0 path).bind (anchorsOf V) =
          (w.shown (signatureLook inputs) path).bind (anchorsOf V)) := by
  unfold resolveSealedEvidenceTrustAnchors at h
  cases hpath : inputs.trustPolicyPath with
  | none =>
    rw [hpath] at h
    simp [resolveManual, hrequired, failIf, bind, Except.bind, Look.check, Except.map] at h
  | some path =>
    rw [hpath] at h
    obtain ⟨hfirst, receipt, signed, hsigned⟩ := resolvePolicy_spec h
    obtain ⟨bytes, hverified⟩ := resolveSignature_spec hrequired hsigned
    refine ⟨path, rfl, ?_⟩
    rw [hfirst, hverified.shown, Option.bind_some]
    constructor
    · rintro ⟨bytes', hverified', hanchors⟩
      obtain rfl : bytes' = bytes := Option.some.inj (hverified'.shown.symm.trans hverified.shown)
      exact hanchors.symm
    · exact fun hsame => ⟨bytes, hverified, hsame.symm⟩

/-! ## A policy file that changes -/

def samplePolicy (transcript ledger : UInt8) : SealedEvidenceTrustPolicy where
  schema := "xenia-sealed-evidence-trust-policy-v1"
  profile := "full-pqc-v1"
  signatureSuite := "ml-dsa-65-fips204"
  trustedTranscriptKeyFingerprintHex := lowerHex (List.replicate 32 transcript)
  trustedLedgerKeyFingerprintHex := lowerHex (List.replicate 32 ledger)
  policyId := none
  operatorId := none
  policyEpoch := none
  validFrom := none
  validUntil := none
  revokedPolicyIds := []

def firstByteCrypto : Crypto :=
  { sampleCrypto with blake3 := fun b => .replicate 32 (b.headD 0) }

def sampleRootBinding : EvidencePublicKeyBinding :=
  .new firstByteCrypto .mlDsa65Fips204 (List.replicate 1952 5)

def sampleSignature : SealedEvidenceTrustPolicySignature where
  schema := "xenia-sealed-evidence-trust-policy-signature-v1"
  policySchema := "xenia-sealed-evidence-trust-policy-v1"
  profile := "full-pqc-v1"
  signatureSuite := "ml-dsa-65-fips204"
  policyBlake3 := lowerHex (firstByteCrypto.blake3 [2]).toList
  rootPublicKeyBinding := sampleRootBinding
  signature := .new .mlDsa65Fips204 (List.replicate 3309 6)

def sampleBackend : EvidenceSignatureBackend where
  suite := .mlDsa65Fips204
  verifySignature _ message _ :=
    failIf (message ≠ sealedEvidenceTrustPolicySignatureMessage sampleSignature) .badSignature

def sampleVerifier : Verifier where
  lib := sampleLibrary
  crypto := firstByteCrypto
  policyFromSlice b :=
    if b = [1] then some (samplePolicy 17 18) else if b = [2] then some (samplePolicy 33 34) else none
  signatureFromSlice b := if b = [3] then some sampleSignature else none
  rootsFromSlice _ := none
  mlDsa65 := sampleBackend
  mlDsa87 := sampleBackend
  showBindingError _ := "binding"
  showEnvelopeError _ := "envelope"
  showBackendError _ := "backend"
  debugSuite := SignatureSuite.stableLabel

def sampleInputs : SealedEvidenceTrustInputs where
  trustPolicyPath := some "policy.json"
  trustPolicySignaturePath := some "policy.sig.json"
  trustedPolicyRootFingerprintHex := some (lowerHex sampleRootBinding.publicKeyFingerprint.toList)
  policyRootsPath := none
  requiredPolicyRootId := none
  trustedTranscriptKeyFingerprintHex := none
  trustedLedgerKeyFingerprintHex := none
  suite := .mlDsa65Fips204
  minimumPolicyEpoch := none
  requireSignedPolicy := true

def sampleWorld (first : UInt8) : World where
  shown n path :=
    if path = "policy.json" then some [if n = 0 then first else 2]
    else if path = "policy.sig.json" then some [3] else none
  now _ := 0

def sampleAnchors (first : UInt8) : Option SealedEvidenceTrustAnchors :=
  (resolveSealedEvidenceTrustAnchors sampleVerifier (sampleWorld first) sampleInputs 0).toOption.map
    fun r => r.1.anchors

/-- A file that stays the same gives the anchors of its signed bytes. -/
theorem trust_anchors_signed_sample :
    ∃ r looks, resolveSealedEvidenceTrustAnchors sampleVerifier (sampleWorld 2) sampleInputs 0 =
        .ok (r, looks) ∧
      ∃ bytes, VerifiedBytes sampleVerifier (sampleWorld 2) sampleInputs "policy.json" bytes ∧
        anchorsOf sampleVerifier bytes = some r.anchors := by
  have hsome : (resolveSealedEvidenceTrustAnchors sampleVerifier (sampleWorld 2) sampleInputs
      0).toOption.isSome = true := by decide +kernel
  cases hrun : resolveSealedEvidenceTrustAnchors sampleVerifier (sampleWorld 2) sampleInputs 0 with
  | error e => simp [hrun, Except.toOption] at hsome
  | ok p =>
    obtain ⟨r, looks⟩ := p
    obtain ⟨path, hpath, hiff⟩ := trust_anchors_signed_iff sampleVerifier (sampleWorld 2)
      sampleInputs r looks rfl hrun
    obtain rfl : "policy.json" = path := Option.some.inj hpath
    exact ⟨r, looks, rfl, hiff.mpr rfl⟩

/-- A file that is another policy at the first look gives the anchors of that policy, which nobody
signed, next to the signature of the later one. -/
theorem unsigned_anchors_returned :
    sampleAnchors 1 = some ⟨.replicate 32 17, .replicate 32 18⟩ ∧
      ∀ bytes, VerifiedBytes sampleVerifier (sampleWorld 1) sampleInputs "policy.json" bytes →
        anchorsOf sampleVerifier bytes ≠ sampleAnchors 1 := by
  have hreturned : sampleAnchors 1 =
      some ⟨.replicate 32 17, .replicate 32 18⟩ := by decide +kernel
  have hshown : (sampleWorld 1).shown (signatureLook sampleInputs) "policy.json" = some [2] := by
    decide +kernel
  refine ⟨hreturned, fun bytes hbytes => ?_⟩
  obtain rfl : [2] = bytes := Option.some.inj (hshown.symm.trans hbytes.shown)
  rw [hreturned]
  decide +kernel

end XeniaPeer.Evidence
