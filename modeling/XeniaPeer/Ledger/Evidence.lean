import XeniaPeer.Ledger.Verify

/-!
# Evidence bundles

What leaves the daemon for an auditor: exported ledger entries with tagged signatures, the manifest
of the algorithms in use (`policy.rs`), the keys that verify them and the binding of the session
transcript (`binding.rs`).

Main result: `exports_verify_alike`.
-/

namespace XeniaPeer.Ledger

open Foundation

/-! ## The manifest and its policy -/

inductive CryptoPolicyProfile where
  | hybridPrePqcV1
  | fullPqcV1
deriving DecidableEq

def CryptoPolicyProfile.stableLabel : CryptoPolicyProfile → String
  | hybridPrePqcV1 => "hybrid-pre-pqc-v1"
  | fullPqcV1 => "full-pqc-v1"

lemma CryptoPolicyProfile.stableLabel_injective : Function.Injective stableLabel := by
  intro a b h
  cases a <;> cases b <;> first | rfl | simp [stableLabel] at h

inductive DowngradePolicy where
  | explicitClassicalSignatureAllowance
  | rejectClassicalSignatures
deriving DecidableEq

structure EvidenceCryptoManifest where
  schema : String
  profile : CryptoPolicyProfile
  kem : String
  (transcriptSignature ledgerSignature : SignatureSuite)
  (hashChain kdf aead : String)
  downgradePolicy : DowngradePolicy
deriving DecidableEq

inductive EvidencePolicyError where
  | pqTranscriptSignatureInHybridPrePqc
  | pqLedgerSignatureInHybridPrePqc
  | hybridPrePqcRequiresExplicitClassicalAllowance
  | classicalTranscriptSignatureInFullPqc
  | classicalLedgerSignatureInFullPqc
  | downgradePolicyAllowsClassicalInFullPqc
deriving DecidableEq

def EvidenceCryptoManifest.validateAgainstPolicy (m : EvidenceCryptoManifest) :
    Except EvidencePolicyError Unit :=
  match m.profile with
  | .hybridPrePqcV1 => do
    failIf (m.transcriptSignature.isPostQuantum = true) .pqTranscriptSignatureInHybridPrePqc
    failIf (m.ledgerSignature.isPostQuantum = true) .pqLedgerSignatureInHybridPrePqc
    failIf (m.downgradePolicy ≠ .explicitClassicalSignatureAllowance)
      .hybridPrePqcRequiresExplicitClassicalAllowance
  | .fullPqcV1 => do
    failIf (m.transcriptSignature.isPostQuantum = false) .classicalTranscriptSignatureInFullPqc
    failIf (m.ledgerSignature.isPostQuantum = false) .classicalLedgerSignatureInFullPqc
    failIf (m.downgradePolicy ≠ .rejectClassicalSignatures)
      .downgradePolicyAllowsClassicalInFullPqc

/-! ## Key bindings -/

def evidencePublicKeyBindingSchema : String := "xenia-evidence-public-key-binding-v1"

def evidencePublicKeyFingerprintAlgorithm : String := "blake3-256"

structure EvidencePublicKeyBinding where
  schema : String
  signatureSuite : SignatureSuite
  publicKey : Bytes
  fingerprintAlgorithm : String
  publicKeyFingerprint : FixedBytes 32
deriving DecidableEq

inductive EvidencePublicKeyBindingError where
  | unsupportedSchema (schema : String)
  | unsupportedFingerprintAlgorithm (algorithm : String)
  | emptyPublicKey
  | signatureSuiteManifestMismatch (manifestSuite bindingSuite : SignatureSuite)
  | signatureSuiteBackendMismatch (backendSuite bindingSuite : SignatureSuite)
  | badPublicKeyLength (signatureSuite : SignatureSuite) (expected found : Nat)
  | publicKeyFingerprintMismatch
deriving DecidableEq

def computeEvidencePublicKeyFingerprint (C : Crypto) (publicKey : Bytes) : FixedBytes 32 :=
  C.blake3 publicKey

namespace EvidencePublicKeyBinding

def new (C : Crypto) (signatureSuite : SignatureSuite) (publicKey : Bytes) :
    EvidencePublicKeyBinding where
  schema := evidencePublicKeyBindingSchema
  signatureSuite := signatureSuite
  publicKey := publicKey
  fingerprintAlgorithm := evidencePublicKeyFingerprintAlgorithm
  publicKeyFingerprint := computeEvidencePublicKeyFingerprint C publicKey

def validateAgainstSignatureSuiteAndBackend (C : Crypto) (k : EvidencePublicKeyBinding)
    (expectedSuite : SignatureSuite) (backend : EvidenceSignatureBackend) :
    Except EvidencePublicKeyBindingError Unit := do
  failIf (k.schema ≠ evidencePublicKeyBindingSchema) (.unsupportedSchema k.schema)
  failIf (k.fingerprintAlgorithm ≠ evidencePublicKeyFingerprintAlgorithm)
    (.unsupportedFingerprintAlgorithm k.fingerprintAlgorithm)
  failIf (k.publicKey = []) .emptyPublicKey
  failIf (k.signatureSuite ≠ expectedSuite)
    (.signatureSuiteManifestMismatch expectedSuite k.signatureSuite)
  failIf (k.signatureSuite ≠ backend.suite)
    (.signatureSuiteBackendMismatch backend.suite k.signatureSuite)
  k.signatureSuite.fixedPublicKeyLen.forM (fun expected => failIf (k.publicKey.length ≠ expected)
      (.badPublicKeyLength k.signatureSuite expected k.publicKey.length))
  failIf (computeEvidencePublicKeyFingerprint C k.publicKey ≠ k.publicKeyFingerprint)
    .publicKeyFingerprintMismatch

def validateAgainstManifestAndBackend (C : Crypto) (k : EvidencePublicKeyBinding)
    (manifest : EvidenceCryptoManifest) (backend : EvidenceSignatureBackend) :
    Except EvidencePublicKeyBindingError Unit :=
  k.validateAgainstSignatureSuiteAndBackend C manifest.ledgerSignature backend

end EvidencePublicKeyBinding

/-! ## Transcript bindings -/

def sessionTranscriptBindingSchema : String := "xenia-session-transcript-binding-v1"

def sessionTranscriptHashAlgorithm : String := "blake3-256"

structure SessionTranscriptBinding where
  schema : String
  sessionId : Uuid
  transcriptHashAlgorithm : String
  transcriptHash : FixedBytes 32
  transcriptSignature : SignatureSuite
deriving DecidableEq

inductive TranscriptBindingError where
  | unsupportedSchema (schema : String)
  | unsupportedTranscriptHashAlgorithm (algorithm : String)
  | emptyTranscriptHash
  | transcriptSignatureSuiteMismatch (manifestSuite bindingSuite : SignatureSuite)
deriving DecidableEq

def SessionTranscriptBinding.validateAgainstManifest (b : SessionTranscriptBinding)
    (manifest : EvidenceCryptoManifest) : Except TranscriptBindingError Unit := do
  failIf (b.schema ≠ sessionTranscriptBindingSchema) (.unsupportedSchema b.schema)
  failIf (b.transcriptHashAlgorithm ≠ sessionTranscriptHashAlgorithm)
    (.unsupportedTranscriptHashAlgorithm b.transcriptHashAlgorithm)
  failIf (b.transcriptHash = zeroHash) .emptyTranscriptHash
  failIf (b.transcriptSignature ≠ manifest.transcriptSignature)
    (.transcriptSignatureSuiteMismatch manifest.transcriptSignature b.transcriptSignature)

def sessionTranscriptSignatureSchema : String := "xenia-session-transcript-signature-v1"

structure SessionTranscriptSignature where
  schema : String
  sessionId : Uuid
  transcriptHashAlgorithm : String
  transcriptHash : FixedBytes 32
  signature : SignatureEnvelope
deriving DecidableEq

inductive TranscriptSignatureError where
  | unsupportedSchema (schema : String)
  | unsupportedTranscriptHashAlgorithm (algorithm : String)
  | bindingSessionMismatch (bindingSessionId signatureSessionId : Uuid)
  | bindingHashAlgorithmMismatch (bindingAlgorithm signatureAlgorithm : String)
  | bindingHashMismatch
  | emptyTranscriptHash
  | signatureEnvelope (error : SignatureEnvelopeError)
  | transcriptSignatureSuiteMismatch (manifestSuite signatureSuite : SignatureSuite)
deriving DecidableEq

def SessionTranscriptSignature.validateAgainstBindingAndManifest
    (sig : SessionTranscriptSignature) (binding : SessionTranscriptBinding)
    (manifest : EvidenceCryptoManifest) : Except TranscriptSignatureError SignatureSuite := do
  failIf (sig.schema ≠ sessionTranscriptSignatureSchema) (.unsupportedSchema sig.schema)
  failIf (sig.transcriptHashAlgorithm ≠ sessionTranscriptHashAlgorithm)
    (.unsupportedTranscriptHashAlgorithm sig.transcriptHashAlgorithm)
  failIf (sig.sessionId ≠ binding.sessionId)
    (.bindingSessionMismatch binding.sessionId sig.sessionId)
  failIf (sig.transcriptHashAlgorithm ≠ binding.transcriptHashAlgorithm)
    (.bindingHashAlgorithmMismatch binding.transcriptHashAlgorithm sig.transcriptHashAlgorithm)
  failIf (sig.transcriptHash ≠ binding.transcriptHash) .bindingHashMismatch
  failIf (sig.transcriptHash = zeroHash) .emptyTranscriptHash
  let suite ← sig.signature.validateShape.mapError .signatureEnvelope
  failIf (suite ≠ manifest.transcriptSignature)
    (.transcriptSignatureSuiteMismatch manifest.transcriptSignature suite)
  pure suite

def sessionTranscriptSignatureMessage (binding : SessionTranscriptBinding) : Bytes :=
  utf8 "xenia:session-transcript-signature:v1" ++ [0] ++ utf8 sessionTranscriptSignatureSchema ++
    [0] ++ binding.sessionId.toList ++ utf8 binding.transcriptHashAlgorithm ++ [0] ++
    binding.transcriptHash.toList

/-! ## Exported chains -/

structure LedgerEntryExport where
  seq : UInt64
  prevHash : FixedBytes 32
  timestamp : SystemTime
  event : ConsentEventRecord
  entryHash : FixedBytes 32
  signature : SignatureEnvelope
deriving DecidableEq

def LedgerEntryExport.preimage (e : LedgerEntryExport) : EntryPreimage where
  seq := e.seq
  prevHash := e.prevHash
  timestamp := e.timestamp
  event := e.event

def LedgerEntryExport.fromLegacyEntry (e : LedgerEntry) : LedgerEntryExport where
  seq := e.seq
  prevHash := e.prevHash
  timestamp := e.timestamp
  event := e.event
  entryHash := e.entryHash
  signature := .new .ed25519Rfc8032 e.signature.toList

def LedgerEntryExport.toLegacyEntry (e : LedgerEntryExport) :
    Except SignatureEnvelopeError LedgerEntry := do
  let signature ← e.signature.toLegacyEd25519
  pure ⟨e.seq, e.prevHash, e.timestamp, e.event, e.entryHash, signature⟩

def signatureEnvelopeErrorToVerifyError (seq : UInt64) : SignatureEnvelopeError → VerifyError
  | .unknownSignatureSuite algorithm => .unknownSignatureSuite seq algorithm
  | .badSignatureLength _ expected found => .badSignatureLength seq expected found
  | .unsupportedLegacySuite _ => .badSignature seq

def backendErrorToVerifyError (seq : UInt64) (suite : SignatureSuite) :
    EvidenceSignatureBackendError → VerifyError
  | .badPublicKeyLength _ _ => .badSignaturePublicKey seq suite
  | .badPublicKey => .badSignaturePublicKey seq suite
  | .badSignatureLength expected found => .badSignatureLength seq expected found
  | .badSignatureEncoding => .badSignature seq
  | .badSignature => .badSignature seq
  | .unsupportedSuite _ => .unsupportedSignatureSuite seq suite

def entrySignatureSuiteForVerify (entry : LedgerEntryExport) : Except VerifyError SignatureSuite :=
  entry.signature.validateShape.mapError (signatureEnvelopeErrorToVerifyError entry.seq)

variable (C : Crypto) (backend : EvidenceSignatureBackend) (publicKey : Bytes)

def verifyExportedChainFrom :
    Nat → FixedBytes 32 → List LedgerEntryExport → Except VerifyError Unit
  | _, _, [] => .ok ()
  | index, expectedPrev, entry :: rest => do
    failIf (entry.seq.toNat ≠ index) (.outOfOrder index (UInt64.ofNat index) entry.seq)
    failIf (entry.seq = 0 ∧ entry.prevHash ≠ zeroHash) .badGenesis
    failIf (entry.prevHash ≠ expectedPrev) (.brokenLink entry.seq)
    let recomputed ← (computeEntryHash C entry.preimage).mapError
      (fun _ => .entryHashMismatch entry.seq)
    failIf (recomputed ≠ entry.entryHash) (.entryHashMismatch entry.seq)
    let suite ← entrySignatureSuiteForVerify entry
    failIf (suite ≠ backend.suite)
      (.signatureBackendSuiteMismatch entry.seq suite backend.suite)
    (backend.verifySignature publicKey entry.entryHash.toList entry.signature.signature).mapError
      (backendErrorToVerifyError entry.seq suite)
    verifyExportedChainFrom (index + 1) entry.entryHash rest

def verifyExportedChainWithBackend (entries : List LedgerEntryExport) : Except VerifyError Unit :=
  verifyExportedChainFrom C backend publicKey 0 zeroHash entries

def verifyExportedChain (entries : List LedgerEntryExport) (publicKey : C.ed25519.VerifyingKey) :
    Except VerifyError Unit := do
  entries.forM (fun entry => do
    let suite ← entrySignatureSuiteForVerify entry
    failIf (suite ≠ .ed25519Rfc8032) (.unsupportedSignatureSuite entry.seq suite))
  verifyExportedChainWithBackend C (ed25519EvidenceSignatureBackend C) publicKey.val.toList entries

def exportLinks : Links LedgerEntryExport (FixedBytes 32) where
  seq e := e.seq.toNat
  prev e := e.prevHash
  digest e := e.entryHash

structure ExportSealed (e : LedgerEntryExport) : Prop where
  hash : computeEntryHash C e.preimage = .ok e.entryHash
  suite : e.signature.validateShape = .ok backend.suite
  verified : backend.verifySignature publicKey e.entryHash.toList e.signature.signature = .ok ()

variable {C backend publicKey} {entries : List LedgerEntryExport}

lemma verifyExportedChainFrom_ok {n : Nat} {h : FixedBytes 32} (h0 : n = 0 → h = zeroHash) :
    verifyExportedChainFrom C backend publicKey n h entries = .ok () ↔
      exportLinks.Linked (ExportSealed C backend publicKey) n h entries := by
  induction entries generalizing n h with
  | nil => simp [verifyExportedChainFrom, Links.Linked]
  | cons e es ih =>
    have hrest := ih (n := n + 1) (h := e.entryHash) (by omega)
    simp only [verifyExportedChainFrom, entrySignatureSuiteForVerify, bind_ok, failIf_ok,
      mapError_ok, ne_eq, not_not, Links.Linked, hrest]
    constructor
    · rintro ⟨-, hn, -, -, -, hh, _, hhash, -, rfl, _, hsu, -, rfl, u, hverify, hes⟩
      exact ⟨hn, hh, ⟨hhash, hsu, hverify⟩, hes⟩
    · rintro ⟨hn, hh, hsea, hes⟩
      have hgen : ¬(e.seq = 0 ∧ ¬ e.prevHash = zeroHash) := by
        rintro ⟨hzero, hne⟩
        refine hne (hh.trans (h0 ?_))
        rw [← hn]
        simp [exportLinks, hzero]
      exact ⟨(), hn, (), hgen, (), hh, _, hsea.hash, (), rfl, _, hsea.suite, (), rfl,
        (), hsea.verified, hes⟩

lemma verifyExportedChainWithBackend_ok :
    verifyExportedChainWithBackend C backend publicKey entries = .ok () ↔
      exportLinks.Linked (ExportSealed C backend publicKey) 0 zeroHash entries :=
  verifyExportedChainFrom_ok (fun _ => rfl)

structure SameExport (x y : LedgerEntryExport) : Prop where
  seq : x.seq = y.seq
  prevHash : x.prevHash = y.prevHash
  timestamp : x.timestamp = y.timestamp
  event : x.event = y.event
  entryHash : x.entryHash = y.entryHash
  algorithm : x.signature.algorithm = y.signature.algorithm

lemma sameExport_of_sealed {backend' : EvidenceSignatureBackend} {publicKey' : Bytes}
    {x y : LedgerEntryExport} (hx : ExportSealed C backend publicKey x)
    (hy : ExportSealed C backend' publicKey' y) (hsuite : backend.suite = backend'.suite)
    {S : Set EntryPreimage} (hfree : CollisionFreeOn C S) (hxS : x.preimage ∈ S)
    (hyS : y.preimage ∈ S) (hhash : x.entryHash = y.entryHash) : SameExport x y := by
  have hpre := hfree _ hxS _ hyS _ hx.hash (hhash ▸ hy.hash)
  simp only [LedgerEntryExport.preimage, EntryPreimage.mk.injEq] at hpre
  obtain ⟨hseq, hprev, htime, hevent⟩ := hpre
  have h : x.signature.algorithm = y.signature.algorithm := by
    rw [SignatureEnvelope.algorithm_of_validateShape hx.suite, hsuite,
      SignatureEnvelope.algorithm_of_validateShape hy.suite]
  exact ⟨hseq, hprev, htime, hevent, hhash, h⟩

/-! ## Live chains and their exports -/

section Exports

variable {key : C.ed25519.VerifyingKey}

lemma verifySignature_ed25519 {message : Bytes} {signature : FixedBytes 64} :
    (ed25519EvidenceSignatureBackend C).verifySignature key.val.toList message signature.toList =
      .ok () ↔ C.ed25519.verify key message signature = true := by
  have hkey : FixedBytes.ofBytes? 32 key.val.toList = some key.val :=
    FixedBytes.ofBytes?_eq_some.mpr rfl
  have h : FixedBytes.ofBytes? 64 signature.toList = some signature :=
    FixedBytes.ofBytes?_eq_some.mpr rfl
  have hpar : C.ed25519.fromBytes key.val = some key := SignatureScheme.fromBytes_eq_some.mpr rfl
  simp only [ed25519EvidenceSignatureBackend, hkey, h, hpar, bind_ok, okOr_ok,
    failIf_ok, Option.some.injEq, exists_eq_left', Bool.not_eq_false]

lemma linked_exports {n : Nat} {h : FixedBytes 32} {entries : List LedgerEntry} :
    exportLinks.Linked (ExportSealed C (ed25519EvidenceSignatureBackend C) key.val.toList) n h
      (entries.map .fromLegacyEntry) ↔ LinkedFrom C key n h entries := by
  induction entries generalizing n h with
  | nil => rfl
  | cons e es ih =>
    have hsea : ExportSealed C (ed25519EvidenceSignatureBackend C) key.val.toList
        (.fromLegacyEntry e) ↔ Sealed C key e := by
      constructor
      · intro hx
        exact ⟨hx.hash, verifySignature_ed25519.mp hx.verified⟩
      · intro hx
        exact ⟨hx.1, SignatureEnvelope.validateShape_ed25519 e.signature,
          verifySignature_ed25519.mpr hx.2⟩
    simp only [List.map_cons, Links.Linked, hsea, ih]
    rfl

lemma verifyExportedChain_ok {entries : List LedgerEntryExport} :
    verifyExportedChain C entries key = .ok () ↔
      exportLinks.Linked (ExportSealed C (ed25519EvidenceSignatureBackend C) key.val.toList) 0
        zeroHash entries := by
  unfold verifyExportedChain
  rw [guard_bind_ok, verifyExportedChainWithBackend_ok]
  constructor
  · exact And.right
  · intro h
    refine ⟨forM_ok.mpr ?_, h⟩
    intro x hx
    have hsu := (h.good_of_mem hx).suite
    simp only [entrySignatureSuiteForVerify, bind_ok, mapError_ok, failIf_ok]
    exact ⟨_, hsu, by simp [ed25519EvidenceSignatureBackend]⟩

lemma exists_legacyEntries {exported : List LedgerEntryExport}
    (h : ∀ x ∈ exported, x.signature.validateShape = .ok .ed25519Rfc8032) :
    ∃ entries, exported.mapM LedgerEntryExport.toLegacyEntry = .ok entries ∧
      entries.map .fromLegacyEntry = exported := by
  induction exported with
  | nil => exact ⟨[], rfl, rfl⟩
  | cons x xs ih =>
    obtain ⟨hx, hxs⟩ := List.forall_mem_cons.mp h
    obtain ⟨signature, hleg, henv⟩ := SignatureEnvelope.exists_legacy hx
    obtain ⟨entries, hent, hback⟩ := ih hxs
    refine ⟨⟨x.seq, x.prevHash, x.timestamp, x.event, x.entryHash, signature⟩ :: entries, ?_, ?_⟩
    · refine mapM_ok.mpr (.cons ?_ (mapM_ok.mp hent))
      simp only [LedgerEntryExport.toLegacyEntry, bind_ok, pure_ok]
      exact ⟨signature, hleg, rfl⟩
    · rw [List.map_cons, hback, LedgerEntryExport.fromLegacyEntry, ← henv]

/-- **Exports.** A list of entries verifies exactly when its exports do, and every exported list
that verifies is the export of entries that verify, which it can be converted back to. -/
theorem exports_verify_alike (entries : List LedgerEntry) (exported : List LedgerEntryExport)
    (publicKey : C.ed25519.VerifyingKey) :
    (verifyChain C entries publicKey = .ok () ↔
      verifyExportedChain C (entries.map .fromLegacyEntry) publicKey = .ok ()) ∧
    (verifyExportedChain C exported publicKey = .ok () →
      ∃ legacy, exported.mapM LedgerEntryExport.toLegacyEntry = .ok legacy ∧
        verifyChain C legacy publicKey = .ok () ∧ legacy.map .fromLegacyEntry = exported) := by
  constructor
  · rw [verifyChain_ok, verifyExportedChain_ok, linked_exports]
  · intro h
    rw [verifyExportedChain_ok] at h
    obtain ⟨legacy, hlegacy, hback⟩ := exists_legacyEntries fun x hx => (h.good_of_mem hx).suite
    refine ⟨legacy, hlegacy, verifyChain_ok.mpr (linked_exports.mp ?_), hback⟩
    rw [hback]
    exact h

/-- The exported sample chain is read back, and the entries verify. -/
theorem exports_verify_alike_sample :
    let chain := sampleChain (sampleKey 7)
    verifyExportedChain sampleCrypto (chain.map .fromLegacyEntry) (sampleKey 7) = .ok () ∧
      ∃ legacy, (chain.map .fromLegacyEntry).mapM LedgerEntryExport.toLegacyEntry = .ok legacy ∧
        verifyChain sampleCrypto legacy (sampleKey 7) = .ok () := by
  intro chain
  have hverify : verifyChain sampleCrypto chain (sampleKey 7) = .ok () := by decide +kernel
  obtain ⟨halike, hback⟩ := exports_verify_alike chain (chain.map .fromLegacyEntry) (sampleKey 7)
  obtain ⟨legacy, hlegacy, hchain, -⟩ := hback (halike.mp hverify)
  exact ⟨halike.mp hverify, legacy, hlegacy, hchain⟩

end Exports

end XeniaPeer.Ledger
