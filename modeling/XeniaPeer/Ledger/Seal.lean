import XeniaPeer.Ledger.Evidence

/-!
# Sealed evidence bundles

The seal of an evidence bundle (`seal.rs`) is a signature over what the parts of the bundle have to
agree on: profile and suites, session, transcript hash, the fingerprints of the two verifier keys,
and the number, the first and the last hash of the ledger entries.

Main result: `sealed_bundles_agree`.
-/

namespace XeniaPeer.Ledger

open Foundation

/-! ## Seals -/

def evidenceBundleSealSchema : String := "xenia-evidence-bundle-seal-v1"

structure EvidenceBundleSeal where
  schema : String
  sessionId : Uuid
  profile : CryptoPolicyProfile
  (transcriptSignature ledgerSignature : SignatureSuite)
  transcriptHashAlgorithm : String
  (transcriptHash transcriptPublicKeyFingerprint ledgerPublicKeyFingerprint : FixedBytes 32)
  ledgerEntryCount : UInt64
  (ledgerFirstEntryHash ledgerLastEntryHash : FixedBytes 32)
  signature : SignatureEnvelope
deriving DecidableEq

inductive EvidenceBundleSealError where
  | unsupportedSchema (schema : String)
  | sessionMismatch (bindingSessionId sealSessionId : Uuid)
  | profileMismatch (manifestProfile sealProfile : CryptoPolicyProfile)
  | transcriptSignatureSuiteMismatch (manifestSuite sealSuite : SignatureSuite)
  | ledgerSignatureSuiteMismatch (manifestSuite sealSuite : SignatureSuite)
  | transcriptHashAlgorithmMismatch (bindingAlgorithm sealAlgorithm : String)
  | transcriptHashMismatch
  | transcriptPublicKeyFingerprintMismatch
  | ledgerPublicKeyFingerprintMismatch
  | ledgerEntryCountMismatch (expected found : UInt64)
  | ledgerFirstEntryHashMismatch
  | ledgerLastEntryHashMismatch
  | signatureEnvelope (error : SignatureEnvelopeError)
  | sealSignatureSuiteMismatch (manifestSuite sealSuite : SignatureSuite)
  | emptyTranscriptBoundBundle
deriving DecidableEq

structure EvidenceBundle where
  manifest : EvidenceCryptoManifest
  transcriptBinding : SessionTranscriptBinding
  transcriptSignature : SessionTranscriptSignature
  bundleSeal : EvidenceBundleSeal
  transcriptKeyBinding : EvidencePublicKeyBinding
  entries : List LedgerEntryExport
  ledgerKeyBinding : EvidencePublicKeyBinding
deriving DecidableEq

def ledgerChainAnchors (entries : List LedgerEntryExport) :
    Except EvidenceBundleSealError (UInt64 × FixedBytes 32 × FixedBytes 32) := do
  let first ← okOr entries.head? .emptyTranscriptBoundBundle
  let last ← okOr entries.getLast? .emptyTranscriptBoundBundle
  pure (UInt64.ofNat entries.length, first.entryHash, last.entryHash)

def EvidenceBundle.validateSealAgainstBundle (b : EvidenceBundle) :
    Except EvidenceBundleSealError SignatureSuite := do
  let s := b.bundleSeal
  failIf (s.schema ≠ evidenceBundleSealSchema) (.unsupportedSchema s.schema)
  failIf (s.sessionId ≠ b.transcriptBinding.sessionId)
    (.sessionMismatch b.transcriptBinding.sessionId s.sessionId)
  failIf (s.profile ≠ b.manifest.profile) (.profileMismatch b.manifest.profile s.profile)
  failIf (s.transcriptSignature ≠ b.manifest.transcriptSignature)
    (.transcriptSignatureSuiteMismatch b.manifest.transcriptSignature s.transcriptSignature)
  failIf (s.ledgerSignature ≠ b.manifest.ledgerSignature)
    (.ledgerSignatureSuiteMismatch b.manifest.ledgerSignature s.ledgerSignature)
  failIf (s.transcriptHashAlgorithm ≠ b.transcriptBinding.transcriptHashAlgorithm)
    (.transcriptHashAlgorithmMismatch b.transcriptBinding.transcriptHashAlgorithm
      s.transcriptHashAlgorithm)
  failIf (s.transcriptHash ≠ b.transcriptBinding.transcriptHash) .transcriptHashMismatch
  failIf (s.transcriptPublicKeyFingerprint ≠ b.transcriptKeyBinding.publicKeyFingerprint)
    .transcriptPublicKeyFingerprintMismatch
  failIf (s.ledgerPublicKeyFingerprint ≠ b.ledgerKeyBinding.publicKeyFingerprint)
    .ledgerPublicKeyFingerprintMismatch
  let anchors ← ledgerChainAnchors b.entries
  failIf (s.ledgerEntryCount ≠ anchors.1)
    (.ledgerEntryCountMismatch anchors.1 s.ledgerEntryCount)
  failIf (s.ledgerFirstEntryHash ≠ anchors.2.1) .ledgerFirstEntryHashMismatch
  failIf (s.ledgerLastEntryHash ≠ anchors.2.2) .ledgerLastEntryHashMismatch
  let suite ← s.signature.validateShape.mapError .signatureEnvelope
  failIf (suite ≠ b.manifest.transcriptSignature)
    (.sealSignatureSuiteMismatch b.manifest.transcriptSignature suite)
  pure suite

def evidenceMessageBytes (bytes : Bytes) : Bytes := beBytes 8 bytes.length ++ bytes

def evidenceBundleSealMessage (s : EvidenceBundleSeal) : Bytes :=
  evidenceMessageBytes (utf8 "xenia:evidence-bundle-seal:v1") ++
    (evidenceMessageBytes (utf8 s.schema) ++ (evidenceMessageBytes s.sessionId.toList ++
    (evidenceMessageBytes (utf8 s.profile.stableLabel) ++
    (evidenceMessageBytes (utf8 s.transcriptSignature.stableLabel) ++
    (evidenceMessageBytes (utf8 s.ledgerSignature.stableLabel) ++
    (evidenceMessageBytes (utf8 s.transcriptHashAlgorithm) ++
    (evidenceMessageBytes s.transcriptHash.toList ++
    (evidenceMessageBytes s.transcriptPublicKeyFingerprint.toList ++
    (evidenceMessageBytes s.ledgerPublicKeyFingerprint.toList ++ (u64Be s.ledgerEntryCount ++
    (evidenceMessageBytes s.ledgerFirstEntryHash.toList ++
    evidenceMessageBytes s.ledgerLastEntryHash.toList)))))))))))

/-! ## The verifiers -/

inductive EvidenceBundleVerifyError where
  | manifestPolicy (error : EvidencePolicyError)
  | transcriptBinding (error : TranscriptBindingError)
  | transcriptSignature (error : TranscriptSignatureError)
  | transcriptBackendSuiteMismatch (manifestSuite backendSuite : SignatureSuite)
  | transcriptSignatureBackend (signatureSuite : SignatureSuite)
      (source : EvidenceSignatureBackendError)
  | bundleSeal (error : EvidenceBundleSealError)
  | bundleSealSignatureBackend (signatureSuite : SignatureSuite)
      (source : EvidenceSignatureBackendError)
  | publicKeyBinding (error : EvidencePublicKeyBindingError)
  | emptyTranscriptBoundBundle
  | transcriptSessionMismatch (seq : UInt64) (bindingSessionId entrySessionId : Uuid)
  | exportedChain (error : VerifyError)
  | ledgerBackendSuiteMismatch (manifestSuite backendSuite : SignatureSuite)
  | ledgerSignatureSuiteMismatch (seq : UInt64) (manifestSuite entrySuite : SignatureSuite)
deriving DecidableEq

variable (C : Crypto)

def verifyEvidenceBundleWithBackend (manifest : EvidenceCryptoManifest)
    (entries : List LedgerEntryExport) (publicKey : Bytes) (backend : EvidenceSignatureBackend) :
    Except EvidenceBundleVerifyError Unit := do
  manifest.validateAgainstPolicy.mapError .manifestPolicy
  failIf (backend.suite ≠ manifest.ledgerSignature)
    (.ledgerBackendSuiteMismatch manifest.ledgerSignature backend.suite)
  entries.forM (fun entry => do
    let entrySuite ← (entrySignatureSuiteForVerify entry).mapError .exportedChain
    failIf (entrySuite ≠ manifest.ledgerSignature)
      (.ledgerSignatureSuiteMismatch entry.seq manifest.ledgerSignature entrySuite))
  (verifyExportedChainWithBackend C backend publicKey entries).mapError .exportedChain

def verifyEvidenceBundleWithKeyBinding (manifest : EvidenceCryptoManifest)
    (entries : List LedgerEntryExport) (keyBinding : EvidencePublicKeyBinding)
    (backend : EvidenceSignatureBackend) : Except EvidenceBundleVerifyError Unit := do
  manifest.validateAgainstPolicy.mapError .manifestPolicy
  (keyBinding.validateAgainstManifestAndBackend C manifest backend).mapError .publicKeyBinding
  verifyEvidenceBundleWithBackend C manifest entries keyBinding.publicKey backend

def EvidenceBundle.verifySignedTranscriptBoundEvidenceBundleWithKeyBindings (b : EvidenceBundle)
    (transcriptBackend ledgerBackend : EvidenceSignatureBackend) :
    Except EvidenceBundleVerifyError Unit := do
  b.manifest.validateAgainstPolicy.mapError .manifestPolicy
  (b.transcriptBinding.validateAgainstManifest b.manifest).mapError .transcriptBinding
  let suite ← (b.transcriptSignature.validateAgainstBindingAndManifest b.transcriptBinding
    b.manifest).mapError .transcriptSignature
  failIf (transcriptBackend.suite ≠ b.manifest.transcriptSignature)
    (.transcriptBackendSuiteMismatch b.manifest.transcriptSignature transcriptBackend.suite)
  failIf (suite ≠ transcriptBackend.suite)
    (.transcriptBackendSuiteMismatch suite transcriptBackend.suite)
  (b.transcriptKeyBinding.validateAgainstSignatureSuiteAndBackend C
    b.manifest.transcriptSignature transcriptBackend).mapError .publicKeyBinding
  (b.ledgerKeyBinding.validateAgainstManifestAndBackend C b.manifest ledgerBackend).mapError
    .publicKeyBinding
  (transcriptBackend.verifySignature b.transcriptKeyBinding.publicKey
    (sessionTranscriptSignatureMessage b.transcriptBinding)
    b.transcriptSignature.signature.signature).mapError (.transcriptSignatureBackend suite)
  failIf (b.entries = []) .emptyTranscriptBoundBundle
  b.entries.forM (fun entry => failIf (entry.event.sessionId ≠ b.transcriptBinding.sessionId)
    (.transcriptSessionMismatch entry.seq b.transcriptBinding.sessionId entry.event.sessionId))
  verifyEvidenceBundleWithKeyBinding C b.manifest b.entries b.ledgerKeyBinding ledgerBackend

def EvidenceBundle.verifySealedSignedTranscriptBoundEvidenceBundleWithKeyBindings (b : EvidenceBundle)
    (transcriptBackend ledgerBackend : EvidenceSignatureBackend) :
    Except EvidenceBundleVerifyError Unit := do
  b.verifySignedTranscriptBoundEvidenceBundleWithKeyBindings C transcriptBackend ledgerBackend
  let suite ← b.validateSealAgainstBundle.mapError .bundleSeal
  (transcriptBackend.verifySignature b.transcriptKeyBinding.publicKey
    (evidenceBundleSealMessage b.bundleSeal) b.bundleSeal.signature.signature).mapError
    (.bundleSealSignatureBackend suite)

/-! ## What is accepted -/

structure KeyBound (suite : SignatureSuite) (k : EvidencePublicKeyBinding) : Prop where
  schema : k.schema = evidencePublicKeyBindingSchema
  algorithm : k.fingerprintAlgorithm = evidencePublicKeyFingerprintAlgorithm
  suite : k.signatureSuite = suite
  fingerprint : C.blake3 k.publicKey = k.publicKeyFingerprint

structure SealMatches (b : EvidenceBundle) : Prop where
  schema : b.bundleSeal.schema = evidenceBundleSealSchema
  sessionId : b.bundleSeal.sessionId = b.transcriptBinding.sessionId
  profile : b.bundleSeal.profile = b.manifest.profile
  transcriptSignature : b.bundleSeal.transcriptSignature = b.manifest.transcriptSignature
  ledgerSignature : b.bundleSeal.ledgerSignature = b.manifest.ledgerSignature
  algorithm : b.bundleSeal.transcriptHashAlgorithm = b.transcriptBinding.transcriptHashAlgorithm
  transcriptHash : b.bundleSeal.transcriptHash = b.transcriptBinding.transcriptHash
  transcriptKey : b.bundleSeal.transcriptPublicKeyFingerprint =
    b.transcriptKeyBinding.publicKeyFingerprint
  ledgerKey : b.bundleSeal.ledgerPublicKeyFingerprint = b.ledgerKeyBinding.publicKeyFingerprint
  lastEntryHash : ∃ hne : b.entries ≠ [],
    b.bundleSeal.ledgerLastEntryHash = (b.entries.getLast hne).entryHash

structure SealedAccepted (ledgerBackend : EvidenceSignatureBackend) (b : EvidenceBundle) :
    Prop where
  bindingSchema : b.transcriptBinding.schema = sessionTranscriptBindingSchema
  bindingAlgorithm : b.transcriptBinding.transcriptHashAlgorithm = sessionTranscriptHashAlgorithm
  bindingSuite : b.transcriptBinding.transcriptSignature = b.manifest.transcriptSignature
  transcriptKey : KeyBound C b.manifest.transcriptSignature b.transcriptKeyBinding
  ledgerKey : KeyBound C b.manifest.ledgerSignature b.ledgerKeyBinding
  ledgerSuite : ledgerBackend.suite = b.manifest.ledgerSignature
  linked : exportLinks.Linked (ExportSealed C ledgerBackend b.ledgerKeyBinding.publicKey) 0
    zeroHash b.entries
  sealed : SealMatches b

variable {C}

variable {k : EvidencePublicKeyBinding} {suite : SignatureSuite} {backend :
  EvidenceSignatureBackend}

lemma keyBound_of_validate
    (h : k.validateAgainstSignatureSuiteAndBackend C suite backend = .ok ()) :
    KeyBound C suite k := by
  simp only [EvidencePublicKeyBinding.validateAgainstSignatureSuiteAndBackend, bind_ok,
    failIf_ok, ne_eq, not_not] at h
  obtain ⟨-, hschema, -, halg, -, -, -, hsu, -, -, -, -, hfin⟩ := h
  exact ⟨hschema, halg, hsu, hfin⟩

variable {b : EvidenceBundle}

lemma sealMatches_of_validate (h : b.validateSealAgainstBundle = .ok suite) : SealMatches b := by
  simp only [EvidenceBundle.validateSealAgainstBundle, ledgerChainAnchors, bind_ok, failIf_ok,
    okOr_ok, pure_ok, ne_eq, not_not] at h
  obtain ⟨-, hschema, -, hses, -, hpro, -, htra, -, hled, -, halg, -,
    hhash, -, htkey, -, hlkey, _, ⟨_, -, last, hlast, rfl⟩, -, -, -, -, -, hlas, -⟩ := h
  have hne : b.entries ≠ [] := by
    intro hnil
    rw [hnil] at hlast
    cases hlast
  rw [List.getLast?_eq_some_getLast hne] at hlast
  cases hlast
  exact ⟨hschema, hses, hpro, htra, hled, halg, hhash, htkey, hlkey, hne, hlas⟩

lemma linked_of_verify {manifest : EvidenceCryptoManifest} {entries : List LedgerEntryExport}
    (h : verifyEvidenceBundleWithKeyBinding C manifest entries k backend = .ok ()) :
    backend.suite = manifest.ledgerSignature ∧
      exportLinks.Linked (ExportSealed C backend k.publicKey) 0 zeroHash entries := by
  simp only [verifyEvidenceBundleWithKeyBinding, verifyEvidenceBundleWithBackend,
    guard_bind_ok, failIf_ok, mapError_ok, verifyExportedChainWithBackend_ok, ne_eq, not_not] at h
  obtain ⟨-, -, -, hsu, -, hlin⟩ := h
  exact ⟨hsu, hlin⟩

lemma sealedAccepted_of_verify {transcriptBackend ledgerBackend : EvidenceSignatureBackend}
    (h : b.verifySealedSignedTranscriptBoundEvidenceBundleWithKeyBindings C transcriptBackend
    ledgerBackend = .ok ()) :
    SealedAccepted C ledgerBackend b := by
  rw [EvidenceBundle.verifySealedSignedTranscriptBoundEvidenceBundleWithKeyBindings, guard_bind_ok,
    bind_ok] at h
  obtain ⟨hsig, suite, hseal, -⟩ := h
  rw [EvidenceBundle.verifySignedTranscriptBoundEvidenceBundleWithKeyBindings, guard_bind_ok,
    guard_bind_ok, bind_ok] at hsig
  obtain ⟨-, hbin, suite', -, hche⟩ := hsig
  simp only [SessionTranscriptBinding.validateAgainstManifest, guard_bind_ok, mapError_ok,
    failIf_ok, ne_eq, not_not] at hbin
  simp only [EvidencePublicKeyBinding.validateAgainstManifestAndBackend, guard_bind_ok,
    mapError_ok] at hche hseal
  obtain ⟨hschema, halg, -, hsu⟩ := hbin
  obtain ⟨-, -, htkey, hlkey, -, -, -, hbun⟩ := hche
  obtain ⟨hlsu, hlin⟩ := linked_of_verify hbun
  exact ⟨hschema, halg, hsu, keyBound_of_validate htkey, keyBound_of_validate hlkey,
    hlsu, hlin, sealMatches_of_validate hseal⟩

/-! ## The seal message commits to the bundle -/

lemma prefixCodeOn_messageBytes :
    PrefixCodeOn {b : Bytes | b.length < 256 ^ 8} evidenceMessageBytes :=
  (prefixCodeOn_beBytes 8).lengthPrefixed

lemma prefixCodeOn_messageFixed {n : Nat} (hn : n < 256 ^ 8) :
    PrefixCodeOn Set.univ (fun v : FixedBytes n => evidenceMessageBytes v.toList) :=
  prefixCodeOn_messageBytes.comp (fun v _ => by simpa using hn) List.Vector.toList_injective.injOn

lemma prefixCodeOn_messageSuite :
    PrefixCodeOn Set.univ (fun s : SignatureSuite => evidenceMessageBytes (utf8 s.stableLabel)) :=
  prefixCodeOn_messageBytes.comp (fun s _ => by cases s <;> decide)
    (utf8_injective.comp SignatureSuite.stableLabel_injective).injOn

lemma prefixCodeOn_messageProfile : PrefixCodeOn Set.univ
      (fun p : CryptoPolicyProfile => evidenceMessageBytes (utf8 p.stableLabel)) :=
  prefixCodeOn_messageBytes.comp (fun p _ => by cases p <;> decide)
    (utf8_injective.comp CryptoPolicyProfile.stableLabel_injective).injOn

lemma sealMessage_inj {s t : EvidenceBundleSeal} (hschema : s.schema = t.schema)
    (halgorithm : s.transcriptHashAlgorithm = t.transcriptHashAlgorithm)
    (h : evidenceBundleSealMessage s = evidenceBundleSealMessage t) :
    s = { t with signature := s.signature } := by
  unfold evidenceBundleSealMessage at h
  rw [hschema, halgorithm] at h
  have h := List.append_cancel_left (List.append_cancel_left h)
  obtain ⟨hses, h⟩ := prefixCodeOn_messageFixed (n := 16) (by decide) _ trivial _ trivial _ _ h
  obtain ⟨hpro, h⟩ := prefixCodeOn_messageProfile _ trivial _ trivial _ _ h
  obtain ⟨htra, h⟩ := prefixCodeOn_messageSuite _ trivial _ trivial _ _ h
  obtain ⟨hled, h⟩ := prefixCodeOn_messageSuite _ trivial _ trivial _ _ h
  have h := List.append_cancel_left h
  obtain ⟨hhash, h⟩ := prefixCodeOn_messageFixed (n := 32) (by decide) _ trivial _ trivial _ _ h
  obtain ⟨htkey, h⟩ := prefixCodeOn_messageFixed (n := 32) (by decide) _ trivial _ trivial _ _ h
  obtain ⟨hlkey, h⟩ := prefixCodeOn_messageFixed (n := 32) (by decide) _ trivial _ trivial _ _ h
  obtain ⟨hcount, h⟩ := u64Be_append_inj.mp h
  obtain ⟨hfirst, h⟩ := prefixCodeOn_messageFixed (n := 32) (by decide) _ trivial _ trivial _ _ h
  have hlast := (prefixCodeOn_messageFixed (n := 32) (by decide)).injOn trivial trivial h
  cases s
  cases t
  simp_all

/-- The parts of two bundles that the seal is about are the same, the ledger entries up to
their signature bytes. -/
structure SameParts (b c : EvidenceBundle) : Prop where
  profile : b.manifest.profile = c.manifest.profile
  transcriptSuite : b.manifest.transcriptSignature = c.manifest.transcriptSignature
  ledgerSuite : b.manifest.ledgerSignature = c.manifest.ledgerSignature
  sessionId : b.transcriptBinding.sessionId = c.transcriptBinding.sessionId
  transcriptHash : b.transcriptBinding.transcriptHash = c.transcriptBinding.transcriptHash
  transcriptHashAlgorithm : b.transcriptBinding.transcriptHashAlgorithm =
    c.transcriptBinding.transcriptHashAlgorithm
  transcriptKey : b.transcriptKeyBinding = c.transcriptKeyBinding
  ledgerKey : b.ledgerKeyBinding = c.ledgerKeyBinding
  entries : List.Forall₂ SameExport b.entries c.entries

lemma keyBinding_eq {l : EvidencePublicKeyBinding} (hk : KeyBound C suite k)
    (hl : KeyBound C suite l)
    (hblake3 : C.blake3 k.publicKey = C.blake3 l.publicKey → k.publicKey = l.publicKey)
    (h : k.publicKeyFingerprint = l.publicKeyFingerprint) : k = l := by
  have hkey : k.publicKey = l.publicKey := by
    apply hblake3
    rw [hk.fingerprint, hl.fingerprint, h]
  have hschema := hk.schema.trans hl.schema.symm
  have halg := hk.algorithm.trans hl.algorithm.symm
  have hsu := hk.suite.trans hl.suite.symm
  cases k
  cases l
  simp_all

def EvidenceBundle.keys (b : EvidenceBundle) : List Bytes :=
  [b.transcriptKeyBinding.publicKey, b.ledgerKeyBinding.publicKey]

def exportPreimages (entries : List LedgerEntryExport) : Set EntryPreimage :=
  {p | p ∈ entries.map LedgerEntryExport.preimage}

/-- **Sealed bundles.** Two bundles that the sealed verifier accepts, each with backends of its
own, and whose seals have one message agree on profile and suites, session, transcript hash and
algorithm and both verifier keys, and they hold the same ledger entries in the same order up to
signature bytes, as long as blake3 does not collide on their keys and entries. -/
theorem sealed_bundles_agree {b c : EvidenceBundle}
    {transcriptBackend ledgerBackend transcriptBackend' ledgerBackend' : EvidenceSignatureBackend}
    (hb : b.verifySealedSignedTranscriptBoundEvidenceBundleWithKeyBindings C
      transcriptBackend ledgerBackend = .ok ())
    (hc : c.verifySealedSignedTranscriptBoundEvidenceBundleWithKeyBindings C
      transcriptBackend' ledgerBackend' = .ok ())
    (hkeys : Set.InjOn C.blake3 {k | k ∈ b.keys ++ c.keys})
    (hfree : CollisionFreeOn C (exportPreimages (b.entries ++ c.entries)))
    (hmessage : evidenceBundleSealMessage b.bundleSeal = evidenceBundleSealMessage c.bundleSeal) :
    SameParts b c := by
  have hb := sealedAccepted_of_verify hb
  have hc := sealedAccepted_of_verify hc
  have halgorithm : b.transcriptBinding.transcriptHashAlgorithm =
      c.transcriptBinding.transcriptHashAlgorithm :=
    hb.bindingAlgorithm.trans hc.bindingAlgorithm.symm
  have hseal := sealMessage_inj (hb.sealed.schema.trans hc.sealed.schema.symm)
    (hb.sealed.algorithm.trans (halgorithm.trans hc.sealed.algorithm.symm)) hmessage
  have hprofile : b.manifest.profile = c.manifest.profile := by
    rw [← hb.sealed.profile, ← hc.sealed.profile, hseal]
  have htsuite : b.manifest.transcriptSignature = c.manifest.transcriptSignature := by
    rw [← hb.sealed.transcriptSignature, ← hc.sealed.transcriptSignature, hseal]
  have hlsuite : b.manifest.ledgerSignature = c.manifest.ledgerSignature := by
    rw [← hb.sealed.ledgerSignature, ← hc.sealed.ledgerSignature, hseal]
  have h : b.transcriptKeyBinding = c.transcriptKeyBinding := by
    refine keyBinding_eq hb.transcriptKey (htsuite ▸ hc.transcriptKey)
      (hkeys (by simp [EvidenceBundle.keys]) (by simp [EvidenceBundle.keys])) ?_
    rw [← hb.sealed.transcriptKey, ← hc.sealed.transcriptKey, hseal]
  have hlkey : b.ledgerKeyBinding = c.ledgerKeyBinding := by
    refine keyBinding_eq hb.ledgerKey (hlsuite ▸ hc.ledgerKey)
      (hkeys (by simp [EvidenceBundle.keys]) (by simp [EvidenceBundle.keys])) ?_
    rw [← hb.sealed.ledgerKey, ← hc.sealed.ledgerKey, hseal]
  obtain ⟨hbne, hblast⟩ := hb.sealed.lastEntryHash
  obtain ⟨hcne, hclast⟩ := hc.sealed.lastEntryHash
  have hlast : (b.entries.getLast hbne).entryHash = (c.entries.getLast hcne).entryHash := by
    rw [← hblast, ← hclast, hseal]
  -- the last hash determines the chain in front of it
  have hentries : List.Forall₂ SameExport b.entries c.entries := by
    refine hb.linked.commits (fun x y hxy => ⟨congrArg UInt64.toNat hxy.seq, hxy.prevHash⟩)
      hc.linked ?_ hbne hcne hlast
    intro x hx y hy hhash
    exact sameExport_of_sealed (hb.linked.good_of_mem hx) (hc.linked.good_of_mem hy)
      (hb.ledgerSuite.trans (hlsuite.trans hc.ledgerSuite.symm)) hfree
      (List.mem_map_of_mem (List.mem_append_left _ hx))
      (List.mem_map_of_mem (List.mem_append_right _ hy)) hhash
  refine ⟨hprofile, htsuite, hlsuite, ?_, ?_, halgorithm, h, hlkey, hentries⟩
  · rw [← hb.sealed.sessionId, ← hc.sealed.sessionId, hseal]
  · rw [← hb.sealed.transcriptHash, ← hc.sealed.transcriptHash, hseal]

/-- A verifier that takes more than one signature for a message: the last byte is free. -/
def lenientBackend : EvidenceSignatureBackend where
  suite := .ed25519Rfc8032
  verifySignature publicKey message signature :=
    failIf (signature.dropLast ≠ (foldDigest 64 (publicKey ++ message)).toList.dropLast) .badSignature

/-- A bundle for the sample chain of `sampleKey 7` whose signatures all end in the given byte. -/
def sampleBundle (last : UInt8) : EvidenceBundle :=
  let sign message := SignatureEnvelope.new .ed25519Rfc8032
    ((sampleCrypto.ed25519.sign (sampleKey 7).val message).toList.dropLast ++ [last])
  let key := EvidencePublicKeyBinding.new sampleCrypto .ed25519Rfc8032 (sampleKey 7).val.toList
  let entries := (sampleChain (sampleKey 7)).map fun e =>
    { LedgerEntryExport.fromLegacyEntry e with signature := sign e.entryHash.toList }
  let binding : SessionTranscriptBinding :=
    ⟨sessionTranscriptBindingSchema, (sampleEvent .request).sessionId,
      sessionTranscriptHashAlgorithm, .replicate 32 9, .ed25519Rfc8032⟩
  let unsigned : EvidenceBundleSeal :=
    ⟨evidenceBundleSealSchema, binding.sessionId, .hybridPrePqcV1, .ed25519Rfc8032,
      .ed25519Rfc8032, binding.transcriptHashAlgorithm, binding.transcriptHash,
      key.publicKeyFingerprint, key.publicKeyFingerprint, 2,
      (entries.head?.map (·.entryHash)).getD zeroHash,
      (entries.getLast?.map (·.entryHash)).getD zeroHash, .new .ed25519Rfc8032 []⟩
  { manifest := ⟨"xenia-evidence-crypto-manifest-v1", .hybridPrePqcV1, "ml-kem-768-fips203",
      .ed25519Rfc8032, .ed25519Rfc8032, "blake3-256", "hkdf-sha256", "chacha20-poly1305",
      .explicitClassicalSignatureAllowance⟩
    transcriptBinding := binding
    transcriptSignature := ⟨sessionTranscriptSignatureSchema, binding.sessionId,
      binding.transcriptHashAlgorithm, binding.transcriptHash,
      sign (sessionTranscriptSignatureMessage binding)⟩
    bundleSeal := { unsigned with signature := sign (evidenceBundleSealMessage unsigned) }
    transcriptKeyBinding := key
    entries := entries
    ledgerKeyBinding := key }

/-- Two bundles with different signatures under one seal message. -/
theorem sealed_bundles_agree_sample :
    let b := sampleBundle 0
    let c := sampleBundle 1
    b ≠ c ∧ SameParts b c ∧ ∀ bundle ∈ [b, c],
      bundle.verifySealedSignedTranscriptBoundEvidenceBundleWithKeyBindings sampleCrypto
        lenientBackend lenientBackend = .ok () := by
  intro b c
  have haccepted : ∀ bundle ∈ [b, c],
      bundle.verifySealedSignedTranscriptBoundEvidenceBundleWithKeyBindings sampleCrypto
        lenientBackend lenientBackend = .ok () := by
    decide +kernel
  have hkeys : Set.InjOn sampleCrypto.blake3 {k | k ∈ b.keys ++ c.keys} :=
    injOn_of_nodup_map (by decide +kernel)
  have hfree : CollisionFreeOn sampleCrypto (exportPreimages (b.entries ++ c.entries)) :=
    collisionFreeOn_of_nodup (by decide +kernel)
  exact ⟨by decide +kernel, sealed_bundles_agree (haccepted b (by simp)) (haccepted c (by simp)) hkeys
    hfree (by decide +kernel), haccepted⟩

end XeniaPeer.Ledger
