import XeniaPeer.Ledger.Entry

/-!
# Signature suites and envelopes

Exported evidence carries its signatures in envelopes that name their suite (`signature.rs`).
A backend verifies the signatures of one suite; the evidence verifiers take it as an argument,
so that everything proved about them holds for every backend.
-/

namespace XeniaPeer.Ledger

open Foundation

inductive SignatureSuite where
  | ed25519Rfc8032
  | mlDsa65Fips204
  | mlDsa87Fips204
  | slhDsaFips205
deriving DecidableEq

namespace SignatureSuite

def stableLabel : SignatureSuite → String
  | ed25519Rfc8032 => "ed25519-rfc8032"
  | mlDsa65Fips204 => "ml-dsa-65-fips204"
  | mlDsa87Fips204 => "ml-dsa-87-fips204"
  | slhDsaFips205 => "slh-dsa-fips205"

def isPostQuantum : SignatureSuite → Bool
  | ed25519Rfc8032 => false
  | _ => true

def fromStableLabel (label : String) : Option SignatureSuite :=
  match label with
  | "ed25519-rfc8032" => some ed25519Rfc8032
  | "ml-dsa-65-fips204" => some mlDsa65Fips204
  | "ml-dsa-87-fips204" => some mlDsa87Fips204
  | "slh-dsa-fips205" => some slhDsaFips205
  | _ => none

def fixedSignatureLen : SignatureSuite → Option Nat
  | ed25519Rfc8032 => some 64
  | mlDsa65Fips204 => some 3309
  | mlDsa87Fips204 => some 4627
  | slhDsaFips205 => none

def fixedPublicKeyLen : SignatureSuite → Option Nat
  | ed25519Rfc8032 => some 32
  | mlDsa65Fips204 => some 1952
  | mlDsa87Fips204 => some 2592
  | slhDsaFips205 => none

lemma stableLabel_injective : Function.Injective stableLabel := by
  intro a b h
  cases a <;> cases b <;> first | rfl | simp [stableLabel] at h

lemma label_of_fromStableLabel {label : String} {suite : SignatureSuite}
    (h : fromStableLabel label = some suite) : label = suite.stableLabel := by
  unfold fromStableLabel at h
  split at h <;> cases h <;> rfl

end SignatureSuite

/-! ## Envelopes -/

structure SignatureEnvelope where
  algorithm : String
  signature : Bytes
deriving DecidableEq

inductive SignatureEnvelopeError where
  | unknownSignatureSuite (algorithm : String)
  | badSignatureLength (algorithm : String) (expected found : Nat)
  | unsupportedLegacySuite (algorithm : String)
deriving DecidableEq

namespace SignatureEnvelope

def new (suite : SignatureSuite) (signature : Bytes) : SignatureEnvelope :=
  ⟨suite.stableLabel, signature⟩

def suite (e : SignatureEnvelope) : Except SignatureEnvelopeError SignatureSuite :=
  okOr (SignatureSuite.fromStableLabel e.algorithm) (.unknownSignatureSuite e.algorithm)

def validateShape (e : SignatureEnvelope) : Except SignatureEnvelopeError SignatureSuite := do
  let suite ← e.suite
  suite.fixedSignatureLen.forM (fun expected => failIf (e.signature.length ≠ expected)
    (.badSignatureLength e.algorithm expected e.signature.length))
  pure suite

def toLegacyEd25519 (e : SignatureEnvelope) : Except SignatureEnvelopeError (FixedBytes 64) := do
  let suite ← e.validateShape
  failIf (suite ≠ .ed25519Rfc8032) (.unsupportedLegacySuite e.algorithm)
  okOr (FixedBytes.ofBytes? 64 e.signature)
    (.badSignatureLength e.algorithm 64 e.signature.length)

lemma algorithm_of_validateShape {e : SignatureEnvelope} {suite : SignatureSuite}
    (h : e.validateShape = .ok suite) : e.algorithm = suite.stableLabel := by
  simp only [validateShape, SignatureEnvelope.suite, bind_ok, okOr_ok, pure_ok] at h
  obtain ⟨named, hnam, -, -, rfl⟩ := h
  exact SignatureSuite.label_of_fromStableLabel hnam

lemma validateShape_ed25519 (signature : FixedBytes 64) :
    (new .ed25519Rfc8032 signature.toList).validateShape = .ok .ed25519Rfc8032 := by
  have hlen : signature.toList.length = 64 := signature.toList_length
  simp only [validateShape, SignatureEnvelope.suite, bind_ok, okOr_ok, pure_ok]
  refine ⟨_, rfl, (), ?_, rfl⟩
  show failIf (signature.toList.length ≠ 64) _ = _
  rw [failIf_ok, not_not, hlen]

lemma exists_legacy {e : SignatureEnvelope} (h : e.validateShape = .ok .ed25519Rfc8032) :
    ∃ signature, e.toLegacyEd25519 = .ok signature ∧ e = new .ed25519Rfc8032 signature.toList := by
  have hlng : e.signature.length = 64 := by
    simp only [validateShape, bind_ok, pure_ok] at h
    obtain ⟨suite, -, _, hlen, rfl⟩ := h
    exact not_not.mp (failIf_ok.mp hlen)
  have hpar : FixedBytes.ofBytes? 64 e.signature = some ⟨e.signature, hlng⟩ :=
    FixedBytes.ofBytes?_eq_some.mpr rfl
  refine ⟨⟨e.signature, hlng⟩, ?_, ?_⟩
  · rw [toLegacyEd25519, h, hpar]
    rfl
  · have halg := algorithm_of_validateShape h
    cases e
    cases halg
    rfl

end SignatureEnvelope

/-! ## Backends -/

inductive EvidenceSignatureBackendError where
  | badPublicKeyLength (expected found : Nat)
  | badSignatureLength (expected found : Nat)
  | badPublicKey
  | badSignatureEncoding
  | badSignature
  | unsupportedSuite (suite : SignatureSuite)
deriving DecidableEq

structure EvidenceSignatureBackend where
  suite : SignatureSuite
  verifySignature : Bytes → Bytes → Bytes → Except EvidenceSignatureBackendError Unit

def ed25519EvidenceSignatureBackend (C : Crypto) : EvidenceSignatureBackend where
  suite := .ed25519Rfc8032
  verifySignature publicKey message signature := do
    let key ← okOr (FixedBytes.ofBytes? 32 publicKey) (.badPublicKeyLength 32 publicKey.length)
    let bytes ← okOr (FixedBytes.ofBytes? 64 signature)
      (.badSignatureLength 64 signature.length)
    let verifyingKey ← okOr (C.ed25519.fromBytes key) .badPublicKey
    failIf (C.ed25519.verify verifyingKey message bytes = false) .badSignature

end XeniaPeer.Ledger
