import XeniaPeer.Zk.Codec

/-!
# Verification of proof envelopes

The three stages of strict verification (`xenia-zk-protocol`, `verification.rs`): the policy and the
exact contract, the backend proof over the supplied public inputs, and the signature of every
authentication entry. The proof backend and the signature schemes are adapters of the caller and are
parameters here.

Main result: `verifyEnvelope_iff_verified`.
-/

namespace XeniaPeer.Zk

open Foundation

/-! ## The stages -/

structure ChallengeBoundPublicInputs where
  challengeNonce : FixedBytes 32
  canonicalApplicationInputs : Bytes

structure ProofBackendVerifier where
  proofSystem : ProofSystemId
  verifierId : VerifierId
  parameterSetId : ParameterSetId
  verify : Bytes → ChallengeBoundPublicInputs → Bool

structure ProofAuthenticationVerifier where
  suite : AuthenticationSuiteId
  signerKeyId : FixedBytes 32
  verify : FixedBytes 32 → Bytes → Bool

structure ProofVerifiedEnvelope where
  validated : ContractValidatedEnvelope
deriving DecidableEq

structure FullyVerifiedEnvelope where
  proofVerified : ProofVerifiedEnvelope
deriving DecidableEq

inductive CryptographicVerificationError where
  | contract (error : EnvelopeValidationError)
  | publicInputsMismatch
  | publicInputsTooLarge (actual limit : Nat)
  | backendProofSystemMismatch
  | backendVerifierMismatch
  | backendParameterSetMismatch
  | proofRejected
  | missingAuthenticationVerifier (suite : UInt16)
  | authenticationVerifierMismatch
  | authenticationRejected (suite : UInt16)
deriving DecidableEq

variable (sha256 : Bytes → FixedBytes 32)

def verifyBackendProof (validated : ContractValidatedEnvelope) (canonicalPublicInputs : Bytes)
    (backend : ProofBackendVerifier) :
    Except CryptographicVerificationError ProofVerifiedEnvelope := do
  let envelope := validated.envelope
  failIf (canonicalPublicInputs.length > validated.maxPublicInputBytes)
    (.publicInputsTooLarge canonicalPublicInputs.length validated.maxPublicInputBytes)
  let digest ← (publicInputsDigest sha256 envelope.statement envelope.nonce
    canonicalPublicInputs).mapError fun _ => .publicInputsMismatch
  failIf (digest ≠ envelope.publicInputsHash) .publicInputsMismatch
  failIf (backend.proofSystem ≠ envelope.proofSystem) .backendProofSystemMismatch
  failIf (backend.verifierId ≠ envelope.verifierId) .backendVerifierMismatch
  failIf (backend.parameterSetId ≠ envelope.parameterSetId) .backendParameterSetMismatch
  failIf (¬ backend.verify envelope.proof ⟨envelope.nonce, canonicalPublicInputs⟩) .proofRejected
  pure ⟨validated⟩

def findVerifier (verifiers : List ProofAuthenticationVerifier) (entry : ProofAuthentication) :
    Option ProofAuthenticationVerifier :=
  verifiers.find? fun candidate =>
    candidate.suite = entry.suite ∧ candidate.signerKeyId = entry.signerKeyId

def verifyEntry (envelope : ProofEnvelopeV3) (verifiers : List ProofAuthenticationVerifier)
    (entry : ProofAuthentication) : Except CryptographicVerificationError Unit := do
  let verifier ← okOr (findVerifier verifiers entry)
    (.missingAuthenticationVerifier entry.suite.wireId)
  failIf (verifier.suite ≠ entry.suite ∨ verifier.signerKeyId ≠ entry.signerKeyId)
    .authenticationVerifierMismatch
  let digest ← (envelope.authenticationDigest sha256 entry.suite entry.signerKeyId).mapError
    fun _ => .authenticationRejected entry.suite.wireId
  failIf (¬ verifier.verify digest entry.signature) (.authenticationRejected entry.suite.wireId)

def verifyAuthentication (proofVerified : ProofVerifiedEnvelope)
    (verifiers : List ProofAuthenticationVerifier) :
    Except CryptographicVerificationError FullyVerifiedEnvelope := do
  let envelope := proofVerified.validated.envelope
  envelope.authentication.forM (verifyEntry sha256 envelope verifiers)
  pure ⟨proofVerified⟩

def verifyEnvelope (envelope : ProofEnvelopeV3) (policy : EnvelopePolicy)
    (contract : VerificationContract) (nowUnixSeconds : UInt64) (canonicalPublicInputs : Bytes)
    (backend : ProofBackendVerifier)
    (authenticationVerifiers : List ProofAuthenticationVerifier) :
    Except CryptographicVerificationError FullyVerifiedEnvelope := do
  let validated ← (validateEnvelopeAgainstContract envelope policy contract
    nowUnixSeconds).mapError .contract
  let proofVerified ← verifyBackendProof sha256 validated canonicalPublicInputs backend
  verifyAuthentication sha256 proofVerified authenticationVerifiers

/-! ## What the stages accept -/

/-- The public inputs are within the limit and hash to the digest of the envelope, and the backend
of its identities accepts the proof for them and the nonce. -/
structure BackendAccepts (envelope : ProofEnvelopeV3) (maxPublicInputBytes : Nat)
    (inputs : Bytes) (backend : ProofBackendVerifier) : Prop where
  short : inputs.length ≤ maxPublicInputBytes
  digest : publicInputsDigest sha256 envelope.statement envelope.nonce inputs =
    .ok envelope.publicInputsHash
  proofSystem : backend.proofSystem = envelope.proofSystem
  verifierId : backend.verifierId = envelope.verifierId
  parameterSetId : backend.parameterSetId = envelope.parameterSetId
  accepts : backend.verify envelope.proof ⟨envelope.nonce, inputs⟩ = true

def EntryVerifies (envelope : ProofEnvelopeV3) (verifiers : List ProofAuthenticationVerifier)
    (entry : ProofAuthentication) : Prop :=
  ∃ verifier digest, findVerifier verifiers entry = some verifier ∧
    envelope.authenticationDigest sha256 entry.suite entry.signerKeyId = .ok digest ∧
    verifier.verify digest entry.signature = true

/-- All that the envelope, its proof and its signatures have to be. -/
structure Verified (envelope : ProofEnvelopeV3) (policy : EnvelopePolicy)
    (contract : VerificationContract) (nowUnixSeconds : UInt64) (inputs : Bytes)
    (backend : ProofBackendVerifier) (verifiers : List ProofAuthenticationVerifier) : Prop where
  admissible : Admissible policy nowUnixSeconds envelope
  binding : MatchesBinding contract.binding envelope
  backend : BackendAccepts sha256 envelope policy.maxPublicInputBytes inputs backend
  requirements : MeetsRequirements contract envelope
  entries : ∀ entry ∈ envelope.authentication, EntryVerifies sha256 envelope verifiers entry

variable {sha256}

lemma verifyBackendProof_ok {validated : ContractValidatedEnvelope} {inputs : Bytes}
    {backend : ProofBackendVerifier} {verified : ProofVerifiedEnvelope} :
    verifyBackendProof sha256 validated inputs backend = .ok verified ↔
      BackendAccepts sha256 validated.envelope validated.maxPublicInputBytes inputs backend ∧
        verified = ⟨validated⟩ := by
  simp only [verifyBackendProof, bind_ok, exists_const, failIf_ok, mapError_ok,
    pure_ok, gt_iff_lt, not_lt, ne_eq, not_not]
  constructor
  · rintro ⟨hsh, _, hdigest, rfl, hsys, hverifier, hpar, haccepts, rfl⟩
    exact ⟨⟨hsh, hdigest, hsys, hverifier, hpar, haccepts⟩, rfl⟩
  · rintro ⟨⟨hsh, hdigest, hsys, hverifier, hpar, haccepts⟩, rfl⟩
    exact ⟨hsh, _, hdigest, rfl, hsys, hverifier, hpar, haccepts, rfl⟩

variable {verifiers : List ProofAuthenticationVerifier} {entry : ProofAuthentication}

lemma findVerifier_matches {verifier : ProofAuthenticationVerifier}
    (h : findVerifier verifiers entry = some verifier) :
    verifier.suite = entry.suite ∧ verifier.signerKeyId = entry.signerKeyId := by
  simpa using List.find?_some h

lemma verifyEntry_ok {envelope : ProofEnvelopeV3} {u : Unit} :
    verifyEntry sha256 envelope verifiers entry = .ok u ↔
      EntryVerifies sha256 envelope verifiers entry := by
  simp only [verifyEntry, bind_ok, exists_const, okOr_ok, failIf_ok, mapError_ok,
    not_or, ne_eq, not_not]
  constructor
  · rintro ⟨verifier, hfind, -, digest, hdigest, haccepts⟩
    exact ⟨verifier, digest, hfind, hdigest, haccepts⟩
  · rintro ⟨verifier, digest, hfind, hdigest, haccepts⟩
    -- The adapter was found by its identity, so the second comparison never fails.
    exact ⟨verifier, hfind, findVerifier_matches hfind, digest, hdigest, haccepts⟩

lemma verifyAuthentication_ok {proofVerified : ProofVerifiedEnvelope}
    {verified : FullyVerifiedEnvelope} :
    verifyAuthentication sha256 proofVerified verifiers = .ok verified ↔
      (∀ entry ∈ proofVerified.validated.envelope.authentication,
        EntryVerifies sha256 proofVerified.validated.envelope verifiers entry) ∧
        verified = ⟨proofVerified⟩ := by
  simp only [verifyAuthentication, guard_bind_ok, forM_ok, verifyEntry_ok, pure_ok]
  exact and_congr_right fun _ => eq_comm

/-- The pipeline accepts exactly the verified envelopes, and returns the envelope it was given. -/
theorem verifyEnvelope_iff_verified (sha256 : Bytes → FixedBytes 32) (envelope : ProofEnvelopeV3)
    (policy : EnvelopePolicy) (contract : VerificationContract) (now : UInt64) (inputs : Bytes)
    (backend : ProofBackendVerifier) (verifiers : List ProofAuthenticationVerifier)
    (result : FullyVerifiedEnvelope) :
    verifyEnvelope sha256 envelope policy contract now inputs backend verifiers = .ok result ↔
      Verified sha256 envelope policy contract now inputs backend verifiers ∧
        result = ⟨⟨⟨envelope, policy.maxPublicInputBytes⟩⟩⟩ := by
  simp only [verifyEnvelope, bind_ok, mapError_ok, validateEnvelopeAgainstContract_ok,
    verifyBackendProof_ok, verifyAuthentication_ok]
  constructor
  · rintro ⟨_, ⟨hadmissible, hbinding, hrequirements, rfl⟩, _, ⟨hbackend, rfl⟩, hentries, rfl⟩
    exact ⟨⟨hadmissible, hbinding, hbackend, hrequirements, hentries⟩, rfl⟩
  · rintro ⟨⟨hadmissible, hbinding, hbackend, hrequirements, hentries⟩, rfl⟩
    exact ⟨_, ⟨hadmissible, hbinding, hrequirements, rfl⟩, _, ⟨hbackend, rfl⟩, hentries, rfl⟩

def sampleContract : VerificationContract where
  binding := ⟨sampleStatement, .miden, sampleEnvelope.verifierId, sampleEnvelope.parameterSetId,
    sampleEnvelope.nonce, sampleEnvelope.publicInputsHash, sampleEnvelope.extensionsDigest⟩
  authentication := [⟨.mlDsa65Fips204, [.replicate 32 0x99], 1⟩]

-- A hash with one value, a backend for one proof and challenge, and a signer with one signature.
example : verifyEnvelope (fun _ => .replicate 32 0x44) sampleEnvelope .default
    sampleContract 1800000060 [7]
    ⟨.miden, sampleEnvelope.verifierId, sampleEnvelope.parameterSetId, fun proof inputs =>
      proof = [0x55, 0x66, 0x77] ∧ inputs.challengeNonce = sampleEnvelope.nonce⟩
    [⟨.mlDsa65Fips204, .replicate 32 0x99, fun _ signature => signature = [1, 2]⟩] =
      .ok ⟨⟨⟨sampleEnvelope, EnvelopePolicy.default.maxPublicInputBytes⟩⟩⟩ := by
  decide +kernel

end XeniaPeer.Zk
