import XeniaPeer.Foundation.Words
import XeniaPeer.Zk.Envelope

/-!
# Policies and contracts for proof envelopes

The checks that come before any cryptography (`xenia-zk-protocol`, `policy.rs`): the limit on an
encoded frame, the resource and time policy for a decoded envelope, and the exact contract of the
application, which pins every identity of the proof and the signers that it trusts.
-/

namespace XeniaPeer.Zk

open Foundation

/-! ## Policy and contract -/

structure EnvelopePolicy where
  protocolVersion : UInt32
  (maxProofBytes maxSignatureBytes maxAuthenticationEntries maxEncodedEnvelopeBytes : Nat)
  maxPublicInputBytes : Nat
  (maxAgeSeconds maxFutureSkewSeconds : UInt64)
  allowedProofSystems : List ProofSystemId
  requiredAuthenticationSuites : List AuthenticationSuiteId
deriving DecidableEq

def proofEnvelopeProtocolVersion : UInt32 := 3

def EnvelopePolicy.default : EnvelopePolicy where
  protocolVersion := proofEnvelopeProtocolVersion
  maxProofBytes := 512 * 1024
  maxSignatureBytes := 16 * 1024
  maxAuthenticationEntries := 4
  maxEncodedEnvelopeBytes := 1024 * 1024
  maxPublicInputBytes := 256 * 1024
  maxAgeSeconds := 60 * 60
  maxFutureSkewSeconds := 5 * 60
  allowedProofSystems := []
  requiredAuthenticationSuites := [.mlDsa65Fips204]

structure ProofVerificationBinding where
  statement : StatementId
  proofSystem : ProofSystemId
  verifierId : VerifierId
  parameterSetId : ParameterSetId
  (nonce publicInputsHash extensionsDigest : FixedBytes 32)
deriving DecidableEq

structure AuthenticationRequirement where
  suite : AuthenticationSuiteId
  trustedSignerKeyIds : List (FixedBytes 32)
  minDistinctSigners : Nat
deriving DecidableEq

structure VerificationContract where
  binding : ProofVerificationBinding
  authentication : List AuthenticationRequirement
deriving DecidableEq

inductive EnvelopeValidationError where
  | protocolVersion (expected actual : UInt32)
  | statement (error : ProtocolError)
  | emptyEncodedEnvelope
  | encodedEnvelopeTooLarge (actual limit : Nat)
  | emptyProof
  | proofTooLarge (actual limit : Nat)
  | zeroVerifierId
  | zeroParameterSetId
  | zeroNonce
  | zeroPublicInputsHash
  | zeroExtensionsDigest
  | futureTimestamp
  | expiredTimestamp
  | proofSystemNotAllowed (proofSystem : UInt16)
  | tooManyAuthenticationEntries (actual limit : Nat)
  | zeroSignerKeyId
  | emptySignature
  | signatureTooLarge (actual limit : Nat)
  | duplicateAuthentication (suite : UInt16)
  | missingAuthenticationSuite (suite : UInt16)
  | reservedProofSystem
  | reservedAuthenticationSuite
  | contractStatementMismatch
  | contractProofSystemMismatch
  | contractVerifierMismatch
  | contractParameterSetMismatch
  | contractNonceMismatch
  | contractPublicInputsMismatch
  | contractExtensionsMismatch
  | invalidAuthenticationRequirement (suite : UInt16)
  | untrustedAuthentication
  | authenticationQuorumNotMet (suite : UInt16) (required actual : Nat)
deriving DecidableEq

def boundEnvelopeFrameBeforeDeserialization (encoded : Bytes) (policy : EnvelopePolicy) :
    Except EnvelopeValidationError Bytes := do
  failIf encoded.isEmpty .emptyEncodedEnvelope
  failIf (encoded.length > policy.maxEncodedEnvelopeBytes)
    (.encodedEnvelopeTooLarge encoded.length policy.maxEncodedEnvelopeBytes)
  pure encoded

/-! ## The resource and time policy -/

def ProofAuthentication.identity (entry : ProofAuthentication) : UInt16 × FixedBytes 32 :=
  (entry.suite.wireId, entry.signerKeyId)

def validateAuthentication (policy : EnvelopePolicy) (before : List ProofAuthentication)
    (authentication : ProofAuthentication) : Except EnvelopeValidationError Unit := do
  failIf (authentication.suite.wireId = 0) .reservedAuthenticationSuite
  failIf (authentication.signerKeyId = zero32) .zeroSignerKeyId
  failIf authentication.signature.isEmpty .emptySignature
  failIf (authentication.signature.length > policy.maxSignatureBytes)
    (.signatureTooLarge authentication.signature.length policy.maxSignatureBytes)
  failIf (authentication.identity ∈ before.map ProofAuthentication.identity)
    (.duplicateAuthentication authentication.suite.wireId)

def validateEnvelope (envelope : ProofEnvelopeV3) (policy : EnvelopePolicy)
    (nowUnixSeconds : UInt64) : Except EnvelopeValidationError Unit := do
  failIf (envelope.protocolVersion ≠ policy.protocolVersion)
    (.protocolVersion policy.protocolVersion envelope.protocolVersion)
  envelope.statement.validate.mapError .statement
  failIf (envelope.proofSystem.wireId = 0) .reservedProofSystem
  failIf envelope.proof.isEmpty .emptyProof
  failIf (envelope.proof.length > policy.maxProofBytes)
    (.proofTooLarge envelope.proof.length policy.maxProofBytes)
  failIf envelope.verifierId.isZero .zeroVerifierId
  failIf envelope.parameterSetId.isZero .zeroParameterSetId
  failIf (envelope.nonce = zero32) .zeroNonce
  failIf (envelope.publicInputsHash = zero32) .zeroPublicInputsHash
  failIf (envelope.extensionsDigest = zero32) .zeroExtensionsDigest
  let latestAllowed := saturatingAdd nowUnixSeconds policy.maxFutureSkewSeconds.toNat
  failIf (envelope.timestampUnixSeconds > latestAllowed) .futureTimestamp
  let oldestAllowed := (checkedSub nowUnixSeconds policy.maxAgeSeconds).getD 0
  failIf (envelope.timestampUnixSeconds < oldestAllowed) .expiredTimestamp
  failIf (policy.allowedProofSystems ≠ [] ∧ envelope.proofSystem ∉ policy.allowedProofSystems)
    (.proofSystemNotAllowed envelope.proofSystem.wireId)
  failIf (envelope.authentication.length > policy.maxAuthenticationEntries)
    (.tooManyAuthenticationEntries envelope.authentication.length policy.maxAuthenticationEntries)
  checkEach (validateAuthentication policy) [] envelope.authentication
  policy.requiredAuthenticationSuites.forM fun required =>
    failIf (∀ entry ∈ envelope.authentication, entry.suite ≠ required)
      (.missingAuthenticationSuite required.wireId)

/-! ## The contract -/

def actualSigners (requirement : AuthenticationRequirement) (envelope : ProofEnvelopeV3) :
    List (FixedBytes 32) :=
  ((envelope.authentication.filter fun entry => entry.suite = requirement.suite ∧
    entry.signerKeyId ∈ requirement.trustedSignerKeyIds).map
      ProofAuthentication.signerKeyId).dedup

def validateRequirement (envelope : ProofEnvelopeV3) (before : List AuthenticationRequirement)
    (requirement : AuthenticationRequirement) : Except EnvelopeValidationError Unit := do
  failIf (requirement.suite.wireId ∈ before.map (fun r => r.suite.wireId) ∨
      requirement.suite.wireId = 0 ∨ requirement.minDistinctSigners = 0 ∨
      requirement.trustedSignerKeyIds.length < requirement.minDistinctSigners ∨
      zero32 ∈ requirement.trustedSignerKeyIds)
    (.invalidAuthenticationRequirement requirement.suite.wireId)
  failIf (requirement.trustedSignerKeyIds.dedup.length ≠ requirement.trustedSignerKeyIds.length)
    (.invalidAuthenticationRequirement requirement.suite.wireId)
  failIf ((actualSigners requirement envelope).length < requirement.minDistinctSigners)
    (.authenticationQuorumNotMet requirement.suite.wireId requirement.minDistinctSigners
      (actualSigners requirement envelope).length)

def trustedEntries (contract : VerificationContract) (envelope : ProofEnvelopeV3) :
    List (UInt16 × FixedBytes 32) :=
  contract.authentication.flatMap fun requirement =>
    (actualSigners requirement envelope).map (fun keyId => (requirement.suite.wireId, keyId))

structure ContractValidatedEnvelope where
  envelope : ProofEnvelopeV3
  maxPublicInputBytes : Nat
deriving DecidableEq

def validateEnvelopeAgainstContract (envelope : ProofEnvelopeV3) (policy : EnvelopePolicy)
    (contract : VerificationContract) (nowUnixSeconds : UInt64) :
    Except EnvelopeValidationError ContractValidatedEnvelope := do
  validateEnvelope envelope policy nowUnixSeconds
  let expected := contract.binding
  failIf (envelope.statement ≠ expected.statement) .contractStatementMismatch
  failIf (envelope.proofSystem ≠ expected.proofSystem) .contractProofSystemMismatch
  failIf (envelope.verifierId ≠ expected.verifierId) .contractVerifierMismatch
  failIf (envelope.parameterSetId ≠ expected.parameterSetId) .contractParameterSetMismatch
  failIf (envelope.nonce ≠ expected.nonce) .contractNonceMismatch
  failIf (envelope.publicInputsHash ≠ expected.publicInputsHash) .contractPublicInputsMismatch
  failIf (envelope.extensionsDigest ≠ expected.extensionsDigest) .contractExtensionsMismatch
  checkEach (validateRequirement envelope) [] contract.authentication
  envelope.authentication.forM fun entry =>
    failIf (entry.identity ∉ trustedEntries contract envelope) .untrustedAuthentication
  pure ⟨envelope, policy.maxPublicInputBytes⟩

/-! ## What the two passes accept -/

/-- A signature entry that the policy lets pass. -/
structure AdmissibleEntry (policy : EnvelopePolicy) (entry : ProofAuthentication) : Prop where
  signer : entry.signerKeyId ≠ zero32
  signed : entry.signature ≠ []
  short : entry.signature.length ≤ policy.maxSignatureBytes

/-- An envelope that the policy lets pass at this time. -/
structure Admissible (policy : EnvelopePolicy) (nowUnixSeconds : UInt64)
    (envelope : ProofEnvelopeV3) : Prop where
  version : envelope.protocolVersion = policy.protocolVersion
  statement : CanonicalStatement envelope.statement
  proof : envelope.proof ≠ [] ∧ envelope.proof.length ≤ policy.maxProofBytes
  verifierId : envelope.verifierId.bytes ≠ zero32
  parameterSetId : envelope.parameterSetId.bytes ≠ zero32
  nonce : envelope.nonce ≠ zero32
  publicInputsHash : envelope.publicInputsHash ≠ zero32
  extensionsDigest : envelope.extensionsDigest ≠ zero32
  notAhead : envelope.timestampUnixSeconds.toNat ≤
    nowUnixSeconds.toNat + policy.maxFutureSkewSeconds.toNat
  notOld : nowUnixSeconds.toNat ≤
    envelope.timestampUnixSeconds.toNat + policy.maxAgeSeconds.toNat
  proofSystem : policy.allowedProofSystems = [] ∨
    envelope.proofSystem ∈ policy.allowedProofSystems
  count : envelope.authentication.length ≤ policy.maxAuthenticationEntries
  entries : ∀ entry ∈ envelope.authentication, AdmissibleEntry policy entry
  distinct : (envelope.authentication.map ProofAuthentication.identity).Nodup
  suites : ∀ suite ∈ policy.requiredAuthenticationSuites,
    ∃ entry ∈ envelope.authentication, entry.suite = suite

/-- The envelope has exactly the identities that the application expects. -/
structure MatchesBinding (expected : ProofVerificationBinding) (envelope : ProofEnvelopeV3) :
    Prop where
  statement : envelope.statement = expected.statement
  proofSystem : envelope.proofSystem = expected.proofSystem
  verifierId : envelope.verifierId = expected.verifierId
  parameterSetId : envelope.parameterSetId = expected.parameterSetId
  nonce : envelope.nonce = expected.nonce
  publicInputsHash : envelope.publicInputsHash = expected.publicInputsHash
  extensionsDigest : envelope.extensionsDigest = expected.extensionsDigest

/-- A requirement that some signers can meet: different keys, none of them zero, and no fewer than
the number that is required, which is not zero. -/
structure WellFormed (requirement : AuthenticationRequirement) : Prop where
  some : 1 ≤ requirement.minDistinctSigners
  enough : requirement.minDistinctSigners ≤ requirement.trustedSignerKeyIds.length
  nonzero : zero32 ∉ requirement.trustedSignerKeyIds
  distinct : requirement.trustedSignerKeyIds.Nodup

/-- Enough distinct trusted signers of the suite have an entry. -/
def Met (envelope : ProofEnvelopeV3) (requirement : AuthenticationRequirement) : Prop :=
  ∃ signers : List (FixedBytes 32), signers.Nodup ∧
    requirement.minDistinctSigners ≤ signers.length ∧
    ∀ signer ∈ signers, signer ∈ requirement.trustedSignerKeyIds ∧
      ∃ entry ∈ envelope.authentication, entry.suite = requirement.suite ∧
        entry.signerKeyId = signer

/-- Some requirement trusts the signer of the entry. -/
def Trusted (contract : VerificationContract) (entry : ProofAuthentication) : Prop :=
  ∃ requirement ∈ contract.authentication, requirement.suite = entry.suite ∧
    entry.signerKeyId ∈ requirement.trustedSignerKeyIds

/-- The requirements are well formed, each for a suite of its own, and met; and every entry is
trusted. -/
structure MeetsRequirements (contract : VerificationContract) (envelope : ProofEnvelopeV3) :
    Prop where
  suites : (contract.authentication.map AuthenticationRequirement.suite).Nodup
  wellFormed : ∀ requirement ∈ contract.authentication, WellFormed requirement
  met : ∀ requirement ∈ contract.authentication, Met envelope requirement
  trusted : ∀ entry ∈ envelope.authentication, Trusted contract entry

section Accepted

variable {envelope : ProofEnvelopeV3} {policy : EnvelopePolicy} {contract : VerificationContract}
  {now : UInt64}

lemma wireId_injective : Function.Injective (WireId.wireId : AuthenticationSuiteId → UInt16) := by
  rintro ⟨a, _⟩ ⟨b, _⟩ h
  cases h
  rfl

variable {t : UInt64}

lemma gt_saturatingAdd (skew : UInt64) :
    ¬ t > saturatingAdd now skew.toNat ↔ t.toNat ≤ now.toNat + skew.toNat := by
  have ht := t.toNat_lt
  rw [gt_iff_lt, UInt64.not_lt, UInt64.le_iff_toNat_le]
  by_cases hfits : now.toNat + skew.toNat < 2 ^ 64
  · rw [toNat_saturatingAdd hfits]
  · have hmax : (saturatingAdd now skew.toNat).toNat = 2 ^ 64 - 1 := by
      rw [saturatingAdd, checkedAdd, if_neg hfits]
      rfl
    rw [hmax]
    omega

lemma lt_saturatingSub (age : UInt64) :
    ¬ t < (checkedSub now age).getD 0 ↔ now.toNat ≤ t.toNat + age.toNat := by
  rw [UInt64.not_lt, UInt64.le_iff_toNat_le]
  unfold checkedSub
  split
  · rename_i hle
    rw [Option.getD_some, UInt64.toNat_sub_of_le _ _ hle]
    omega
  · rename_i hlt
    rw [UInt64.not_le, UInt64.lt_iff_toNat_lt] at hlt
    simp only [Option.getD_none, UInt64.toNat_zero, Nat.zero_le, true_iff]
    omega

variable {entry : ProofAuthentication}

lemma validateAuthentication_ok {before : List ProofAuthentication} :
    validateAuthentication policy before entry = .ok () ↔ AdmissibleEntry policy entry ∧
        entry.identity ∉ before.map ProofAuthentication.identity := by
  simp only [validateAuthentication, guard_bind_ok, failIf_ok, List.isEmpty_iff, gt_iff_lt, not_lt]
  constructor
  · rintro ⟨-, hsig, hsgn, hsh, hnew⟩
    exact ⟨⟨hsig, hsgn, hsh⟩, hnew⟩
  · rintro ⟨⟨hsig, hsgn, hsh⟩, hnew⟩
    exact ⟨entry.suite.ne_zero, hsig, hsgn, hsh, hnew⟩

lemma validateEnvelope_ok {u : Unit} :
    validateEnvelope envelope policy now = .ok u ↔ Admissible policy now envelope := by
  simp only [validateEnvelope, guard_bind_ok, failIf_ok, mapError_ok, validate_ok,
    forM_ok, checkEach_distinct_ok ProofAuthentication.identity (AdmissibleEntry policy)
      (fun _ _ => validateAuthentication_ok), gt_saturatingAdd, lt_saturatingSub, VerifierId.isZero,
      ParameterSetId.isZero,
    decide_eq_true_eq, List.isEmpty_iff, gt_iff_lt, not_lt, not_not, not_and_or, ne_eq,
    not_forall, exists_prop, List.map_nil, List.not_mem_nil, not_false_eq_true, and_true]
  constructor
  · rintro ⟨hvrs, hstatement, -, hpro, hsh, hverifier, hpar, hnon, hinp,
      h, hahe, hold, hsys, hcount, ⟨hent, hdis⟩, hsui⟩
    exact ⟨hvrs, hstatement, ⟨hpro, hsh⟩, hverifier, hpar, hnon, hinp,
      h, hahe, hold, hsys, hcount, hent, hdis, hsui⟩
  · rintro ⟨hvrs, hstatement, ⟨hpro, hsh⟩, hverifier, hpar, hnon, hinp,
      h, hahe, hold, hsys, hcount, hent, hdis, hsui⟩
    exact ⟨hvrs, hstatement, envelope.proofSystem.ne_zero, hpro, hsh, hverifier,
      hpar, hnon, hinp, h, hahe, hold, hsys, hcount, ⟨hent, hdis⟩, hsui⟩

variable {requirement : AuthenticationRequirement}

lemma mem_actualSigners {signer : FixedBytes 32} : signer ∈ actualSigners requirement envelope ↔
      signer ∈ requirement.trustedSignerKeyIds ∧
        ∃ entry ∈ envelope.authentication, entry.suite = requirement.suite ∧
          entry.signerKeyId = signer := by
  simp only [actualSigners, List.mem_dedup, List.mem_map, List.mem_filter, decide_eq_true_eq]
  constructor
  · rintro ⟨entry, ⟨hent, hsu, htru⟩, rfl⟩
    exact ⟨htru, entry, hent, hsu, rfl⟩
  · rintro ⟨htru, entry, hent, hsu, rfl⟩
    exact ⟨entry, ⟨hent, hsu, htru⟩, rfl⟩

lemma met_iff : Met envelope requirement ↔
      requirement.minDistinctSigners ≤ (actualSigners requirement envelope).length := by
  constructor
  · rintro ⟨signers, hnod, hlen, hall⟩
    have hsub : signers ⊆ actualSigners requirement envelope :=
      fun signer h => mem_actualSigners.mpr (hall signer h)
    exact Nat.le_trans hlen (List.subperm_of_subset hnod hsub).length_le
  · intro hlen
    exact ⟨_, List.nodup_dedup _, hlen, fun signer h => mem_actualSigners.mp h⟩

lemma validateRequirement_ok {before : List AuthenticationRequirement} :
    validateRequirement envelope before requirement = .ok () ↔
      (WellFormed requirement ∧ Met envelope requirement) ∧
        requirement.suite.wireId ∉ before.map (fun r => r.suite.wireId) := by
  simp only [validateRequirement, guard_bind_ok, failIf_ok, not_or, not_not, not_lt, ne_eq, met_iff]
  have hdis : requirement.trustedSignerKeyIds.dedup.length =
      requirement.trustedSignerKeyIds.length ↔ requirement.trustedSignerKeyIds.Nodup := by
    rw [← List.dedup_eq_self]
    exact ⟨fun h => (List.dedup_sublist _).eq_of_length h, fun h => by rw [h]⟩
  rw [hdis]
  constructor
  · rintro ⟨⟨hnew, -, hsome, heno, hnon⟩, hnod, hmet⟩
    exact ⟨⟨⟨Nat.one_le_iff_ne_zero.mpr hsome, heno, hnon, hnod⟩, hmet⟩, hnew⟩
  · rintro ⟨⟨⟨hsome, heno, hnon, hnod⟩, hmet⟩, hnew⟩
    exact ⟨⟨hnew, requirement.suite.ne_zero, Nat.one_le_iff_ne_zero.mp hsome, heno, hnon⟩,
      hnod, hmet⟩

lemma mem_trustedEntries (h : entry ∈ envelope.authentication) :
    entry.identity ∈ trustedEntries contract envelope ↔ Trusted contract entry := by
  simp only [trustedEntries, List.mem_flatMap, List.mem_map, mem_actualSigners,
    ProofAuthentication.identity, Prod.mk.injEq]
  constructor
  · rintro ⟨requirement, hreq, _, ⟨htru, -⟩, hsu, rfl⟩
    exact ⟨requirement, hreq, wireId_injective hsu, htru⟩
  · rintro ⟨requirement, hreq, hsu, htru⟩
    exact ⟨requirement, hreq, entry.signerKeyId,
      ⟨htru, entry, h, hsu.symm, rfl⟩, by rw [hsu], rfl⟩

lemma validateEnvelopeAgainstContract_ok {validated : ContractValidatedEnvelope} :
    validateEnvelopeAgainstContract envelope policy contract now = .ok validated ↔
      Admissible policy now envelope ∧ MatchesBinding contract.binding envelope ∧
        MeetsRequirements contract envelope ∧
        validated = ⟨envelope, policy.maxPublicInputBytes⟩ := by
  have hsui : (contract.authentication.map (fun r => r.suite.wireId)).Nodup ↔
      (contract.authentication.map AuthenticationRequirement.suite).Nodup := by
    rw [← List.nodup_map_iff wireId_injective, List.map_map]
    rfl
  simp only [validateEnvelopeAgainstContract, guard_bind_ok, failIf_ok,
    validateEnvelope_ok, forM_ok, pure_ok,
    checkEach_distinct_ok (fun r => r.suite.wireId) (fun r => WellFormed r ∧ Met envelope r)
      (fun _ _ => validateRequirement_ok), ne_eq, not_not, List.map_nil, List.not_mem_nil,
      not_false_eq_true, and_true, hsui]
  constructor
  · rintro ⟨hadm, hstatement, hsys, hverifier, hpar, hnon, hinp, hext, ⟨hreq, hdis⟩, htru, rfl⟩
    exact ⟨hadm, ⟨hstatement, hsys, hverifier, hpar, hnon, hinp, hext⟩, ⟨hdis, fun r hr => (hreq r
      hr).1,
      fun r hr => (hreq r hr).2,
      fun entry h => (mem_trustedEntries h).mp (htru entry h)⟩, rfl⟩
  · rintro ⟨hadm, ⟨hstatement, hsys, hverifier, hpar, hnon, hinp, hext⟩, ⟨hdis, hwell, hmet, htru⟩,
      rfl⟩
    exact ⟨hadm, hstatement, hsys, hverifier, hpar, hnon, hinp,
      hext, ⟨fun r hr => ⟨hwell r hr, hmet r hr⟩, hdis⟩,
      fun entry h => (mem_trustedEntries h).mpr (htru entry h), rfl⟩

end Accepted

end XeniaPeer.Zk
