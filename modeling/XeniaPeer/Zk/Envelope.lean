import XeniaPeer.Foundation.Codes

/-!
# Proof envelopes

The backend-neutral envelope of a zero-knowledge proof (`xenia-zk-protocol`, `lib.rs`): the
identities that say what a proof is about, and the digests that a signer and a backend are bound to.
The hash is a parameter.
-/

namespace XeniaPeer.Zk

open Foundation

inductive ProtocolError where
  | emptyStatementComponent (component : String)
  | statementComponentTooLong (component : String) (limit : Nat)
  | invalidStatementComponent (component : String)
  | invalidStatementVersion
  | reservedIdentifier
  | zeroChallengeNonce
deriving DecidableEq

/-! ## Identifiers -/

structure StatementId where
  (ecosystem application purpose : String)
  version : UInt32
deriving DecidableEq

def maxStatementComponentBytes : Nat := 64

def isComponentByte (b : UInt8) : Bool :=
  (48 ≤ b && b ≤ 57) || (65 ≤ b && b ≤ 90) || (97 ≤ b && b ≤ 122) || b == 45 || b == 95

def validateComponent (value : String) (component : String) : Except ProtocolError Unit := do
  failIf ((utf8 value).isEmpty) (.emptyStatementComponent component)
  failIf ((utf8 value).length > maxStatementComponentBytes)
    (.statementComponentTooLong component maxStatementComponentBytes)
  failIf (¬ (utf8 value).all isComponentByte) (.invalidStatementComponent component)

def StatementId.validate (statement : StatementId) : Except ProtocolError Unit := do
  validateComponent statement.ecosystem "ecosystem"
  validateComponent statement.application "application"
  validateComponent statement.purpose "purpose"
  failIf (statement.version = 0) .invalidStatementVersion

def StatementId.tryNew (ecosystem application purpose : String) (version : UInt32) :
    Except ProtocolError StatementId := do
  let statement : StatementId := ⟨ecosystem, application, purpose, version⟩
  statement.validate
  pure statement

inductive Registry where
  | proofSystems
  | authenticationSuites

/-- An identifier of a registry as it goes over the wire. Zero is reserved in both registries. -/
structure WireId (registry : Registry) where
  wireId : UInt16
  ne_zero : wireId ≠ 0
deriving DecidableEq

def WireId.fromWireId {registry : Registry} (value : UInt16) :
    Except ProtocolError (WireId registry) :=
  if h : value = 0 then .error .reservedIdentifier else .ok ⟨value, h⟩

abbrev ProofSystemId := WireId .proofSystems

def ProofSystemId.miden : ProofSystemId := ⟨2, by decide⟩

abbrev ProofSystemId.fromWireId (value : UInt16) : Except ProtocolError ProofSystemId :=
  WireId.fromWireId value

abbrev AuthenticationSuiteId := WireId .authenticationSuites

def AuthenticationSuiteId.ed25519 : AuthenticationSuiteId := ⟨1, by decide⟩

def AuthenticationSuiteId.mlDsa65Fips204 : AuthenticationSuiteId := ⟨2, by decide⟩

abbrev AuthenticationSuiteId.fromWireId (value : UInt16) :
    Except ProtocolError AuthenticationSuiteId := WireId.fromWireId value

def zero32 : FixedBytes 32 := .replicate 32 0

structure VerifierId where
  bytes : FixedBytes 32
deriving DecidableEq

def VerifierId.isZero (id : VerifierId) : Bool := id.bytes = zero32

structure ParameterSetId where
  bytes : FixedBytes 32
deriving DecidableEq

def ParameterSetId.isZero (id : ParameterSetId) : Bool := id.bytes = zero32

/-! ## The envelope -/

structure ProofAuthentication where
  suite : AuthenticationSuiteId
  signerKeyId : FixedBytes 32
  signature : Bytes
deriving DecidableEq

structure ProofEnvelopeV3 where
  protocolVersion : UInt32
  statement : StatementId
  proofSystem : ProofSystemId
  verifierId : VerifierId
  parameterSetId : ParameterSetId
  timestampUnixSeconds : UInt64
  (nonce publicInputsHash : FixedBytes 32)
  proof : Bytes
  extensionsDigest : FixedBytes 32
  authentication : List ProofAuthentication
deriving DecidableEq

/-! ## Digests -/

def hashLenPrefixed (value : Bytes) : Bytes := leBytes 8 (min value.length (2 ^ 64 - 1)) ++ value

def statementIdBytes (statement : StatementId) : Bytes :=
  hashLenPrefixed (utf8 statement.ecosystem) ++ (hashLenPrefixed (utf8 statement.application) ++
    (hashLenPrefixed (utf8 statement.purpose) ++ u32Le statement.version))

variable (sha256 : Bytes → FixedBytes 32)

def ProofEnvelopeV3.bodyDigest (e : ProofEnvelopeV3) : Except ProtocolError (FixedBytes 32) := do
  e.statement.validate
  pure (sha256 (utf8 "XENIA:ProofEnvelope:Body:v3" ++ (u32Le e.protocolVersion ++
    (statementIdBytes e.statement ++ (u16Le e.proofSystem.wireId ++ (e.verifierId.bytes.toList ++
    (e.parameterSetId.bytes.toList ++ (u64Le e.timestampUnixSeconds ++ (e.nonce.toList ++
    (e.publicInputsHash.toList ++ ((sha256 e.proof).toList ++ e.extensionsDigest.toList)))))))))))

def ProofEnvelopeV3.authenticationDigest (e : ProofEnvelopeV3) (suite : AuthenticationSuiteId)
    (signerKeyId : FixedBytes 32) : Except ProtocolError (FixedBytes 32) := do
  let body ← e.bodyDigest sha256
  pure (sha256 (utf8 "XENIA:ProofEnvelope:Auth:v3" ++ (body.toList ++ (u16Le suite.wireId ++
    signerKeyId.toList))))

def publicInputsDigest (statement : StatementId) (challengeNonce : FixedBytes 32)
    (canonicalPublicInputs : Bytes) : Except ProtocolError (FixedBytes 32) := do
  statement.validate
  failIf (challengeNonce = zero32) .zeroChallengeNonce
  pure (sha256 (utf8 "XENIA:ProofPublicInputs:ChallengeBound:v1" ++ (statementIdBytes statement ++
    (challengeNonce.toList ++ hashLenPrefixed canonicalPublicInputs))))

/-! ## What validation lets through -/

structure CanonicalComponent (value : String) : Prop where
  nonempty : utf8 value ≠ []
  short : (utf8 value).length ≤ maxStatementComponentBytes
  plain : ∀ b ∈ utf8 value, isComponentByte b = true

structure CanonicalStatement (statement : StatementId) : Prop where
  ecosystem : CanonicalComponent statement.ecosystem
  application : CanonicalComponent statement.application
  purpose : CanonicalComponent statement.purpose
  version : statement.version ≠ 0

variable {sha256} {u : Unit}

lemma validateComponent_ok {value component : String} :
    validateComponent value component = .ok u ↔ CanonicalComponent value := by
  simp only [validateComponent, guard_bind_ok, failIf_ok, List.isEmpty_iff, gt_iff_lt,
    not_lt, not_not, List.all_eq_true]
  constructor
  · rintro ⟨hne, hshort, hplain⟩
    exact ⟨hne, hshort, hplain⟩
  · rintro ⟨hne, hshort, hplain⟩
    exact ⟨hne, hshort, hplain⟩

variable {statement : StatementId}

lemma validate_ok : statement.validate = .ok u ↔ CanonicalStatement statement := by
  simp only [StatementId.validate, guard_bind_ok, failIf_ok, validateComponent_ok]
  constructor
  · rintro ⟨heco, happ, hpurpose, hv⟩
    exact ⟨heco, happ, hpurpose, hv⟩
  · rintro ⟨heco, happ, hpurpose, hv⟩
    exact ⟨heco, happ, hpurpose, hv⟩

lemma fromWireId_ok {registry : Registry} {value : UInt16} {id : WireId registry} :
    WireId.fromWireId value = .ok id ↔ value = id.wireId := by
  unfold WireId.fromWireId
  split
  · rename_i hzero
    exact ⟨nofun, fun h => absurd (h.symm.trans hzero) id.ne_zero⟩
  · obtain ⟨wireId, hne⟩ := id
    simp

lemma tryNew_ok {ecosystem application purpose : String} {version : UInt32} :
    StatementId.tryNew ecosystem application purpose version = .ok statement ↔
      CanonicalStatement statement ∧ statement = ⟨ecosystem, application, purpose, version⟩ := by
  simp only [StatementId.tryNew, guard_bind_ok, validate_ok, pure_ok]
  constructor
  · rintro ⟨h, rfl⟩
    exact ⟨h, rfl⟩
  · rintro ⟨h, rfl⟩
    exact ⟨h, rfl⟩

end XeniaPeer.Zk
