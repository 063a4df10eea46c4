import XeniaPeer.Foundation.Readers
import XeniaPeer.Zk.Policy

/-!
# The binary codec of proof envelopes

`encode_binary_envelope_v1` and `decode_binary_envelope_v1` (`xenia-zk-codec`). The decoder reads
the fields off the frame, checks each declared length against the policy and against what is left of
the frame before it takes it, and refuses anything behind the last field.

Main result: `decode_iff_encode`.
-/

namespace XeniaPeer.Zk

open Foundation

def binaryEnvelopeMagicV1 : Bytes := utf8 "XZKENV01"

inductive BinaryEnvelopeCodecError where
  | frame (error : EnvelopeValidationError)
  | invalidMagic
  | truncated
  | trailingBytes (count : Nat)
  | lengthLimit (field : String) (actual limit : Nat)
  | lengthExceedsFrame (field : String) (declared remaining : Nat)
  | invalidUtf8
  | protocol (error : ProtocolError)
deriving DecidableEq

def checkLen (field : String) (actual limit : Nat) : Except BinaryEnvelopeCodecError Unit :=
  failIf (actual > limit) (.lengthLimit field actual limit)

def u16Max : Nat := 2 ^ 16 - 1

def u32Max : Nat := 2 ^ 32 - 1

/-! ## Encoding -/

def textBytes (text : String) : Bytes := leBytes 1 (utf8 text).length ++ utf8 text

def bytesU32 (bytes : Bytes) : Bytes := leBytes 4 bytes.length ++ bytes

def authenticationBytes (auth : ProofAuthentication) : Bytes :=
  u16Le auth.suite.wireId ++ (auth.signerKeyId.toList ++ bytesU32 auth.signature)

def envelopeBytes (envelope : ProofEnvelopeV3) : Bytes :=
  binaryEnvelopeMagicV1 ++ (u32Le envelope.protocolVersion ++
    (textBytes envelope.statement.ecosystem ++ (textBytes envelope.statement.application ++
    (textBytes envelope.statement.purpose ++ (u32Le envelope.statement.version ++
    (u16Le envelope.proofSystem.wireId ++ (envelope.verifierId.bytes.toList ++
    (envelope.parameterSetId.bytes.toList ++ (u64Le envelope.timestampUnixSeconds ++
    (envelope.nonce.toList ++ (envelope.publicInputsHash.toList ++ (bytesU32 envelope.proof ++
    (envelope.extensionsDigest.toList ++ (leBytes 2 envelope.authentication.length ++
    envelope.authentication.flatMap authenticationBytes))))))))))))))

def encodeBinaryEnvelopeV1 (envelope : ProofEnvelopeV3) (policy : EnvelopePolicy) :
    Except BinaryEnvelopeCodecError Bytes := do
  envelope.statement.validate.mapError .protocol
  checkLen "proof" envelope.proof.length (min policy.maxProofBytes u32Max)
  checkLen "authentication" envelope.authentication.length
    (min policy.maxAuthenticationEntries u16Max)
  envelope.authentication.forM fun auth =>
    checkLen "signature" auth.signature.length (min policy.maxSignatureBytes u32Max)
  let out := envelopeBytes envelope
  checkLen "encoded-envelope" out.length policy.maxEncodedEnvelopeBytes
  pure out

/-! ## Decoding -/

abbrev Cursor := Reader BinaryEnvelopeCodecError

namespace Cursor

def take (count : Nat) : Cursor Bytes := Reader.take .truncated count

def remaining : Cursor Nat := Reader.remaining

def u16 : Cursor UInt16 := Reader.u16 .truncated

def u32 : Cursor UInt32 := Reader.u32 .truncated

def u64 : Cursor UInt64 := Reader.u64 .truncated

def array32 : Cursor (FixedBytes 32) := Reader.fixed .truncated 32

def textU8 : Cursor String := do
  let length ← Reader.leNat .truncated 1
  let raw ← take length
  Reader.check (okOr (fromUtf8 raw) .invalidUtf8)

def bytesU32Bounded (field : String) (limit : Nat) : Cursor Bytes := do
  let declared := (← u32).toNat
  Reader.check (checkLen field declared limit)
  let left ← remaining
  Reader.check (failIf (declared > left) (.lengthExceedsFrame field declared left))
  take declared

def statement : Cursor StatementId := do
  let ecosystem ← textU8
  let application ← textU8
  let purpose ← textU8
  let version ← u32
  Reader.check ((StatementId.tryNew ecosystem application purpose version).mapError .protocol)

def authentication (policy : EnvelopePolicy) : Cursor ProofAuthentication := do
  let suite ← u16
  let suite ← Reader.check ((AuthenticationSuiteId.fromWireId suite).mapError .protocol)
  let signerKeyId ← array32
  let signature ← bytesU32Bounded "signature" (min policy.maxSignatureBytes u32Max)
  pure ⟨suite, signerKeyId, signature⟩

def authentications (policy : EnvelopePolicy) : Cursor (List ProofAuthentication) := do
  let count := (← u16).toNat
  Reader.check (checkLen "authentication" count (min policy.maxAuthenticationEntries u16Max))
  let left ← remaining
  Reader.check (failIf (count * 38 > left) (.lengthExceedsFrame "authentication" (count * 38) left))
  Reader.times (authentication policy) count

def envelope (policy : EnvelopePolicy) : Cursor ProofEnvelopeV3 := do
  let magic ← take binaryEnvelopeMagicV1.length
  Reader.check (failIf (magic ≠ binaryEnvelopeMagicV1) .invalidMagic)
  let protocolVersion ← u32
  let statement ← statement
  let proofSystem ← u16
  let proofSystem ← Reader.check ((ProofSystemId.fromWireId proofSystem).mapError .protocol)
  let verifierId ← array32
  let parameterSetId ← array32
  let timestampUnixSeconds ← u64
  let nonce ← array32
  let publicInputsHash ← array32
  let proof ← bytesU32Bounded "proof" (min policy.maxProofBytes u32Max)
  let extensionsDigest ← array32
  let authentication ← authentications policy
  pure ⟨protocolVersion, statement, proofSystem, ⟨verifierId⟩, ⟨parameterSetId⟩,
    timestampUnixSeconds, nonce, publicInputsHash, proof, extensionsDigest, authentication⟩

end Cursor

def decodeBinaryBounded (bounded : Bytes) (policy : EnvelopePolicy) :
    Except BinaryEnvelopeCodecError ProofEnvelopeV3 := do
  let (envelope, rest) ← Cursor.envelope policy bounded
  failIf (rest.length ≠ 0) (.trailingBytes rest.length)
  pure envelope

def decodeBinaryEnvelopeV1 (encoded : Bytes) (policy : EnvelopePolicy) :
    Except BinaryEnvelopeCodecError ProofEnvelopeV3 := do
  let bounded ← (boundEnvelopeFrameBeforeDeserialization encoded policy).mapError .frame
  decodeBinaryBounded bounded policy

/-! ## The decoder reads what the encoder writes -/

lemma CanonicalComponent.length_lt {value : String} (h : CanonicalComponent value) :
    (utf8 value).length < 256 := by
  have hsh := h.short
  have : maxStatementComponentBytes = 64 := rfl
  omega

namespace Cursor

open Reader (Reads)

lemma reads_textU8 : Reads textU8 (fun text => (utf8 text).length < 256) textBytes := by
  intro b text rest
  simp only [textU8, take, Reader.bind_ok, Reader.take_ok, Reader.check_ok, okOr_ok,
    fromUtf8_eq_some, Reader.reads_leNat _ 1 b]
  constructor
  · rintro ⟨n, _, ⟨hn, rfl⟩, _, _, ⟨rfl, rfl⟩, rfl, rfl⟩
    exact ⟨hn, by rw [textBytes, List.append_assoc]⟩
  · rintro ⟨hn, rfl⟩
    exact ⟨(utf8 text).length, utf8 text ++ rest, ⟨hn, by rw [textBytes, List.append_assoc]⟩,
      utf8 text, rest, ⟨rfl, rfl⟩, rfl, rfl⟩

lemma reads_bytesU32Bounded (field : String) {limit : Nat} (h : limit ≤ u32Max) :
    Reads (bytesU32Bounded field limit) (fun bytes => bytes.length ≤ limit) bytesU32 := by
  intro b bytes rest
  simp only [bytesU32Bounded, u32, remaining, take, checkLen, Reader.bind_ok,
    Reader.take_ok, Reader.check_ok, Reader.remaining_ok, failIf_ok,
    Reader.reads_u32 _ b, gt_iff_lt, not_lt]
  constructor
  · rintro ⟨n, _, ⟨-, rfl⟩, ⟨⟩, _, ⟨hle, rfl⟩, _, _, ⟨rfl, rfl⟩, ⟨⟩, _, ⟨-, rfl⟩, hlen, rfl⟩
    exact ⟨hlen ▸ hle, by rw [bytesU32, hlen, u32Le, List.append_assoc]⟩
  · rintro ⟨hle, rfl⟩
    have hlt : bytes.length < 2 ^ 32 := by
      have : u32Max = 2 ^ 32 - 1 := rfl
      omega
    have hn : (UInt32.ofNat bytes.length).toNat = bytes.length := UInt32.toNat_ofNat_of_lt' hlt
    refine ⟨UInt32.ofNat bytes.length, bytes ++ rest, ⟨trivial, ?_⟩, (), _, ⟨?_, rfl⟩, _, _,
      ⟨rfl, rfl⟩, (), _, ⟨?_, rfl⟩, hn.symm, rfl⟩
    · rw [u32Le, hn, bytesU32, List.append_assoc]
    · rw [hn]
      exact hle
    · rw [hn, List.length_append]
      omega

def statementBytes (s : StatementId) : Bytes :=
  textBytes s.ecosystem ++ (textBytes s.application ++ (textBytes s.purpose ++ u32Le s.version))

lemma reads_statement : Reads statement CanonicalStatement statementBytes := by
  intro b s rest
  simp only [statement, u32, Reader.bind_ok, Reader.check_ok, mapError_ok, tryNew_ok,
    reads_textU8 _, Reader.reads_u32 _ _]
  constructor
  · rintro ⟨_, _, ⟨-, rfl⟩, _, _, ⟨-, rfl⟩, _, _, ⟨-, rfl⟩, _, _, ⟨-, rfl⟩, ⟨h, rfl⟩, rfl⟩
    exact ⟨h, by simp only [statementBytes, List.append_assoc]⟩
  · rintro ⟨h, rfl⟩
    exact ⟨s.ecosystem, _, ⟨h.ecosystem.length_lt, by rw [statementBytes, List.append_assoc]⟩,
      s.application, _, ⟨h.application.length_lt, by rw [List.append_assoc]⟩,
      s.purpose, _, ⟨h.purpose.length_lt, by rw [List.append_assoc]⟩,
      s.version, rest, ⟨trivial, rfl⟩, ⟨h, rfl⟩, rfl⟩

lemma reads_authentication (policy : EnvelopePolicy) : Reads (authentication policy)
      (fun auth => auth.signature.length ≤ min policy.maxSignatureBytes u32Max)
      authenticationBytes := by
  intro b auth rest
  simp only [authentication, u16, array32, Reader.bind_ok, Reader.check_ok,
    Reader.pure_ok, mapError_ok, fromWireId_ok, Reader.reads_u16 _ _,
    Reader.reads_fixed _ _ _, reads_bytesU32Bounded "signature" (Nat.min_le_right _ _) _]
  constructor
  · rintro ⟨_, _, ⟨-, rfl⟩, _, _, ⟨rfl, rfl⟩, _, _, ⟨-, rfl⟩, _, _, ⟨h, rfl⟩, rfl, rfl⟩
    exact ⟨h, by simp only [authenticationBytes, List.append_assoc]⟩
  · rintro ⟨h, rfl⟩
    exact ⟨auth.suite.wireId, _, ⟨trivial, by rw [authenticationBytes, List.append_assoc]⟩,
      auth.suite, _, ⟨rfl, rfl⟩, auth.signerKeyId, _, ⟨trivial, by rw [List.append_assoc]⟩,
      auth.signature, rest, ⟨h, rfl⟩, rfl, rfl⟩

lemma length_authenticationBytes (auths : List ProofAuthentication) :
    auths.length * 38 ≤ (auths.flatMap authenticationBytes).length := by
  induction auths with
  | nil => exact Nat.le_refl _
  | cons auth auths ih =>
    simp only [List.flatMap_cons, List.length_append, List.length_cons, authenticationBytes,
      bytesU32, u16Le, leBytes_length, List.Vector.toList_length]
    omega

lemma reads_authentications (policy : EnvelopePolicy) : Reads (authentications policy)
      (fun auths => auths.length ≤ min policy.maxAuthenticationEntries u16Max ∧
        ∀ auth ∈ auths, auth.signature.length ≤ min policy.maxSignatureBytes u32Max)
      (fun auths => leBytes 2 auths.length ++ auths.flatMap authenticationBytes) := by
  intro b auths rest
  simp only [authentications, u16, remaining, checkLen, Reader.bind_ok, Reader.check_ok,
    Reader.remaining_ok, failIf_ok, Reader.reads_u16 _ _,
    Reader.reads_times (reads_authentication policy) _ _, gt_iff_lt, not_lt]
  constructor
  · rintro ⟨n, _, ⟨-, rfl⟩, ⟨⟩, _, ⟨hle, rfl⟩, _, _, ⟨rfl, rfl⟩, ⟨⟩, _, ⟨-, rfl⟩, ⟨hlen, hall⟩, rfl⟩
    exact ⟨⟨hlen ▸ hle, hall⟩, by rw [hlen, u16Le, List.append_assoc]⟩
  · rintro ⟨⟨hle, hall⟩, rfl⟩
    have hlt : auths.length < 2 ^ 16 := by
      have : u16Max = 2 ^ 16 - 1 := rfl
      omega
    have hn : (UInt16.ofNat auths.length).toNat = auths.length := UInt16.toNat_ofNat_of_lt' hlt
    refine ⟨UInt16.ofNat auths.length, auths.flatMap authenticationBytes ++ rest, ⟨trivial, ?_⟩,
      (), _, ⟨?_, rfl⟩, _, _, ⟨rfl, rfl⟩, (), _, ⟨?_, rfl⟩, ⟨hn.symm, hall⟩, rfl⟩
    · rw [u16Le, hn, List.append_assoc]
    · rw [hn]
      exact hle
    · have hbytes := length_authenticationBytes auths
      rw [hn, List.length_append]
      omega

end Cursor

structure Encodable (policy : EnvelopePolicy) (envelope : ProofEnvelopeV3) : Prop where
  statement : CanonicalStatement envelope.statement
  proof : envelope.proof.length ≤ min policy.maxProofBytes u32Max
  authentication : envelope.authentication.length ≤ min policy.maxAuthenticationEntries u16Max
  signatures : ∀ auth ∈ envelope.authentication,
    auth.signature.length ≤ min policy.maxSignatureBytes u32Max

lemma reads_envelope (policy : EnvelopePolicy) :
    Reader.Reads (Cursor.envelope policy) (Encodable policy) envelopeBytes := by
  intro b e rest
  simp only [Cursor.envelope, Cursor.take, Cursor.u16, Cursor.u32, Cursor.u64, Cursor.array32,
    Reader.bind_ok, Reader.check_ok, Reader.pure_ok, Reader.take_ok, mapError_ok,
    failIf_ok, fromWireId_ok, Reader.reads_u16 _ _, Reader.reads_u32 _ _,
    Reader.reads_u64 _ _, Reader.reads_fixed _ _ _, Cursor.reads_statement _,
    Cursor.reads_bytesU32Bounded "proof" (Nat.min_le_right _ _) _,
    Cursor.reads_authentications policy _, not_not]
  constructor
  · rintro ⟨_, _, ⟨-, rfl⟩, _, _, ⟨rfl, rfl⟩, _, _, ⟨-, rfl⟩, _, _, ⟨hstatement, rfl⟩,
      _, _, ⟨-, rfl⟩, _, _, ⟨rfl, rfl⟩, _, _, ⟨-, rfl⟩, _, _, ⟨-, rfl⟩, _, _, ⟨-, rfl⟩,
      _, _, ⟨-, rfl⟩, _, _, ⟨-, rfl⟩, _, _, ⟨hpro, rfl⟩, _, _, ⟨-, rfl⟩,
      _, _, ⟨⟨hcount, hsig⟩, rfl⟩, rfl, rfl⟩
    refine ⟨⟨hstatement, hpro, hcount, hsig⟩, ?_⟩
    simp only [envelopeBytes, Cursor.statementBytes, List.append_assoc]
  · rintro ⟨⟨hstatement, hpro, hcount, hsig⟩, rfl⟩
    refine ⟨binaryEnvelopeMagicV1, _, ⟨rfl, by rw [envelopeBytes, List.append_assoc]⟩, (), _,
      ⟨rfl, rfl⟩, e.protocolVersion, _, ⟨trivial, by rw [List.append_assoc]⟩,
      e.statement, _, ⟨hstatement, by simp only [Cursor.statementBytes, List.append_assoc]; rfl⟩,
      e.proofSystem.wireId, _, ⟨trivial, rfl⟩, e.proofSystem, _, ⟨rfl, rfl⟩,
      e.verifierId.bytes, _, ⟨trivial, rfl⟩, e.parameterSetId.bytes, _, ⟨trivial, rfl⟩,
      e.timestampUnixSeconds, _, ⟨trivial, rfl⟩, e.nonce, _, ⟨trivial, rfl⟩,
      e.publicInputsHash, _, ⟨trivial, rfl⟩, e.proof, _, ⟨hpro, rfl⟩,
      e.extensionsDigest, _, ⟨trivial, rfl⟩,
      e.authentication, rest, ⟨⟨hcount, hsig⟩, by rw [List.append_assoc]⟩, rfl, rfl⟩

variable {envelope : ProofEnvelopeV3} {policy : EnvelopePolicy} {encoded : Bytes}

lemma encodeBinaryEnvelopeV1_ok : encodeBinaryEnvelopeV1 envelope policy = .ok encoded ↔
      Encodable policy envelope ∧ encoded.length ≤ policy.maxEncodedEnvelopeBytes ∧
        encoded = envelopeBytes envelope := by
  simp only [encodeBinaryEnvelopeV1, checkLen, guard_bind_ok, mapError_ok, validate_ok,
    failIf_ok, forM_ok, pure_ok, gt_iff_lt, not_lt]
  constructor
  · rintro ⟨hstatement, hpro, hcount, hsig, hlen, rfl⟩
    exact ⟨⟨hstatement, hpro, hcount, hsig⟩, hlen, rfl⟩
  · rintro ⟨⟨hstatement, hpro, hcount, hsig⟩, hlen, rfl⟩
    exact ⟨hstatement, hpro, hcount, hsig, hlen, rfl⟩

lemma decodeBinaryEnvelopeV1_ok : decodeBinaryEnvelopeV1 encoded policy = .ok envelope ↔
      Encodable policy envelope ∧ encoded.length ≤ policy.maxEncodedEnvelopeBytes ∧
        encoded = envelopeBytes envelope := by
  simp only [decodeBinaryEnvelopeV1, boundEnvelopeFrameBeforeDeserialization, decodeBinaryBounded,
    bind_ok, mapError_ok, failIf_ok, pure_ok, Prod.exists, reads_envelope policy _,
    List.isEmpty_iff, gt_iff_lt, not_lt, not_not, List.length_eq_zero_iff]
  constructor
  · rintro ⟨_, ⟨⟨⟩, -, ⟨⟩, hlen, rfl⟩, _, _, ⟨henc, hbytes⟩, ⟨⟩, rfl, rfl⟩
    exact ⟨henc, hlen, hbytes.trans (List.append_nil _)⟩
  · rintro ⟨henc, hlen, rfl⟩
    have hne : envelopeBytes envelope ≠ [] := by
      intro hnil
      have h := congrArg List.length hnil
      simp [envelopeBytes] at h
    exact ⟨_, ⟨(), hne, (), hlen, rfl⟩, envelope, [], ⟨henc, (List.append_nil _).symm⟩, (),
      rfl, rfl⟩

/-- **One representation.** Under every policy the decoder accepts a frame as an envelope exactly
if the encoder makes that frame of that envelope. So an envelope has one frame, and nothing can
stand behind an accepted frame. -/
theorem decode_iff_encode (policy : EnvelopePolicy) :
    (∀ encoded envelope, decodeBinaryEnvelopeV1 encoded policy = .ok envelope ↔
      encodeBinaryEnvelopeV1 envelope policy = .ok encoded) ∧
    (∀ encoded encoded' envelope, decodeBinaryEnvelopeV1 encoded policy = .ok envelope →
      decodeBinaryEnvelopeV1 encoded' policy = .ok envelope → encoded = encoded') ∧
    ∀ encoded trailing envelope envelope',
      decodeBinaryEnvelopeV1 encoded policy = .ok envelope →
      decodeBinaryEnvelopeV1 (encoded ++ trailing) policy = .ok envelope' → trailing = [] := by
  refine ⟨fun _ _ => decodeBinaryEnvelopeV1_ok.trans encodeBinaryEnvelopeV1_ok.symm, ?_, ?_⟩
  · intro encoded encoded' envelope h h'
    rw [(decodeBinaryEnvelopeV1_ok.mp h).2.2, (decodeBinaryEnvelopeV1_ok.mp h').2.2]
  · intro encoded trailing envelope envelope' h h'
    obtain ⟨hfirst, -, rfl⟩ := decodeBinaryEnvelopeV1_ok.mp h
    obtain ⟨hsecond, -, hbytes⟩ := decodeBinaryEnvelopeV1_ok.mp h'
    -- the reader takes the first envelope off the longer frame, and leaves what is behind it
    have hread := (reads_envelope policy _ _ _).mpr ⟨hfirst, hbytes.symm⟩
    have hwhole := (reads_envelope policy _ _ []).mpr ⟨hsecond, (List.append_nil _).symm⟩
    cases hread.symm.trans hwhole
    rfl

def sampleStatement : StatementId := ⟨"XENIA", "Access", "CapabilityPossession", 1⟩

def sampleEnvelope : ProofEnvelopeV3 where
  protocolVersion := 3
  statement := sampleStatement
  proofSystem := .miden
  verifierId := ⟨.replicate 32 0x11⟩
  parameterSetId := ⟨.replicate 32 0x22⟩
  timestampUnixSeconds := 1800000000
  nonce := .replicate 32 0x33
  publicInputsHash := .replicate 32 0x44
  proof := [0x55, 0x66, 0x77]
  extensionsDigest := .replicate 32 0x88
  authentication := [⟨.mlDsa65Fips204, .replicate 32 0x99, [1, 2]⟩]

/-- The sample is encoded, its frame is decoded to it and is its only one. -/
theorem decode_iff_encode_sample :
    encodeBinaryEnvelopeV1 sampleEnvelope .default = .ok (envelopeBytes sampleEnvelope) ∧
      decodeBinaryEnvelopeV1 (envelopeBytes sampleEnvelope) .default = .ok sampleEnvelope ∧
      ∀ encoded, decodeBinaryEnvelopeV1 encoded .default = .ok sampleEnvelope →
        encoded = envelopeBytes sampleEnvelope := by
  have hencode : encodeBinaryEnvelopeV1 sampleEnvelope .default =
      .ok (envelopeBytes sampleEnvelope) := by decide +kernel
  obtain ⟨hiff, hone, -⟩ := decode_iff_encode .default
  have hdecode := (hiff _ _).mpr hencode
  exact ⟨hencode, hdecode, fun encoded h => hone _ _ _ h hdecode⟩

end XeniaPeer.Zk
