import XeniaPeer.Consent.Server

/-!
# The sealed operator channel

`run_sealed_operator_endpoint` (`operator_sealed_channel.rs`) takes the place of the plaintext
server: a console first runs a handshake that proves its keys, the daemon looks these up in the
operator policy and in the revocation list, and only then reads decisions, each from a sealed
envelope.

Main results: `sealed_decision_authorized`, `revoked_when_stopped_iff`.
-/

namespace XeniaPeer.Consent

open Foundation Ledger Operator

/-! ## Key rotation messages and the wire library -/

inductive OperatorRekeyReason where
  | interval
  | manual

inductive OperatorRekeyMessage where
  | proposal (keyEpoch : UInt64) (baseTranscriptHash previousEpochHash : FixedBytes 32)
      (reason : OperatorRekeyReason) (epochHash : FixedBytes 32)
  | ack (keyEpoch : UInt64) (epochHash : FixedBytes 32)

structure OperatorRekeyEpochContext where
  schema : String
  keyEpoch : UInt64
  (baseTranscriptHash previousEpochHash : FixedBytes 32)
  reason : OperatorRekeyReason

/-- The wire library, HKDF and bincode. Sealing and opening advance the session, whether they
succeed or not. -/
structure OperatorWire where
  Session : Type
  withSourceId : FixedBytes 8 → UInt8 → Session
  installKey : Session → FixedBytes 32 → Session
  sealPayload : Session → Bytes → UInt8 → Option Bytes × Session
  openEnvelope : Session → Bytes → Option Bytes × Session
  envelopePayloadType : Bytes → Option UInt8
  payloadTypeOperatorRekey : UInt8
  encodeRekey : OperatorRekeyMessage → Option Bytes
  decodeRekey : Bytes → Option OperatorRekeyMessage
  hkdfSha256 : (salt ikm info : Bytes) → FixedBytes 32
  canonicalBytes : OperatorRekeyEpochContext → Bytes

def OperatorRekeyEpochContext.new (keyEpoch : UInt64)
    (baseTranscriptHash previousEpochHash : FixedBytes 32) (reason : OperatorRekeyReason) :
    OperatorRekeyEpochContext :=
  ⟨"xenia-operator-rekey-epoch-context-v1", keyEpoch, baseTranscriptHash, previousEpochHash, reason⟩

def deriveOperatorRekeyKey (wire : OperatorWire) (rekeyRoot hash : FixedBytes 32) :
    FixedBytes 32 :=
  wire.hkdfSha256 (utf8 "xenia-session-key-schedule-v1") rekeyRoot.toList
    (utf8 "xenia/operator/rekey/aead" ++ utf8 ":" ++ hash.toList)

/-! ## Establishing a channel -/

inductive OperatorSuite where
  | standard
  | highSecurity

structure SealedConfig (C : OperatorCrypto) extends ConsentConfig C where
  wire : OperatorWire
  suite : OperatorSuite
  rekeyConfigured : Bool

structure HandshakeOutcome where
  ed25519Pk : FixedBytes 32
  mlDsaPk : Bytes
  (aead rekey transcriptHash : FixedBytes 32)

structure AuthenticatedOperatorChannel where
  operatorId : String
  role : OperatorRole
  (aeadKey rekeyRoot transcriptHash : FixedBytes 32)
deriving DecidableEq

inductive OperatorChannelError where
  | handshake (error : String)
  | notEnrolled
  | revoked (operatorId : String)

def lookupPeer (suite : OperatorSuite) (policy : OperatorPolicy) (outcome : HandshakeOutcome) :
    Option EnrolledOperator :=
  match suite with
  | .standard => policy.lookupVerified outcome.ed25519Pk outcome.mlDsaPk
  | .highSecurity => policy.lookupVerifiedHighsec outcome.ed25519Pk outcome.mlDsaPk

def establishOperatorChannel (suite : OperatorSuite) (policy : OperatorPolicy)
    (handshake : Except String HandshakeOutcome) :
    Except OperatorChannelError AuthenticatedOperatorChannel := do
  let outcome ← handshake.mapError .handshake
  let op ← okOr (lookupPeer suite policy outcome) .notEnrolled
  pure ⟨op.operatorId, op.role, outcome.aead, outcome.rekey, outcome.transcriptHash⟩

def operatorChannelSourceId : FixedBytes 8 := ⟨utf8 "xnaopch1", by decide +kernel⟩

structure SealedChannel (wire : OperatorWire) where
  channel : AuthenticatedOperatorChannel
  session : wire.Session
  currentEpoch : UInt64
  previousEpochHash : FixedBytes 32
  awaitingAck : Option (UInt64 × FixedBytes 32)

variable {C : OperatorCrypto} {E : Type}

namespace SealedChannel

section

variable (cfg : SealedConfig C) (ch : SealedChannel cfg.wire)

def establish (policy : OperatorPolicy) (revocations : OperatorRevocations)
    (handshake : Except String HandshakeOutcome) :
    Except OperatorChannelError (SealedChannel cfg.wire) := do
  let channel ← establishOperatorChannel cfg.suite policy handshake
  failIf (revocations.isRevoked channel.operatorId) (.revoked channel.operatorId)
  let session := cfg.wire.withSourceId operatorChannelSourceId 1
  pure ⟨channel, cfg.wire.installKey session channel.aeadKey, 0, channel.transcriptHash, none⟩

def propose (sent : Bool) : SealedChannel cfg.wire :=
  let nextEpoch := ch.currentEpoch + 1
  let hash := C.blake3 (cfg.wire.canonicalBytes
    (.new nextEpoch ch.channel.transcriptHash ch.previousEpochHash .interval))
  match cfg.wire.encodeRekey (.proposal nextEpoch ch.channel.transcriptHash ch.previousEpochHash
    .interval hash) with
  | none => ch
  | some bytes =>
    match cfg.wire.sealPayload ch.session bytes cfg.wire.payloadTypeOperatorRekey with
    | (none, session) => { ch with session := session }
    | (some _, session) =>
      if sent then
        { ch with
          session := cfg.wire.installKey session
            (deriveOperatorRekeyKey cfg.wire ch.channel.rekeyRoot hash)
          awaitingAck := some (nextEpoch, hash) }
      else
        { ch with session := session }

def receiveRekey (envelope : Bytes) : SealedChannel cfg.wire :=
  match cfg.wire.openEnvelope ch.session envelope with
  | (none, session) => { ch with session := session }
  | (some plaintext, session) =>
    match cfg.wire.decodeRekey plaintext with
    | some (.ack keyEpoch hash) =>
      if ch.awaitingAck = some (keyEpoch, hash) then
        { ch with
          session := session
          currentEpoch := keyEpoch
          previousEpochHash := hash
          awaitingAck := none }
      else
        { ch with session := session }
    | some (.proposal ..) => { ch with session := session }
    | none => { ch with session := session }

end

end SealedChannel

/-! ## The endpoint -/

inductive EndpointPhase (wire : OperatorWire) where
  | accepting
  | serving (ch : SealedChannel wire)
  | stopped

structure Endpoint (C : Crypto) (wire : OperatorWire) where
  consent : SessionConsent C
  phase : EndpointPhase wire

/-- What happens around the endpoint. A connection comes with the outcome of its handshake and
with the policy and revocation list of that moment; a tick says whether the proposal could be
sent. -/
inductive SealedEvent (C : OperatorCrypto) (E : Type) where
  | acceptFailed
  | upgradeFailed
  | connected (handshake : Except String HandshakeOutcome) (policy : OperatorPolicy)
      (revocations : OperatorRevocations)
  | tick (sent : Bool)
  | envelope (bytes : Bytes) (m : Moment C E)
  | closed

namespace Endpoint

section

variable (cfg : SealedConfig C) (s : Endpoint C.toCrypto cfg.wire)

def start (consent : SessionConsent C.toCrypto) : Endpoint C.toCrypto cfg.wire :=
  ⟨consent, .accepting⟩

def decision (ch : SealedChannel cfg.wire) (bytes : Bytes) (m : Moment C E) :
    Option DecodedConsent := do
  let plaintext ← (cfg.wire.openEnvelope ch.session bytes).1
  let text ← fromUtf8 plaintext
  decodeConsentDecision cfg.toConsentConfig m text

def receive (ch : SealedChannel cfg.wire) (bytes : Bytes) (m : Moment C E) :
    Endpoint C.toCrypto cfg.wire :=
  if cfg.wire.envelopePayloadType bytes = some cfg.wire.payloadTypeOperatorRekey then
    { s with phase := .serving (ch.receiveRekey cfg bytes) }
  else
    let opened := { ch with session := (cfg.wire.openEnvelope ch.session bytes).2 }
    match decision cfg ch bytes m with
    | none => { s with phase := .serving opened }
    | some decoded =>
      match applyConsentDecision cfg.toConsentConfig m decoded s.consent with
      | (.keepServing, consent) => ⟨consent, .serving opened⟩
      | (.stop, consent) => ⟨consent, .stopped⟩

def step (e : SealedEvent C E) : Endpoint C.toCrypto cfg.wire :=
  match s.phase, e with
  | .accepting, .acceptFailed => { s with phase := .stopped }
  | .accepting, .connected handshake policy revocations =>
    match SealedChannel.establish cfg policy revocations handshake with
    | .error _ => s
    | .ok ch => { s with phase := .serving ch }
  | .serving ch, .tick sent =>
    if cfg.rekeyConfigured ∧ ch.awaitingAck = none then
      { s with phase := .serving (ch.propose cfg sent) }
    else
      s
  | .serving ch, .envelope bytes m => s.receive cfg ch bytes m
  | .serving _, .closed => { s with phase := .accepting }
  | _, _ => s

variable {cfg}

def open? : Bool :=
  match s.phase with
  | .stopped => false
  | _ => true

def desk : Desk C.toCrypto := ⟨s.consent, s.open?⟩

def channel? : Option AuthenticatedOperatorChannel :=
  match s.phase with
  | .serving ch => some ch.channel
  | _ => none

variable (cfg) in
/-- The operator that the token in a sealed request names. -/
def tokenOperator? (bytes : Bytes) : Option String :=
  match s.phase with
  | .serving ch => do
    let plaintext ← (cfg.wire.openEnvelope ch.session bytes).1
    let text ← fromUtf8 plaintext
    let request ← (parseAuthenticatedConsentAction cfg.text text).toOption
    pure request.token.token.operatorId
  | _ => none

variable (cfg) in
def delivery (e : SealedEvent C E) : Delivery C E :=
  match s.phase, e with
  | .accepting, .acceptFailed => .listenerFailed
  | .serving ch, .envelope bytes m =>
    if cfg.wire.envelopePayloadType bytes = some cfg.wire.payloadTypeOperatorRekey then .nothing
    else
      match decision cfg ch bytes m with
      | none => .nothing
      | some decoded => .decision decoded m
  | _, _ => .nothing

end

variable {cfg : SealedConfig C} {ch : SealedChannel cfg.wire}

lemma receive_desk (s : Endpoint C.toCrypto cfg.wire) (hphase : s.phase = .serving ch)
    (bytes : Bytes) (m : Moment C E) : (s.receive cfg ch bytes m).desk =
      s.desk.step cfg.toConsentConfig (s.delivery cfg (.envelope bytes m)) := by
  have hopen : s.open? = true := by simp [open?, hphase]
  by_cases h : cfg.wire.envelopePayloadType bytes = some cfg.wire.payloadTypeOperatorRekey
  · simp [receive, delivery, hphase, h, desk, Desk.step, open?]
  · cases hdec : decision cfg ch bytes m with
    | none => simp [receive, delivery, hphase, h, hdec, desk, Desk.step, open?]
    | some decoded =>
      rcases hres : applyConsentDecision cfg.toConsentConfig m decoded s.consent with
        ⟨followup, consent⟩
      cases followup <;>
        simp [receive, delivery, hphase, h, hdec, hres, desk, Desk.step, open?]

lemma step_desk (cfg : SealedConfig C) (s : Endpoint C.toCrypto cfg.wire) (e : SealedEvent C E) :
    (s.step cfg e).desk = s.desk.step cfg.toConsentConfig (s.delivery cfg e) := by
  cases hphase : s.phase with
  | accepting =>
    cases e with
    | connected handshake policy revocations =>
      cases h : SealedChannel.establish cfg policy revocations handshake <;>
        simp [step, hphase, h, delivery, desk, Desk.step, open?]
    | _ => simp [step, hphase, delivery, desk, Desk.step, open?]
  | stopped => cases e <;> simp [step, hphase, desk, Desk.step, open?]
  | serving ch =>
    cases e with
    | envelope bytes m =>
      have hstep : s.step cfg (.envelope bytes m) = s.receive cfg ch bytes m := by
        simp [step, hphase]
      rw [hstep]
      exact s.receive_desk hphase bytes m
    | tick sent =>
      simp only [step, hphase, delivery, Desk.step]
      split <;> simp [desk, open?, hphase]
    | _ => simp [step, hphase, delivery, desk, Desk.step, open?]

/-! ## What a decision on the channel rests on -/

/-- The event opened the channel: its handshake proved keys that were enrolled for the operator of
the channel, who was not revoked at that moment. -/
def EstablishedBy (cfg : SealedConfig C) (channel : AuthenticatedOperatorChannel) :
    SealedEvent C E → Prop
  | .connected handshake policy revocations =>
    ∃ outcome op, handshake = .ok outcome ∧ lookupPeer cfg.suite policy outcome = some op ∧
      channel.operatorId = op.operatorId ∧ channel.role = op.role ∧
      revocations.isRevoked op.operatorId = false
  | _ => False

lemma establishedBy_of_establish {policy : OperatorPolicy} {revocations : OperatorRevocations}
    {handshake : Except String HandshakeOutcome}
    (h : SealedChannel.establish cfg policy revocations handshake = .ok ch) :
    EstablishedBy cfg ch.channel (.connected handshake policy revocations : SealedEvent C E) := by
  simp only [SealedChannel.establish, establishOperatorChannel, bind_ok, mapError_ok,
    okOr_ok, failIf_ok, pure_ok] at h
  obtain ⟨channel, ⟨outcome, hsha, op, hloo, rfl⟩, -, hlive, rfl⟩ := h
  exact ⟨outcome, op, hsha, hloo, rfl, rfl, by simpa using hlive⟩

lemma propose_channel (ch : SealedChannel cfg.wire) (sent : Bool) :
    (ch.propose cfg sent).channel = ch.channel := by
  unfold SealedChannel.propose
  dsimp only
  split
  · rfl
  · split
    · rfl
    · split <;> rfl

lemma receiveRekey_channel (ch : SealedChannel cfg.wire) (envelope : Bytes) :
    (ch.receiveRekey cfg envelope).channel = ch.channel := by
  unfold SealedChannel.receiveRekey
  split
  · rfl
  · split
    · split <;> rfl
    · rfl
    · rfl

variable {s : Endpoint C.toCrypto cfg.wire} {m : Moment C E} {channel :
  AuthenticatedOperatorChannel}

lemma receive_channel {bytes : Bytes} (h : (s.receive cfg ch bytes m).channel? = some channel) :
    ch.channel = channel := by
  unfold receive at h
  split at h
  · rw [← receiveRekey_channel ch bytes]
    exact Option.some.inj h
  · dsimp only at h
    split at h
    · exact Option.some.inj h
    · split at h
      · exact Option.some.inj h
      · cases h

lemma channel?_of_step (s : Endpoint C.toCrypto cfg.wire) (e : SealedEvent C E)
    (channel : AuthenticatedOperatorChannel) (h : (s.step cfg e).channel? = some channel) :
    s.channel? = some channel ∨ EstablishedBy cfg channel e := by
  cases hphase : s.phase with
  | stopped =>
    have hsame : s.step cfg e = s := by cases e <;> simp [step, hphase]
    rw [hsame] at h
    exact .inl h
  | accepting =>
    cases e with
    | connected handshake policy revocations =>
      cases hch : SealedChannel.establish cfg policy revocations handshake with
      | error err => simp [step, hphase, hch, channel?] at h
      | ok ch =>
        simp only [step, hphase, hch, channel?, Option.some.injEq] at h
        subst h
        exact .inr (establishedBy_of_establish hch)
    | _ => simp [step, hphase, channel?] at h
  | serving ch =>
    have hser : s.channel? = some ch.channel := by simp [channel?, hphase]
    refine .inl (hser.trans (congrArg some ?_))
    cases e with
    | envelope bytes m =>
      simp only [step, hphase] at h
      exact receive_channel h
    | tick sent =>
      simp only [step, hphase] at h
      split at h
      · rw [← propose_channel ch sent]
        exact Option.some.inj h
      · exact Option.some.inj (hser.symm.trans h)
    | closed => simp [step, hphase, channel?] at h
    | _ =>
      simp only [step, hphase] at h
      exact Option.some.inj (hser.symm.trans h)

lemma established_of_channel? (consent : SessionConsent C.toCrypto) (es : List (SealedEvent C E))
    (h : (es.foldl (step cfg) (start cfg consent)).channel? = some channel) :
    ∃ opening ∈ es, EstablishedBy cfg channel opening := by
  rcases foldl_provenance (fun s b => channel? s = some b) channel?_of_step h with
    hstays | hope
  · cases hstays
  · exact hope

variable {decoded : DecodedConsent}

lemma delivery_eq_decision {e : SealedEvent C E} (h : s.delivery cfg e = .decision decoded m) :
    ∃ ch bytes plaintext text, s.phase = .serving ch ∧ e = .envelope bytes m ∧
      (cfg.wire.openEnvelope ch.session bytes).1 = some plaintext ∧
      fromUtf8 plaintext = some text ∧
      decodeConsentDecision cfg.toConsentConfig m text = some decoded := by
  unfold delivery at h
  split at h
  · cases h
  · rename_i ch bytes m' hphase
    split at h
    · cases h
    · split at h
      · cases h
      · rename_i decoded' hdec
        cases h
        simp only [decision, Option.bind_eq_bind, Option.bind_eq_some_iff] at hdec
        obtain ⟨plaintext, hopen, text, htext, hdecoded⟩ := hdec
        exact ⟨ch, bytes, plaintext, text, hphase, rfl, hopen, htext, hdecoded⟩
  · cases h

/-- The decision in the envelope is the one `operatorId` signed under a token of the daemon: the
operator is enrolled and not revoked at this moment, its role permits the decision, and the
decision takes effect together with the ledger entry that names this operator. -/
def SignedAndAttributed (cfg : SealedConfig C) (W : SigningWorld C cfg.daemon)
    (before after : SessionConsent C.toCrypto) (m : Moment C E) (operatorId : String) : Prop :=
  ∃ (request : AuthenticatedConsentAction) (operator : EnrolledOperator) (entry : LedgerEntry),
    let token := request.token.token
    token.operatorId = operatorId ∧
      Binds W m.policy (unixSecs m.clock) token request.action.requiredPermission
        (.consentAction request.action cfg.sessionId token.tokenNonce cfg.scopeDigest) operator ∧
      m.revocations.isRevoked operatorId = false ∧
      entry.event = operatorConsentAuditEvent cfg.text
        ⟨request.action, operatorId, token.role, operator.ed25519Pubkey⟩ cfg.sessionUuid
        m.requestId ∧
      after = ({ before with ledger := before.ledger.push entry }.takeEffect request.action).2

/-- Operator authentication is on, and the token in the envelope names the operator that the
channel was established with. -/
def SentByChannelOperator (cfg : SealedConfig C) (s : Endpoint C.toCrypto cfg.wire) :
    SealedEvent C E → Prop
  | .envelope bytes _ => cfg.requireOperatorAuth = true ∧
      s.tokenOperator? cfg bytes = s.channel?.map AuthenticatedOperatorChannel.operatorId
  | _ => True

lemma signedAndAttributed_of_decode {W : SigningWorld C cfg.daemon}
    (hauth : cfg.requireOperatorAuth = true) {bytes plaintext : Bytes} {text : String}
    {consent : SessionConsent C.toCrypto} (hphase : s.phase = .serving ch)
    (hopen : (cfg.wire.openEnvelope ch.session bytes).1 = some plaintext)
    (htext : fromUtf8 plaintext = some text)
    (hdecoded : decodeConsentDecision cfg.toConsentConfig m text = some decoded)
    (hchanged : (applyConsentDecision cfg.toConsentConfig m decoded consent).2 ≠ consent) :
    ∃ operatorId, s.tokenOperator? cfg bytes = some operatorId ∧
      SignedAndAttributed cfg W consent
        (applyConsentDecision cfg.toConsentConfig m decoded consent).2 m operatorId := by
  rcases authorized_decision_cases W hauth hdecoded consent with
    hrefused | ⟨request, operator, entry, hparsed, hbinds, hlive, hevent, heffect⟩
  · rw [hrefused] at hchanged
    exact absurd rfl hchanged
  · rw [heffect]
    refine ⟨request.token.token.operatorId, ?_, request, operator, entry, rfl, hbinds, hlive,
      hevent, rfl⟩
    simp [tokenOperator?, hphase, hopen, htext, hparsed, Except.toOption]

end Endpoint

/-! ## Sample channels -/

def plainWire : OperatorWire where
  Session := Unit
  withSourceId _ _ := ()
  installKey _ _ := ()
  sealPayload _ bytes _ := (some bytes, ())
  openEnvelope _ bytes := (some bytes, ())
  envelopePayloadType _ := none
  payloadTypeOperatorRekey := 0
  encodeRekey _ := none
  decodeRekey _ := none
  hkdfSha256 _ ikm _ := foldDigest 32 ikm
  canonicalBytes context := encodeText context.schema ++ u64Le context.keyEpoch ++
    context.baseTranscriptHash.toList ++ context.previousEpochHash.toList ++
    leBytes 4 (match context.reason with | .interval => 0 | .manual => 1)

def sealedSample (log : List (UInt8 × Bytes)) (requireOperatorAuth : Bool) :
    SealedConfig (recordCrypto log) where
  toConsentConfig := sampleConfig log requireOperatorAuth
  wire := plainWire
  suite := .standard
  rekeyConfigured := false

def connectedAs (log : List (UInt8 × Bytes)) (b : UInt8) :
    SealedEvent (recordCrypto log) String :=
  .connected (.ok ⟨.replicate 32 b, List.replicate 1952 b, zeroHash, zeroHash, zeroHash⟩)
    samplePolicy ⟨[], false⟩

def viewerChannel : AuthenticatedOperatorChannel := ⟨"vic", .viewer, zeroHash, zeroHash, zeroHash⟩

namespace Endpoint

end Endpoint

/-! ## Live sessions that nobody can revoke any more -/

/-- **When stopping is safe.** On every run of the plaintext server and of the sealed endpoint, an
approved session is revoked when the surface has stopped, exactly if no step closed the surface on
a live session: with a failed listener, with a denial, or with a decision whose audit entry was
not written. -/
theorem revoked_when_stopped_iff (consent : SessionConsent C.toCrypto) :
    (∀ (cfg : ConsentConfig C) (es : List (ServerEvent C E)),
      (es.foldl (Server.step cfg) (.start consent)).desk.RevokedWhenStopped ↔
        StepsMeet (Server.step cfg) (fun s e => s.desk.HoldsOpen cfg (s.delivery cfg e))
          (.start consent) es) ∧
    ∀ (cfg : SealedConfig C) (es : List (SealedEvent C E)),
      (es.foldl (Endpoint.step cfg) (.start cfg consent)).desk.RevokedWhenStopped ↔
        StepsMeet (Endpoint.step cfg)
          (fun s e => s.desk.HoldsOpen cfg.toConsentConfig (s.delivery cfg e))
          (.start cfg consent) es := by
  constructor
  · intro cfg es
    rw [foldl_simulates (Server.step_desk cfg), Desk.revokedWhenStopped_iff cfg rfl,
      stepsMeet_simulates (Server.step_desk cfg)]
  · intro cfg es
    rw [foldl_simulates (Endpoint.step_desk cfg),
      Desk.revokedWhenStopped_iff cfg.toConsentConfig rfl,
      stepsMeet_simulates (Endpoint.step_desk cfg)]

/-- An approval, and then a denial; an approval, and then a revocation that cannot be persisted;
an approval, and then a listener that fails; and the denial on the sealed channel: each time the
surface has stopped, and the approved session is not revoked. -/
theorem live_session_left_behind :
    let log := approverLog [.approve, .revoke]
    let start := Server.start (sampleConsent log)
    let approve := connectionWith log ["Approve"]
    let denied := (approve ++ [ServerEvent.message "Deny" (sampleMoment log 4 true)]).foldl
      (Server.step (sampleConfig log false)) start
    let unwritten := (approve ++ [ServerEvent.message "Revoke" (sampleMoment log 4 false)]).foldl
      (Server.step (sampleConfig log true)) start
    let unheard := (approve ++ [ServerEvent.closed, ServerEvent.acceptFailed]).foldl
      (Server.step (sampleConfig log true)) start
    let sealedDenied := [connectedAs log 1, .envelope (utf8 "Approve") (sampleMoment log 3 true),
      .envelope (utf8 "Deny") (sampleMoment log 4 true)].foldl
      (Endpoint.step (sealedSample log false)) (.start (sealedSample log false) (sampleConsent log))
    ¬ denied.desk.RevokedWhenStopped ∧ ¬ unwritten.desk.RevokedWhenStopped ∧
      ¬ unheard.desk.RevokedWhenStopped ∧ ¬ sealedDenied.desk.RevokedWhenStopped := by
  decide +kernel

end XeniaPeer.Consent
