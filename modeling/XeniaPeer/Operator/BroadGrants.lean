import Mathlib.Data.List.Infix
import XeniaPeer.Foundation.Traces
import XeniaPeer.Operator.Auth
import XeniaPeer.Operator.HostTrust
import XeniaPeer.Session.M1

/-!
# Broad grants

A console relays the consent requests of a daemon to the operator agent, which holds the operator's
keys, and it relays the signatures back. The console is not trusted. The daemon writes the scope of
a session as a fixed text (`m1ConsentScope`), and the digest of this text is what an approval signs.

Main result: `approval_was_confirmed`.
-/

namespace XeniaPeer.Operator.BroadGrants

open Foundation Session HostTrust

/-! ## The scope of a session -/

inductive TelemetryLevel where
  | off
  | basic
  | system
deriving DecidableEq

inductive AudioMode where
  | off
  | sine
  | noise
  | capture
deriving DecidableEq

inductive InputBackendChoice where
  | noop
  | log
  | xdgPortal
  | uinput
  | windows
  | macos
deriving DecidableEq

inductive ClipboardMode where
  | off
  | hostToViewer
  | bidirectional
deriving DecidableEq

structure Args where
  telemetryLevel : TelemetryLevel
  audio : AudioMode
  inputBackend : InputBackendChoice
  clipboard : ClipboardMode
  (sendFile recvFileDir : Option String)

def configuredPermissionSet (args : Args) : M1PermissionSet where
  streamFrame := true
  streamTelemetry := args.telemetryLevel ≠ .off
  streamAudio := args.audio ≠ .off
  injectInput := args.inputBackend ≠ .noop
  readHostClipboard := args.clipboard ≠ .off
  writeHostClipboard := args.clipboard = .bidirectional
  sendFileToViewer := args.sendFile.isSome
  receiveFileFromViewer := args.recvFileDir.isSome

def telemetryText : TelemetryLevel → String
  | .off => "telemetry: off"
  | .basic => "telemetry: basic host performance"
  | .system => "telemetry: system identity and performance"

def audioText : AudioMode → String
  | .off => "audio: off"
  | .sine | .noise => "audio: synthetic test signal"
  | .capture => "audio: host device capture"

def inputText (granted : M1PermissionSet) : String :=
  if granted.injectInput then "input: viewer may inject" else "input: off"

def clipboardText (granted : M1PermissionSet) : String :=
  match granted.readHostClipboard, granted.writeHostClipboard with
  | false, false => "clipboard: off"
  | true, false => "clipboard: host-to-viewer disclosure"
  | false, true => "clipboard: viewer-to-host apply"
  | true, true => "clipboard: bidirectional"

def fileTransferText (granted : M1PermissionSet) : String :=
  match granted.sendFileToViewer, granted.receiveFileFromViewer with
  | false, false => "file-transfer: off"
  | true, false => "file-transfer: host-to-viewer send"
  | false, true => "file-transfer: viewer-to-host receive"
  | true, true => "file-transfer: bidirectional"

def m1ConsentScope (args : Args) : String :=
  let granted := configuredPermissionSet args
  "display: screen stream; " ++ telemetryText args.telemetryLevel ++ "; " ++ audioText args.audio ++
    "; " ++ inputText granted ++ "; " ++ clipboardText granted ++ "; " ++ fileTransferText granted

def contains (text phrase : String) : Bool := decide (phrase.toList <:+: text.toList)

def broadPhrases : List String :=
  ["input: viewer may inject", "clipboard: host-to-viewer disclosure",
    "clipboard: viewer-to-host apply", "clipboard: bidirectional",
    "file-transfer: host-to-viewer send", "file-transfer: viewer-to-host receive",
    "file-transfer: bidirectional"]

def scopeIndicatesBroadGrant (scope : String) : Bool := broadPhrases.any (contains scope)

/-- A grant of more than looking. -/
def Broad (granted : M1PermissionSet) : Prop :=
  granted.injectInput = true ∨
    (granted.readHostClipboard = true ∨ granted.writeHostClipboard = true) ∨
    granted.sendFileToViewer = true ∨ granted.receiveFileFromViewer = true

@[simp] lemma contains_append_self (text phrase : String) :
    contains (text ++ phrase) phrase = true := by
  simp only [contains, String.toList_append, decide_eq_true_eq]
  exact (List.suffix_append _ _).isInfix

variable {phrase : String}

lemma contains_append {text : String} (h : contains text phrase = true) (rest : String) :
    contains (text ++ rest) phrase = true := by
  simp only [contains, String.toList_append, decide_eq_true_eq] at h ⊢
  exact h.trans (List.prefix_append _ _).isInfix

lemma broad_of_phrase {scope : String} (h : contains scope phrase = true)
    (hphrase : phrase ∈ broadPhrases) : scopeIndicatesBroadGrant scope = true :=
  List.any_eq_true.mpr ⟨phrase, hphrase, h⟩

lemma scopeIndicatesBroadGrant_m1ConsentScope {args : Args}
    (h : Broad (configuredPermissionSet args)) :
    scopeIndicatesBroadGrant (m1ConsentScope args) = true := by
  have hcli : contains (m1ConsentScope args)
      (clipboardText (configuredPermissionSet args)) = true :=
    contains_append (contains_append (contains_append_self _ _) _) _
  have hinp : contains (m1ConsentScope args) (inputText (configuredPermissionSet args)) = true :=
    contains_append (contains_append (contains_append (contains_append
      (contains_append_self _ _) _) _) _) _
  have hfil : contains (m1ConsentScope args)
      (fileTransferText (configuredPermissionSet args)) = true := contains_append_self _ _
  obtain h | h | h := h
  · refine broad_of_phrase hinp ?_
    simp [inputText, h, broadPhrases]
  · refine broad_of_phrase hcli ?_
    unfold clipboardText
    -- one of the two flags is set, so the text is one of the three phrases
    split <;> simp_all [broadPhrases]
  · refine broad_of_phrase hfil ?_
    unfold fileTransferText
    split <;> simp_all [broadPhrases]

/-! ## Requests of the console -/

inductive AgentErrorCode where
  | hostNotTrusted
  | confirmationRequired
  | confirmationDeclined
  | badRequest
  | unauthorized
  | internal

structure AgentErrorResponse where
  code : AgentErrorCode
  message : String

def badRequest (message : String) : AgentErrorResponse := ⟨.badRequest, message⟩

structure DaemonIdentity where
  hostEd25519Pubkey : FixedBytes 32
  hostMlDsaPubkey : FixedBytes 1952
  httpAuthEd25519Pubkey : FixedBytes 32
  httpAuthMlDsaPubkey : FixedBytes 1952
  fingerprint : Fingerprint

structure SignedTokenDto where
  operatorId : String
  role : OperatorRole
  (issuedAt expiresAt : UInt64)
  (tokenNonceHex signatureHex mlDsaSignatureHex : String)

structure SignRequestCommon where
  schemaVersion : UInt32
  (daemonEndpoint suite : String)

structure SignConsentActionRequest where
  common : SignRequestCommon
  action : ConsentAction
  (sessionIdHex scope : String)
  token : SignedTokenDto

inductive Request where
  | challenge (common : SignRequestCommon)
      (nonceHex hostEdAttestationHex hostMlDsaAttestationHex : String)
  | consentAction (request : SignConsentActionRequest)
  | revoke (common : SignRequestCommon) (targetOperatorId : String) (token : SignedTokenDto)
  | replaceKey (common : SignRequestCommon) (targetOperatorId newEd25519PubkeyHex : String)
      (newMlDsaPubkeyHex : String) (newMlDsa87PubkeyHex : Option String) (token : SignedTokenDto)
  | handshakeBegin (common : SignRequestCommon) (hostHelloHex : String)

/-- What the agent takes from other crates: `hex`, the debug form of a text, and the viewer
handshakes of `xenia_wire`. -/
structure Library where
  hexEncode : Bytes → String
  hexDecode : String → Option Bytes
  debug : String → String
  /-- The transcript that `ViewerHandshake::begin` signs in answer to a `HostHello`, which also
  depends on the random numbers it draws. -/
  viewerBegin : Bytes → Nat → Except String Bytes
  viewerBeginHighSec : Bytes → Nat → Except String Unit
  /-- As on the side of the host, the transcript begins with the context of handshake
  signatures. -/
  viewerBegin_context : ∀ hello random transcript, viewerBegin hello random = .ok transcript →
    lengthPrefixed (utf8 "xenia-handshake-signature-v1") <+: transcript

/-- The operator agent: its two keys, and whether it was started with
`--allow-noninteractive-privileged-confirmation`. -/
structure Setup where
  crypto : OperatorCrypto
  lib : Library
  edPubkey : FixedBytes 32
  mlDsaPubkey : FixedBytes 1952
  allowNoninteractivePrivileged : Bool

structure Prompt where
  title : String
  fields : List (String × String)
  declined : String
deriving DecidableEq

/-- What a request comes to: the question, the bytes that are signed with Ed25519 and ML-DSA-65, and
the event that is recorded before the answer. -/
structure Plan where
  prompt : Option Prompt
  message : Option Bytes
  event : Option AgentAuditEvent

section Handlers

variable (S : Setup)

def decodeFixedHex (n : Nat) (s : String) : Option (FixedBytes n) := do
  FixedBytes.ofBytes? n (← S.lib.hexDecode (String.ofList (trim s.toList)))

def decodeHexVec (s : String) : Option Bytes := S.lib.hexDecode (String.ofList (trim s.toList))

def normalizeDaemonEndpoint (raw : String) : String :=
  String.ofList ((trim raw.toList).map asciiLower)

def checkVersion (schemaVersion : UInt32) : Except AgentErrorResponse Unit :=
  failIf (schemaVersion ≠ 3)
    (badRequest ("unsupported schema_version " ++ toString schemaVersion ++ " (expected 3)"))

def suiteError (suite : String) : AgentErrorResponse :=
  badRequest ("suite must be \"standard\" or \"highsec\", got " ++ S.lib.debug suite)

def checkEndpoint (daemonEndpoint : String) : Except AgentErrorResponse Unit :=
  failIf (trim daemonEndpoint.toList = []) (badRequest "daemon_endpoint must not be empty")

def validateCommon (common : SignRequestCommon) : Except AgentErrorResponse Unit := do
  checkVersion common.schemaVersion
  failIf (common.suite ≠ "standard" ∧ common.suite ≠ "highsec") (suiteError S common.suite)
  checkEndpoint common.daemonEndpoint

def malformed (m : String) : AgentErrorResponse := badRequest ("malformed daemon evidence: " ++ m)

def signatureInvalid (m : String) : AgentErrorResponse :=
  ⟨.hostNotTrusted, "invalid daemon evidence: " ++ m⟩

def verifyChallengeAttestation (identity : DaemonIdentity) (nonce : FixedBytes 32)
    (hostEdAttestationHex hostMlDsaAttestationHex : String) : Except AgentErrorResponse Unit := do
  let hostEdPk ← okOr (S.crypto.ed25519.fromBytes identity.hostEd25519Pubkey)
    (malformed "host_ed25519_pubkey is not a valid point")
  let transcript := challengeHostAttestationTranscript nonce
  let edSig ← okOr (decodeFixedHex S 64 hostEdAttestationHex)
    (malformed "host_ed_attestation_hex must be 128 hex characters")
  failIf (¬ S.crypto.ed25519.verify hostEdPk transcript edSig)
    (signatureInvalid "challenge host attestation Ed25519 signature does not verify")
  let mlSig ← okOr (decodeFixedHex S 3309 hostMlDsaAttestationHex)
    (malformed "host_ml_dsa_attestation_hex must be 3309 hex bytes")
  failIf (¬ S.crypto.mlDsa65.verifyBytes identity.hostMlDsaPubkey transcript mlSig)
    (signatureInvalid "challenge host attestation ML-DSA signature does not verify")

def verifyRelayedToken (identity : DaemonIdentity) (token : SignedTokenDto) :
    Except AgentErrorResponse (FixedBytes 16) := do
  let tokenNonce ← okOr (decodeFixedHex S 16 token.tokenNonceHex)
    (malformed "token_nonce_hex must be 32 hex characters")
  let signature ← okOr (decodeFixedHex S 64 token.signatureHex)
    (malformed "signature_hex must be 128 hex characters")
  let mlDsaSignature ← okOr (decodeFixedHex S 3309 token.mlDsaSignatureHex)
    (malformed "ml_dsa_signature_hex must be 3309 hex bytes")
  let canonical := operatorTokenCanonicalBytes token.operatorId token.role token.issuedAt
    token.expiresAt tokenNonce
  let httpAuthPk ← okOr (S.crypto.ed25519.fromBytes identity.httpAuthEd25519Pubkey)
    (malformed "http_auth_ed25519_pubkey is not a valid point")
  failIf (¬ S.crypto.ed25519.verify httpAuthPk canonical signature)
    (signatureInvalid ("operator token Ed25519 signature does not verify against the " ++
      "certificate's delegated key"))
  failIf (¬ S.crypto.mlDsa65.verifyBytes identity.httpAuthMlDsaPubkey canonical mlDsaSignature)
    (signatureInvalid ("operator token ML-DSA signature does not verify against the " ++
      "certificate's delegated key"))
  pure tokenNonce

abbrev Trusted := Except AgentErrorResponse DaemonIdentity

def signChallenge (common : SignRequestCommon)
    (nonceHex hostEdAttestationHex hostMlDsaAttestationHex : String) (trusted : Trusted) :
    Except AgentErrorResponse Plan := do
  validateCommon S common
  let nonce ← okOr (decodeFixedHex S 32 nonceHex)
    (badRequest "nonce_hex must be 64 hex characters")
  let identity ← trusted
  verifyChallengeAttestation S identity nonce hostEdAttestationHex hostMlDsaAttestationHex
  pure ⟨none, some (challengeTranscript nonce S.edPubkey S.mlDsaPubkey.toList), none⟩

def broadGrantPrompt (scope daemonEndpoint : String) (fingerprint : Fingerprint) : Prompt where
  title := "Approve broad consent grant?"
  fields := [("scope", scope), ("daemon endpoint", daemonEndpoint),
    ("daemon fingerprint", S.lib.hexEncode fingerprint.toList)]
  declined := "operator declined to confirm the broad consent grant"

def signConsentAction (request : SignConsentActionRequest) (trusted : Trusted) :
    Except AgentErrorResponse Plan := do
  validateCommon S request.common
  let sessionId ← okOr (decodeFixedHex S 16 request.sessionIdHex)
    (badRequest "session_id_hex must be 32 hex characters")
  let identity ← trusted
  let tokenNonce ← verifyRelayedToken S identity request.token
  let daemonEndpoint := normalizeDaemonEndpoint request.common.daemonEndpoint
  let isBroadGrant := request.action = .approve ∧ scopeIndicatesBroadGrant request.scope = true
  pure {
    prompt :=
      if isBroadGrant then
        some (broadGrantPrompt S request.scope daemonEndpoint identity.fingerprint)
      else none
    message := some (consentActionTranscript request.action sessionId tokenNonce
      (scopeDigest S.crypto.blake3 request.scope))
    event := if isBroadGrant then some (.broadGrantConfirmed request.scope daemonEndpoint) else none
  }

def signRevoke (common : SignRequestCommon) (targetOperatorId : String) (token : SignedTokenDto)
    (trusted : Trusted) : Except AgentErrorResponse Plan := do
  validateCommon S common
  failIf (trim targetOperatorId.toList = []) (badRequest "target_operator_id must not be empty")
  let identity ← trusted
  let tokenNonce ← verifyRelayedToken S identity token
  let daemonEndpoint := normalizeDaemonEndpoint common.daemonEndpoint
  pure {
    prompt := some {
      title := "Revoke operator enrollment?"
      fields := [("target operator id", targetOperatorId), ("daemon endpoint", daemonEndpoint),
        ("daemon fingerprint", S.lib.hexEncode identity.fingerprint.toList),
        ("suite", common.suite)]
      declined := "operator declined to confirm revocation of '" ++ targetOperatorId ++ "'" }
    message := some (revokeOperatorTranscript targetOperatorId tokenNonce)
    event := some (.revocationSigned targetOperatorId daemonEndpoint)
  }

def signReplaceKey (common : SignRequestCommon) (targetOperatorId newEd25519PubkeyHex : String)
    (newMlDsaPubkeyHex : String) (newMlDsa87PubkeyHex : Option String) (token : SignedTokenDto)
    (trusted : Trusted) : Except AgentErrorResponse Plan := do
  validateCommon S common
  failIf (trim targetOperatorId.toList = []) (badRequest "target_operator_id must not be empty")
  let newEd25519Pubkey ← okOr (decodeFixedHex S 32 newEd25519PubkeyHex)
    (badRequest "new_ed25519_pubkey_hex must be 32 bytes of hex")
  let newMlDsaPubkey ← okOr (decodeFixedHex S 1952 newMlDsaPubkeyHex)
    (badRequest "new_ml_dsa_pubkey_hex must be a valid ML-DSA-65 public key")
  let newMlDsa87Pubkey ← newMlDsa87PubkeyHex.mapM fun hex =>
    okOr (decodeFixedHex S 2592 hex)
      (badRequest "new_ml_dsa_87_pubkey_hex must be a valid ML-DSA-87 public key")
  let identity ← trusted
  let tokenNonce ← verifyRelayedToken S identity token
  let daemonEndpoint := normalizeDaemonEndpoint common.daemonEndpoint
  pure {
    prompt := some {
      title := "Replace operator enrollment key?"
      fields := [("target operator id", targetOperatorId),
        ("new Ed25519 public key", newEd25519PubkeyHex), ("daemon endpoint", daemonEndpoint),
        ("daemon fingerprint", S.lib.hexEncode identity.fingerprint.toList),
        ("suite", common.suite)]
      declined := "operator declined to confirm key replacement for '" ++ targetOperatorId ++ "'" }
    message := some (replaceOperatorKeyTranscript targetOperatorId newEd25519Pubkey.toList
      newMlDsaPubkey.toList (newMlDsa87Pubkey.map List.Vector.toList) tokenNonce)
    event := some (.keyReplacementSigned targetOperatorId newEd25519PubkeyHex daemonEndpoint)
  }

/-- `handshake_begin`, without host trust: that is checked when the handshake is finished. The
high-security suite signs with Ed25519 and ML-DSA-87. -/
def handshakeBegin (common : SignRequestCommon) (hostHelloHex : String) (random : Nat) :
    Except AgentErrorResponse Plan := do
  checkVersion common.schemaVersion
  checkEndpoint common.daemonEndpoint
  let hello ← okOr (decodeHexVec S hostHelloHex) (badRequest "host_hello_hex must be valid hex")
  let failed e := badRequest ("handshake begin failed: " ++ e)
  if common.suite = "standard" then do
    let transcript ← (S.lib.viewerBegin hello random).mapError failed
    pure ⟨none, some transcript, none⟩
  else if common.suite = "highsec" then do
    (S.lib.viewerBeginHighSec hello random).mapError failed
    pure ⟨none, none, none⟩
  else .error (suiteError S common.suite)

def plan (trusted : Trusted) (random : Nat) : Request → Except AgentErrorResponse Plan
  | .challenge common nonceHex edHex mlDsaHex =>
    signChallenge S common nonceHex edHex mlDsaHex trusted
  | .consentAction request => signConsentAction S request trusted
  | .revoke common target token => signRevoke S common target token trusted
  | .replaceKey common target edHex mlDsaHex mlDsa87Hex token =>
    signReplaceKey S common target edHex mlDsaHex mlDsa87Hex token trusted
  | .handshakeBegin common hostHelloHex => handshakeBegin S common hostHelloHex random

/-! ## The agent at work -/

inductive Terminal where
  | absent
  | failing (reason : String)
  | typed (line : String)
deriving DecidableEq

def confirm : Terminal → Except AgentErrorResponse Bool
  | .absent =>
    if S.allowNoninteractivePrivileged then .ok true
    else
      .error ⟨.confirmationRequired,
        "confirmation required but unavailable: no interactive terminal available"⟩
  | .failing reason => .error ⟨.internal, "host-trust pin store error: " ++ reason⟩
  | .typed line => .ok (eqIgnoreAsciiCase (trim line.toList) "yes".toList)

def confirmAction (prompt : Prompt) (terminal : Terminal) : Except AgentErrorResponse Unit := do
  let confirmed ← confirm S terminal
  failIf (¬ confirmed) ⟨.confirmationDeclined, prompt.declined⟩

inductive Happening where
  | confirmed (prompt : Prompt) (terminal : Terminal)
  /-- The event is on disk. -/
  | recorded (event : AgentAuditEvent)
  /-- Both signatures of the message leave the agent. -/
  | released (message : Bytes)
deriving DecidableEq

inductive Stage where
  | idle
  | confirming (plan : Plan) (prompt : Prompt)
  | recording (plan : Plan) (event : AgentAuditEvent)
  | closed

structure State where
  audit : Store (List AgentAuditEvent)
  stages : Nat → Stage
  trace : List Happening

inductive Event where
  /-- The console sends a request that comes through host trust with the answer `trusted`. -/
  | call (id : Nat) (request : Request) (trusted : Trusted) (random : Nat)
  | answer (id : Nat) (terminal : Terminal)
  | record (id : Nat) (ending : WriteEnd)
  | drop (id : Nat)
  /-- An append of host trust, of pairing or of a session refresh. -/
  | audit (event : AgentAuditEvent) (ending : WriteEnd)
  | crash

namespace State

def start (log : List AgentAuditEvent) : State := ⟨⟨log, log⟩, fun _ => .idle, []⟩

section

variable (s : State)

def become (id : Nat) (stage : Stage) : State :=
  { s with stages := Function.update s.stages id stage }

def see (h : Happening) : State := { s with trace := s.trace ++ [h] }

def append (event : AgentAuditEvent) (ending : WriteEnd) : State :=
  { s with audit := s.audit.commit (s.audit.memory ++ [event]) ending }

def crash : State where
  audit := s.audit.reload
  stages id := match s.stages id with
    | .idle => .idle
    | _ => .closed
  trace := s.trace

def release (id : Nat) (p : Plan) : State :=
  match p.message with
  | some message => (s.see (.released message)).become id .closed
  | none => s.become id .closed

def sign (id : Nat) (p : Plan) : State :=
  match p.event with
  | some event => s.become id (.recording p event)
  | none => s.release id p

def step : Event → State
  | .call id request trusted random =>
    match s.stages id with
    | .idle =>
      match plan S trusted random request with
      | .error _ => s.become id .closed
      | .ok p =>
        match p.prompt with
        | some prompt => s.become id (.confirming p prompt)
        | none => s.sign id p
    | _ => s
  | .answer id terminal =>
    match s.stages id with
    | .confirming p prompt =>
      match confirmAction S prompt terminal with
      | .ok () => (s.see (.confirmed prompt terminal)).sign id p
      | .error _ => s.become id .closed
    | _ => s
  | .record id ending =>
    match s.stages id with
    | .recording p event =>
      match ending with
      | .done => ((s.append event .done).see (.recorded event)).release id p
      | .failed took => (s.append event (.failed took)).become id .closed
      | .died took => (s.append event (.died took)).crash
    | _ => s
  | .drop id => s.become id .closed
  | .audit event ending =>
    match event with
    | .broadGrantConfirmed .. | .revocationSigned .. | .keyReplacementSigned .. => s
    | _ =>
      match ending with
      | .died took => (s.append event (.died took)).crash
      | _ => s.append event ending
  | .crash => s.crash

def run (events : List Event) : State := events.foldl (step S) s

end

end State

/-! ## What was done before a signature leaves -/

def Planned (asked : Set Request) (p : Plan) : Prop :=
  ∃ request ∈ asked, ∃ trusted random, plan S trusted random request = .ok p

def ConfirmedIn (trace : List Happening) (prompt : Prompt) : Prop :=
  ∃ terminal, confirmAction S prompt terminal = .ok () ∧ .confirmed prompt terminal ∈ trace

/-- The entry, if it is a release, is that of a plan; behind its confirmation comes its record, and
behind that, with nothing in between, the release. -/
def Justified (asked : Set Request) (before : List Happening) : Happening → Prop
  | .released message => ∃ p, Planned S asked p ∧ p.message = some message ∧
      match p.event with
      | none => ∀ prompt ∈ p.prompt, ConfirmedIn S before prompt
      | some event => ∃ earlier, before = earlier ++ [.recorded event] ∧
          ∀ prompt ∈ p.prompt, ConfirmedIn S earlier prompt
  | _ => True

def StageOk (asked : Set Request) (trace : List Happening) : Stage → Prop
  | .confirming p prompt => Planned S asked p ∧ p.prompt = some prompt
  | .recording p event => Planned S asked p ∧ p.event = some event ∧
      ∀ prompt ∈ p.prompt, ConfirmedIn S trace prompt
  | _ => True

structure Orderly (asked : Set Request) (s : State) : Prop where
  durable : s.audit.memory ⊆ s.audit.disk
  recorded : ∀ event, .recorded event ∈ s.trace → event ∈ s.audit.memory
  stages : ∀ id, StageOk S asked s.trace (s.stages id)
  trace : EachAfter (Justified S asked) s.trace

variable {S} {asked : Set Request} {s : State} {trace : List Happening} {prompt : Prompt}

lemma ConfirmedIn.append (h : ConfirmedIn S trace prompt) (rest : List Happening) :
    ConfirmedIn S (trace ++ rest) prompt := by
  obtain ⟨terminal, hter, hmem⟩ := h
  exact ⟨terminal, hter, List.mem_append_left _ hmem⟩

lemma StageOk.append {stage : Stage} (h : StageOk S asked trace stage) (rest : List Happening) :
    StageOk S asked (trace ++ rest) stage := by
  cases stage with
  | idle => trivial
  | confirming p prompt => exact h
  | recording p event => exact ⟨h.1, h.2.1, fun prompt hpro => (h.2.2 prompt hpro).append _⟩
  | closed => trivial

namespace Orderly

variable {id : Nat}

lemma become (h : Orderly S asked s) {stage : Stage} (hstage : StageOk S asked s.trace stage) :
    Orderly S asked (s.become id stage) where
  durable := h.durable
  recorded := h.recorded
  trace := h.trace
  stages other := by
    by_cases hother : other = id
    · subst hother
      simpa [State.become] using hstage
    · simpa [State.become, Function.update_of_ne hother] using h.stages other

lemma see (h : Orderly S asked s) {x : Happening} (hx : Justified S asked s.trace x)
    (hrecord : ∀ event, x = .recorded event → event ∈ s.audit.memory) : Orderly S asked (s.see x) where
  durable := h.durable
  recorded event hevent := by
    obtain hold | hnew := List.mem_append.mp hevent
    · exact h.recorded event hold
    · exact hrecord event (List.mem_singleton.mp hnew).symm
  trace := h.trace.concat hx
  stages id := (h.stages id).append _

lemma append (h : Orderly S asked s) (event : AgentAuditEvent) (ending : WriteEnd) :
    Orderly S asked (s.append event ending) where
  durable := Store.memory_subset_commit h.durable event ending
  recorded e he := Store.subset_memory_commit s.audit event ending (h.recorded e he)
  trace := h.trace
  stages := h.stages

lemma crash (h : Orderly S asked s) : Orderly S asked s.crash where
  durable := List.Subset.refl _
  recorded event hevent := h.durable (h.recorded event hevent)
  trace := h.trace
  stages id := by
    unfold State.crash
    dsimp only
    split <;> trivial

variable {p : Plan}

lemma release (h : Orderly S asked s)
    (hp : ∀ message, p.message = some message → Justified S asked s.trace (.released message)) :
    Orderly S asked (s.release id p) := by
  unfold State.release
  split
  · next message hmsg =>
    exact (h.see (hp message hmsg) (by simp)).become trivial
  · exact h.become trivial

lemma sign (h : Orderly S asked s) (hp : Planned S asked p)
    (hprompt : ∀ prompt ∈ p.prompt, ConfirmedIn S s.trace prompt) : Orderly S asked (s.sign id p) := by
  unfold State.sign
  split
  · next event hevent => exact h.become ⟨hp, hevent, hprompt⟩
  · next hevent =>
    refine h.release (fun message hmsg => ⟨p, hp, hmsg, ?_⟩)
    rw [hevent]
    exact hprompt

lemma step (h : Orderly S asked s) {event : Event}
    (hask : ∀ id request trusted random, event = .call id request trusted random →
      request ∈ asked) : Orderly S asked (s.step S event) := by
  cases event with
  | call id request trusted random =>
    have hreq := hask id request trusted random rfl
    unfold State.step
    dsimp only
    split
    · split
      · exact h.become trivial
      · next p hp =>
        have hpla : Planned S asked p := ⟨request, hreq, trusted, random, hp⟩
        split
        · next prompt hpro => exact h.become ⟨hpla, hpro⟩
        · next hpro => exact h.sign hpla (by simp [hpro])
    · exact h
  | answer id terminal =>
    unfold State.step
    dsimp only
    split
    · next p prompt hstage =>
      have hok := h.stages id
      rw [hstage] at hok
      split
      · next hyes =>
        refine (h.see (x := .confirmed prompt terminal) trivial (by simp)).sign hok.1
          (fun prompt' hpro' => ?_)
        rw [hok.2] at hpro'
        cases hpro'
        exact ⟨terminal, hyes, List.mem_append_right _ (List.mem_singleton_self _)⟩
      · exact h.become trivial
    · exact h
  | record id ending =>
    unfold State.step
    dsimp only
    split
    · next p event hstage =>
      have hok := h.stages id
      rw [hstage] at hok
      split
      · have hseen : Orderly S asked ((s.append event .done).see (.recorded event)) := by
          refine (h.append event .done).see trivial ?_
          rintro _ ⟨⟩
          exact List.mem_append_right _ (List.mem_singleton_self _)
        refine hseen.release (fun message hmsg => ⟨p, hok.1, hmsg, ?_⟩)
        rw [hok.2.1]
        exact ⟨s.trace, rfl, hok.2.2⟩
      · exact (h.append event _).become trivial
      · exact (h.append event _).crash
    · exact h
  | drop id => exact h.become trivial
  | audit event ending =>
    unfold State.step
    dsimp only
    split
    · exact h
    · exact h
    · exact h
    · split
      · exact (h.append event _).crash
      · exact h.append event ending
  | crash => exact h.crash

lemma start (log : List AgentAuditEvent) : Orderly S asked (State.start log) where
  durable := List.Subset.refl _
  recorded _ h := nomatch h
  stages _ := trivial
  trace := eachAfter_nil

end Orderly

def askedIn (events : List Event) : Set Request :=
  {request | ∃ id trusted random, .call id request trusted random ∈ events}

lemma run_orderly (S : Setup) (log : List AgentAuditEvent) (events : List Event) :
    Orderly S (askedIn events) ((State.start log).run S events) := by
  refine List.foldlRecOn (motive := fun t : State => Orderly S (askedIn events) t) events _
    (Orderly.start log) ?_
  intro t ht event hevent
  refine ht.step ?_
  rintro id request trusted random rfl
  exact ⟨id, trusted, random, hevent⟩

lemma confirmAction_ok {terminal : Terminal} : confirmAction S prompt terminal = .ok () ↔
      (∃ line, terminal = .typed line ∧ eqIgnoreAsciiCase (trim line.toList) "yes".toList = true) ∨
        terminal = .absent ∧ S.allowNoninteractivePrivileged = true := by
  simp only [confirmAction, bind_ok, failIf_ok, not_not]
  cases terminal with
  | absent => cases hall : S.allowNoninteractivePrivileged <;> simp [confirm, hall]
  | failing reason => simp [confirm]
  | typed line => simp [confirm]

/-! ## Approvals -/

variable {action : ConsentAction} {sessionId nonce : FixedBytes 16} {digest : FixedBytes 32}

lemma not_consentAction_of_context {transcript : Bytes}
    (h : lengthPrefixed (utf8 "xenia-handshake-signature-v1") <+: transcript) :
    transcript ≠ consentActionTranscript action sessionId nonce digest := by
  obtain ⟨body, rfl⟩ := h
  exact append_ne_of_not_prefix (by decide +kernel) (by decide +kernel) body _

variable {trusted : Trusted} {p : Plan}

lemma plan_consentAction {request : Request} {random : Nat}
    (h : plan S trusted random request = .ok p)
    (hmsg : p.message = some (consentActionTranscript action sessionId nonce digest)) :
    ∃ r, request = .consentAction r ∧ signConsentAction S r trusted = .ok p := by
  have hkind : ∀ t : Transcript, p.message = some t.encode → t.kind = .consentAction := by
    intro t ht
    have hbytes : t.encode = (Transcript.consentAction action sessionId nonce digest).encode :=
      Option.some.inj (ht.symm.trans hmsg)
    exact Transcript.kind_of_encode hbytes
  cases request with
  | challenge common nonceHex edHex mlDsaHex =>
    simp only [plan, signChallenge, bind_ok, pure_ok] at h
    obtain ⟨_, -, nonce, -, _, -, _, -, rfl⟩ := h
    cases hkind (.challenge nonce S.edPubkey S.mlDsaPubkey.toList) rfl
  | consentAction r => exact ⟨r, rfl, h⟩
  | revoke common target token =>
    simp only [plan, signRevoke, bind_ok, pure_ok] at h
    obtain ⟨_, -, _, -, _, -, tokenNonce, -, rfl⟩ := h
    cases hkind (.revokeOperator target tokenNonce) rfl
  | replaceKey common target edHex mlDsaHex mlDsa87Hex token =>
    simp only [plan, signReplaceKey, bind_ok, pure_ok] at h
    obtain ⟨_, -, _, -, ed, -, ml, -, ml87, -, _, -, tokenNonce, -, rfl⟩ := h
    cases hkind (.replaceOperatorKey target ed.toList ml.toList (ml87.map List.Vector.toList)
      tokenNonce) rfl
  | handshakeBegin common hostHelloHex =>
    simp only [plan, handshakeBegin, bind_ok] at h
    obtain ⟨_, -, _, -, hello, -, h⟩ := h
    split at h
    · simp only [bind_ok, mapError_ok, pure_ok] at h
      obtain ⟨transcript, hbeg, rfl⟩ := h
      exact absurd (Option.some.inj hmsg)
        (not_consentAction_of_context (S.lib.viewerBegin_context _ _ _ hbeg))
    · split at h
      · simp only [bind_ok, pure_ok] at h
        obtain ⟨_, -, rfl⟩ := h
        cases hmsg
      · cases h

lemma signConsentAction_ok {r : SignConsentActionRequest}
    (h : signConsentAction S r trusted = .ok p)
    (hmsg : p.message = some (consentActionTranscript action sessionId nonce digest)) :
    r.action = action ∧ scopeDigest S.crypto.blake3 r.scope = digest ∧
      (action = .approve → scopeIndicatesBroadGrant r.scope = true → ∃ daemonEndpoint fingerprint,
          p.prompt = some (broadGrantPrompt S r.scope daemonEndpoint fingerprint) ∧
            p.event = some (.broadGrantConfirmed r.scope daemonEndpoint)) := by
  simp only [signConsentAction, bind_ok, pure_ok] at h
  obtain ⟨_, -, sessionId', -, identity, -, tokenNonce, -, rfl⟩ := h
  obtain ⟨hact, -, -, hdigest⟩ := consentActionTranscript_inj (Option.some.inj hmsg)
  refine ⟨hact, hdigest, fun happ hbro => ?_⟩
  have hboth : r.action = .approve ∧ scopeIndicatesBroadGrant r.scope = true :=
    ⟨hact.trans happ, hbro⟩
  exact ⟨_, identity.fingerprint, if_pos hboth, if_pos hboth⟩

lemma signed_of_authorized {daemon : DaemonKeys S.crypto} {policy : OperatorPolicy}
    {now : UInt64} {request : AuthenticatedConsentAction} {result : AuthorizedConsentAction}
    {signed : FixedBytes 1952 → Set Bytes} (hforge : S.crypto.mlDsa65.Unforgeable signed)
    (haccept : authorizeConsentAction S.crypto policy daemon now sessionId digest request = .ok result)
    (hkey : ∀ operator, policy.lookupById request.token.token.operatorId = some operator →
      operator.mlDsaPubkey = S.mlDsaPubkey.toList) :
    consentActionTranscript request.action sessionId request.token.token.tokenNonce digest ∈
      signed S.mlDsaPubkey := by
  simp only [authorizeConsentAction, bind_ok, pure_ok] at haccept
  obtain ⟨⟨token, operator⟩, hwith, -⟩ := haccept
  obtain ⟨htok, -, hope, -, mlPk, hmlPk, hverify⟩ := authorizeWith_ok.mp hwith
  obtain ⟨-, -, -, rfl⟩ := verifyToken_ok.mp htok
  have hpk : mlPk = S.mlDsaPubkey := List.Vector.toList_injective (hmlPk.trans (hkey operator hope))
  rw [← hpk]
  exact hforge.of_verifyBytes hverify

end Handlers

/-- **Broad approvals are confirmed and recorded.** Whatever a console asks of the agent, assume
that the daemon accepts an approval under the keys of its operator for a session with input,
clipboard or file transfer, that the ML-DSA-65 key accepts only messages whose signatures have left
the agent, and that the scopes in question have different digests. Then the prompt with the scope of
this session was confirmed, afterwards the confirmation was recorded, directly after that the
signatures left, and the record still is on disk. The operator typed yes, unless the agent may
confirm without a terminal. -/
theorem approval_was_confirmed (S : Setup) (log : List AgentAuditEvent) (events : List Event)
    (signed : FixedBytes 1952 → Set Bytes) (hunforgeable : S.crypto.mlDsa65.Unforgeable signed)
    (hreleased : ∀ message ∈ signed S.mlDsaPubkey,
      .released message ∈ ((State.start log).run S events).trace)
    (args : Args)
    (hdigests : Set.InjOn (scopeDigest S.crypto.blake3)
      (insert (m1ConsentScope args) {scope | ∃ r ∈ askedIn events, ∃ request,
        r = .consentAction request ∧ request.scope = scope}))
    (policy : OperatorPolicy) (daemon : DaemonKeys S.crypto) (now : UInt64)
    (sessionId : FixedBytes 16) (request : AuthenticatedConsentAction)
    (result : AuthorizedConsentAction)
    (haccept : authorizeConsentAction S.crypto policy daemon now sessionId
      (scopeDigest S.crypto.blake3 (m1ConsentScope args)) request = .ok result)
    (happrove : request.action = .approve)
    (hkey : ∀ operator, policy.lookupById request.token.token.operatorId = some operator →
      operator.mlDsaPubkey = S.mlDsaPubkey.toList)
    (hbroad : Broad (configuredPermissionSet args)) :
    let scope := m1ConsentScope args
    let t := (State.start log).run S events
    ∃ daemonEndpoint fingerprint terminal earlier later,
      t.trace = earlier ++ .recorded (.broadGrantConfirmed scope daemonEndpoint) ::
          .released (consentActionTranscript .approve sessionId request.token.token.tokenNonce
            (scopeDigest S.crypto.blake3 scope)) :: later ∧
        .confirmed (broadGrantPrompt S scope daemonEndpoint fingerprint) terminal ∈ earlier ∧
        .broadGrantConfirmed scope daemonEndpoint ∈ t.audit.disk ∧
        ((∃ line, terminal = .typed line ∧
            eqIgnoreAsciiCase (trim line.toList) "yes".toList = true) ∨
          terminal = .absent ∧ S.allowNoninteractivePrivileged = true) := by
  intro scope t
  have horderly : Orderly S (askedIn events) t := run_orderly S log events
  have hsigned := hreleased _ (signed_of_authorized hunforgeable haccept hkey)
  rw [happrove] at hsigned
  obtain ⟨before, later, htrace⟩ := List.append_of_mem hsigned
  obtain ⟨p, ⟨asked, hasked, trusted, random, hplan⟩, hmessage, hjustified⟩ :=
    horderly.trace before _ later htrace
  obtain ⟨r, rfl, hconsent⟩ := plan_consentAction hplan hmessage
  obtain ⟨-, hdigest, hask⟩ := signConsentAction_ok hconsent hmessage
  have hscope : r.scope = scope :=
    hdigests (Set.mem_insert_of_mem _ ⟨_, hasked, r, rfl, rfl⟩) (Set.mem_insert _ _) hdigest
  have hphrase : scopeIndicatesBroadGrant r.scope = true := by
    rw [hscope]
    exact scopeIndicatesBroadGrant_m1ConsentScope hbroad
  obtain ⟨daemonEndpoint, fingerprint, hprompt, hevent⟩ := hask rfl hphrase
  rw [hscope] at hprompt hevent
  rw [hevent] at hjustified
  obtain ⟨earlier, rfl, hconfirmed⟩ := hjustified
  obtain ⟨terminal, hyes, hmem⟩ := hconfirmed _ hprompt
  have hrecorded : Happening.recorded (.broadGrantConfirmed scope daemonEndpoint) ∈ t.trace := by
    rw [htrace]
    simp
  refine ⟨daemonEndpoint, fingerprint, terminal, earlier, later, ?_, hmem, ?_, ?_⟩
  · simpa using htrace
  · exact horderly.durable (horderly.recorded _ hrecorded)
  · exact confirmAction_ok.mp hyes

/-! ## Sample agents -/

private def sampleApproval (args : Args) : Bytes :=
  consentActionTranscript .approve sampleSession (sampleIssue "ana" .admin 5).tokenNonce
    (scopeDigest (foldDigest 32) (m1ConsentScope args))

private def approvalLog (args : Args) : List (UInt8 × Bytes) :=
  [(9, (sampleIssue "ana" .admin 5).token.canonicalBytes), (1, sampleApproval args)]

private def sampleLibrary : Library where
  hexEncode := lowerHex
  hexDecode s :=
    if s = "session" then some sampleSession.toList
    else if s = "nonce" then some (List.replicate 16 5)
    else if s = "ed" then some (List.replicate 64 0)
    else if s = "ml" then some (List.replicate 3309 0)
    else none
  debug s := s
  viewerBegin _ _ := .error ""
  viewerBeginHighSec _ _ := .error ""
  viewerBegin_context _ _ _ h := nomatch h

private def sampleSetup (args : Args) (allow : Bool) : Setup where
  crypto := recordCrypto (approvalLog args)
  lib := sampleLibrary
  edPubkey := .replicate 32 1
  mlDsaPubkey := .replicate 1952 1
  allowNoninteractivePrivileged := allow

private def sampleConsent (args : Args) : SignConsentActionRequest where
  common := ⟨3, "wss://host", "standard"⟩
  action := .approve
  sessionIdHex := "session"
  scope := m1ConsentScope args
  token := ⟨"ana", .admin, 100, 1000, "nonce", "ed", "ml"⟩

private def sampleIdentity : DaemonIdentity where
  hostEd25519Pubkey := .replicate 32 8
  hostMlDsaPubkey := .replicate 1952 8
  httpAuthEd25519Pubkey := .replicate 32 9
  httpAuthMlDsaPubkey := .replicate 1952 9
  fingerprint := .replicate 32 7

private def sampleTrace (args : Args) (allow : Bool) (answers : List Event) : List Happening :=
  ((State.start []).run (sampleSetup args allow)
    (.call 0 (.consentAction (sampleConsent args)) (.ok sampleIdentity) 0 :: answers)).trace

private def SampleAccepted (args : Args) : Prop :=
  authorizeConsentAction (recordCrypto (approvalLog args)) adminPolicy
      (recordDaemon (approvalLog args)) 200 sampleSession
      (scopeDigest (foldDigest 32) (m1ConsentScope args))
      ⟨sampleProof (sampleIssue "ana" .admin 5), .approve⟩ =
    .ok ⟨.approve, "ana", .admin, .replicate 32 1⟩

private def listeningArgs : Args := ⟨.system, .capture, .noop, .off, none, none⟩

private def inputArgs : Args := ⟨.off, .off, .uinput, .off, none, none⟩

private lemma accepted_inputArgs : SampleAccepted inputArgs := by
  unfold SampleAccepted
  decide +kernel

/-- The daemon accepts an approval of its microphone and system telemetry for which the agent asked
nothing and recorded nothing; and one of input injection for which an agent without a terminal,
started to do without one, has shown nothing to anybody. -/
theorem unconfirmed_approvals :
    (SampleAccepted listeningArgs ∧
      sampleTrace listeningArgs false [] = [.released (sampleApproval listeningArgs)]) ∧
    SampleAccepted inputArgs ∧
      sampleTrace inputArgs true [.answer 0 .absent, .record 0 .done] =
        [.confirmed (broadGrantPrompt (sampleSetup inputArgs true)
            (m1ConsentScope inputArgs) "wss://host" sampleIdentity.fingerprint) .absent,
          .recorded (.broadGrantConfirmed (m1ConsentScope inputArgs) "wss://host"),
          .released (sampleApproval inputArgs)] := by
  refine ⟨⟨?_, ?_⟩, ?_, ?_⟩
  · unfold SampleAccepted
    decide +kernel
  · decide +kernel
  · exact accepted_inputArgs
  · decide +kernel

private def typedEvents : List Event :=
  [.call 0 (.consentAction (sampleConsent inputArgs)) (.ok sampleIdentity) 0,
    .answer 0 (.typed "Yes"), .record 0 .done]

/-- An operator types yes to input injection, and the daemon accepts the approval. -/
theorem approval_was_confirmed_typed :
    let t := (State.start []).run (sampleSetup inputArgs false) typedEvents
    ∃ daemonEndpoint fingerprint terminal earlier later,
      t.trace = earlier ++
          .recorded (.broadGrantConfirmed (m1ConsentScope inputArgs) daemonEndpoint) ::
          .released (sampleApproval inputArgs) :: later ∧
        .confirmed (broadGrantPrompt (sampleSetup inputArgs false) (m1ConsentScope inputArgs)
          daemonEndpoint fingerprint) terminal ∈ earlier ∧
        .broadGrantConfirmed (m1ConsentScope inputArgs) daemonEndpoint ∈ t.audit.disk ∧
        ((∃ line, terminal = .typed line ∧
            eqIgnoreAsciiCase (trim line.toList) "yes".toList = true) ∨
          terminal = .absent ∧
            (sampleSetup inputArgs false).allowNoninteractivePrivileged = true) := by
  refine approval_was_confirmed (sampleSetup inputArgs false) [] typedEvents
    (fun pk => {m | (pk, m) ∈ numberedKeys 1952 (approvalLog inputArgs)})
    (recordScheme_unforgeable _ _) ?_ inputArgs ?_ adminPolicy
    (recordDaemon (approvalLog inputArgs)) 200 sampleSession
    ⟨sampleProof (sampleIssue "ana" .admin 5), .approve⟩
    ⟨.approve, "ana", .admin, .replicate 32 1⟩ accepted_inputArgs rfl ?_
    (.inl (by decide))
  · intro m hm
    have hlog : (1, m) ∈ approvalLog inputArgs := mem_numberedKeys.mp hm
    have happroval : m = sampleApproval inputArgs := by
      simpa [approvalLog] using hlog
    subst happroval
    decide +kernel
  · have hsame : ∀ scope ∈ insert (m1ConsentScope inputArgs) {scope | ∃ r ∈ askedIn typedEvents,
        ∃ request, r = .consentAction request ∧ request.scope = scope},
        scope = m1ConsentScope inputArgs := by
      rintro scope (rfl | ⟨r, ⟨id, trusted, random, hcall⟩, request, rfl, rfl⟩)
      · rfl
      · simp only [typedEvents, List.mem_cons, Event.call.injEq, Request.consentAction.injEq,
          reduceCtorEq, List.not_mem_nil, or_false] at hcall
        rw [hcall.2.1]
        rfl
    intro scope hscope scope' hscope' _
    rw [hsame scope hscope, hsame scope' hscope']
  · intro operator hoperator
    cases hoperator
    rfl

end XeniaPeer.Operator.BroadGrants
