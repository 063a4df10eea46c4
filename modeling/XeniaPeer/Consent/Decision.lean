import XeniaPeer.Ledger.Chain
import XeniaPeer.Operator.Auth

/-!
# Consent decisions

How a message on a consent surface becomes a decision, and what a decision does. The text is decoded
by `decodeConsentDecision` (`main.rs`): a bare word without operator authentication, a signed
request with it.
-/

namespace XeniaPeer.Consent

open Foundation Ledger Operator

/-! ## Requests on the wire -/

structure TokenDto where
  operatorId : String
  role : OperatorRole
  (issuedAt expiresAt : UInt64)
  (tokenNonce signature mlDsaSignature : String)

structure AuthenticatedConsentActionDto where
  token : TokenDto
  (action actionSignature mlDsaActionSignature : String)

/-- The text functions of the libraries: reading a request from JSON, decoding hex around which
white space is cut off, and the characters that a quoted text shows as code points because they
extend a grapheme or are not printable. -/
structure TextLibrary where
  fromJson : String → Except String AuthenticatedConsentActionDto
  decodeHex : String → Option Bytes
  showsCodePoint : Char → Bool

section

variable (text : TextLibrary)

def debugChar (c : Char) : String :=
  match c.toNat with
  | 0 => "\\0"
  | 9 => "\\t"
  | 10 => "\\n"
  | 13 => "\\r"
  | 34 => "\\\""
  | 92 => "\\\\"
  | n =>
    if text.showsCodePoint c then
      "\\u\x7b" ++ String.ofList (Nat.toDigits 16 n) ++ "\x7d"
    else
      c.toString

def debugText (s : String) : String :=
  "\"" ++ s.toList.foldl (fun shown c => shown ++ debugChar text c) "" ++ "\""

def debugRole : OperatorRole → String
  | .viewer => "Viewer"
  | .approver => "Approver"
  | .operator => "Operator"
  | .admin => "Admin"

def debugAction : ConsentAction → String
  | .approve => "Approve"
  | .deny => "Deny"
  | .revoke => "Revoke"

def decodeFixed (n : Nat) (s : String) : Except String (FixedBytes n) :=
  okOr ((text.decodeHex s).bind (FixedBytes.ofBytes? n)) s!"expected {n} hex bytes"

def TokenDto.intoSigned (dto : TokenDto) : Except String SignedOperatorToken := do
  let tokenNonce ← decodeFixed text 16 dto.tokenNonce
  let signature ← decodeFixed text 64 dto.signature
  let mlDsaSignature ← decodeFixed text 3309 dto.mlDsaSignature
  pure ⟨⟨dto.operatorId, dto.role, dto.issuedAt, dto.expiresAt, tokenNonce⟩, signature,
    mlDsaSignature⟩

def parseAuthenticatedConsentAction (json : String) : Except String AuthenticatedConsentAction := do
  let dto ← text.fromJson json
  let action ← okOr (ConsentAction.fromWire dto.action)
    ("unknown consent action: " ++ debugText text dto.action)
  let actionSignature ← decodeFixed text 64 dto.actionSignature
  let mlDsaActionSignature ← decodeFixed text 3309 dto.mlDsaActionSignature
  let token ← dto.token.intoSigned text
  pure ⟨⟨token, actionSignature, mlDsaActionSignature⟩, action⟩

end

/-! ## Decoding -/

/-- What a consent surface is set up with for one session. The id that signatures are bound to
and the id that ledger entries carry are one and the same. -/
structure ConsentConfig (C : OperatorCrypto) where
  text : TextLibrary
  requireOperatorAuth : Bool
  daemon : DaemonKeys C
  sessionId : FixedBytes 16
  scopeDigest : FixedBytes 32
  sessionUuid : Uuid
  sessionUuid_eq : sessionUuid = sessionId

/-- What a message finds when it is handled: the live policy and revocation list, the clock when
it is decoded and when its entry is written, the fresh id of that entry, and whether the chain
could be persisted. -/
structure Moment (C : OperatorCrypto) (E : Type) where
  policy : OperatorPolicy
  revocations : OperatorRevocations
  (clock appendClock : SystemTime)
  requestId : Uuid
  persist : Chain C.toCrypto → Except E Unit

structure DecodedConsent where
  action : ConsentAction
  authorized : Option AuthorizedConsentAction

def unixSecs (t : SystemTime) : UInt64 :=
  match t.durationSinceEpoch with
  | some (secs, _) => UInt64.ofNat secs
  | none => 0

variable {C : OperatorCrypto} {E : Type}

def decodeConsentDecision (cfg : ConsentConfig C) (m : Moment C E) (text : String) :
    Option DecodedConsent :=
  if ¬ cfg.requireOperatorAuth then
    (ConsentAction.fromWire text).map (fun action => ⟨action, none⟩)
  else
    match parseAuthenticatedConsentAction cfg.text text with
    | .error _ => none
    | .ok request =>
      match authorizeConsentAction C m.policy cfg.daemon (unixSecs m.clock) cfg.sessionId
        cfg.scopeDigest request with
      | .error _ => none
      | .ok authorized =>
        if m.revocations.isRevoked authorized.operatorId then none
        else some ⟨authorized.action, some authorized⟩

variable {cfg : ConsentConfig C} {m : Moment C E} {text : String} {decoded : DecodedConsent}

lemma decode_authorized (hauth : cfg.requireOperatorAuth = true)
    (h : decodeConsentDecision cfg m text = some decoded) :
    ∃ request authorized, parseAuthenticatedConsentAction cfg.text text = .ok request ∧
      authorizeConsentAction C m.policy cfg.daemon (unixSecs m.clock) cfg.sessionId
        cfg.scopeDigest request = .ok authorized ∧
      m.revocations.isRevoked authorized.operatorId = false ∧
      decoded = ⟨authorized.action, some authorized⟩ := by
  simp only [decodeConsentDecision, hauth, not_true_eq_false, if_false] at h
  cases hpar : parseAuthenticatedConsentAction cfg.text text with
  | error e => simp [hpar] at h
  | ok request =>
    simp only [hpar] at h
    cases hres : authorizeConsentAction C m.policy cfg.daemon (unixSecs m.clock)
      cfg.sessionId cfg.scopeDigest request with
    | error e => simp [hres] at h
    | ok authorized =>
      simp only [hres] at h
      split at h
      · cases h
      · rename_i hlive
        exact ⟨request, authorized, rfl, hres, by simpa using hlive, by simpa using h.symm⟩

/-! ## Applying a decision -/

def auditKind : ConsentAction → ConsentKind
  | .approve => .approval
  | .deny => .denial
  | .revoke => .revocation

def operatorConsentAuditEvent (text : TextLibrary) (authorized : AuthorizedConsentAction)
    (sessionId requestId : Uuid) : ConsentEventRecord where
  sourceId := authorized.ed25519Pubkey
  sessionId := sessionId
  requestId := requestId
  kind := auditKind authorized.action
  scope := "operator " ++ debugText text authorized.operatorId ++ " (role " ++
    debugRole authorized.role ++ ") authorized " ++ debugAction authorized.action

inductive ConsentFollowup where
  | keepServing
  | stop
deriving DecidableEq

/-- The consent state of one session: what the one-shot grant was resolved to, if it was, the
revoked flag, and the ledger. -/
structure SessionConsent (C : Crypto) where
  grant : Option Bool
  revoked : Bool
  ledger : Chain C

namespace SessionConsent

def resolveGrant (s : SessionConsent C.toCrypto) (approved : Bool) : SessionConsent C.toCrypto :=
  { s with grant := some (s.grant.getD approved) }

def takeEffect (s : SessionConsent C.toCrypto) :
    ConsentAction → ConsentFollowup × SessionConsent C.toCrypto
  | .approve => (.keepServing, s.resolveGrant true)
  | .deny => (.stop, s.resolveGrant false)
  | .revoke => (.stop, { s with revoked := true })

end SessionConsent

def commitAudit (cfg : ConsentConfig C) (m : Moment C E) (decoded : DecodedConsent)
    (ledger : Chain C.toCrypto) :
    Except (TransactionalAppendError E) Unit × Chain C.toCrypto :=
  match decoded.authorized with
  | none => (.ok (), ledger)
  | some authorized =>
    let event := operatorConsentAuditEvent cfg.text authorized cfg.sessionUuid m.requestId
    let (result, ledger') := ledger.appendTransactionalChain event m.appendClock m.persist
    (result.map (fun _ => ()), ledger')

def applyConsentDecision (cfg : ConsentConfig C) (m : Moment C E) (decoded : DecodedConsent)
    (s : SessionConsent C.toCrypto) : ConsentFollowup × SessionConsent C.toCrypto :=
  match commitAudit cfg m decoded s.ledger with
  | (.error _, ledger) => (.stop, { s with ledger := ledger })
  | (.ok (), ledger) => { s with ledger := ledger }.takeEffect decoded.action

inductive Attributed (cfg : ConsentConfig C) (m : Moment C E) (decoded : DecodedConsent)
    (ledger : Chain C.toCrypto) : Chain C.toCrypto → Prop
  | unattributed : decoded.authorized = none → Attributed cfg m decoded ledger ledger
  | entry {authorized : AuthorizedConsentAction} {entry : LedgerEntry} :
      decoded.authorized = some authorized →
      entry.event = operatorConsentAuditEvent cfg.text authorized cfg.sessionUuid m.requestId →
      Attributed cfg m decoded ledger (ledger.push entry)

lemma nextEntry_event {c : Chain C.toCrypto} {event : ConsentEventRecord} {now : SystemTime}
    {entry : LedgerEntry} (h : c.nextEntry event now = .ok entry) : entry.event = event := by
  simp only [Chain.nextEntry, bind_ok, okOr_ok, pure_ok] at h
  obtain ⟨seq, -, entryHash, -, rfl⟩ := h
  rfl

lemma commitAudit_cases (cfg : ConsentConfig C) (m : Moment C E) (decoded : DecodedConsent)
    (ledger : Chain C.toCrypto) : (∃ e, commitAudit cfg m decoded ledger = (.error e, ledger)) ∨
      ∃ ledger', Attributed cfg m decoded ledger ledger' ∧
        commitAudit cfg m decoded ledger = (.ok (), ledger') := by
  unfold commitAudit
  cases hauth : decoded.authorized with
  | none => exact .inr ⟨ledger, .unattributed hauth, rfl⟩
  | some authorized =>
    rcases ledger.appendTransactionalChain_cases
      (operatorConsentAuditEvent cfg.text authorized cfg.sessionUuid m.requestId) m.appendClock
      m.persist with ⟨e, herr⟩ | ⟨entry, hnext, -, hok⟩
    · refine .inl ⟨e, ?_⟩
      simp [herr, Except.map]
    · refine .inr ⟨ledger.push entry, .entry hauth (nextEntry_event hnext), ?_⟩
      simp [hok, Except.map]

lemma applyConsentDecision_cases (cfg : ConsentConfig C) (m : Moment C E)
    (decoded : DecodedConsent) (s : SessionConsent C.toCrypto) :
    ((commitAudit cfg m decoded s.ledger).1.isOk = false ∧
      applyConsentDecision cfg m decoded s = (.stop, s)) ∨
    ((commitAudit cfg m decoded s.ledger).1.isOk = true ∧
      ∃ ledger, Attributed cfg m decoded s.ledger ledger ∧ applyConsentDecision cfg m decoded s =
          { s with ledger := ledger }.takeEffect decoded.action) := by
  unfold applyConsentDecision
  rcases commitAudit_cases cfg m decoded s.ledger with ⟨e, herr⟩ | ⟨ledger, hled, hok⟩
  · rw [herr]
    exact .inl ⟨rfl, rfl⟩
  · rw [hok]
    exact .inr ⟨rfl, ledger, hled, rfl⟩

lemma authorized_decision_cases (W : SigningWorld C cfg.daemon)
    (hauth : cfg.requireOperatorAuth = true)
    (h : decodeConsentDecision cfg m text = some decoded) (s : SessionConsent C.toCrypto) :
    applyConsentDecision cfg m decoded s = (.stop, s) ∨
      ∃ (request : AuthenticatedConsentAction) (operator : EnrolledOperator) (entry : LedgerEntry),
        let token := request.token.token
        parseAuthenticatedConsentAction cfg.text text = .ok request ∧
        Binds W m.policy (unixSecs m.clock) token request.action.requiredPermission
          (.consentAction request.action cfg.sessionId token.tokenNonce cfg.scopeDigest) operator ∧
        m.revocations.isRevoked token.operatorId = false ∧
        entry.event = operatorConsentAuditEvent cfg.text
          ⟨request.action, token.operatorId, token.role, operator.ed25519Pubkey⟩ cfg.sessionUuid
          m.requestId ∧
        applyConsentDecision cfg m decoded s =
          { s with ledger := s.ledger.push entry }.takeEffect request.action := by
  obtain ⟨request, authorized, hpar, hres, hlive, rfl⟩ := decode_authorized hauth h
  obtain ⟨operator, hbin, rfl⟩ := authorizeConsentAction_binds W hres
  rcases applyConsentDecision_cases cfg m _ s with
    ⟨-, href⟩ | ⟨-, ledger, hled, heff⟩
  · exact .inl href
  · cases hled with
    | unattributed hnone => cases hnone
    | entry hsome hevent =>
      cases hsome
      exact .inr ⟨request, operator, _, hpar, hbin, hlive, hevent, heff⟩

/-! ## Sample data -/

def sampleText (requests : List (String × AuthenticatedConsentActionDto)) : TextLibrary where
  fromJson json := okOr ((requests.find? (fun r => r.1 = json)).map Prod.snd) "not a request"
  decodeHex hex :=
    if hex = "nonce" then some (List.replicate 16 5)
    else if hex = "signature" then some (List.replicate 64 0)
    else if hex = "ml-dsa signature" then some (List.replicate 3309 0)
    else none
  showsCodePoint _ := false

def sampleRequest (id : String) (role : OperatorRole) (action : String) :
    AuthenticatedConsentActionDto where
  token := ⟨id, role, 100, 1000, "nonce", "signature", "ml-dsa signature"⟩
  action := action
  actionSignature := "signature"
  mlDsaActionSignature := "ml-dsa signature"

def approverRequests : List (String × AuthenticatedConsentActionDto) :=
  ["Approve", "Deny", "Revoke"].map (fun action => (action, sampleRequest "ana" .approver action))

section

variable (log : List (UInt8 × Bytes)) (actions : List ConsentAction)

def approverLog : List (UInt8 × Bytes) :=
  let issue := sampleIssue "ana" .approver 5
  (9, issue.token.canonicalBytes) :: actions.map (fun action =>
    (1, consentActionTranscript action sampleSession issue.tokenNonce
      (scopeDigest (foldDigest 32) "screen")))

def sampleConfig (requireOperatorAuth : Bool) : ConsentConfig (recordCrypto log) where
  text := sampleText approverRequests
  requireOperatorAuth := requireOperatorAuth
  daemon := recordDaemon log
  sessionId := sampleSession
  scopeDigest := scopeDigest (foldDigest 32) "screen"
  sessionUuid := sampleSession
  sessionUuid_eq := rfl

def sampleClock : SystemTime where
  secs := 200
  nanos := 0
  secs_ge := by decide
  secs_lt := by decide
  nanos_lt := by decide

def samplePolicy : OperatorPolicy where
  operators := [sampleOperator "ana" 1 .approver, sampleOperator "vic" 2 .viewer]
  poisoned := false
  distinctKeys := by decide +kernel

def sampleMoment (b : UInt8) (persisted : Bool) : Moment (recordCrypto log) String where
  policy := samplePolicy
  revocations := ⟨[], false⟩
  clock := sampleClock
  appendClock := sampleClock
  requestId := .replicate 16 b
  persist _ := if persisted then .ok () else .error "disk full"

def sampleConsent : SessionConsent (recordCrypto log).toCrypto where
  grant := none
  revoked := false
  ledger := Chain.new (.replicate 32 7 : FixedBytes 32)

def approverWorld :
    SigningWorld (recordCrypto (approverLog actions)) (recordDaemon (approverLog actions)) :=
  recordWorld (approverLog actions) [sampleIssue "ana" .approver 5] ["screen"]
    (by
      intro p hp hkey
      rcases List.mem_cons.mp hp with rfl | hp
      · exact ⟨_, List.mem_singleton.mpr rfl, rfl⟩
      · obtain ⟨action, -, rfl⟩ := List.mem_map.mp hp
        cases hkey)
    (by decide +kernel) (by decide +kernel)

end

end XeniaPeer.Consent
