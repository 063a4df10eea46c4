import XeniaPeer.Foundation.Words
import XeniaPeer.Ledger.Entry
import XeniaPeer.Operator.Transcripts

/-!
# Operator tokens and signed actions

The daemon's side of operator authorization: the enrollment policy (`operator.rs`), the revoked
operators (`operator_revocations.rs`), the session tokens and the three actions that need a
signature of their own (`operator_auth.rs`).

Main result: `authorize_binds`.
-/

namespace XeniaPeer.Operator

open Foundation

structure OperatorCrypto extends Ledger.Crypto where
  mlDsa65 : SignatureScheme 1952 3309

/-! ## Enrollment and revocation -/

structure EnrolledOperator where
  operatorId : String
  ed25519Pubkey : FixedBytes 32
  mlDsaPubkey : Bytes
  mlDsa87Pubkey : Option Bytes
  role : OperatorRole
deriving DecidableEq

inductive OperatorPolicyError where
  | io (message : String)
  | parse (message : String)
  | badKey (operatorId : String)
  | duplicateKey (operatorId : String)
  | unknownOperator (operatorId : String)

/-- The enrolled operators by Ed25519 key. `operators` are the values of the map in the order
its iterator shows them, which may be any. A poisoned lock hides them all. -/
@[ext] structure OperatorPolicy where
  operators : List EnrolledOperator
  poisoned : Bool
  distinctKeys : (operators.map EnrolledOperator.ed25519Pubkey).Nodup

namespace OperatorPolicy

def insertAll (policy : OperatorPolicy) :
    List EnrolledOperator → Except OperatorPolicyError OperatorPolicy
  | [] => .ok policy
  | op :: ops =>
    if h : op.ed25519Pubkey ∈ policy.operators.map EnrolledOperator.ed25519Pubkey then
      .error (.duplicateKey op.operatorId)
    else
      insertAll ⟨op :: policy.operators, policy.poisoned,
        List.nodup_cons.mpr ⟨h, policy.distinctKeys⟩⟩ ops

lemma distinctKeys_nil :
    (([] : List EnrolledOperator).map EnrolledOperator.ed25519Pubkey).Nodup := List.nodup_nil

def fromOperators (operators : List EnrolledOperator) :
    Except OperatorPolicyError OperatorPolicy :=
  insertAll ⟨[], false, distinctKeys_nil⟩ operators

section

variable (policy : OperatorPolicy) (ed25519Pubkey : FixedBytes 32)

def readMap : Option (List EnrolledOperator) :=
  if policy.poisoned then none else some policy.operators

def lookup : Option EnrolledOperator := do
  (← policy.readMap).find? (fun op => op.ed25519Pubkey = ed25519Pubkey)

def lookupVerified (mlDsaPubkey : Bytes) : Option EnrolledOperator :=
  (policy.lookup ed25519Pubkey).filter (fun op => op.mlDsaPubkey = mlDsaPubkey)

def lookupVerifiedHighsec (mlDsa87Pubkey : Bytes) : Option EnrolledOperator :=
  (policy.lookup ed25519Pubkey).filter (fun op => op.mlDsa87Pubkey = some mlDsa87Pubkey)

def lookupById (operatorId : String) : Option EnrolledOperator := do
  (← policy.readMap).find? (fun op => op.operatorId = operatorId)

end

variable {q : OperatorPolicy} {ops : List EnrolledOperator}

lemma insertAll_ok {p : OperatorPolicy} : insertAll p ops = .ok q ↔
      q.operators = ops.reverse ++ p.operators ∧ q.poisoned = p.poisoned := by
  induction ops generalizing p with
  | nil =>
    simp only [insertAll, Except.ok.injEq, List.reverse_nil, List.nil_append]
    rw [eq_comm, OperatorPolicy.ext_iff]
  | cons op ops ih =>
    by_cases hkey : op.ed25519Pubkey ∈ p.operators.map EnrolledOperator.ed25519Pubkey
    · simp only [insertAll, dif_pos hkey]
      constructor
      · nofun
      · intro h
        -- the key would be in `q` twice
        have hdis := q.distinctKeys
        rw [h.1] at hdis
        simp only [List.reverse_cons, List.append_assoc, List.singleton_append, List.map_append,
          List.map_cons] at hdis
        have htail := (List.nodup_append.mp hdis).2.1
        exact absurd hkey (List.nodup_cons.mp htail).1
    · simp only [insertAll, dif_neg hkey, ih, List.reverse_cons, List.append_assoc,
        List.singleton_append]

lemma fromOperators_ok :
    fromOperators ops = .ok q ↔ q.operators = ops.reverse ∧ q.poisoned = false := by
  rw [fromOperators, insertAll_ok, List.append_nil]

end OperatorPolicy

structure OperatorRevocations where
  revoked : List String
  poisoned : Bool

def OperatorRevocations.isRevoked (r : OperatorRevocations) (operatorId : String) : Bool :=
  r.poisoned || decide (operatorId ∈ r.revoked)

/-! ## Tokens -/

inductive AuthError where
  | malformedKey
  | ed25519VerifyFailed
  | mlDsaVerifyFailed
  | notEnrolled
  | invalidToken
  | roleNotPermitted
deriving DecidableEq

structure AuthenticatedOperator where
  operatorId : String
  role : OperatorRole

structure OperatorToken where
  operatorId : String
  role : OperatorRole
  (issuedAt expiresAt : UInt64)
  tokenNonce : FixedBytes 16

def OperatorToken.canonicalBytes (t : OperatorToken) : Bytes :=
  operatorTokenCanonicalBytes t.operatorId t.role t.issuedAt t.expiresAt t.tokenNonce

structure SignedOperatorToken where
  token : OperatorToken
  signature : FixedBytes 64
  mlDsaSignature : FixedBytes 3309

structure Issue where
  operator : AuthenticatedOperator
  (now ttlSecs : UInt64)
  tokenNonce : FixedBytes 16

def Issue.token (i : Issue) : OperatorToken where
  operatorId := i.operator.operatorId
  role := i.operator.role
  issuedAt := i.now
  expiresAt := saturatingAdd i.now i.ttlSecs.toNat
  tokenNonce := i.tokenNonce

def issueToken (C : OperatorCrypto) (daemonKey : C.ed25519.SigningKey)
    (daemonMlDsa : C.mlDsa65.SigningKey) (i : Issue) : SignedOperatorToken where
  token := i.token
  signature := C.ed25519.sign daemonKey i.token.canonicalBytes
  mlDsaSignature := C.mlDsa65.sign daemonMlDsa i.token.canonicalBytes

structure DaemonKeys (C : OperatorCrypto) where
  daemonPubkey : C.ed25519.VerifyingKey
  daemonMlDsaPubkey : FixedBytes 1952

def verifyToken (C : OperatorCrypto) (daemon : DaemonKeys C) (now : UInt64)
    (signed : SignedOperatorToken) : Except AuthError OperatorToken := do
  let bytes := signed.token.canonicalBytes
  failIf (¬ C.ed25519.verify daemon.daemonPubkey bytes signed.signature) .invalidToken
  failIf (¬ C.mlDsa65.verifyBytes daemon.daemonMlDsaPubkey bytes signed.mlDsaSignature)
    .invalidToken
  failIf (now > signed.token.expiresAt) .invalidToken
  pure signed.token

/-! ## Signed actions -/

structure ActionProof where
  token : SignedOperatorToken
  actionSignature : FixedBytes 64
  mlDsaActionSignature : FixedBytes 3309

def authorizeWith (C : OperatorCrypto) (policy : OperatorPolicy) (daemon : DaemonKeys C)
    (now : UInt64) (permission : OperatorAction) (transcript : FixedBytes 16 → Bytes)
    (request : ActionProof) : Except AuthError (OperatorToken × EnrolledOperator) := do
  let token ← verifyToken C daemon now request.token
  failIf (¬ token.role.permits permission) .roleNotPermitted
  let operator ← okOr (policy.lookupById token.operatorId) .notEnrolled
  let edVk ← okOr (C.ed25519.fromBytes operator.ed25519Pubkey) .malformedKey
  failIf (¬ C.ed25519.verify edVk (transcript token.tokenNonce) request.actionSignature)
    .ed25519VerifyFailed
  let operatorMlDsaPubkey ← okOr (FixedBytes.ofBytes? 1952 operator.mlDsaPubkey) .malformedKey
  failIf (¬ C.mlDsa65.verifyBytes operatorMlDsaPubkey (transcript token.tokenNonce)
    request.mlDsaActionSignature) .mlDsaVerifyFailed
  pure (token, operator)

structure AuthenticatedConsentAction extends ActionProof where
  action : ConsentAction

structure AuthorizedConsentAction where
  action : ConsentAction
  operatorId : String
  role : OperatorRole
  ed25519Pubkey : FixedBytes 32
deriving DecidableEq

def authorizeConsentAction (C : OperatorCrypto) (policy : OperatorPolicy) (daemon : DaemonKeys C)
    (now : UInt64) (sessionId : FixedBytes 16) (scopeDigest : FixedBytes 32)
    (request : AuthenticatedConsentAction) : Except AuthError AuthorizedConsentAction := do
  let (token, operator) ← authorizeWith C policy daemon now request.action.requiredPermission
    (fun nonce => consentActionTranscript request.action sessionId nonce scopeDigest)
    request.toActionProof
  pure ⟨request.action, token.operatorId, token.role, operator.ed25519Pubkey⟩

structure AuthenticatedRevocation extends ActionProof where
  targetOperatorId : String

structure AuthorizedRevocation where
  (targetOperatorId operatorId : String)
  ed25519Pubkey : FixedBytes 32
deriving DecidableEq

def authorizeOperatorRevocation (C : OperatorCrypto) (policy : OperatorPolicy)
    (daemon : DaemonKeys C) (now : UInt64) (request : AuthenticatedRevocation) :
    Except AuthError AuthorizedRevocation := do
  let (token, operator) ← authorizeWith C policy daemon now .enrollOperator
    (fun nonce => revokeOperatorTranscript request.targetOperatorId nonce) request.toActionProof
  pure ⟨request.targetOperatorId, token.operatorId, operator.ed25519Pubkey⟩

structure AuthenticatedKeyReplacement extends ActionProof where
  targetOperatorId : String
  newEd25519Pubkey : FixedBytes 32
  newMlDsaPubkey : Bytes
  newMlDsa87Pubkey : Option Bytes

structure AuthorizedKeyReplacement where
  targetOperatorId : String
  newEd25519Pubkey : FixedBytes 32
  newMlDsaPubkey : Bytes
  newMlDsa87Pubkey : Option Bytes
  operatorId : String
deriving DecidableEq

def authorizeOperatorKeyReplacement (C : OperatorCrypto) (policy : OperatorPolicy)
    (daemon : DaemonKeys C) (now : UInt64) (request : AuthenticatedKeyReplacement) :
    Except AuthError AuthorizedKeyReplacement := do
  let (token, _) ← authorizeWith C policy daemon now .enrollOperator
    (fun nonce => replaceOperatorKeyTranscript request.targetOperatorId
      request.newEd25519Pubkey.toList request.newMlDsaPubkey request.newMlDsa87Pubkey nonce)
    request.toActionProof
  pure ⟨request.targetOperatorId, request.newEd25519Pubkey, request.newMlDsaPubkey,
    request.newMlDsa87Pubkey, token.operatorId⟩

/-! ## What the checks let through -/

variable {C : OperatorCrypto} {daemon : DaemonKeys C} {policy : OperatorPolicy} {now : UInt64}
  {token : OperatorToken}

section Accepted

lemma verifyToken_ok {signed : SignedOperatorToken} :
    verifyToken C daemon now signed = .ok token ↔
      C.ed25519.verify daemon.daemonPubkey signed.token.canonicalBytes signed.signature = true ∧
      C.mlDsa65.verifyBytes daemon.daemonMlDsaPubkey signed.token.canonicalBytes
        signed.mlDsaSignature = true ∧ now ≤ signed.token.expiresAt ∧ signed.token = token := by
  simp only [verifyToken, guard_bind_ok, failIf_ok, pure_ok, not_not, gt_iff_lt, UInt64.not_lt]

lemma verifyToken_issueToken (hed : C.ed25519.Correct) (hml : C.mlDsa65.Correct)
    (daemonKey : C.ed25519.SigningKey) (daemonMlDsa : C.mlDsa65.SigningKey) {i : Issue}
    (hnow : now ≤ i.token.expiresAt) :
    verifyToken C ⟨C.ed25519.verifyingKey daemonKey, (C.mlDsa65.verifyingKey daemonMlDsa).val⟩ now
      (issueToken C daemonKey daemonMlDsa i) = .ok i.token := by
  refine verifyToken_ok.mpr ⟨hed daemonKey _, ?_, hnow, rfl⟩
  exact SignatureScheme.verifyBytes_val.trans (hml daemonMlDsa _)

lemma authorizeWith_ok {permission : OperatorAction} {transcript : FixedBytes 16 → Bytes}
    {request : ActionProof} {operator : EnrolledOperator} :
    authorizeWith C policy daemon now permission transcript request = .ok (token, operator) ↔
      verifyToken C daemon now request.token = .ok token ∧ token.role.permits permission = true ∧
      policy.lookupById token.operatorId = some operator ∧
      (∃ edVk : C.ed25519.VerifyingKey, edVk.val = operator.ed25519Pubkey ∧
        C.ed25519.verify edVk (transcript token.tokenNonce) request.actionSignature = true) ∧
      ∃ mlPk : FixedBytes 1952, mlPk.toList = operator.mlDsaPubkey ∧
        C.mlDsa65.verifyBytes mlPk (transcript token.tokenNonce)
          request.mlDsaActionSignature = true := by
  unfold authorizeWith
  simp only [bind_ok, failIf_ok, okOr_ok, pure_ok, not_not,
    SignatureScheme.fromBytes_eq_some, FixedBytes.ofBytes?_eq_some, Prod.mk.injEq]
  constructor
  · rintro ⟨token', htok, _, hrole, op', hop, edVk, hed, _, hsig, mlPk, hml, _, hmlS, rfl, rfl⟩
    exact ⟨htok, hrole, hop, ⟨edVk, hed, hsig⟩, mlPk, hml, hmlS⟩
  · rintro ⟨htok, hrole, hop, ⟨edVk, hed, hsig⟩, mlPk, hml, hmlS⟩
    exact ⟨token, htok, (), hrole, operator, hop, edVk, hed, (), hsig, mlPk, hml, (), hmlS,
      rfl, rfl⟩

end Accepted

/-! ## What an accepted action stands for -/

/-- What was signed and issued, and what is assumed about it. `signedEd` and `signedMl` are the
messages each key signed, `issues` the calls of `issue_token`, `scopes` the scope texts that
occur. The daemon's ML-DSA key signs token bytes in `issue_token` only; whatever else it signs
is a transcript of another kind. -/
structure SigningWorld (C : OperatorCrypto) (daemon : DaemonKeys C) where
  signedEd : FixedBytes 32 → Set Bytes
  signedMl : FixedBytes 1952 → Set Bytes
  issues : Set Issue
  scopes : Set String
  edUnforgeable : C.ed25519.Unforgeable signedEd
  mlUnforgeable : C.mlDsa65.Unforgeable signedMl
  daemonSigns : ∀ m ∈ signedMl daemon.daemonMlDsaPubkey,
    (∃ i ∈ issues, m = i.token.canonicalBytes) ∨
      ∃ t : Transcript, t.kind ≠ .operatorToken ∧ m = t.encode
  noncesDistinct : Set.InjOn Issue.tokenNonce issues
  digestsDistinct : Set.InjOn C.blake3 (scopePreimage '' scopes)

section Binding

/-- The token was issued by the daemon to an operator whose role permits the action, it has not
expired, and `operator`, whose keys are enrolled under the id that the token names, signed the
transcript `t` of the action with both keys. No other transcript has the bytes that were
signed, and no other call issued a token with this nonce. -/
structure Binds (W : SigningWorld C daemon) (policy : OperatorPolicy) (now : UInt64)
    (token : OperatorToken) (permission : OperatorAction) (t : Transcript)
    (operator : EnrolledOperator) : Prop where
  issued : ∃ i ∈ W.issues, i.token = token ∧ i.operator.role.permits permission = true ∧
    ∀ i' ∈ W.issues, i'.tokenNonce = token.tokenNonce → i' = i
  unexpired : now ≤ token.expiresAt
  enrolled : policy.lookupById token.operatorId = some operator
  signedEd : t.encode ∈ W.signedEd operator.ed25519Pubkey
  signedMl : ∃ mlPk : FixedBytes 1952, mlPk.toList = operator.mlDsaPubkey ∧
    t.encode ∈ W.signedMl mlPk
  unique : t.FieldsShort → ∀ t' : Transcript, t'.FieldsShort → t'.encode = t.encode → t' = t

lemma OperatorToken.canonicalBytes_injective :
    Function.Injective OperatorToken.canonicalBytes := by
  intro t t' h
  obtain ⟨hid, hrole, hiss, hexp, hnon⟩ := operatorTokenCanonicalBytes_inj h
  cases t
  cases t'
  simp_all

lemma SigningWorld.issued_of_signed (W : SigningWorld C daemon)
    (h : token.canonicalBytes ∈ W.signedMl daemon.daemonMlDsaPubkey) :
    ∃ i ∈ W.issues, i.token = token := by
  rcases W.daemonSigns _ h with ⟨i, hi, hbytes⟩ | ⟨t, hkind, hbytes⟩
  · exact ⟨i, hi, (OperatorToken.canonicalBytes_injective hbytes).symm⟩
  · -- token bytes are a transcript of the token kind, so they are of no other kind
    have htok : (Transcript.operatorToken token.operatorId token.role token.issuedAt
        token.expiresAt token.tokenNonce).encode = t.encode := hbytes
    exact absurd (Transcript.kind_of_encode htok).symm hkind

lemma SigningWorld.scopeDigest_injOn (W : SigningWorld C daemon) :
    Set.InjOn (scopeDigest C.blake3) W.scopes := by
  intro scope hsco scope' hsco' h
  have hpre := W.digestsDistinct (Set.mem_image_of_mem _ hsco) (Set.mem_image_of_mem _ hsco') h
  exact utf8_injective (List.append_cancel_left hpre)

section

variable (W : SigningWorld C daemon)

include W

lemma binds_of_authorizeWith {permission : OperatorAction} {transcript : FixedBytes 16 → Bytes}
    {request : ActionProof} {operator : EnrolledOperator}
    (h : authorizeWith C policy daemon now permission transcript request = .ok (token, operator)) :
    token = request.token.token ∧ ∀ t : Transcript, t.encode = transcript token.tokenNonce →
      Binds W policy now token permission t operator := by
  obtain ⟨htok, hrole, hop, ⟨edVk, hed, hsig⟩, mlPk, hml, hmlS⟩ := authorizeWith_ok.mp h
  obtain ⟨-, hdae, hnow, rfl⟩ := verifyToken_ok.mp htok
  obtain ⟨i, hi, hiss⟩ := W.issued_of_signed (W.mlUnforgeable.of_verifyBytes hdae)
  refine ⟨rfl, fun t ht => ⟨⟨i, hi, hiss, ?_, ?_⟩, hnow, hop, ?_, ⟨mlPk, hml, ?_⟩, ?_⟩⟩
  · rwa [← hiss] at hrole
  · intro i' hi' hnon
    refine W.noncesDistinct hi' hi ?_
    rw [hnon, ← hiss]
    rfl
  · rw [← hed, ht]
    exact W.edUnforgeable edVk _ _ hsig
  · rw [ht]
    exact W.mlUnforgeable.of_verifyBytes hmlS
  · intro hsh t' hsh' hbytes
    exact Transcript.encode_injOn hsh' hsh hbytes

lemma authorizeConsentAction_binds {sessionId : FixedBytes 16} {digest : FixedBytes 32}
    {request : AuthenticatedConsentAction} {result : AuthorizedConsentAction}
    (h : authorizeConsentAction C policy daemon now sessionId digest request = .ok result) :
    let token := request.token.token
    ∃ operator, Binds W policy now token request.action.requiredPermission
        (.consentAction request.action sessionId token.tokenNonce digest) operator ∧
      result = ⟨request.action, token.operatorId, token.role, operator.ed25519Pubkey⟩ := by
  intro token
  simp only [authorizeConsentAction, bind_ok, pure_ok] at h
  obtain ⟨⟨token', operator⟩, hwith, hres⟩ := h
  obtain ⟨rfl, hbin⟩ := binds_of_authorizeWith W hwith
  exact ⟨operator, hbin _ rfl, hres.symm⟩

lemma authorizeOperatorRevocation_binds {request : AuthenticatedRevocation}
    {result : AuthorizedRevocation}
    (h : authorizeOperatorRevocation C policy daemon now request = .ok result) :
    let token := request.token.token
    ∃ operator, Binds W policy now token .enrollOperator
        (.revokeOperator request.targetOperatorId token.tokenNonce) operator ∧
      result = ⟨request.targetOperatorId, token.operatorId, operator.ed25519Pubkey⟩ := by
  intro token
  simp only [authorizeOperatorRevocation, bind_ok, pure_ok] at h
  obtain ⟨⟨token', operator⟩, hwith, hres⟩ := h
  obtain ⟨rfl, hbin⟩ := binds_of_authorizeWith W hwith
  exact ⟨operator, hbin _ rfl, hres.symm⟩

lemma authorizeOperatorKeyReplacement_binds {request : AuthenticatedKeyReplacement}
    {result : AuthorizedKeyReplacement}
    (h : authorizeOperatorKeyReplacement C policy daemon now request = .ok result) :
    let token := request.token.token
    ∃ operator, Binds W policy now token .enrollOperator
        (.replaceOperatorKey request.targetOperatorId request.newEd25519Pubkey.toList
          request.newMlDsaPubkey request.newMlDsa87Pubkey token.tokenNonce) operator ∧
      result = ⟨request.targetOperatorId, request.newEd25519Pubkey, request.newMlDsaPubkey,
        request.newMlDsa87Pubkey, token.operatorId⟩ := by
  intro token
  simp only [authorizeOperatorKeyReplacement, bind_ok, pure_ok] at h
  obtain ⟨⟨token', operator⟩, hwith, hres⟩ := h
  obtain ⟨rfl, hbin⟩ := binds_of_authorizeWith W hwith
  exact ⟨operator, hbin _ rfl, hres.symm⟩

end

/-- **An accepted action is the signed one.** Whatever of the three procedures accepts, the
daemon issued the token to an operator whose role permits the action, and the keys enrolled for
that operator signed exactly this action with these parameters; a consent action even fixes the
scope text. The transcripts can be told apart and read back. -/
theorem authorize_binds (W : SigningWorld C daemon) (policy : OperatorPolicy) (now : UInt64) :
    (∀ (sessionId : FixedBytes 16), ∀ scope ∈ W.scopes,
      ∀ (request : AuthenticatedConsentAction) (result : AuthorizedConsentAction),
      authorizeConsentAction C policy daemon now sessionId (scopeDigest C.blake3 scope) request =
        .ok result →
      let token := request.token.token
      ∃ operator, Binds W policy now token request.action.requiredPermission
          (.consentAction request.action sessionId token.tokenNonce
            (scopeDigest C.blake3 scope)) operator ∧
        result = ⟨request.action, token.operatorId, token.role, operator.ed25519Pubkey⟩ ∧
        ∀ scope' ∈ W.scopes, ∀ action' sessionId' nonce',
          consentActionTranscript action' sessionId' nonce' (scopeDigest C.blake3 scope') =
            consentActionTranscript request.action sessionId token.tokenNonce
              (scopeDigest C.blake3 scope) →
          action' = request.action ∧ sessionId' = sessionId ∧ nonce' = token.tokenNonce ∧
            scope' = scope) ∧
    (∀ (request : AuthenticatedRevocation) (result : AuthorizedRevocation),
      authorizeOperatorRevocation C policy daemon now request = .ok result →
      let token := request.token.token
      ∃ operator, Binds W policy now token .enrollOperator
          (.revokeOperator request.targetOperatorId token.tokenNonce) operator ∧
        result = ⟨request.targetOperatorId, token.operatorId, operator.ed25519Pubkey⟩) ∧
    (∀ (request : AuthenticatedKeyReplacement) (result : AuthorizedKeyReplacement),
      authorizeOperatorKeyReplacement C policy daemon now request = .ok result →
      let token := request.token.token
      ∃ operator, Binds W policy now token .enrollOperator
          (.replaceOperatorKey request.targetOperatorId request.newEd25519Pubkey.toList
            request.newMlDsaPubkey request.newMlDsa87Pubkey token.tokenNonce) operator ∧
        result = ⟨request.targetOperatorId, request.newEd25519Pubkey, request.newMlDsaPubkey,
          request.newMlDsa87Pubkey, token.operatorId⟩) ∧
    Set.InjOn Transcript.encode {t | t.FieldsShort} ∧
    ∀ t t' : Transcript, t.encode = t'.encode → t.kind = t'.kind := by
  refine ⟨?_, ?_, ?_, Transcript.encode_injOn, fun t t' h => Transcript.kind_of_encode h⟩
  · intro sessionId scope hscope request result h token
    obtain ⟨operator, hbinds, hresult⟩ := authorizeConsentAction_binds W h
    refine ⟨operator, hbinds, hresult, ?_⟩
    intro scope' hscope' action' sessionId' nonce' hbytes
    obtain ⟨haction, hsession, hnonce, hdigest⟩ := consentActionTranscript_inj hbytes
    exact ⟨haction, hsession, hnonce, W.scopeDigest_injOn hscope' hscope hdigest⟩
  · intro request result h
    exact authorizeOperatorRevocation_binds W h
  · intro request result h
    exact authorizeOperatorKeyReplacement_binds W h

end Binding

/-! ## Sample data -/

def numberedKeys (n : Nat) (log : List (UInt8 × Bytes)) : List (FixedBytes n × Bytes) :=
  log.map (fun p => (.replicate n p.1, p.2))

def recordCrypto (log : List (UInt8 × Bytes)) : OperatorCrypto where
  toCrypto := Ledger.bincodeCrypto
    (recordScheme (.replicate 64 0) (numberedKeys 32 log)) (foldDigest 32)
  mlDsa65 := recordScheme (.replicate 3309 0) (numberedKeys 1952 log)

def recordDaemon (log : List (UInt8 × Bytes)) : DaemonKeys (recordCrypto log) where
  daemonPubkey := ⟨.replicate 32 9, rfl⟩
  daemonMlDsaPubkey := .replicate 1952 9

lemma replicate_succ_injective (n : Nat) :
    Function.Injective (.replicate (n + 1) : UInt8 → FixedBytes (n + 1)) := by
  intro a b h
  exact congrArg List.Vector.head h

lemma mem_numberedKeys {n : Nat} {b : UInt8} {m : Bytes} {log : List (UInt8 × Bytes)} :
    (.replicate (n + 1) b, m) ∈ numberedKeys (n + 1) log ↔ (b, m) ∈ log := by
  unfold numberedKeys
  constructor
  · intro h
    obtain ⟨p, hp, hkey⟩ := List.mem_map.mp h
    obtain ⟨hnum, rfl⟩ := Prod.mk.inj hkey
    rw [← replicate_succ_injective n hnum]
    exact hp
  · intro h
    exact List.mem_map.mpr ⟨(b, m), h, rfl⟩

def recordWorld (log : List (UInt8 × Bytes)) (issues : List Issue) (scopes : List String)
    (hdaemon : ∀ p ∈ log, p.1 = 9 → ∃ i ∈ issues, p.2 = i.token.canonicalBytes)
    (hnonces : (issues.map Issue.tokenNonce).Nodup)
    (hscopes : (scopes.map (scopeDigest (foldDigest 32))).Nodup) :
    SigningWorld (recordCrypto log) (recordDaemon log) where
  signedEd pk := {m | (pk, m) ∈ numberedKeys 32 log}
  signedMl pk := {m | (pk, m) ∈ numberedKeys 1952 log}
  issues := {i | i ∈ issues}
  scopes := {scope | scope ∈ scopes}
  edUnforgeable := recordScheme_unforgeable _ _
  mlUnforgeable := recordScheme_unforgeable _ _
  daemonSigns := by
    intro m hm
    exact .inl (hdaemon (9, m) (mem_numberedKeys.mp hm) rfl)
  noncesDistinct := fun i hi i' hi' h => List.inj_on_of_nodup_map hnonces hi hi' h
  digestsDistinct := by
    rintro _ ⟨scope, hscope, rfl⟩ _ ⟨scope', hscope', rfl⟩ h
    exact congrArg scopePreimage (List.inj_on_of_nodup_map hscopes hscope hscope' h)

def sampleIssue (id : String) (role : OperatorRole) (nonce : UInt8) : Issue where
  operator := ⟨id, role⟩
  now := 100
  ttlSecs := 900
  tokenNonce := .replicate 16 nonce

def sampleOperator (id : String) (b : UInt8) (role : OperatorRole) : EnrolledOperator where
  operatorId := id
  ed25519Pubkey := .replicate 32 b
  mlDsaPubkey := List.replicate 1952 b
  mlDsa87Pubkey := none
  role := role

def sampleProof (i : Issue) : ActionProof where
  token := ⟨i.token, .replicate 64 0, .replicate 3309 0⟩
  actionSignature := .replicate 64 0
  mlDsaActionSignature := .replicate 3309 0

def sampleSession : FixedBytes 16 := .replicate 16 2

def adminLog : List (UInt8 × Bytes) :=
  let issue := sampleIssue "ana" .admin 5
  [(9, issue.token.canonicalBytes),
    (1, consentActionTranscript .approve sampleSession issue.tokenNonce
      (scopeDigest (foldDigest 32) "screen")),
    (1, revokeOperatorTranscript "bob" issue.tokenNonce),
    (1, replaceOperatorKeyTranscript "bob" (List.replicate 32 4) [4, 4] none issue.tokenNonce)]

def adminPolicy : OperatorPolicy where
  operators := [sampleOperator "ana" 1 .admin]
  poisoned := false
  distinctKeys := List.nodup_singleton _

def adminWorld : SigningWorld (recordCrypto adminLog) (recordDaemon adminLog) :=
  recordWorld adminLog [sampleIssue "ana" .admin 5] ["screen", "clipboard"]
    (by decide +kernel) (by decide +kernel) (by decide +kernel)

/-- The admin's three requests are accepted, so what they stand for was signed. -/
theorem authorize_binds_admin :
    let issue := sampleIssue "ana" .admin 5
    (∃ operator, Binds adminWorld adminPolicy 200 issue.token .approveConsent
      (.consentAction .approve sampleSession issue.tokenNonce
        (scopeDigest (foldDigest 32) "screen")) operator) ∧
    (∃ operator, Binds adminWorld adminPolicy 200 issue.token .enrollOperator
      (.revokeOperator "bob" issue.tokenNonce) operator) ∧
    ∃ operator, Binds adminWorld adminPolicy 200 issue.token .enrollOperator
      (.replaceOperatorKey "bob" (List.replicate 32 4) [4, 4] none issue.tokenNonce)
      operator := by
  intro issue
  obtain ⟨hconsent, hrevoke, hreplace, -⟩ := authorize_binds adminWorld adminPolicy 200
  refine ⟨?_, ?_, ?_⟩
  · obtain ⟨operator, hbinds, -⟩ := hconsent sampleSession "screen" (List.mem_cons_self)
      ⟨sampleProof issue, .approve⟩ ⟨.approve, "ana", .admin, .replicate 32 1⟩
      (by decide +kernel)
    exact ⟨operator, hbinds⟩
  · obtain ⟨operator, hbinds, -⟩ := hrevoke ⟨sampleProof issue, "bob"⟩
      ⟨"bob", "ana", .replicate 32 1⟩ (by decide +kernel)
    exact ⟨operator, hbinds⟩
  · obtain ⟨operator, hbinds, -⟩ := hreplace
      ⟨sampleProof issue, "bob", .replicate 32 4, [4, 4], none⟩
      ⟨"bob", .replicate 32 4, [4, 4], none, "ana"⟩ (by decide +kernel)
    exact ⟨operator, hbinds⟩

end XeniaPeer.Operator
