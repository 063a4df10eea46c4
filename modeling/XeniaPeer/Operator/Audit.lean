import XeniaPeer.Consent.Decision
import XeniaPeer.Consent.Persistence
import XeniaPeer.Consent.StateCommitment

/-!
# The audit routes

What the daemon shows of its live ledger (`operator_http.rs`): to everyone the number of entries
(`GET /health`) and a signed checkpoint (`GET /v1/audit/checkpoint`), to an operator with a token
the resident entries together with such a checkpoint (`GET /v1/audit/ledger`).

Main result: `export_verifies_iff`.
-/

namespace XeniaPeer.Operator

open Foundation Ledger Consent

/-! ## The handlers -/

inductive StatusCode where
  | badRequest
  | unauthorized
  | forbidden

/-- What the handler uses of `http` and `serde_json`: the text of a header value, and the token that
a text holds. -/
structure HeaderLibrary where
  toStr : Bytes → Option String
  tokenFromStr : String → Except String TokenDto

def authorizeLedgerRead (C : OperatorCrypto) (policy : OperatorPolicy) (daemon : DaemonKeys C)
    (now : UInt64) (signed : SignedOperatorToken) : Except AuthError OperatorToken := do
  let token ← verifyToken C daemon now signed
  failIf (¬ token.role.permits .readAudit) .roleNotPermitted
  let _ ← okOr (policy.lookupById token.operatorId) .notEnrolled
  pure token

structure AuditState (C : OperatorCrypto) where
  policy : OperatorPolicy
  daemon : DaemonKeys C
  ledger : Chain C.toCrypto
  revocations : OperatorRevocations

structure HealthResponse where
  status : String
  (uptimeSecs ledgerEntryCount : UInt64)

structure AuditLedgerExportDto where
  entries : List LedgerEntry
  checkpoint : LedgerCheckpoint

section Handlers

variable {C : OperatorCrypto}

def healthHandler (ledger : Chain C.toCrypto) (uptimeSecs : UInt64) : HealthResponse :=
  ⟨"ok", uptimeSecs, ledger.entryCount⟩

def auditCheckpointHandler (ledger : Chain C.toCrypto) (now : UInt64) : LedgerCheckpoint :=
  ledger.signCheckpoint now

/-- `audit_ledger_handler`: `header` is the value of `X-Operator-Token`, `now` what the clock
shows when the token is checked and `signedAt` when the checkpoint is signed. -/
def auditLedgerHandler (text : TextLibrary) (headers : HeaderLibrary) (state : AuditState C)
    (header : Option Bytes) (now signedAt : UInt64) :
    Except (StatusCode × String) AuditLedgerExportDto := do
  let tokenHeader ← okOr (header.bind headers.toStr)
    (.unauthorized, "missing X-Operator-Token header")
  let tokenDto ← (headers.tokenFromStr tokenHeader).mapError
    (fun e => (.badRequest, "malformed X-Operator-Token: " ++ e))
  let signed ← (tokenDto.intoSigned text).mapError (fun e => (.badRequest, e))
  let token ← (authorizeLedgerRead C state.policy state.daemon now signed).mapError
    (fun _ => (.forbidden, "ledger read refused"))
  failIf (state.revocations.isRevoked token.operatorId = true)
    (.forbidden, "ledger read refused")
  pure ⟨state.ledger.entries, state.ledger.signCheckpoint signedAt⟩

variable {now : UInt64}

lemma authorizeLedgerRead_ok {policy : OperatorPolicy} {daemon : DaemonKeys C}
    {signed : SignedOperatorToken} {token : OperatorToken} :
    authorizeLedgerRead C policy daemon now signed = .ok token ↔
      verifyToken C daemon now signed = .ok token ∧ token.role.permits .readAudit = true ∧
        ∃ operator, policy.lookupById token.operatorId = some operator := by
  simp only [authorizeLedgerRead, bind_ok, failIf_ok, okOr_ok, pure_ok, not_not]
  constructor
  · rintro ⟨token', htok, -, hrole, operator, hope, rfl⟩
    exact ⟨htok, hrole, operator, hope⟩
  · rintro ⟨htok, hrole, operator, hope⟩
    exact ⟨token, htok, (), hrole, operator, hope, rfl⟩

lemma auditLedgerHandler_ok {text : TextLibrary} {headers : HeaderLibrary} {state : AuditState C}
    {header : Option Bytes} {signedAt : UInt64} {exported : AuditLedgerExportDto}
    (h : auditLedgerHandler text headers state header now signedAt = .ok exported) :
    exported = ⟨state.ledger.entries, auditCheckpointHandler state.ledger signedAt⟩ ∧
      ∃ signed token, verifyToken C state.daemon now signed = .ok token ∧
        token.role.permits .readAudit = true ∧
        (∃ operator, state.policy.lookupById token.operatorId = some operator) ∧
        state.revocations.isRevoked token.operatorId = false := by
  simp only [auditLedgerHandler, bind_ok, mapError_ok, failIf_ok, okOr_ok, pure_ok,
    authorizeLedgerRead_ok, Bool.not_eq_true] at h
  obtain ⟨_, -, _, -, signed, -, token, ⟨htok, hrole, hope⟩, -, hlive, rfl⟩ := h
  exact ⟨rfl, signed, token, htok, hrole, hope, hlive⟩

end Handlers

/-! ## Exports of a linked chain -/

section Exports

variable {C : Crypto}

/-- The export verifies without anything else from the daemon but its key, and the counts of
checkpoint, entries and health report are one. -/
structure VerifiesByItself (publicKey : C.ed25519.VerifyingKey) (health : HealthResponse)
    (exported : AuditLedgerExportDto) : Prop where
  chain : verifyChain C exported.entries publicKey = .ok ()
  checkpoint :
    verifyCheckpointPrefix C exported.checkpoint exported.entries publicKey = .ok ()
  count : exported.checkpoint.entryCount.toNat = exported.entries.length
  health : health.ledgerEntryCount = exported.checkpoint.entryCount

/-- Nothing is archived before the entries. -/
def FromGenesis (c : Chain C) : Prop := c.baseEntryCount = 0 ∧ c.baseHeadHash = zeroHash

lemma base_unique {pk pk' : C.ed25519.VerifyingKey} {n n' : Nat} {h h' : FixedBytes 32}
    {entries : List LedgerEntry} (hlink : LinkedFrom C pk n h entries)
    (hlink' : LinkedFrom C pk' n' h' entries)
    (hhead : ledgerLinks.headAfter h entries = ledgerLinks.headAfter h' entries) : h = h' := by
  cases entries with
  | nil => exact hhead
  | cons e es =>
    obtain ⟨-, hprev, -⟩ := hlink
    obtain ⟨-, hprev', -⟩ := hlink'
    exact hprev.symm.trans hprev'

variable {c : Chain C}

lemma verifiesByItself_iff (hcorrect : C.ed25519.Correct) (hlink : c.ResidentLinked)
    (hfit : c.baseEntryCount.toNat + c.entries.length < 2 ^ 64) (status : String)
    (uptimeSecs signedAt : UInt64) :
    VerifiesByItself c.verifyingKey ⟨status, uptimeSecs, c.entryCount⟩
      ⟨c.entries, c.signCheckpoint signedAt⟩ ↔ FromGenesis c := by
  have hcount : (c.signCheckpoint signedAt).entryCount.toNat =
      c.baseEntryCount.toNat + c.entries.length := toNat_saturatingAdd hfit
  have hhead : (c.signCheckpoint signedAt).headHash =
      ledgerLinks.headAfter c.baseHeadHash c.entries := c.lastHash_eq_headAfter
  constructor
  · rintro ⟨-, hpre, hlen, -⟩
    have hzero : c.baseEntryCount.toNat = 0 := by
      have : c.baseEntryCount.toNat + c.entries.length = c.entries.length := hcount ▸ hlen
      omega
    obtain ⟨-, hlink', -, hhead'⟩ := verifyCheckpointPrefix_ok.mp hpre
    rw [hcount, hzero, Nat.zero_add, List.take_length, hhead] at hhead'
    exact ⟨UInt64.toNat_inj.mp hzero, (base_unique hlink' hlink hhead').symm⟩
  · rintro ⟨hzero, hbase⟩
    unfold Chain.ResidentLinked at hlink
    rw [hzero, hbase] at hlink
    rw [hzero, UInt64.toNat_zero, Nat.zero_add] at hcount
    have h : SignedBy C c.verifyingKey (c.signCheckpoint signedAt) :=
      ⟨rfl, rfl, hcorrect c.signingKey _⟩
    refine ⟨verifyChain_ok.mpr hlink, verifyCheckpointPrefix_ok.mpr ⟨h, hlink,
      Nat.le_of_eq hcount, ?_⟩, hcount, rfl⟩
    rw [hcount, List.take_length, hhead, hbase]

/-! ## The ledgers the daemon serves -/

/-- Some run of a daemon on the store has the chain in memory. -/
def ReachedBy {M : Type} (S : LedgerStore C M) (c : Chain C) : Prop :=
  ∃ fs moves memory, (S.process.run (none, fs) moves).1 = some (memory, c)

variable {fs : FileSystem}

lemma reachedBy_of_load {M : Type} {S : LedgerStore C M} {memory : M}
    (h : S.load fs = some (memory, c)) : ReachedBy S c := ⟨fs, [.restart], memory, h⟩

variable {json : TextFormat ConsentCompactedActiveStateV1} {path : String} {key :
  C.ed25519.SigningKey}

lemma compactedStore_load {state : ConsentCompactedActiveStateV1}
    {restored : RestoredConsentStateV1 C}
    (h : loadCompactedActiveState json fs path key = .ok (state, restored)) :
    (compactedStore json path key).load fs = some (state, restored.chain) :=
  toOption_map_eq_some.mpr ⟨_, h, rfl⟩

/-- The ledgers of a daemon with this key: of one that was started on a complete ledger, or on a
compacted one. -/
inductive Serves (hcorrect : C.ed25519.Correct) (key : C.ed25519.SigningKey) (c : Chain C) : Prop
  | complete (bincode : VecFormat LedgerEntry) (path : String)
      (reached : ReachedBy (completeStore hcorrect bincode path key) c)
  | compacted (json : TextFormat ConsentCompactedActiveStateV1) (path : String)
      (reached : ReachedBy (compactedStore json path key) c)

structure Sound (key : C.ed25519.SigningKey) (c : Chain C) : Prop where
  signingKey : c.signingKey = key
  linked : c.ResidentLinked
  fits : c.baseEntryCount.toNat + c.entries.length < 2 ^ 64

structure SoundComplete (key : C.ed25519.SigningKey) (c : Chain C) : Prop where
  eq_fromEntries : c = Chain.fromEntries c.entries key
  length_le : c.entries.length ≤ maxAuditLedgerEntries
  linked : c.ResidentLinked

lemma SoundComplete.sound (h : SoundComplete key c) : Sound key c ∧ FromGenesis c := by
  have hmax : maxAuditLedgerEntries < 2 ^ 64 := by decide
  have hzero : c.baseEntryCount = 0 := by
    rw [h.eq_fromEntries]
    rfl
  have hbase : c.baseHeadHash = zeroHash := by
    rw [h.eq_fromEntries]
    rfl
  refine ⟨⟨?_, h.linked, ?_⟩, hzero, hbase⟩
  · rw [h.eq_fromEntries]
    rfl
  · have := h.length_le
    rw [hzero, UInt64.toNat_zero]
    omega

variable {hcorrect : C.ed25519.Correct}

lemma soundComplete_of_reached {bincode : VecFormat LedgerEntry}
    (h : ReachedBy (completeStore hcorrect bincode path key) c) : SoundComplete key c := by
  obtain ⟨fs, moves, memory, hrun⟩ := h
  refine LedgerStore.run_keeps (I := fun memory => SoundComplete key memory.2) ?_ ?_ fs moves
    (memory, c) hrun
  · rintro fs ⟨m, c⟩ hload
    obtain ⟨c', hc', hpair⟩ := toOption_map_eq_some.mp hload
    cases hpair
    obtain ⟨heq, hlen, hverify⟩ := loadVerified_ok hc'
    refine ⟨heq, hlen, ?_⟩
    rw [heq]
    exact verifyChain_ok.mp hverify
  · rintro a ⟨m, c⟩ fs entry bytes m' hsou ⟨hnext, henc, -⟩
    simp only [completeStore, bind_ok, pure_ok, Prod.mk.injEq] at henc
    obtain ⟨-, -, _, hbytes, -, -⟩ := henc
    refine ⟨?_, (decodeEnvelope_of_encodeEnvelope hbytes).1,
      Chain.nextEntry_linked hcorrect hnext hsou.linked⟩
    have heq : c = Chain.fromEntries c.entries key := hsou.eq_fromEntries
    change c.push entry = Chain.fromEntries (c.push entry).entries key
    rw [heq]
    rfl

def Restored (key : C.ed25519.SigningKey) (memory : ConsentCompactedActiveStateV1 × Chain C) :
    Prop :=
  StateAccepted C (C.ed25519.verifyingKey key) memory.1 ∧
    memory.2 = .fromCheckpointSuffix memory.1.activationSnapshot.recoverySummary.throughCheckpoint
      memory.1.residentEntries key

lemma Restored.sound {memory : ConsentCompactedActiveStateV1 × Chain C}
    (h : Restored key memory) : Sound key memory.2 := by
  obtain ⟨hacc, hcha⟩ := h
  obtain ⟨pk, hsig, hcur, -, hcount, hlin, -⟩ := verifyCheckpointExtension_ok.mp hacc.extends_
  have hpk : pk = C.ed25519.verifyingKey key := hcur.unique hacc.current
  subst hpk
  rw [hcha]
  refine ⟨rfl, hlin, ?_⟩
  change memory.1.activationSnapshot.recoverySummary.throughCheckpoint.entryCount.toNat +
    memory.1.residentEntries.length < 2 ^ 64
  rw [hcount]
  exact UInt64.toNat_lt _

lemma sound_of_reached_compacted (h : ReachedBy (compactedStore json path key) c) :
    Sound key c := by
  obtain ⟨fs, moves, memory, hrun⟩ := h
  refine Restored.sound (LedgerStore.run_keeps (I := Restored key) ?_ ?_ fs moves (memory, c) hrun)
  · rintro fs ⟨state, c⟩ hload
    obtain ⟨⟨loaded, restored⟩, hloa, hpair⟩ := toOption_map_eq_some.mp hload
    cases hpair
    exact loadCompactedActiveState_ok hloa
  · rintro a ⟨state, c⟩ fs entry bytes next ⟨hacc, hcha⟩ ⟨-, henc, -⟩
    simp only [compactedStore, bind_ok, mapError_ok, pure_ok, Prod.mk.injEq] at henc
    obtain ⟨next', hadv, _, -, -, rfl⟩ := henc
    obtain ⟨hsna, -, -, hres, -, -⟩ := advance_of_ok hadv
    refine ⟨hacc.advance hadv, ?_⟩
    simp only at hcha
    simp only [hsna, hres, hcha]
    rfl

lemma Serves.sound (h : Serves hcorrect key c) : Sound key c := by
  cases h with
  | complete bincode path reached => exact (soundComplete_of_reached reached).sound.1
  | compacted json path reached => exact sound_of_reached_compacted reached

end Exports

/-- **Self-contained exports.** For every ledger the daemon serves, at any time and whatever
appends, faults and restarts came before: an export verifies by itself, with the count of the
health report, exactly when nothing was compacted away. A daemon on a complete ledger only makes
such exports. -/
theorem export_verifies_iff {C : OperatorCrypto} (hcorrect : C.ed25519.Correct)
    {key : C.ed25519.SigningKey} {state : AuditState C}
    (hserves : Serves hcorrect key state.ledger) {text : TextLibrary}
    {headers : HeaderLibrary} {header : Option Bytes}
    {now signedAt : UInt64} {exported : AuditLedgerExportDto}
    (hexport : auditLedgerHandler text headers state header now signedAt = .ok exported)
    (uptimeSecs : UInt64) :
    (VerifiesByItself (C.ed25519.verifyingKey key) (healthHandler state.ledger uptimeSecs) exported ↔
      FromGenesis state.ledger) ∧
    ((∃ bincode path, ReachedBy (completeStore hcorrect bincode path key) state.ledger) →
      VerifiesByItself (C.ed25519.verifyingKey key) (healthHandler state.ledger uptimeSecs)
        exported) := by
  obtain ⟨rfl, -⟩ := auditLedgerHandler_ok hexport
  obtain ⟨hkey, hlinked, hfits⟩ := hserves.sound
  have hiff := verifiesByItself_iff hcorrect hlinked hfits "ok" uptimeSecs signedAt
  unfold Chain.verifyingKey at hiff
  rw [hkey] at hiff
  refine ⟨hiff, ?_⟩
  rintro ⟨bincode, path, hreached⟩
  exact hiff.mpr (soundComplete_of_reached hreached).sound.2

/-! ## Sample data -/

def auditCrypto : OperatorCrypto :=
  { sampleCrypto with mlDsa65 := keyedScheme (fun _ => .replicate 3309 0) }

def auditDaemon : DaemonKeys auditCrypto where
  daemonPubkey := sampleKey 7
  daemonMlDsaPubkey := .replicate 1952 7

def auditToken : SignedOperatorToken :=
  issueToken auditCrypto (sampleKey 7).val (.replicate 1952 7)
    (sampleIssue "ana" .viewer 5)

def auditText : TextLibrary where
  fromJson _ := .error "not a request"
  decodeHex hex :=
    if hex = "nonce" then some auditToken.token.tokenNonce.toList
    else if hex = "signature" then some auditToken.signature.toList
    else if hex = "ml-dsa signature" then some auditToken.mlDsaSignature.toList
    else none
  showsCodePoint _ := false

def auditHeaders : HeaderLibrary where
  toStr value := if value = utf8 "token" then some "token" else none
  tokenFromStr s := if s = "token" then
      .ok ⟨"ana", .viewer, 100, 1000, "nonce", "signature", "ml-dsa signature"⟩
    else .error "expected value"

def auditState (ledger : Chain sampleCrypto) : AuditState auditCrypto where
  policy := ⟨[sampleOperator "ana" 1 .viewer], false, List.nodup_singleton _⟩
  daemon := auditDaemon
  ledger := ledger
  revocations := ⟨[], false⟩

lemma auditState_ledger (ledger : Chain sampleCrypto) : (auditState ledger).ledger = ledger := rfl

def auditExport (ledger : Chain sampleCrypto) : Except (StatusCode × String) AuditLedgerExportDto :=
  auditLedgerHandler auditText auditHeaders (auditState ledger) (some (utf8 "token")) 200 210

lemma auditExport_eq (ledger : Chain sampleCrypto) :
    auditExport ledger = .ok ⟨ledger.entries, ledger.signCheckpoint 210⟩ := by
  have h : (⟨"ana", .viewer, 100, 1000, "nonce", "signature", "ml-dsa signature"⟩ :
      TokenDto).intoSigned auditText = .ok auditToken := by
    simp only [TokenDto.intoSigned, decodeFixed, bind_ok, okOr_ok, pure_ok,
      Option.bind_eq_some_iff, FixedBytes.ofBytes?_eq_some]
    exact ⟨_, ⟨_, rfl, rfl⟩, _, ⟨_, rfl, rfl⟩, _, ⟨_, rfl, rfl⟩, rfl⟩
  simp only [auditExport, auditLedgerHandler, bind_ok, mapError_ok, failIf_ok, okOr_ok,
    pure_ok, authorizeLedgerRead_ok]
  refine ⟨"token", by decide +kernel, _, rfl, auditToken, h, auditToken.token, ⟨?_, ?_⟩, (), ?_,
    rfl⟩
  · exact verifyToken_issueToken (C := auditCrypto) (keyedScheme_correct _) (keyedScheme_correct _)
      (sampleKey 7).val (.replicate 1952 7) (by decide +kernel)
  · exact ⟨rfl, _, rfl⟩
  · exact Bool.false_ne_true

def chainAfter {M : Type} (S : LedgerStore sampleCrypto M) (fs : FileSystem)
    (moves : List (Process.Move (AppendCall × (Call → Verdict)))) : Chain sampleCrypto :=
  ((S.process.run (none, fs) moves).1.map Prod.snd).getD (.new (sampleKey 7).val)

lemma reachedBy_chainAfter {M : Type} {S : LedgerStore sampleCrypto M} {fs : FileSystem}
    {moves : List (Process.Move (AppendCall × (Call → Verdict)))}
    (h : (S.process.run (none, fs) moves).1.isSome = true) :
    ReachedBy S (chainAfter S fs moves) := by
  obtain ⟨memory, hmem⟩ := Option.isSome_iff_exists.mp h
  exact ⟨fs, moves, memory.1, by simp [chainAfter, hmem]⟩

def auditComplete : Chain sampleCrypto :=
  chainAfter sampleCompleteStore emptyDisk (sampleMoves .rename)

lemma auditComplete_reached : ReachedBy sampleCompleteStore auditComplete :=
  reachedBy_chainAfter (by decide +kernel)

def compactedDisk : FileSystem :=
  ((persistCompactedActiveStateAtomic (.tabled [sampleAdvanced]) "/state" sampleAdvanced 1 2).run
    (worldEnv (fun _ => .proceed)) emptyDisk).state

def auditCompacted : Chain sampleCrypto :=
  .fromCheckpointSuffix sampleAdvanced.activationSnapshot.recoverySummary.throughCheckpoint
    sampleAdvanced.residentEntries (sampleKey 7).val

lemma auditCompacted_served :
    Serves (C := sampleCrypto) (keyedScheme_correct _) (sampleKey 7).val auditCompacted := by
  have h := sampleActivated_accepted.advance sampleAdvanced_of_advance
  have hread : readBoundedJson (.tabled [sampleAdvanced]) compactedDisk "/state" maxAuditLedgerBytes
      "compacted consent active state" = .ok sampleAdvanced := by
    decide +kernel
  obtain ⟨restored, hres, hcha⟩ : ∃ restored,
      sampleAdvanced.restoreState (C := sampleCrypto) (sampleKey 7).val = .ok restored ∧
        restored.chain = auditCompacted :=
    ⟨_, restoreState_ok.mpr ⟨state_verify_ok.mpr h, rfl⟩, rfl⟩
  have hload : loadCompactedActiveState (C := sampleCrypto) (.tabled [sampleAdvanced]) compactedDisk
      "/state" (sampleKey 7).val = .ok (sampleAdvanced, restored) := by
    simp only [loadCompactedActiveState, bind_ok, mapError_ok, pure_ok]
    exact ⟨_, hread, _, hres, rfl⟩
  rw [← hcha]
  exact .compacted _ _ (reachedBy_of_load (compactedStore_load hload))

/-- The export of the complete ledger verifies, the one of the compacted ledger does not. -/
theorem export_verifies_iff_samples :
    (∃ exported, auditExport auditComplete = .ok exported ∧ exported.entries.length = 1 ∧
      VerifiesByItself (auditCrypto.ed25519.verifyingKey (sampleKey 7).val)
        (healthHandler (auditState auditComplete).ledger 5) exported) ∧
    ∃ exported, auditExport auditCompacted = .ok exported ∧
      ¬ VerifiesByItself (auditCrypto.ed25519.verifyingKey (sampleKey 7).val)
        (healthHandler (auditState auditCompacted).ledger 5) exported := by
  have hcomplete : ReachedBy (completeStore (C := auditCrypto.toCrypto) (keyedScheme_correct _)
      sampleBincode "/ledger" (sampleKey 7).val) (auditState auditComplete).ledger := by
    rw [auditState_ledger]
    exact auditComplete_reached
  have hserves : Serves (C := auditCrypto.toCrypto) (keyedScheme_correct _) (sampleKey 7).val
      (auditState auditCompacted).ledger := by
    rw [auditState_ledger]
    exact auditCompacted_served
  refine ⟨⟨_, auditExport_eq auditComplete, by decide +kernel, ?_⟩,
    _, auditExport_eq auditCompacted, ?_⟩
  · exact (export_verifies_iff (keyedScheme_correct _) (.complete _ _ hcomplete)
      (auditExport_eq auditComplete) 5).2 ⟨_, _, hcomplete⟩
  · intro hverifies
    have hgenesis := (export_verifies_iff (keyedScheme_correct _) hserves
      (auditExport_eq auditCompacted) 5).1.mp hverifies
    have hbase : (auditState auditCompacted).ledger.baseEntryCount ≠ 0 := by decide +kernel
    exact hbase hgenesis.1

/-- The export of a daemon that was started on the compacted ledger: its one entry has number 1,
which the chain verifier takes for a gap, and the signed count is 2. -/
theorem compacted_export_fails :
    Serves (C := sampleCrypto) (keyedScheme_correct _) (sampleKey 7).val auditCompacted ∧
    ∃ exported, auditExport auditCompacted = .ok exported ∧
      verifyChain sampleCrypto exported.entries (sampleKey 7) = .error (.outOfOrder 0 0 1) ∧
      verifyCheckpointPrefix sampleCrypto exported.checkpoint exported.entries (sampleKey 7) =
        .error (.ledger (.outOfOrder 0 0 1)) ∧
      exported.entries.length = 1 ∧ exported.checkpoint.entryCount = 2 ∧
      (healthHandler (C := auditCrypto) auditCompacted 5).ledgerEntryCount = 2 :=
  ⟨auditCompacted_served, _, auditExport_eq auditCompacted, by decide +kernel⟩

end XeniaPeer.Operator
