import XeniaPeer.Ledger.Chain
import XeniaPeer.Session.M1

/-!
# The session runtime and its ledger

`M1RuntimeSession` (`m1_runtime.rs`) drives the session machine and writes the consent-boundary
events of its audit trail to a ledger (`m1_ledger.rs`). Each operation first changes the machine and
then flushes: the events from a cursor on are appended one by one, and the cursor moves only when
all of them could be.

Main results: `flush_once_and_no_new_permission`, `replay_needs_grant`, `session_ledger_verifies`.
-/

namespace XeniaPeer.Session

open Foundation Ledger

/-! ## The records of audit events -/

inductive M1LedgerSkipReason where
  | notConsentBoundary
  | normalTerminalEvent

inductive M1LedgerDisposition where
  | record (kind : ConsentKind)
  | skip (reason : M1LedgerSkipReason)

def dispositionForM1Event : M1AuditEvent → M1LedgerDisposition
  | .sessionOffered => .record .request
  | .consentGranted => .record .approval
  | .consentDenied => .record .denial
  | .consentRevoked => .record .revocation
  | .sessionFailed => .record .violation
  | .frameStreamed => .skip .notConsentBoundary
  | .telemetryStreamed => .skip .notConsentBoundary
  | .audioStreamed => .skip .notConsentBoundary
  | .inputInjected => .skip .notConsentBoundary
  | .hostClipboardRead => .skip .notConsentBoundary
  | .hostClipboardWritten => .skip .notConsentBoundary
  | .fileSentToViewer => .skip .notConsentBoundary
  | .fileReceivedFromViewer => .skip .notConsentBoundary
  | .sessionEnded => .skip .normalTerminalEvent

def M1AuditEvent.consentKind (event : M1AuditEvent) : Option ConsentKind :=
  match dispositionForM1Event event with
  | .record kind => some kind
  | .skip _ => none

def consentRecordForM1Event (sourceId : FixedBytes 32) (sessionId requestId : Uuid)
    (scope : String) (event : M1AuditEvent) : Option ConsentEventRecord :=
  match dispositionForM1Event event with
  | .record kind => some ⟨sourceId, sessionId, requestId, kind, scope⟩
  | .skip _ => none

/-! ## The runtime -/

inductive M1RuntimeError where
  | session (error : M1SessionError)
  | ledger (error : LedgerError)
deriving DecidableEq

structure M1RuntimeSession (C : Crypto) where
  session : M1SessionMachine
  chain : Chain C
  sourceId : FixedBytes 32
  (sessionId requestId : Uuid)
  scope : String
  nextAuditIndex : Nat

abbrev Clock := Nat → SystemTime

variable {C : Crypto}

namespace M1RuntimeSession

def fromChain (chain : Chain C) (sourceId : FixedBytes 32) (sessionId requestId : Uuid)
    (scope : String) : M1RuntimeSession C where
  session := .new
  chain := chain
  sourceId := sourceId
  sessionId := sessionId
  requestId := requestId
  scope := scope
  nextAuditIndex := 0

section

variable (rt : M1RuntimeSession C) (signingKey : C.ed25519.SigningKey)

def new (sourceId : FixedBytes 32) (sessionId requestId : Uuid) (scope : String) :
    M1RuntimeSession C :=
  fromChain (Chain.new signingKey) sourceId sessionId requestId scope

def replayEntry (m : M1SessionMachine) : ConsentKind → Except M1SessionError Unit × M1SessionMachine
  | .request => m.offer
  | .approval => m.grantConsent
  | .denial => m.denyConsent
  | .revocation => m.revoke
  | .violation => m.fail
  | .athenaTriage => (.ok (), m)

def replayEntries (m : M1SessionMachine) :
    List LedgerEntry → Except M1RuntimeError M1SessionMachine
  | [] => .ok m
  | entry :: entries =>
    match replayEntry m entry.event.kind with
    | (.error e, _) => .error (.session e)
    | (.ok (), m') => replayEntries m' entries

def replayPersistedConsentState : Except M1RuntimeError (M1RuntimeSession C) := do
  let session ← replayEntries rt.session rt.chain.entries
  pure { rt with session := session, nextAuditIndex := session.audit.length }

def fromPersistedEntries (entries : List LedgerEntry) (sourceId : FixedBytes 32)
    (sessionId requestId : Uuid) (scope : String) : Except M1RuntimeError (M1RuntimeSession C) :=
  (fromChain (Chain.fromEntries entries signingKey) sourceId sessionId requestId
    scope).replayPersistedConsentState

def record (event : M1AuditEvent) : Option ConsentEventRecord :=
  consentRecordForM1Event rt.sourceId rt.sessionId rt.requestId rt.scope event

def appendEvents (record : M1AuditEvent → Option ConsentEventRecord) (c : Chain C)
    (clock : Clock) : List M1AuditEvent → Except LedgerError Unit × Chain C
  | [] => (.ok (), c)
  | event :: events =>
    match record event with
    | none => appendEvents record c clock events
    | some r =>
      match c.append r (clock 0) with
      | (.error e, c') => (.error e, c')
      | (.ok _, c') => appendEvents record c' (fun i => clock (i + 1)) events

def flushNewAuditEvents (clock : Clock) : Except M1RuntimeError Unit × M1RuntimeSession C :=
  match appendEvents rt.record rt.chain clock (rt.session.audit.drop rt.nextAuditIndex) with
  | (.error e, c) => (.error (.ledger e), { rt with chain := c })
  | (.ok (), c) =>
    (.ok (), { rt with chain := c, nextAuditIndex := rt.session.audit.length })

def perform (op : Op) (clock : Clock) : Except M1RuntimeError Unit × M1RuntimeSession C :=
  match rt.session.apply op with
  | (.error e, m) => (.error (.session e), { rt with session := m })
  | (.ok (), m) => { rt with session := m }.flushNewAuditEvents clock

def offer := rt.perform .offer

def grantConsent := rt.perform .grantConsent

def grantConsentScoped (granted : M1PermissionSet) :=
  rt.perform (.grantConsentScoped granted)

def denyConsent := rt.perform .denyConsent

def streamFrame := rt.perform (.privileged .streamFrame)

def streamTelemetry := rt.perform (.privileged .streamTelemetry)

def streamAudio := rt.perform (.privileged .streamAudio)

def injectInput := rt.perform (.privileged .injectInput)

def readHostClipboard := rt.perform (.privileged .readHostClipboard)

def writeHostClipboard := rt.perform (.privileged .writeHostClipboard)

def sendFileToViewer := rt.perform (.privileged .sendFileToViewer)

def receiveFileFromViewer :=
  rt.perform (.privileged .receiveFileFromViewer)

def revoke := rt.perform .revoke

def endSession := rt.perform .endSession

def fail := rt.perform .fail

end

structure Call where
  op : Op
  clock : Clock

def step (rt : M1RuntimeSession C) (call : Call) : M1RuntimeSession C :=
  (rt.perform call.op call.clock).2

def run (rt : M1RuntimeSession C) (calls : List Call) : M1RuntimeSession C := calls.foldl step rt

/-- How a session begins, and how many entries its ledger has from others: on a chain that is
there already, or from entries of its own. -/
inductive Starts : M1RuntimeSession C → Nat → Prop
  | fromChain (chain : Chain C) (sourceId : FixedBytes 32) (sessionId requestId : Uuid)
      (scope : String) :
      Starts (.fromChain chain sourceId sessionId requestId scope) chain.entries.length
  | fromPersistedEntries {signingKey : C.ed25519.SigningKey} {entries : List LedgerEntry}
      {sourceId : FixedBytes 32} {sessionId requestId : Uuid} {scope : String}
      {rt : M1RuntimeSession C}
      (h : M1RuntimeSession.fromPersistedEntries signingKey entries sourceId sessionId requestId
        scope = .ok rt) : Starts rt 0

/-! ## What a flush appends -/

def CanAppend (c : Chain C) (clock : Clock) (i : Nat) : Prop :=
  c.baseEntryCount.toNat + (c.entries.length + i) < 2 ^ 64 ∧ 0 ≤ (clock i).secs

instance (c : Chain C) (clock : Clock) (i : Nat) : Decidable (CanAppend c clock i) :=
  inferInstanceAs (Decidable (_ ∧ _))

variable {c : Chain C} {r : ConsentEventRecord} {clock : Clock}

lemma exists_nextEntry :
    (∃ entry, c.nextEntry r (clock 0) = .ok entry) ↔ CanAppend c clock 0 := by
  simp only [Chain.nextEntry, bind_ok, okOr_ok, pure_ok, computeEntryHash, checkedAdd,
    Option.ite_none_right_eq_some]
  constructor
  · rintro ⟨_, _, ⟨hseq, -⟩, _, ⟨_, hserialized, -⟩, -⟩
    exact ⟨hseq, (C.serializePreimage_isSome _).mp (Option.isSome_of_mem hserialized)⟩
  · rintro ⟨hseq, htime⟩
    obtain ⟨_, hserialized⟩ := Option.isSome_iff_exists.mp
      ((C.serializePreimage_isSome ⟨_, c.lastHash, clock 0, r⟩).mpr htime)
    exact ⟨_, _, ⟨hseq, rfl⟩, _, ⟨_, hserialized, rfl⟩, rfl⟩

lemma append_cases (c : Chain C) (r : ConsentEventRecord) (clock : Clock) :
    (¬ CanAppend c clock 0 ∧ ∃ e, c.append r (clock 0) = (.error e, c)) ∨
      CanAppend c clock 0 ∧ ∃ entry, entry.event = r ∧
        c.append r (clock 0) = (.ok entry, c.push entry) := by
  cases hnext : c.nextEntry r (clock 0) with
  | error e =>
    refine .inl ⟨fun hfits => ?_, e, Chain.append_of_error hnext⟩
    obtain ⟨entry, h⟩ := exists_nextEntry.mpr hfits
    cases hnext.symm.trans h
  | ok entry =>
    refine .inr ⟨exists_nextEntry.mp ⟨entry, hnext⟩, entry, ?_, Chain.append_of_nextEntry hnext⟩
    simp only [Chain.nextEntry, bind_ok, pure_ok] at hnext
    obtain ⟨_, -, _, -, rfl⟩ := hnext
    rfl

lemma canAppend_push {entry : LedgerEntry} {i : Nat} :
    CanAppend (c.push entry) (fun i => clock (i + 1)) i ↔ CanAppend c clock (i + 1) := by
  simp only [CanAppend, Chain.push, List.length_append, List.length_singleton, Nat.add_assoc,
    Nat.add_comm 1 i]

structure Appended (c : Chain C) (clock : Clock) (records : List ConsentEventRecord) (k : Nat)
    (c' : Chain C) : Prop where
  le : k ≤ records.length
  base : c'.baseEntryCount = c.baseEntryCount
  entries : ∃ new, c'.entries = c.entries ++ new ∧ new.map LedgerEntry.event = records.take k
  fits : ∀ i < k, CanAppend c clock i
  stops : k < records.length → ¬ CanAppend c clock k

lemma Appended.all {c' : Chain C} {records : List ConsentEventRecord} {k : Nat}
    (h : Appended c clock records k c') :
    k = records.length ↔ ∀ i < records.length, CanAppend c clock i := by
  constructor
  · rintro rfl
    exact h.fits
  · intro hall
    exact Nat.le_antisymm h.le (Nat.le_of_not_lt fun hlt => h.stops hlt (hall k hlt))

lemma appendEvents_cases (record : M1AuditEvent → Option ConsentEventRecord) (c : Chain C)
    (clock : Clock) (events : List M1AuditEvent) :
    ∃ k c', Appended c clock (events.filterMap record) k c' ∧
      ((k < (events.filterMap record).length ∧
          ∃ e, appendEvents record c clock events = (.error e, c')) ∨
        (k = (events.filterMap record).length ∧
          appendEvents record c clock events = (.ok (), c'))) := by
  induction events generalizing c clock with
  | nil =>
    exact ⟨0, c, ⟨Nat.zero_le _, rfl, ⟨[], by simp⟩, fun _ h => absurd h (Nat.not_lt_zero _),
      fun h => absurd h (Nat.lt_irrefl _)⟩, .inr ⟨rfl, rfl⟩⟩
  | cons event events ih =>
    unfold appendEvents
    cases hrecord : record event with
    | none =>
      rw [List.filterMap_cons_none hrecord]
      exact ih c clock
    | some r =>
      rw [List.filterMap_cons_some hrecord]
      obtain ⟨hstop, e, herr⟩ | ⟨hfits, entry, hevent, hok⟩ := append_cases c r clock
      · refine ⟨0, c, ⟨Nat.zero_le _, rfl, ⟨[], by simp⟩, fun _ h => absurd h (Nat.not_lt_zero _),
          fun _ => hstop⟩, .inl ⟨by simp, e, ?_⟩⟩
        simp [herr]
      · -- one record is in, and the rest of the loop goes on behind it
        obtain ⟨k, c', happ, hres⟩ := ih (c.push entry) (fun i => clock (i + 1))
        obtain ⟨new, hnew, hmap⟩ := happ.entries
        refine ⟨k + 1, c', ⟨?_, happ.base, ⟨entry :: new, ?_, ?_⟩, ?_, ?_⟩, ?_⟩
        · have hle := happ.le
          rw [List.length_cons]
          omega
        · simp [hnew, Chain.push]
        · rw [List.map_cons, hmap, hevent, List.take_succ_cons]
        · intro i hi
          cases i with
          | zero => exact hfits
          | succ i => exact canAppend_push.mp (happ.fits i (by omega))
        · intro hlt
          rw [List.length_cons] at hlt
          exact fun h => happ.stops (by omega) (canAppend_push.mpr h)
        · rw [List.length_cons]
          simp only [hok]
          obtain ⟨hlt, e, herr⟩ | ⟨heq, hall⟩ := hres
          · exact .inl ⟨by omega, e, herr⟩
          · exact .inr ⟨by omega, hall⟩

/-! ## What an operation comes to -/

def pending (rt : M1RuntimeSession C) (op : Op) : List ConsentEventRecord :=
  (rt.session.audit.drop rt.nextAuditIndex ++ [op.event]).filterMap rt.record

variable {m m' : M1SessionMachine} {op : Op}

lemma audit_of_accepted (h : op.Accepted m m') : m'.audit = m.audit ++ [op.event] := by
  cases h <;> rfl

variable {rt : M1RuntimeSession C}

lemma perform_cases (hcur : rt.nextAuditIndex ≤ rt.session.audit.length) (op : Op)
    (clock : Clock) : (∃ e, rt.perform op clock = (.error (.session e), rt)) ∨
      ∃ m k c, op.Accepted rt.session m ∧ rt.session.apply op = (.ok (), m) ∧
        Appended rt.chain clock (rt.pending op) k c ∧
        ((k < (rt.pending op).length ∧ ∃ e, rt.perform op clock =
            (.error (.ledger e), { rt with session := m, chain := c })) ∨
          (k = (rt.pending op).length ∧ rt.perform op clock = (.ok (), { rt with
              session := m, chain := c, nextAuditIndex := rt.session.audit.length + 1 }))) := by
  unfold perform
  obtain ⟨e, herr⟩ | ⟨m, hok, hacc⟩ := rt.session.apply_outcome op
  · exact .inl ⟨e, by rw [herr]⟩
  · have h := audit_of_accepted hacc
    have heve : m.audit.drop rt.nextAuditIndex =
        rt.session.audit.drop rt.nextAuditIndex ++ [op.event] := by
      rw [h, List.drop_append_of_le_length hcur]
    obtain ⟨k, c, happ, hres⟩ := appendEvents_cases rt.record rt.chain clock
      (rt.session.audit.drop rt.nextAuditIndex ++ [op.event])
    refine .inr ⟨m, k, c, hacc, hok, happ, ?_⟩
    rw [hok]
    have hrecord : ({ rt with session := m } : M1RuntimeSession C).record = rt.record := rfl
    simp only [flushNewAuditEvents, heve, hrecord]
    obtain ⟨hlt, e, herr⟩ | ⟨heq, hall⟩ := hres
    · exact .inl ⟨hlt, e, by rw [herr]⟩
    · refine .inr ⟨heq, ?_⟩
      rw [hall, h, List.length_append, List.length_singleton]

/-! ## Each event once -/

/-- If the call comes to a flush, then this appends all pending records or none. -/
def FlushesAtOnce (rt : M1RuntimeSession C) (call : Call) : Prop :=
  (rt.session.apply call.op).1 = .ok () → CanAppend rt.chain call.clock 0 →
    ∀ i < (rt.pending call.op).length, CanAppend rt.chain call.clock i

/-- If the call grants something, all that is pending can be appended. -/
def GrantIsFlushed (rt : M1RuntimeSession C) (call : Call) : Prop :=
  ∀ set, call.op.grantedSet = some set → set ≠ .empty → rt.session.state = .offered →
    ∀ i < (rt.pending call.op).length, CanAppend rt.chain call.clock i

/-- The new entries are the records of these events, each once and in order. -/
def Recorded (start rt : M1RuntimeSession C) (events : List M1AuditEvent) : Prop :=
  ∃ new, rt.chain.entries = start.chain.entries ++ new ∧
    new.map LedgerEntry.event = events.filterMap start.record

def flushed (start rt : M1RuntimeSession C) : List M1AuditEvent :=
  (rt.session.audit.take rt.nextAuditIndex).drop start.session.audit.length

structure Runs (start rt : M1RuntimeSession C) : Prop where
  record : rt.record = start.record
  start_le : start.session.audit.length ≤ rt.nextAuditIndex
  le_audit : rt.nextAuditIndex ≤ rt.session.audit.length

variable {start : M1RuntimeSession C} {base : Nat}

lemma Starts.cursor (h : Starts start base) :
    start.nextAuditIndex = start.session.audit.length := by
  cases h with
  | fromChain => rfl
  | fromPersistedEntries h =>
    simp only [M1RuntimeSession.fromPersistedEntries, replayPersistedConsentState, bind_ok,
      pure_ok] at h
    obtain ⟨session, -, rfl⟩ := h
    rfl

lemma Starts.runs (h : Starts start base) : Runs start start :=
  ⟨rfl, Nat.le_of_eq h.cursor.symm, Nat.le_of_eq h.cursor⟩

section Steps

lemma Runs.step (h : Runs start rt) (call : Call) : Runs start (rt.step call) := by
  unfold M1RuntimeSession.step
  obtain ⟨e, herr⟩ | ⟨m, k, c, hacc, -, -, hres⟩ := perform_cases h.le_audit call.op call.clock
  · rw [herr]
    exact h
  · have haud := audit_of_accepted hacc
    have hlen : m.audit.length = rt.session.audit.length + 1 := by
      rw [haud, List.length_append, List.length_singleton]
    have hstart := h.start_le
    have haud := h.le_audit
    obtain ⟨-, e, herr⟩ | ⟨-, hok⟩ := hres
    · rw [herr]
      exact ⟨h.record, hstart, by simp only; omega⟩
    · rw [hok]
      exact ⟨h.record, by simp only; omega, by simp only; omega⟩

lemma Runs.run (h : Runs start rt) (calls : List Call) : Runs start (rt.run calls) :=
  foldl_invariant (I := Runs start) (fun _ call hrt => hrt.step call) calls h

variable {op : Op} {clock : Clock}

lemma Runs.cursor_of_ok (h : Runs start rt) (hok : (rt.perform op clock).1 = .ok ()) :
    (rt.perform op clock).2.nextAuditIndex = (rt.perform op clock).2.session.audit.length := by
  obtain ⟨e, herr⟩ | ⟨m, k, c, hacc, -, -, ⟨-, e, herr⟩ | ⟨-, hall⟩⟩ :=
    perform_cases h.le_audit op clock
  · rw [herr] at hok
    cases hok
  · rw [herr] at hok
    cases hok
  · rw [hall]
    simp [audit_of_accepted hacc]

lemma Recorded.step (hrun : Runs start rt) (h : Recorded start rt (flushed start rt)) {call : Call}
    (honce : rt.FlushesAtOnce call) :
    Recorded start (rt.step call) (flushed start (rt.step call)) := by
  unfold M1RuntimeSession.step
  obtain ⟨e, herr⟩ | ⟨m, k, c, hacc, happly, happ, hres⟩ :=
    perform_cases hrun.le_audit call.op call.clock
  · rw [herr]
    exact h
  · have haud := audit_of_accepted hacc
    obtain ⟨new, hnew, hmap⟩ := h
    obtain ⟨more, hmore, hrecords⟩ := happ.entries
    obtain ⟨hlt, e, herr⟩ | ⟨hall, hok⟩ := hres
    · -- nothing was appended: the first record already did not fit
      have hzero : k = 0 := by
        refine Nat.eq_zero_of_not_pos fun hpos => ?_
        have hfits := honce (congrArg Prod.fst happly) (happ.fits 0 hpos)
        exact Nat.ne_of_lt hlt (happ.all.mpr hfits)
      subst hzero
      obtain rfl : more = [] := List.map_eq_nil_iff.mp hrecords
      rw [herr]
      refine ⟨new, by rw [hmore, List.append_nil, hnew], ?_⟩
      rw [hmap, flushed, flushed, haud, List.take_append_of_le_length hrun.le_audit]
    · rw [hok]
      refine ⟨new ++ more, by rw [hmore, hnew, List.append_assoc], ?_⟩
      have heve : m.audit.drop start.session.audit.length =
          flushed start rt ++ (rt.session.audit.drop rt.nextAuditIndex ++ [call.op.event]) := by
        have hle : start.session.audit.length ≤
            (rt.session.audit.take rt.nextAuditIndex).length := by
          rw [List.length_take, Nat.min_eq_left hrun.le_audit]
          exact hrun.start_le
        rw [haud, flushed, ← List.drop_append_of_le_length hle, ← List.append_assoc,
          List.take_append_drop]
      have htake : m.audit.take (rt.session.audit.length + 1) = m.audit := by
        rw [haud, List.take_of_length_le (by simp)]
      rw [flushed, htake, heve, List.map_append, List.filterMap_append, hmap, hrecords, hall,
        List.take_length, pending, hrun.record]

lemma run_recorded {base : Nat} (hstart : Starts start base) {calls : List Call}
    (h : StepsMeet M1RuntimeSession.step FlushesAtOnce start calls) :
    Recorded start (start.run calls) (flushed start (start.run calls)) := by
  have hbeg : Recorded start start (flushed start start) := by
    refine ⟨[], by simp, ?_⟩
    rw [flushed, hstart.cursor, List.take_length, List.drop_length]
    rfl
  have hrun : Runs start (start.run calls) ∧
      Recorded start (start.run calls) (flushed start (start.run calls)) := by
    refine h.invariant (I := fun rt => Runs start rt ∧ Recorded start rt (flushed start rt))
      ?_ ⟨hstart.runs, hbeg⟩
    rintro rt call ⟨hruns, hrecord⟩ honce
    exact ⟨hruns.step call, hrecord.step hruns honce⟩
  exact hrun.2

/-! ## No new permission -/

/-- The session is active with the permission. -/
def Holds (rt : M1RuntimeSession C) (p : M1Permission) : Prop :=
  rt.session.requireActive p = .ok ()

variable {p : M1Permission}

lemma holds_iff :
    rt.Holds p ↔ rt.session.state = .active ∧ rt.session.granted.contains p = true := by
  unfold Holds M1SessionMachine.requireActive
  split <;> simp_all

lemma holds_of_perform {rt' : M1RuntimeSession C}
    (h : rt.perform (.privileged p) clock = (.ok (), rt')) : rt.Holds p := by
  unfold perform at h
  obtain ⟨e, href⟩ | ⟨m', -, hacc⟩ := rt.session.apply_outcome (.privileged p)
  · rw [href] at h
    cases h
  · cases hacc with
    | privileged hstate hgranted => exact holds_iff.mpr ⟨hstate, hgranted⟩
    | grant hset _ => cases hset
    | close hclose _ _ => cases p <;> cases hclose

variable {set : M1PermissionSet}

lemma exists_tier (h : set ≠ .empty) : ∃ p, set.contains p = true := by
  by_contra hnone
  simp only [not_exists, Bool.not_eq_true] at hnone
  refine h ?_
  have hfra := hnone .streamFrame
  have htel := hnone .streamTelemetry
  have haud := hnone .streamAudio
  have hinp := hnone .injectInput
  have hread := hnone .readHostClipboard
  have hwr := hnone .writeHostClipboard
  have hsend := hnone .sendFileToViewer
  have hreceive := hnone .receiveFileFromViewer
  cases set
  simp_all [M1PermissionSet.contains, M1PermissionSet.empty]

lemma apply_grant {m : M1SessionMachine} (hset : op.grantedSet = some set)
    (hstate : m.state = .offered) :
    m.apply op = (.ok (), ⟨.active, m.audit ++ [.consentGranted], set⟩) := by
  cases op <;> cases hset <;>
    simp [M1SessionMachine.apply, M1SessionMachine.grantConsent,
      M1SessionMachine.grantConsentScoped, M1SessionMachine.transition_eq _ hstate]

lemma failed_keeps_permissions_iff (hrun : Runs start rt) (call : Call) : rt.GrantIsFlushed call ↔
      ∀ e, (rt.perform call.op call.clock).1 = .error e →
        ∀ p, (rt.perform call.op call.clock).2.Holds p → rt.Holds p := by
  obtain ⟨op, clock⟩ := call
  simp only [GrantIsFlushed]
  obtain ⟨e, herr⟩ | ⟨m, k, c, hacc, hapy, happ, hres⟩ := perform_cases hrun.le_audit op clock
  · rw [herr]
    refine ⟨fun _ _ _ p hp => hp, fun _ set hset _ hstate => ?_⟩
    -- the session refused the operation, so it was no grant to an offered session
    simp only [perform, apply_grant hset hstate, flushNewAuditEvents] at herr
    split at herr <;> cases herr
  obtain ⟨hlt, e, herr⟩ | ⟨hall, hok⟩ := hres
  · have hsto : ¬ ∀ i < (rt.pending op).length, CanAppend rt.chain clock i :=
      fun h => Nat.ne_of_lt hlt (happ.all.mpr h)
    rw [herr]
    constructor
    · intro hgra _ _ p hp
      obtain ⟨hact, hcon⟩ := holds_iff.mp hp
      cases hacc with
      | offer hstate => cases hact
      | grant hset hstate =>
        refine absurd (hgra _ hset ?_ hstate) hsto
        rintro rfl
        cases p <;> cases hcon
      | deny hstate => cases hact
      | close hclose hopen hto => exact absurd hact hto
      | privileged hstate hgranted => exact holds_iff.mpr ⟨hstate, hcon⟩
    · intro hk set hset hne hstate
      obtain ⟨p, hp⟩ := exists_tier hne
      -- the tier is held after the failed grant, but not before it
      rw [apply_grant hset hstate] at hapy
      cases hapy
      have hbefore := holds_iff.mp (hk _ rfl p (holds_iff.mpr ⟨rfl, hp⟩))
      rw [hstate] at hbefore
      cases hbefore.1
  · rw [hok]
    exact ⟨nofun, fun _ set _ _ _ => happ.all.mp hall⟩

/-- **What a flush leaves.** In every run from the start of a session in which each flush that
can append its first record can append all, a successful operation has left every consent-boundary
event of the session in the ledger, each once and in order. And an operation that fails, after any
run, leaves no new permission exactly if it is not a grant whose flush stops. -/
theorem flush_once_and_no_new_permission {base : Nat} (hstart : Starts start base) :
    (∀ calls call, StepsMeet M1RuntimeSession.step FlushesAtOnce start (calls ++ [call]) →
      let r := (start.run calls).perform call.op call.clock
      r.1 = .ok () →
        Recorded start r.2 (r.2.session.audit.drop start.session.audit.length)) ∧
    ∀ calls call,
      let rt := start.run calls
      rt.GrantIsFlushed call ↔
        ∀ e, (rt.perform call.op call.clock).1 = .error e →
          ∀ p, (rt.perform call.op call.clock).2.Holds p → rt.Holds p := by
  refine ⟨?_, fun calls call => failed_keeps_permissions_iff (hstart.runs.run calls) call⟩
  intro calls call h r hok
  have hrecorded := run_recorded hstart h
  rw [run, List.foldl_append] at hrecorded
  have hcursor : r.2.nextAuditIndex = r.2.session.audit.length :=
    (hstart.runs.run calls).cursor_of_ok hok
  have hflushed : flushed start r.2 = r.2.session.audit.drop start.session.audit.length := by
    rw [flushed, hcursor, List.take_length]
  rw [← hflushed]
  exact hrecorded

end Steps

instance (rt : M1RuntimeSession C) (call : Call) : Decidable (rt.FlushesAtOnce call) :=
  inferInstanceAs (Decidable (_ = _ → _ → ∀ i < _, CanAppend _ _ i))

def rightFor (n : Nat) : Clock := fun i =>
  if i < n then sampleTime else
    { sampleTime with secs := -1, secs_ge := by decide, secs_lt := by decide }

def sampleRuntime : M1RuntimeSession sampleCrypto :=
  .new (sampleKey 7).val (.replicate 32 1) (.replicate 16 2)
    (.replicate 16 3) "screen"

lemma sampleRuntime_starts : Starts sampleRuntime 0 := .fromChain _ _ _ _ _

def viewOnly : M1PermissionSet := { streamFrame := true }

/-- An offer that could not be recorded, and a grant that could: both are then in the ledger. -/
theorem flush_once_and_no_new_permission_sample :
    let calls : List Call := [⟨.offer, rightFor 0⟩]
    let call : Call := ⟨.grantConsentScoped viewOnly, rightFor 2⟩
    let r := (sampleRuntime.run calls).perform call.op call.clock
    (sampleRuntime.perform .offer (rightFor 0)).1 = .error (.ledger .serialization) ∧
      r.1 = .ok () ∧ Recorded sampleRuntime r.2 [.sessionOffered, .consentGranted] ∧
      (sampleRuntime.run calls).GrantIsFlushed call := by
  intro calls call r
  have h := flush_once_and_no_new_permission sampleRuntime_starts
  have hok : r.1 = .ok () := by decide +kernel
  have haudit : r.2.session.audit.drop sampleRuntime.session.audit.length =
      [.sessionOffered, .consentGranted] := by decide +kernel
  have hrecorded := h.1 calls call (by decide +kernel) hok
  rw [haudit] at hrecorded
  refine ⟨by decide +kernel, hok, hrecorded, (h.2 calls call).mpr ?_⟩
  intro e he
  cases hok.symm.trans he

/-- The offer could not be recorded. The flush of the grant records the offer and stops at the
grant itself, which fails and leaves the session active; the next flush records the offer again. -/
theorem partial_flush_duplicates :
    let offered := sampleRuntime.step ⟨.offer, rightFor 0⟩
    let grant := offered.perform (.grantConsentScoped viewOnly) (rightFor 1)
    let later := grant.2.perform (.privileged .streamFrame) (rightFor 2)
    grant.1 = .error (.ledger .serialization) ∧ ¬ offered.Holds .streamFrame ∧
      grant.2.Holds .streamFrame ∧ later.1 = .ok () ∧
      later.2.session.audit = [.sessionOffered, .consentGranted, .frameStreamed] ∧
      later.2.chain.entries.map (fun e => e.event.kind) = [.request, .request, .approval] := by
  simp only [Holds]
  decide +kernel

/-! ## Rebuilding from the ledger -/

def consentKinds (entries : List LedgerEntry) : List ConsentKind :=
  (entries.map (fun e => e.event.kind)).filter (fun k => k ≠ .athenaTriage)

variable {entries : List LedgerEntry} {kind : ConsentKind}

lemma mem_consentKinds : kind ∈ consentKinds entries ↔
      (∃ entry ∈ entries, entry.event.kind = kind) ∧ kind ≠ .athenaTriage := by
  simp [consentKinds]

lemma consentKinds_append (entries more : List LedgerEntry) :
    consentKinds (entries ++ more) = consentKinds entries ++ consentKinds more := by
  simp [consentKinds]

variable {event : M1AuditEvent}

lemma consentKind_ne (h : event.consentKind = some kind) : kind ≠ .athenaTriage := by
  cases event <;> cases h <;> decide

lemma record_eq_some (h : rt.record event = some r) : event.consentKind = some r.kind := by
  cases event <;> cases h <;> rfl

lemma exists_record (h : event.consentKind = some kind) (rt : M1RuntimeSession C) :
    ∃ r, rt.record event = some r ∧ r.kind = kind := by
  cases event <;> cases h <;> exact ⟨_, rfl, rfl⟩

def replayOp : ConsentKind → Option Op
  | .request => some .offer
  | .approval => some .grantConsent
  | .denial => some .denyConsent
  | .revocation => some .revoke
  | .violation => some .fail
  | .athenaTriage => none

def target (state : M1SessionState) : Op → M1SessionState
  | .offer => .offered
  | .grantConsent => .active
  | .grantConsentScoped _ => .active
  | .denyConsent => .denied
  | .revoke => .revoked
  | .endSession => .ended
  | .fail => .failed
  | .privileged _ => state

lemma apply_close (hclose : op.event.closes = true) (h : m.apply op = (.ok (), m')) :
    m' = ⟨target m.state op, m.audit ++ [op.event], .empty⟩ := by
  cases op with
  | revoke =>
    simp only [M1SessionMachine.apply, M1SessionMachine.revoke, M1SessionMachine.close_ok] at h
    exact h.2.symm
  | endSession =>
    simp only [M1SessionMachine.apply, M1SessionMachine.endSession, M1SessionMachine.close_ok] at h
    exact h.2.symm
  | fail =>
    simp only [M1SessionMachine.apply, M1SessionMachine.fail, M1SessionMachine.close_ok] at h
    exact h.2.symm
  | privileged p => cases p <;> cases hclose
  | _ => cases hclose

lemma apply_target (h : m.apply op = (.ok (), m')) :
    op.Accepted m m' ∧ m'.state = target m.state op := by
  obtain ⟨e, herr⟩ | ⟨m'', hok, hacc⟩ := m.apply_outcome op
  · cases herr.symm.trans h
  · cases hok.symm.trans h
    refine ⟨hacc, ?_⟩
    cases op with
    | offer => rw [← (M1SessionMachine.transition_ok.mp h).2]; rfl
    | denyConsent => rw [← (M1SessionMachine.transition_ok.mp h).2]; rfl
    | revoke => rw [apply_close rfl h]
    | endSession => rw [apply_close rfl h]
    | fail => rw [apply_close rfl h]
    | grantConsent =>
      cases hacc with
      | grant => rfl
      | close hclose => cases hclose
    | grantConsentScoped set =>
      cases hacc with
      | grant => rfl
      | close hclose => cases hclose
    | privileged p =>
      cases hacc with
      | grant hset => cases hset
      | close hclose => cases p <;> cases hclose
      | privileged => rfl

structure Explained (m : M1SessionMachine) : Prop where
  unopened : m.state = .idle ∨ m.state = .offered → .consentGranted ∉ m.audit
  denied : m.state = .denied → .consentDenied ∈ m.audit
  revoked : m.state = .revoked → .consentRevoked ∈ m.audit
  failed : m.state = .failed → .sessionFailed ∈ m.audit

lemma Explained.apply (hm : Explained m) (h : m.apply op = (.ok (), m')) : Explained m' := by
  obtain ⟨hacc, htgt⟩ := apply_target h
  have haud := audit_of_accepted hacc
  have hlast : op.event ∈ m'.audit := by rw [haud]; simp
  cases op with
  | offer =>
    obtain ⟨hstate, -⟩ := M1SessionMachine.transition_ok.mp h
    refine ⟨fun _ hmem => ?_, ?_, ?_, ?_⟩
    · rw [haud, List.mem_append] at hmem
      rcases hmem with hmem | hmem
      · exact hm.unopened (.inl hstate) hmem
      · cases List.mem_singleton.mp hmem
    all_goals simp [htgt, target]
  | grantConsent => constructor <;> simp [htgt, target]
  | grantConsentScoped set => constructor <;> simp [htgt, target]
  | denyConsent => exact ⟨by simp [htgt, target], fun _ => hlast, by simp [htgt, target],
      by simp [htgt, target]⟩
  | revoke => exact ⟨by simp [htgt, target], by simp [htgt, target], fun _ => hlast,
      by simp [htgt, target]⟩
  | endSession => constructor <;> simp [htgt, target]
  | fail => exact ⟨by simp [htgt, target], by simp [htgt, target],
      by simp [htgt, target], fun _ => hlast⟩
  | privileged p =>
    have hstate : m'.state = .active := by
      rw [htgt]
      cases hacc with
      | grant hset => cases hset
      | close hclose => cases p <;> cases hclose
      | privileged hstate => exact hstate
    constructor <;> simp [hstate]

structure Replays (m : M1SessionMachine) (kinds : List ConsentKind) : Prop where
  audit : m.audit.filterMap M1AuditEvent.consentKind = kinds
  idle : m.state = .idle → kinds = []
  offered : m.state = .offered → kinds = [.request]
  active : m.state = .active → kinds = [.request, .approval] ∧ m.granted = .all
  inactive : m.state ≠ .active → m.granted = .empty
  explained : Explained m

lemma replays_new : Replays .new [] :=
  ⟨rfl, fun _ => rfl, nofun, nofun, fun _ => rfl, ⟨nofun, nofun, nofun, nofun⟩⟩

variable {kinds : List ConsentKind}

lemma Replays.apply (hm : Replays m kinds) (hop : replayOp kind = some op)
    (h : m.apply op = (.ok (), m')) : Replays m' (kinds ++ [kind]) := by
  obtain ⟨hacc, htgt⟩ := apply_target h
  have hevent : op.event.consentKind = some kind := by
    cases kind <;> cases hop <;> rfl
  have haud : m'.audit.filterMap M1AuditEvent.consentKind = kinds ++ [kind] := by
    rw [audit_of_accepted hacc, List.filterMap_append, hm.audit]
    simp [hevent]
  have hexp := hm.explained.apply h
  cases kind with
  | athenaTriage => cases hop
  | request =>
    cases hop
    obtain ⟨hstate, rfl⟩ := M1SessionMachine.transition_ok.mp h
    refine ⟨haud, nofun, fun _ => by rw [hm.idle hstate]; rfl,
      nofun, fun _ => hm.inactive (by rw [hstate]; decide), hexp⟩
  | approval =>
    cases hop
    cases hacc with
    | grant hset hstate =>
      cases hset
      exact ⟨haud, nofun, nofun,
        fun _ => ⟨by rw [hm.offered hstate]; rfl, rfl⟩, fun h => absurd rfl h, hexp⟩
    | close hclose => cases hclose
  | denial =>
    cases hop
    obtain ⟨hstate, rfl⟩ := M1SessionMachine.transition_ok.mp h
    exact ⟨haud, nofun, nofun, nofun, fun _ => hm.inactive (by rw [hstate]; decide), hexp⟩
  | revocation =>
    cases hop
    obtain rfl := apply_close rfl h
    exact ⟨haud, nofun, nofun, nofun, fun _ => rfl, hexp⟩
  | violation =>
    cases hop
    obtain rfl := apply_close rfl h
    exact ⟨haud, nofun, nofun, nofun, fun _ => rfl, hexp⟩

lemma replayEntries_replays (hm : Replays m kinds) (h : replayEntries m entries = .ok m') :
    Replays m' (kinds ++ consentKinds entries) := by
  induction entries generalizing m kinds with
  | nil =>
    cases h
    simpa [consentKinds] using hm
  | cons entry entries ih =>
    unfold replayEntries at h
    split at h
    · cases h
    · rename_i m1 hent
      by_cases htri : entry.event.kind = .athenaTriage
      · rw [htri] at hent
        cases hent
        have hskip : consentKinds (entry :: entries) = consentKinds entries := by
          simp [consentKinds, htri]
        rw [hskip]
        exact ih hm h
      · have hkin : consentKinds (entry :: entries) = entry.event.kind :: consentKinds entries := by
          simp [consentKinds, htri]
        have hop : ∃ op, replayOp entry.event.kind = some op ∧ m.apply op = (.ok (), m1) := by
          cases hkind : entry.event.kind with
          | athenaTriage => exact absurd hkind htri
          | _ => rw [hkind] at hent; exact ⟨_, rfl, hent⟩
        obtain ⟨op, hop, happ⟩ := hop
        have hrest := ih (hm.apply hop happ) h
        rwa [hkin, ← List.singleton_append, ← List.append_assoc]

/-- The ledger of a run from entry `base` on: it has nothing that is not in the audit trail, and
everything in the audit trail up to the cursor. -/
structure Covers (base : Nat) (rt : M1RuntimeSession C) : Prop where
  base_le : base ≤ rt.chain.entries.length
  known : ∀ kind ∈ consentKinds (rt.chain.entries.drop base),
    ∃ event ∈ rt.session.audit, event.consentKind = some kind
  covered : ∀ event ∈ rt.session.audit.take rt.nextAuditIndex, ∀ kind,
    event.consentKind = some kind → kind ∈ consentKinds (rt.chain.entries.drop base)
  explained : Explained rt.session

lemma Starts.covers (h : Starts start base) : Covers base start := by
  cases h with
  | fromChain chain =>
    refine ⟨Nat.le_refl _, ?_, nofun, replays_new.explained⟩
    intro kind hkind
    simp [M1RuntimeSession.fromChain, mem_consentKinds] at hkind
  | fromPersistedEntries h =>
    simp only [M1RuntimeSession.fromPersistedEntries, replayPersistedConsentState, bind_ok,
      pure_ok] at h
    obtain ⟨session, hses, rfl⟩ := h
    have hrep := replayEntries_replays replays_new hses
    rw [List.nil_append] at hrep
    refine ⟨Nat.zero_le _, ?_, ?_, hrep.explained⟩
    · intro kind hkind
      rw [List.drop_zero, ← hrep.audit, List.mem_filterMap] at hkind
      exact hkind
    · intro event hevent kind hkind
      rw [List.take_length] at hevent
      rw [List.drop_zero, ← hrep.audit]
      exact List.mem_filterMap.mpr ⟨event, hevent, hkind⟩

lemma Covers.step (hrun : Runs start rt) (h : Covers base rt) (call : Call) :
    Covers base (rt.step call) := by
  unfold M1RuntimeSession.step
  obtain ⟨e, herr⟩ | ⟨m, k, c, hacc, hapy, happ, hres⟩ :=
    perform_cases hrun.le_audit call.op call.clock
  · rw [herr]
    exact h
  have haud := audit_of_accepted hacc
  obtain ⟨new, hnew, hrecords⟩ := happ.entries
  have hdrop : consentKinds (c.entries.drop base) =
      consentKinds (rt.chain.entries.drop base) ++ consentKinds new := by
    rw [hnew, List.drop_append_of_le_length h.base_le, consentKinds_append]
  have hbase : base ≤ c.entries.length := by
    rw [hnew, List.length_append]
    exact Nat.le_add_right_of_le h.base_le
  have hkno : ∀ kind ∈ consentKinds (c.entries.drop base),
      ∃ event ∈ m.audit, event.consentKind = some kind := by
    intro kind hkind
    rw [hdrop, List.mem_append] at hkind
    rw [haud]
    rcases hkind with hkind | hkind
    · obtain ⟨event, hevent, hcon⟩ := h.known kind hkind
      exact ⟨event, List.mem_append_left _ hevent, hcon⟩
    · -- a new entry is the record of a pending event
      obtain ⟨⟨entry, hent, rfl⟩, -⟩ := mem_consentKinds.mp hkind
      have hrecord : entry.event ∈ rt.pending call.op :=
        List.mem_of_mem_take (hrecords ▸ List.mem_map_of_mem hent)
      obtain ⟨event, hevent, hsome⟩ := List.mem_filterMap.mp hrecord
      refine ⟨event, ?_, record_eq_some hsome⟩
      rcases List.mem_append.mp hevent with hevent | hevent
      · exact List.mem_append_left _ (List.mem_of_mem_drop hevent)
      · exact List.mem_append_right _ hevent
  have hexp := h.explained.apply hapy
  obtain ⟨-, e, herr⟩ | ⟨hall, hok⟩ := hres
  · rw [herr]
    refine ⟨hbase, hkno, ?_, hexp⟩
    intro event hevent kind hkind
    simp only [haud, List.take_append_of_le_length hrun.le_audit] at hevent
    simp only [hdrop]
    exact List.mem_append_left _ (h.covered event hevent kind hkind)
  · rw [hok]
    refine ⟨hbase, hkno, ?_, hexp⟩
    intro event hevent kind hkind
    have hevent := List.mem_of_mem_take hevent
    simp only [haud] at hevent
    rw [← List.take_append_drop rt.nextAuditIndex rt.session.audit, List.append_assoc,
      List.mem_append] at hevent
    simp only [hdrop]
    rcases hevent with hevent | hevent
    · exact List.mem_append_left _ (h.covered event hevent kind hkind)
    · -- the flush appended the record of every pending event
      obtain ⟨r, hr, rfl⟩ := exists_record hkind rt
      have hpen : r ∈ rt.pending call.op := List.mem_filterMap.mpr ⟨event, hevent, hr⟩
      rw [hall, List.take_length] at hrecords
      rw [← hrecords] at hpen
      obtain ⟨entry, hent, rfl⟩ := List.mem_map.mp hpen
      exact List.mem_append_right _ (mem_consentKinds.mpr ⟨⟨entry, hent, rfl⟩,
        consentKind_ne hkind⟩)

lemma Starts.run_covers (h : Starts start base) (calls : List Call) :
    Covers base (start.run calls) := by
  have hrun : Runs start (start.run calls) ∧ Covers base (start.run calls) := by
    refine foldl_invariant (I := fun rt => Runs start rt ∧ Covers base rt) ?_ calls
      ⟨h.runs, h.covers⟩
    rintro rt call ⟨hruns, hcov⟩
    exact ⟨hruns.step call, hcov.step hruns call⟩
  exact hrun.2

/-- **A rebuilt session.** After any run, with any appends failing, a machine rebuilt from the
entries that the session appended is active only if the session was granted consent; if everything
has been flushed, the session is then active or has ended without a revocation. A rebuilt machine
that is active has every tier, and any other has none. -/
theorem replay_needs_grant {start replayed : M1RuntimeSession C} {base : Nat}
    (hstart : Starts start base) (calls : List Call) {signingKey : C.ed25519.SigningKey}
    {sourceId : FixedBytes 32} {sessionId requestId : Uuid} {scope : String}
    (h : fromPersistedEntries signingKey ((start.run calls).chain.entries.drop base) sourceId
      sessionId requestId scope = .ok replayed) :
    let rt := start.run calls
    (replayed.session.state = .active → .consentGranted ∈ rt.session.audit ∧
      (rt.nextAuditIndex = rt.session.audit.length → rt.session.state = .active ∨
          rt.session.state = .ended ∧ .consentRevoked ∉ rt.session.audit) ∧
      replayed.session.granted = .all) ∧
    (replayed.session.state ≠ .active → replayed.session.granted = .empty) := by
  intro rt
  have hcovers := hstart.run_covers calls
  simp only [fromPersistedEntries, replayPersistedConsentState, bind_ok, pure_ok] at h
  obtain ⟨session, hsession, rfl⟩ := h
  have hreplays := replayEntries_replays replays_new hsession
  refine ⟨fun hactive => ?_, hreplays.inactive⟩
  obtain ⟨hkinds, hall⟩ := hreplays.active hactive
  have hkinds : consentKinds (rt.chain.entries.drop base) = [.request, .approval] := hkinds
  obtain ⟨event, hevent, hconsent⟩ := hcovers.known .approval (by rw [hkinds]; decide)
  have hgranted : .consentGranted ∈ rt.session.audit := by
    cases event <;> cases hconsent
    exact hevent
  refine ⟨hgranted, fun hflushed => ?_, hall⟩
  -- everything that happened to the session is in the ledger: a request and a grant
  have honly : ∀ e ∈ rt.session.audit, ∀ kind, e.consentKind = some kind →
      kind = .request ∨ kind = .approval := by
    intro e he kind hkind
    have hmem := hcovers.covered e (by rw [hflushed, List.take_length]; exact he) kind hkind
    rw [hkinds] at hmem
    simpa using hmem
  have hnot : ∀ e kind, e.consentKind = some kind → kind ≠ .request → kind ≠ .approval →
      e ∉ rt.session.audit := by
    intro e kind hkind hrequest happroval hmem
    rcases honly e hmem kind hkind with h | h
    · exact hrequest h
    · exact happroval h
  have hexplained := hcovers.explained
  cases hstate : rt.session.state with
  | idle => exact absurd hgranted (hexplained.unopened (.inl hstate))
  | offered => exact absurd hgranted (hexplained.unopened (.inr hstate))
  | active => exact .inl rfl
  | denied => exact absurd (hexplained.denied hstate) (hnot _ .denial rfl (by decide) (by decide))
  | revoked =>
    exact absurd (hexplained.revoked hstate) (hnot _ .revocation rfl (by decide) (by decide))
  | failed => exact absurd (hexplained.failed hstate) (hnot _ .violation rfl (by decide) (by decide))
  | ended => exact .inr ⟨rfl, hnot _ .revocation rfl (by decide) (by decide)⟩

def rebuilt (rt : M1RuntimeSession sampleCrypto) :
    Except M1RuntimeError (M1RuntimeSession sampleCrypto) :=
  fromPersistedEntries (sampleKey 7).val (rt.chain.entries.drop 0) rt.sourceId rt.sessionId
    rt.requestId rt.scope

/-- A session that was granted a view of the screen is rebuilt with every tier. -/
theorem replay_needs_grant_sample :
    let calls : List Call := [⟨.offer, rightFor 1⟩, ⟨.grantConsentScoped viewOnly, rightFor 1⟩]
    ∃ replayed, rebuilt (sampleRuntime.run calls) = .ok replayed ∧
      replayed.session.state = .active ∧ replayed.session.granted = .all ∧
      .consentGranted ∈ (sampleRuntime.run calls).session.audit := by
  intro calls
  have hstate : (rebuilt (sampleRuntime.run calls)).map (fun rt => rt.session.state) =
      .ok .active := by decide +kernel
  cases hreplay : rebuilt (sampleRuntime.run calls) with
  | error e =>
    rw [hreplay] at hstate
    cases hstate
  | ok replayed =>
    rw [hreplay] at hstate
    have hactive : replayed.session.state = .active := Except.ok.inj hstate
    obtain ⟨hgranted, -, hall⟩ := (replay_needs_grant sampleRuntime_starts calls hreplay).1 hactive
    exact ⟨replayed, rfl, hactive, hall, hgranted⟩

/-- A view of the screen is granted and the session ends: it is rebuilt as active, with input
allowed. So it is while it is active, and after a revocation that could not be recorded. -/
theorem replay_exceeds_original :
    let granted := sampleRuntime.run
      [⟨.offer, rightFor 1⟩, ⟨.grantConsentScoped viewOnly, rightFor 1⟩]
    let ended := granted.step ⟨.endSession, rightFor 1⟩
    let revoked := granted.step ⟨.revoke, rightFor 0⟩
    granted.session.state = .active ∧
      granted.session.requireActive .injectInput =
        .error (.permissionDenied .active .injectInput) ∧
      ended.session.state = .ended ∧ revoked.session.state = .revoked ∧
      ∀ rt ∈ [granted, ended, revoked],
        (rebuilt rt).map (fun r => (r.session.state, r.session.requireActive .injectInput)) =
          .ok (.active, .ok ()) := by
  decide +kernel

lemma appendEvents_isRun (record : M1AuditEvent → Option ConsentEventRecord) (c : Chain C)
    (clock : Clock) (events : List M1AuditEvent) :
    ∃ ops : List (Chain.Op C Empty), (appendEvents record c clock events).2 = c.run ops := by
  induction events generalizing c clock with
  | nil => exact ⟨[], rfl⟩
  | cons event events ih =>
    unfold appendEvents
    split
    · exact ih c clock
    · rename_i r _
      split <;> rename_i c' h <;> obtain rfl := congrArg Prod.snd h
      · exact ⟨[.append r (clock 0)], rfl⟩
      · obtain ⟨ops, hops⟩ := ih (c.append r (clock 0)).2 (fun i => clock (i + 1))
        exact ⟨.append r (clock 0) :: ops, hops⟩

lemma step_isRun (rt : M1RuntimeSession C) (call : Call) :
    ∃ ops : List (Chain.Op C Empty), (rt.step call).chain = rt.chain.run ops := by
  unfold step perform
  split
  · exact ⟨[], rfl⟩
  · rename_i m _
    obtain ⟨ops, h⟩ := appendEvents_isRun rt.record rt.chain call.clock
      (m.audit.drop rt.nextAuditIndex)
    refine ⟨ops, h ▸ ?_⟩
    unfold flushNewAuditEvents
    split <;> rename_i happ <;> exact (congrArg Prod.snd happ).symm

/-- **The ledger of a session always verifies.** A session that starts with a verified ledger
has one after any calls, whichever of the appends fail. -/
theorem session_ledger_verifies (hcorrect : C.ed25519.Correct) {signingKey : C.ed25519.SigningKey}
    {entries : List LedgerEntry} {rt : M1RuntimeSession C}
    (hchain : rt.chain = .fromEntries entries signingKey)
    (hentries : verifyChain C entries (C.ed25519.verifyingKey signingKey) = .ok ())
    (calls : List Call) :
    verifyChain C (rt.run calls).chain.entries (C.ed25519.verifyingKey signingKey) = .ok () := by
  obtain ⟨ops, h⟩ : ∃ ops : List (Chain.Op C Empty), (rt.run calls).chain = rt.chain.run ops := by
    refine foldl_invariant (I := fun s => ∃ ops, chain s = rt.chain.run ops) ?_ calls ⟨[], rfl⟩
    rintro s call ⟨before, hbefore⟩
    obtain ⟨ops, h⟩ := s.step_isRun call
    exact ⟨before ++ ops, by rw [h, hbefore]; exact List.foldl_append.symm⟩
  have hrun := Chain.run_linked hcorrect (.fromEntries entries signingKey)
    (verifyChain_ok.mp hentries) ops
  have hlinked := hrun.linked
  rw [Chain.ResidentLinked, Chain.verifyingKey, hrun.baseEntryCount, hrun.baseHeadHash,
    hrun.signingKey] at hlinked
  rw [h, hchain]
  exact verifyChain_ok.mpr hlinked

/-- The sample session goes on from two entries, and its revocation is not recorded. -/
theorem session_ledger_verifies_sample :
    let rt := sampleRuntime.run [⟨.offer, rightFor 1⟩, ⟨.grantConsent, rightFor 1⟩]
    verifyChain sampleCrypto (rt.run [⟨.revoke, rightFor 0⟩]).chain.entries (sampleKey 7) =
      .ok () :=
  session_ledger_verifies (keyedScheme_correct _) rfl (by decide +kernel) _

end M1RuntimeSession

end XeniaPeer.Session
