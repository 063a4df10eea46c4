import XeniaPeer.Foundation.KeyedRuns
import XeniaPeer.Ledger.Archive
import XeniaPeer.Ledger.Compaction

/-!
# Recovery summaries of archived prefixes

What has to stay known of a ledger prefix that moves to an archive (`consent_compaction.rs`): the
ids of all signed decisions, and for each session how it ended and who approved it.

Main result: `archive_summary_exact`.
-/

namespace XeniaPeer.Consent

open Foundation Ledger

/-! ## Summaries -/

def consentRecoverySummarySchema : String := "xenia-consent-recovery-summary-v1"

def maxRecoveryActionIds : Nat := 100000

def maxRecoverySessions : Nat := 100000

structure ConsentRecoverySessionV1 where
  sessionId : Uuid
  terminalEvent : String
  terminalSequence : UInt64
  approvingOperatorKey : Option (FixedBytes 32)
  approvalActionId : Option Uuid
deriving DecidableEq

structure ConsentRecoverySummaryV1 where
  schema : String
  archiveSequenceDigest : FixedBytes 32
  throughCheckpoint : LedgerCheckpoint
  archivedEntryCount : UInt64
  replayActionIds : List Uuid
  sessions : List ConsentRecoverySessionV1
  summaryDigest : FixedBytes 32
deriving DecidableEq

/-- What the check of a suffix reads of a recovery summary. -/
structure ReplayIndex where
  (replayActionIds sessions : List Uuid)

/-- The source writes the identifiers in these errors in hexadecimal. -/
inductive ConsentRecoveryError where
  | archive (error : LedgerArchiveError)
  | nonGenesisBase
  | duplicateActionId (actionId : Uuid)
  | invalidTransition (sessionId : Uuid) (seq : UInt64)
  | incompleteSession (sessionId : Uuid)
  | tooManyActionIds (count maximum : Nat)
  | tooManySessions (count maximum : Nat)
  | digestMismatch
  | summaryMismatch
  | unsupportedBundleSchema (schema : String)
  | manifestArchiveMismatch
  | manifestRecoveryMismatch
  | manifestBoundaryMismatch
  | tooManySuffixEntries (count maximum : Nat)
  | unsupportedSnapshotSchema (schema : String)
  | snapshotDigestMismatch
  | restoreSigningKeyMismatch
  | signedDecisionReplay (actionId : Uuid) (seq : UInt64)
  | archivedSessionReused (sessionId : Uuid) (seq : UInt64)
  | unsupportedActiveStateSchema (schema : String)
  | activeStateDigestMismatch
  | activeReplayIndexMismatch
  | activeTerminalIndexMismatch
  | activationSuffixMismatch
  | activeAnchorMismatch
  | unsupportedCutoverReceiptSchema (schema : String)
  | invalidCutoverReceiptSignature
  | cutoverHeadMismatch
  | crossEpochCutover
  | cutoverTimestampRegressed
  | cutoverSnapshotMismatch
  | unsupportedStatePinSchema (schema : String)
  | invalidStatePinSignature
  | statePinIdentityMismatch
  | statePinGenerationRollback (pinned active : UInt64)
  | statePinSameGenerationMismatch
  | statePinPredatesAnchor
  | statePinTimestampRegressed
  | activeGenerationMismatch
  | activeGenerationOverflow
  | unsupportedGcCertificateSchema (schema : String)
  | invalidGcCertificateSignature
  | gcCertificateStateMismatch
  | gcCertificateArchiveMismatch
  | gcCertificateTimestampRegressed
  | manifest (error : LedgerCompactionError)
  | checkpoint (error : CheckpointError)
  | continuity (error : CheckpointContinuityError)
deriving DecidableEq

def signedKind : ConsentKind → Bool
  | .approval => true
  | .denial => true
  | .revocation => true
  | _ => false

def checkSuffix (archivedSessions : List Uuid) :
    List Uuid → List LedgerEntry → Except ConsentRecoveryError Unit
  | _, [] => .ok ()
  | seen, entry :: suffix => do
    failIf (entry.event.sessionId ∈ archivedSessions)
      (.archivedSessionReused entry.event.sessionId entry.seq)
    if signedKind entry.event.kind then
      failIf (entry.event.requestId ∈ seen)
        (.signedDecisionReplay entry.event.requestId entry.seq)
      checkSuffix archivedSessions (entry.event.requestId :: seen) suffix
    else
      checkSuffix archivedSessions seen suffix

def verifyRecoverySuffixCompatibility (summary : ReplayIndex)
    (suffix : List LedgerEntry) : Except ConsentRecoveryError Unit :=
  checkSuffix summary.sessions summary.replayActionIds suffix

def ConsentRecoverySummaryV1.index (summary : ConsentRecoverySummaryV1) :
    ReplayIndex where
  replayActionIds := summary.replayActionIds
  sessions := summary.sessions.map ConsentRecoverySessionV1.sessionId

/-! ## The digest of a summary -/

def optionalField {n : Nat} : Option (FixedBytes n) → Bytes
  | some field => 1 :: field.toList
  | none => [0]

def ConsentRecoverySessionV1.stamp (session : ConsentRecoverySessionV1) : Bytes :=
  session.sessionId.toList ++ ((beBytes 8 (utf8 session.terminalEvent).length ++
    utf8 session.terminalEvent) ++ (u64Be session.terminalSequence ++
    (optionalField session.approvingOperatorKey ++ optionalField session.approvalActionId)))

variable (C : Crypto)

def ConsentRecoverySummaryV1.digestInput (summary : ConsentRecoverySummaryV1)
    (checkpoint : FixedBytes 32) : Bytes :=
  utf8 "xenia:consent-recovery-summary:v1" ++ ([0] ++ (utf8 summary.schema ++ ([0] ++
    (summary.archiveSequenceDigest.toList ++ (checkpoint.toList ++
    (u64Be summary.archivedEntryCount ++ ((beBytes 8 summary.replayActionIds.length ++
      summary.replayActionIds.flatMap List.Vector.toList) ++
    (beBytes 8 summary.sessions.length ++
      summary.sessions.flatMap ConsentRecoverySessionV1.stamp))))))))

def consentRecoverySummaryDigest (summary : ConsentRecoverySummaryV1) :
    Except ConsentRecoveryError (FixedBytes 32) := do
  failIf (summary.schema ≠ consentRecoverySummarySchema) .summaryMismatch
  let checkpoint ← (checkpointFingerprint C summary.throughCheckpoint).mapError .checkpoint
  pure (C.blake3 (summary.digestInput checkpoint))

/-! ## The pass over an archive -/

inductive SessionPhase where
  | pending
  | approved
  | terminal
deriving DecidableEq

structure SessionAccumulator where
  phase : SessionPhase
  approvingOperatorKey : Option (FixedBytes 32)
  approvalActionId : Option Uuid
  terminalEvent : Option String
  terminalSequence : Option UInt64

namespace SessionAccumulator

def pending : SessionAccumulator := ⟨.pending, none, none, none, none⟩

def close (state : SessionAccumulator) (entry : LedgerEntry) : SessionAccumulator :=
  { state with
    phase := .terminal
    terminalEvent := some entry.event.kind.stableName
    terminalSequence := some entry.seq }

def apply (state : SessionAccumulator) (entry : LedgerEntry) : Option SessionAccumulator :=
  match entry.event.kind with
  | .request => if state.phase = .pending then some state else none
  | .approval =>
    if state.phase = .pending then
      some { state with
        phase := .approved
        approvingOperatorKey := some entry.event.sourceId
        approvalActionId := some entry.event.requestId }
    else none
  | .denial => if state.phase = .pending then some (state.close entry) else none
  | .revocation => if state.phase = .terminal then none else some (state.close entry)
  | .violation => if state.phase = .terminal then none else some (state.close entry)
  | .athenaTriage => some state

def complete (sessionId : Uuid) (state : SessionAccumulator) :
    Except ConsentRecoveryError ConsentRecoverySessionV1 := do
  let incomplete : ConsentRecoveryError := .incompleteSession sessionId
  failIf (state.phase ≠ .terminal) incomplete
  let terminalEvent ← okOr state.terminalEvent incomplete
  let terminalSequence ← okOr state.terminalSequence incomplete
  pure ⟨sessionId, terminalEvent, terminalSequence, state.approvingOperatorKey,
    state.approvalActionId⟩

end SessionAccumulator

open SessionAccumulator

structure RecoveryPass where
  replayActionIds : Std.TreeSet Uuid compareBytes
  sessions : Std.TreeMap Uuid SessionAccumulator compareBytes

def sessionKey (entry : LedgerEntry) : Option Uuid :=
  if entry.event.kind = .athenaTriage then none else some entry.event.sessionId

def RecoveryPass.record (pass : RecoveryPass) (entry : LedgerEntry) :
    Except ConsentRecoveryError RecoveryPass := do
  let requestId := entry.event.requestId
  failIf (signedKind entry.event.kind = true ∧ pass.replayActionIds.contains requestId = true)
    (.duplicateActionId requestId)
  let replayActionIds :=
    if signedKind entry.event.kind then pass.replayActionIds.insert requestId
    else pass.replayActionIds
  failIf (maxRecoveryActionIds < replayActionIds.size)
    (.tooManyActionIds replayActionIds.size maxRecoveryActionIds)
  let sessions ← okOr
    (advanceKey sessionKey pending apply pass.sessions entry)
    (.invalidTransition entry.event.sessionId entry.seq)
  failIf (maxRecoverySessions < sessions.size)
    (.tooManySessions sessions.size maxRecoverySessions)
  pure ⟨replayActionIds, sessions⟩

def ConsentRecoverySummaryV1.fromArchiveSequence (segments : List LedgerArchiveSegment) :
    Except ConsentRecoveryError ConsentRecoverySummaryV1 := do
  let archiveSequenceDigest ← (ledgerArchiveSequenceDigest C segments).mapError .archive
  let first ← okOr segments.head? (.archive .emptySequence)
  failIf (first.baseCheckpoint.entryCount ≠ 0 ∨ first.baseCheckpoint.headHash ≠ zeroHash)
    .nonGenesisBase
  let last ← okOr segments.getLast? (.archive .emptySequence)
  let pass ← (archivedEntries segments).foldlM RecoveryPass.record ⟨∅, ∅⟩
  let completed ← pass.sessions.toList.mapM (fun p => p.2.complete p.1)
  let summary : ConsentRecoverySummaryV1 :=
    ⟨consentRecoverySummarySchema, archiveSequenceDigest, last.terminalCheckpoint,
      last.terminalCheckpoint.entryCount, pass.replayActionIds.toList, completed, zeroHash⟩
  let summaryDigest ← consentRecoverySummaryDigest C summary
  pure { summary with summaryDigest := summaryDigest }

def ConsentRecoverySummaryV1.verifyAgainstArchive (summary : ConsentRecoverySummaryV1)
    (segments : List LedgerArchiveSegment) : Except ConsentRecoveryError Unit := do
  let observedDigest ← consentRecoverySummaryDigest C summary
  failIf (observedDigest ≠ summary.summaryDigest) .digestMismatch
  let expected ← ConsentRecoverySummaryV1.fromArchiveSequence C segments
  failIf (expected ≠ summary) .summaryMismatch

def ConsentRecoverySummaryV1.verifySelf (summary : ConsentRecoverySummaryV1) :
    Except ConsentRecoveryError Unit := do
  failIf (summary.schema ≠ consentRecoverySummarySchema) .summaryMismatch
  failIf (maxRecoveryActionIds < summary.replayActionIds.length)
    (.tooManyActionIds summary.replayActionIds.length maxRecoveryActionIds)
  failIf (maxRecoverySessions < summary.sessions.length)
    (.tooManySessions summary.sessions.length maxRecoverySessions)
  failIf (¬ summary.replayActionIds.IsChain (fun a b => compareBytes a b = .lt)) .summaryMismatch
  failIf (¬ summary.sessions.IsChain (fun a b => compareBytes a.sessionId b.sessionId = .lt))
    .summaryMismatch
  failIf (summary.archivedEntryCount ≠ summary.throughCheckpoint.entryCount) .summaryMismatch
  let observedDigest ← consentRecoverySummaryDigest C summary
  failIf (observedDigest ≠ summary.summaryDigest) .digestMismatch

/-! ## One session -/

variable {C}

/-- The entries of a session that has ended: requests, and then a denial, or a revocation or
violation with at most one approval in front of it. -/
structure SessionHistory where
  requests : List LedgerEntry
  approval : Option LedgerEntry
  terminal : LedgerEntry
  requests_kind : ∀ e ∈ requests, e.event.kind = .request
  approval_kind : ∀ e ∈ approval, e.event.kind = .approval
  terminal_kind : (terminal.event.kind = .denial ∧ approval = none) ∨
    terminal.event.kind = .revocation ∨ terminal.event.kind = .violation

namespace SessionHistory

def entries (h : SessionHistory) : List LedgerEntry :=
  h.requests ++ (h.approval.toList ++ [h.terminal])

def record (h : SessionHistory) (sessionId : Uuid) : ConsentRecoverySessionV1 where
  sessionId := sessionId
  terminalEvent := h.terminal.event.kind.stableName
  terminalSequence := h.terminal.seq
  approvingOperatorKey := h.approval.map (fun e => e.event.sourceId)
  approvalActionId := h.approval.map (fun e => e.event.requestId)

end SessionHistory

namespace SessionAccumulator

variable {state : SessionAccumulator}

lemma complete_ok {sessionId : Uuid} {r : ConsentRecoverySessionV1} :
    state.complete sessionId = .ok r ↔
      state.phase = .terminal ∧ ∃ event seq, state.terminalEvent = some event ∧
        state.terminalSequence = some seq ∧
        ⟨sessionId, event, seq, state.approvingOperatorKey, state.approvalActionId⟩ = r := by
  unfold complete
  simp only [guard_bind_ok, failIf_ok, ne_eq, not_not]
  simp only [bind_ok, okOr_ok, pure_ok]
  constructor
  · rintro ⟨hphase, event, hevent, seq, hseq, hr⟩
    exact ⟨hphase, event, seq, hevent, hseq, hr⟩
  · rintro ⟨hphase, event, seq, hevent, hseq, hr⟩
    exact ⟨hphase, event, hevent, seq, hseq, hr⟩

lemma complete_close (sessionId : Uuid) (state : SessionAccumulator) (e : LedgerEntry) :
    (state.close e).complete sessionId = .ok ⟨sessionId, e.event.kind.stableName, e.seq,
      state.approvingOperatorKey, state.approvalActionId⟩ :=
  complete_ok.mpr ⟨rfl, _, _, rfl, rfl, rfl⟩

variable {acc : SessionAccumulator} {xs : List LedgerEntry}

lemma run_of_terminal (hphase : state.phase = .terminal)
    (htriage : ∀ e ∈ xs, e.event.kind ≠ .athenaTriage) (h : xs.foldlM apply state = some acc) :
    xs = [] ∧ acc = state := by
  cases xs with
  | nil =>
    cases h
    exact ⟨rfl, rfl⟩
  | cons e rest =>
    have hnone : state.apply e = none := by
      have hkind := htriage e List.mem_cons_self
      unfold apply
      cases hk : e.event.kind <;> simp_all
    rw [List.foldlM_cons, hnone] at h
    cases h

lemma run_requests (h : ∀ e ∈ xs, e.event.kind = .request) :
    xs.foldlM apply pending = some pending := by
  induction xs with
  | nil => rfl
  | cons e rest ih =>
    have hstep : pending.apply e = some pending := by
      simp [apply, h e List.mem_cons_self, pending]
    rw [List.foldlM_cons, hstep]
    exact ih (fun x hx => h x (List.mem_cons_of_mem _ hx))

def openWith : Option LedgerEntry → SessionAccumulator
  | none => pending
  | some e => ⟨.approved, some e.event.sourceId, some e.event.requestId, none, none⟩

lemma apply_terminal (h : SessionHistory) :
    (openWith h.approval).apply h.terminal = some ((openWith h.approval).close h.terminal) := by
  rcases h.terminal_kind with ⟨hkind, hnone⟩ | hkind | hkind
  · simp [apply, hkind, hnone, openWith, pending]
  · cases h.approval <;> simp [apply, hkind, openWith, pending]
  · cases h.approval <;> simp [apply, hkind, openWith, pending]

lemma run_history (h : SessionHistory) (sessionId : Uuid) :
    ∃ acc, h.entries.foldlM apply pending = some acc ∧
      acc.complete sessionId = .ok (h.record sessionId) := by
  have hopen : (h.requests ++ h.approval.toList).foldlM apply pending =
      some (openWith h.approval) := by
    rw [List.foldlM_append, run_requests h.requests_kind]
    cases happ : h.approval with
    | none => rfl
    | some e =>
      have hkind := h.approval_kind e happ
      simp [apply, hkind, pending, openWith]
  refine ⟨(openWith h.approval).close h.terminal, ?_, ?_⟩
  · rw [SessionHistory.entries, ← List.append_assoc, List.foldlM_append, hopen]
    simp [apply_terminal h]
  · rw [complete_close]
    cases happ : h.approval <;> simp [SessionHistory.record, happ, openWith, pending]

lemma run_approved {e : LedgerEntry} (htriage : ∀ x ∈ xs, x.event.kind ≠ .athenaTriage)
    (hrun : xs.foldlM apply (openWith (some e)) = some acc) (hphase : acc.phase = .terminal) :
    ∃ t, xs = [t] ∧ (t.event.kind = .revocation ∨ t.event.kind = .violation) := by
  cases xs with
  | nil =>
    cases hrun
    cases hphase
  | cons t rest =>
    have hrest : ∀ x ∈ rest, x.event.kind ≠ .athenaTriage :=
      fun x hx => htriage x (List.mem_cons_of_mem _ hx)
    rw [List.foldlM_cons, Option.bind_eq_bind, Option.bind_eq_some_iff] at hrun
    obtain ⟨next, hstep, hrun⟩ := hrun
    have hkind : t.event.kind = .revocation ∨ t.event.kind = .violation := by
      have := htriage t List.mem_cons_self
      unfold apply at hstep
      cases hk : t.event.kind <;> simp_all [openWith]
    have hclo : next.phase = .terminal := by
      rcases hkind with hk | hk <;>
      · simp [apply, hk, openWith] at hstep
        rw [← hstep]
        rfl
    obtain ⟨rfl, -⟩ := run_of_terminal hclo hrest hrun
    exact ⟨t, rfl, hkind⟩

lemma history_of_run (htriage : ∀ e ∈ xs, e.event.kind ≠ .athenaTriage)
    (hrun : xs.foldlM apply pending = some acc) (hphase : acc.phase = .terminal) :
    ∃ h : SessionHistory, h.entries = xs := by
  induction xs with
  | nil =>
    cases hrun
    cases hphase
  | cons e rest ih =>
    have hrest : ∀ x ∈ rest, x.event.kind ≠ .athenaTriage :=
      fun x hx => htriage x (List.mem_cons_of_mem _ hx)
    have hother := htriage e List.mem_cons_self
    rw [List.foldlM_cons, Option.bind_eq_bind, Option.bind_eq_some_iff] at hrun
    obtain ⟨next, hstep, hrun⟩ := hrun
    cases hk : e.event.kind with
    | request =>
      simp [apply, hk, pending] at hstep
      subst hstep
      obtain ⟨h, hent⟩ := ih hrest hrun
      refine ⟨⟨e :: h.requests, h.approval, h.terminal, ?_, h.approval_kind, h.terminal_kind⟩, ?_⟩
      · intro x hx
        rcases List.mem_cons.mp hx with rfl | hx
        · exact hk
        · exact h.requests_kind x hx
      · exact congrArg (fun xs => e :: xs) hent
    | approval =>
      simp [apply, hk, pending] at hstep
      subst hstep
      obtain ⟨t, rfl, hkind⟩ := run_approved (e := e) hrest hrun hphase
      refine ⟨⟨[], some e, t, ?_, ?_, .inr hkind⟩, rfl⟩
      · simp
      · simpa using hk
    | denial | revocation | violation =>
      simp [apply, hk, pending] at hstep
      subst hstep
      obtain ⟨rfl, -⟩ := run_of_terminal rfl hrest hrun
      exact ⟨⟨[], none, e, by simp, by simp, by simp [hk]⟩, rfl⟩
    | athenaTriage => exact absurd hk hother

end SessionAccumulator

/-! ## The whole pass -/

def decisionIds (entries : List LedgerEntry) : List Uuid :=
  (entries.filter (fun e => signedKind e.event.kind)).map (fun e => e.event.requestId)

def sessionEntries (sessionId : Uuid) (entries : List LedgerEntry) : List LedgerEntry :=
  eventsOf sessionKey sessionId entries

/-- The entries have at most as many decisions and sessions as a summary can list. -/
structure WithinLimits (entries : List LedgerEntry) : Prop where
  actionIds : (decisionIds entries).toFinset.card ≤ maxRecoveryActionIds
  sessions : (entries.filterMap sessionKey).toFinset.card ≤ maxRecoverySessions

lemma decisionIds_concat (entries : List LedgerEntry) (e : LedgerEntry) :
    decisionIds (entries ++ [e]) =
      decisionIds entries ++ if signedKind e.event.kind then [e.event.requestId] else [] := by
  unfold decisionIds
  by_cases h : signedKind e.event.kind = true <;> simp [h]

variable {entries : List LedgerEntry} {e : LedgerEntry}

lemma WithinLimits.of_concat (h : WithinLimits (entries ++ [e])) : WithinLimits entries := by
  constructor
  · refine (Finset.card_le_card ?_).trans h.actionIds
    rw [decisionIds_concat, List.toFinset_append]
    exact Finset.subset_union_left
  · refine (Finset.card_le_card ?_).trans h.sessions
    rw [List.filterMap_append, List.toFinset_append]
    exact Finset.subset_union_left

lemma sessionEntries_kind {sessionId : Uuid} :
    ∀ e ∈ sessionEntries sessionId entries, e.event.kind ≠ .athenaTriage := by
  intro e he hkind
  have hkey := (List.mem_filter.mp he).2
  simp [sessionKey, hkind] at hkey

structure Recorded (entries : List LedgerEntry) (pass : RecoveryPass) : Prop where
  nodup : (decisionIds entries).Nodup
  mem_ids : ∀ id, id ∈ pass.replayActionIds ↔ id ∈ decisionIds entries
  sessions : entries.foldlM (advanceKey sessionKey .pending apply) ∅ =
    some pass.sessions

variable {pass : RecoveryPass}

lemma Recorded.size_ids (h : Recorded entries pass) :
    pass.replayActionIds.size = (decisionIds entries).toFinset.card := by
  have hnod : pass.replayActionIds.toList.Nodup := by
    refine Std.TreeSet.distinct_toList.imp ?_
    intro a b hne hab
    exact hne (hab ▸ Std.ReflCmp.compare_self)
  have hmem : pass.replayActionIds.toList.toFinset = (decisionIds entries).toFinset := by
    ext id
    rw [List.mem_toFinset, List.mem_toFinset, Std.TreeSet.mem_toList, h.mem_ids]
  rw [← Std.TreeSet.length_toList, ← List.toFinset_card_of_nodup hnod, hmem]

lemma Recorded.size_sessions (h : Recorded entries pass) :
    pass.sessions.size = (entries.filterMap sessionKey).toFinset.card := by
  obtain ⟨hhol, hruns⟩ := advanceKeys_eq_some h.sessions
  exact hhol.size hruns

variable {pass' : RecoveryPass}

lemma record_ok : pass.record e = .ok pass' ↔
      ¬ (signedKind e.event.kind = true ∧ e.event.requestId ∈ pass.replayActionIds) ∧
      pass'.replayActionIds = (if signedKind e.event.kind then
        pass.replayActionIds.insert e.event.requestId else pass.replayActionIds) ∧
      pass'.replayActionIds.size ≤ maxRecoveryActionIds ∧
      advanceKey sessionKey .pending apply pass.sessions e = some pass'.sessions ∧
      pass'.sessions.size ≤ maxRecoverySessions := by
  unfold RecoveryPass.record
  simp only [guard_bind_ok, failIf_ok, Nat.not_lt]
  simp only [bind_ok, okOr_ok, failIf_ok, pure_ok, Nat.not_lt]
  constructor
  · rintro ⟨hfre, hids, sessions, hses, -, hsize, rfl⟩
    exact ⟨hfre, rfl, hids, hses, hsize⟩
  · rintro ⟨hfre, hids, hide, hses, hsize⟩
    cases pass'
    simp only at hids hide hses hsize
    subst hids
    exact ⟨hfre, hide, _, hses, (), hsize, rfl⟩

lemma Recorded.concat (h : Recorded entries pass)
    (hfresh : ¬ (signedKind e.event.kind = true ∧ e.event.requestId ∈ pass.replayActionIds))
    (hids : pass'.replayActionIds = if signedKind e.event.kind then
      pass.replayActionIds.insert e.event.requestId else pass.replayActionIds)
    (hsession : advanceKey sessionKey .pending apply pass.sessions e =
      some pass'.sessions) : Recorded (entries ++ [e]) pass' := by
  refine ⟨?_, ?_, ?_⟩
  · rw [decisionIds_concat]
    by_cases hsig : signedKind e.event.kind = true
    · have hnew : e.event.requestId ∉ decisionIds entries := by
        intro hmem
        exact hfresh ⟨hsig, (h.mem_ids _).mpr hmem⟩
      rw [if_pos hsig]
      exact List.nodup_append.mpr ⟨h.nodup, List.nodup_singleton _, by
        intro a ha b hb hab
        rw [List.mem_singleton.mp hb] at hab
        exact hnew (hab ▸ ha)⟩
    · rw [if_neg hsig, List.append_nil]
      exact h.nodup
  · intro id
    rw [hids, decisionIds_concat]
    by_cases hsig : signedKind e.event.kind = true
    · rw [if_pos hsig, if_pos hsig, Std.TreeSet.mem_insert,
        Std.LawfulEqCmp.compare_eq_iff_eq, List.mem_append, List.mem_singleton, h.mem_ids]
      constructor
      · rintro (rfl | hmem)
        · exact .inr rfl
        · exact .inl hmem
      · rintro (hmem | rfl)
        · exact .inr hmem
        · exact .inl rfl
    · rw [if_neg hsig, if_neg hsig, List.append_nil]
      exact h.mem_ids id
  · rw [List.foldlM_append, h.sessions]
    simp [hsession]

lemma recorded_of_run (h : entries.foldlM RecoveryPass.record ⟨∅, ∅⟩ = .ok pass) :
    Recorded entries pass := by
  induction entries using List.reverseRecOn generalizing pass with
  | nil =>
    cases h
    refine ⟨List.nodup_nil, ?_, rfl⟩
    intro id
    simp [decisionIds]
  | append_singleton entries e ih =>
    rw [List.foldlM_append, bind_ok] at h
    obtain ⟨before, hbefore, hlast⟩ := h
    rw [List.foldlM_cons, bind_ok] at hlast
    obtain ⟨after, hstep, hdone⟩ := hlast
    cases hdone
    obtain ⟨hfre, hids, -, hses, -⟩ := record_ok.mp hstep
    exact (ih hbefore).concat hfre hids hses

lemma run_of_recordable (hlimit : WithinLimits entries) (hnodup : (decisionIds entries).Nodup)
    (hruns : ∀ s, ((sessionEntries s entries).foldlM apply .pending).isSome) :
    ∃ pass, entries.foldlM RecoveryPass.record ⟨∅, ∅⟩ = .ok pass := by
  induction entries using List.reverseRecOn with
  | nil => exact ⟨_, rfl⟩
  | append_singleton entries e ih =>
    -- all runs of the longer list are runs of the shorter one, continued
    have hsome : ((entries ++ [e]).foldlM (advanceKey sessionKey .pending apply)
        (∅ : Std.TreeMap Uuid SessionAccumulator compareBytes)).isSome :=
      isSome_advanceKeys.mpr hruns
    obtain ⟨m, hm⟩ := Option.isSome_iff_exists.mp hsome
    rw [List.foldlM_append, Option.bind_eq_bind, Option.bind_eq_some_iff] at hm
    obtain ⟨m0, hm0, hlast⟩ := hm
    have hpre := (advanceKeys_eq_some hm0).2
    have hspl := hnodup
    rw [decisionIds_concat] at hspl
    obtain ⟨pass, hpass⟩ := ih hlimit.of_concat (List.nodup_append.mp hspl).1 hpre
    have hrecorded := recorded_of_run hpass
    have hsame : pass.sessions = m0 := Option.some_injective _ (hrecorded.sessions.symm.trans hm0)
    have h : advanceKey sessionKey .pending apply pass.sessions e = some m := by
      rw [hsame]
      simpa using hlast
    have hfre : ¬ (signedKind e.event.kind = true ∧ e.event.requestId ∈ pass.replayActionIds) := by
      rintro ⟨hsig, hmem⟩
      rw [if_pos hsig] at hspl
      exact (List.nodup_append.mp hspl).2.2 _ ((hrecorded.mem_ids _).mp hmem) _
        (List.mem_singleton_self _) rfl
    let ids := if signedKind e.event.kind then pass.replayActionIds.insert e.event.requestId
      else pass.replayActionIds
    have hnext : Recorded (entries ++ [e]) ⟨ids, m⟩ := hrecorded.concat hfre rfl h
    have hids : ids.size ≤ maxRecoveryActionIds := by
      rw [hnext.size_ids]
      exact hlimit.actionIds
    have hses : m.size ≤ maxRecoverySessions := by
      rw [hnext.size_sessions]
      exact hlimit.sessions
    refine ⟨⟨ids, m⟩, ?_⟩
    rw [List.foldlM_append, hpass, bind_ok]
    refine ⟨pass, rfl, ?_⟩
    rw [List.foldlM_cons, bind_ok]
    exact ⟨_, record_ok.mpr ⟨hfre, rfl, hids, h, hses⟩, rfl⟩

/-! ## Archives and their summaries -/

variable (C) in
/-- The archives that can be summarised: a verified sequence from genesis in which no signed
decision repeats an id and every session has ended. -/
structure Compactable (segments : List LedgerArchiveSegment) : Prop where
  nonempty : segments ≠ []
  verified : verifyLedgerArchiveSequence C segments = .ok ()
  genesis : ∀ first ∈ segments.head?,
    first.baseCheckpoint.entryCount = 0 ∧ first.baseCheckpoint.headHash = zeroHash
  ids_nodup : (decisionIds (archivedEntries segments)).Nodup
  ended : ∀ s, sessionEntries s (archivedEntries segments) ≠ [] →
    ∃ h : SessionHistory, h.entries = sessionEntries s (archivedEntries segments)

variable (C) in
structure Summarises (segments : List LedgerArchiveSegment) (summary : ConsentRecoverySummaryV1) :
    Prop where
  schema : summary.schema = consentRecoverySummarySchema
  digest : ledgerArchiveSequenceDigest C segments = .ok summary.archiveSequenceDigest
  through : ∃ last ∈ segments.getLast?, summary.throughCheckpoint = last.terminalCheckpoint
  count : summary.archivedEntryCount = summary.throughCheckpoint.entryCount
  ids_sorted : summary.replayActionIds.Pairwise (fun a b => compareBytes a b = .lt)
  mem_ids : ∀ id, id ∈ summary.replayActionIds ↔ id ∈ decisionIds (archivedEntries segments)
  sessions_sorted : summary.sessions.Pairwise
    (fun a b => compareBytes a.sessionId b.sessionId = .lt)
  mem_sessions : ∀ r, r ∈ summary.sessions ↔ ∃ h : SessionHistory,
    h.entries = sessionEntries r.sessionId (archivedEntries segments) ∧ h.record r.sessionId = r
  summaryDigest : consentRecoverySummaryDigest C summary = .ok summary.summaryDigest

lemma SessionHistory.entries_ne_nil (h : SessionHistory) : h.entries ≠ [] := by
  simp [SessionHistory.entries]

variable {s : Uuid}

lemma Recorded.complete_iff (h : Recorded entries pass) {state : SessionAccumulator}
    (hstate : pass.sessions[s]? = some state) {r : ConsentRecoverySessionV1} :
    state.complete s = .ok r ↔
      ∃ g : SessionHistory, g.entries = sessionEntries s entries ∧ g.record s = r := by
  have hheld := (advanceKeys_eq_some h.sessions).1 s
  rw [hstate] at hheld
  have hrun : (sessionEntries s entries).foldlM apply .pending = some state := by
    by_cases hnil : eventsOf sessionKey s entries = []
    · rw [if_pos hnil] at hheld
      cases hheld
    · rw [if_neg hnil] at hheld
      exact hheld.symm
  constructor
  · intro hcom
    have hphase := (complete_ok.mp hcom).1
    obtain ⟨g, hg⟩ := history_of_run sessionEntries_kind hrun hphase
    obtain ⟨acc, hacc, hrecorded⟩ := run_history g s
    rw [hg, hrun] at hacc
    cases hacc
    rw [hcom] at hrecorded
    exact ⟨g, hg, (Except.ok.inj hrecorded).symm⟩
  · rintro ⟨g, hg, rfl⟩
    obtain ⟨acc, hacc, hrecorded⟩ := run_history g s
    rw [hg, hrun] at hacc
    cases hacc
    exact hrecorded

lemma Recorded.held_iff (h : Recorded entries pass) :
    (∃ state, pass.sessions[s]? = some state) ↔ sessionEntries s entries ≠ [] := by
  obtain ⟨hhol, hruns⟩ := advanceKeys_eq_some h.sessions
  rw [← Option.isSome_iff_exists, hhol s]
  by_cases hnil : eventsOf sessionKey s entries = []
  · simp [sessionEntries, hnil]
  · rw [if_neg hnil]
    exact ⟨fun _ => hnil, fun _ => hruns s⟩

variable {segments : List LedgerArchiveSegment} {summary : ConsentRecoverySummaryV1}

lemma fromArchiveSequence_ok :
    ConsentRecoverySummaryV1.fromArchiveSequence C segments = .ok summary ↔
      ∃ digest first last pass completed summaryDigest,
        ledgerArchiveSequenceDigest C segments = .ok digest ∧ segments.head? = some first ∧
        (first.baseCheckpoint.entryCount = 0 ∧ first.baseCheckpoint.headHash = zeroHash) ∧
        segments.getLast? = some last ∧
        (archivedEntries segments).foldlM RecoveryPass.record ⟨∅, ∅⟩ = .ok pass ∧
        pass.sessions.toList.mapM (fun p => p.2.complete p.1) = .ok completed ∧
        (∃ pk, SignedBy C pk last.terminalCheckpoint) ∧
        C.blake3 (ConsentRecoverySummaryV1.digestInput ⟨consentRecoverySummarySchema, digest,
          last.terminalCheckpoint, last.terminalCheckpoint.entryCount,
          pass.replayActionIds.toList, completed, zeroHash⟩
          (last.terminalCheckpoint.fingerprint C)) = summaryDigest ∧
        ⟨consentRecoverySummarySchema, digest, last.terminalCheckpoint,
          last.terminalCheckpoint.entryCount, pass.replayActionIds.toList, completed,
          summaryDigest⟩ = summary := by
  unfold ConsentRecoverySummaryV1.fromArchiveSequence consentRecoverySummaryDigest
  simp only [bind_ok, mapError_ok, okOr_ok, failIf_ok, pure_ok,
    checkpointFingerprint_ok, ne_eq, not_or, not_not]
  constructor
  · rintro ⟨digest, hdigest, first, hfirst, -, hgen, last, hlast, pass, hpass, completed,
      h, summaryDigest, ⟨-, -, _, ⟨hsig, rfl⟩, hsum⟩, hres⟩
    exact ⟨digest, first, last, pass, completed, summaryDigest, hdigest, hfirst, hgen, hlast,
      hpass, h, hsig, hsum, hres⟩
  · rintro ⟨digest, first, last, pass, completed, summaryDigest, hdigest, hfirst, hgen, hlast,
      hpass, h, hsig, hsum, hres⟩
    exact ⟨digest, hdigest, first, hfirst, (), hgen, last, hlast, pass, hpass, completed,
      h, summaryDigest, ⟨(), trivial, _, ⟨hsig, rfl⟩, hsum⟩, hres⟩

section

variable (h : ConsentRecoverySummaryV1.fromArchiveSequence C segments = .ok summary)

include h

lemma summarises_of_ok : Summarises C segments summary := by
  obtain ⟨digest, first, last, pass, completed, summaryDigest, hdigest, -, -, hlast, hpass,
    hcmp, hsig, hsum, rfl⟩ := fromArchiveSequence_ok.mp h
  have hrecorded := recorded_of_run hpass
  have hid : ∀ {s : Uuid} {state : SessionAccumulator} {r : ConsentRecoverySessionV1},
      state.complete s = .ok r → s = r.sessionId := by
    intro s state r hcom
    obtain ⟨-, event, seq, -, -, hr⟩ := complete_ok.mp hcom
    rw [← hr]
  have hkeys : pass.sessions.toList.map Prod.fst =
      completed.map ConsentRecoverySessionV1.sessionId := by
    rw [← List.forall₂_eq_eq_eq, List.forall₂_map_left_iff, List.forall₂_map_right_iff]
    exact (mapM_ok.mp hcmp).imp (fun _ _ hcom => hid hcom)
  refine ⟨rfl, hdigest, ⟨last, hlast, rfl⟩, rfl, Std.TreeSet.ordered_toList, ?_, ?_, ?_, ?_⟩
  · intro id
    rw [Std.TreeSet.mem_toList]
    exact hrecorded.mem_ids id
  · have hsor : (completed.map ConsentRecoverySessionV1.sessionId).Pairwise
        (fun a b => compareBytes a b = .lt) := by
      rw [← hkeys]
      exact List.pairwise_map.mpr Std.TreeMap.ordered_keys_toList
    exact List.pairwise_map.mp hsor
  · intro r
    rw [mem_of_mapM hcmp]
    constructor
    · rintro ⟨⟨s, state⟩, hmem, hcom⟩
      have hstate := Std.TreeMap.mem_toList_iff_getElem?_eq_some.mp hmem
      obtain rfl := hid hcom
      exact (hrecorded.complete_iff hstate).mp hcom
    · rintro ⟨g, hg, hr⟩
      have hne : sessionEntries r.sessionId (archivedEntries segments) ≠ [] := hg ▸ g.entries_ne_nil
      obtain ⟨state, hstate⟩ := hrecorded.held_iff.mpr hne
      exact ⟨(r.sessionId, state), Std.TreeMap.mem_toList_iff_getElem?_eq_some.mpr hstate,
        (hrecorded.complete_iff hstate).mpr ⟨g, hg, hr⟩⟩
  · unfold consentRecoverySummaryDigest
    simp only [bind_ok, failIf_ok, mapError_ok, checkpointFingerprint_ok, pure_ok, ne_eq, not_not]
    -- the digest does not cover the field that holds it
    exact ⟨(), trivial, _, ⟨hsig, rfl⟩, hsum⟩

lemma compactable_of_ok : Compactable C segments := by
  obtain ⟨digest, first, last, pass, completed, summaryDigest, hdigest, hfirst, hgen, -, hpass,
    hcom, -⟩ := fromArchiveSequence_ok.mp h
  have hrecorded := recorded_of_run hpass
  obtain ⟨hne, hverify, -⟩ := ledgerArchiveSequenceDigest_ok.mp hdigest
  refine ⟨hne, hverify, ?_, hrecorded.nodup, ?_⟩
  · intro first' hfirst'
    rw [hfirst] at hfirst'
    cases hfirst'
    exact hgen
  · intro s hs
    obtain ⟨state, hstate⟩ := hrecorded.held_iff.mpr hs
    obtain ⟨r, hr⟩ := exists_mapM.mp ⟨_, hcom⟩ (s, state)
      (Std.TreeMap.mem_toList_iff_getElem?_eq_some.mpr hstate)
    obtain ⟨g, hg, -⟩ := (hrecorded.complete_iff hstate).mp hr
    exact ⟨g, hg⟩

end

lemma ok_of_compactable (hlimit : WithinLimits (archivedEntries segments))
    (h : Compactable C segments) :
    ∃ summary, ConsentRecoverySummaryV1.fromArchiveSequence C segments = .ok summary := by
  obtain ⟨first, rest, rfl⟩ := List.exists_cons_of_ne_nil h.nonempty
  have hdigest := ledgerArchiveSequenceDigest_ok.mpr ⟨h.nonempty, h.verified, rfl⟩
  have hruns : ∀ s, ((sessionEntries s (archivedEntries (first :: rest))).foldlM
      apply .pending).isSome := by
    intro s
    by_cases hnil : sessionEntries s (archivedEntries (first :: rest)) = []
    · rw [hnil]
      rfl
    · obtain ⟨g, hg⟩ := h.ended s hnil
      obtain ⟨acc, hacc, -⟩ := run_history g s
      rw [← hg, hacc]
      rfl
  obtain ⟨pass, hpass⟩ := run_of_recordable hlimit h.ids_nodup hruns
  have hrecorded := recorded_of_run hpass
  obtain ⟨completed, hcom⟩ : ∃ completed,
      pass.sessions.toList.mapM (fun p => p.2.complete p.1) = .ok completed := by
    rw [exists_mapM]
    rintro ⟨s, state⟩ hmem
    have hstate := Std.TreeMap.mem_toList_iff_getElem?_eq_some.mp hmem
    obtain ⟨g, hg⟩ := h.ended s (hrecorded.held_iff.mp ⟨state, hstate⟩)
    exact ⟨g.record s, (hrecorded.complete_iff hstate).mpr ⟨g, hg, rfl⟩⟩
  obtain ⟨pk, -, hsig⟩ := signedBy_of_extension (archive_extends h.verified)
  exact ⟨_, fromArchiveSequence_ok.mpr ⟨_, first, _, pass, completed, _, hdigest, rfl,
    h.genesis first rfl, List.getLast?_eq_some_getLast (List.cons_ne_nil _ _), hpass, hcom,
    ⟨pk, hsig⟩, rfl, rfl⟩⟩

variable (C) in
/-- **Recovery summaries.** Within the limits an archive sequence is summarised exactly when it
is compactable, and the summary then lists, in order and without repetition, the ids of all
signed decisions and the records of all sessions. -/
theorem archive_summary_exact (segments : List LedgerArchiveSegment)
    (hlimits : WithinLimits (archivedEntries segments)) :
    ((∃ summary, ConsentRecoverySummaryV1.fromArchiveSequence C segments = .ok summary) ↔
      Compactable C segments) ∧
    ∀ summary, ConsentRecoverySummaryV1.fromArchiveSequence C segments = .ok summary →
      Summarises C segments summary := by
  refine ⟨⟨?_, ok_of_compactable hlimits⟩, fun summary h => summarises_of_ok h⟩
  rintro ⟨summary, h⟩
  exact compactable_of_ok h

def sampleEntries (seq : UInt64) (prevHash : FixedBytes 32) :
    List ConsentEventRecord → List LedgerEntry
  | [] => []
  | event :: events =>
    let entryHash :=
      (computeEntryHash sampleCrypto ⟨seq, prevHash, sampleTime, event⟩).toOption.getD zeroHash
    ⟨seq, prevHash, sampleTime, event, entryHash,
      sampleCrypto.ed25519.sign (sampleKey 7).val entryHash.toList⟩ ::
      sampleEntries (seq + 1) entryHash events

def sampleConsentEvent (session request : UInt8) (kind : ConsentKind) : ConsentEventRecord :=
  { sampleEvent kind with
    sessionId := .replicate 16 session
    requestId := .replicate 16 request }

def sampleCeremonies : List LedgerEntry :=
  sampleEntries 0 zeroHash
    [sampleConsentEvent 9 1 .request, sampleConsentEvent 9 8 .approval,
      sampleConsentEvent 4 3 .denial, sampleConsentEvent 4 3 .athenaTriage,
      sampleConsentEvent 9 5 .revocation]

def sampleCeremonyArchive : List LedgerArchiveSegment :=
  [sampleSegment (sampleCheckpoint (sampleKey 7) [] 10) sampleCeremonies
    (sampleCheckpoint (sampleKey 7) sampleCeremonies 20)]

theorem archive_summary_exact_sample :
    Compactable sampleCrypto sampleCeremonyArchive ∧
      ∃ summary, Summarises sampleCrypto sampleCeremonyArchive summary ∧
        summary.replayActionIds = [3, 5, 8].map (.replicate 16) ∧
        summary.sessions.map (fun r => (r.sessionId.head, r.terminalSequence)) =
          [(4, 2), (9, 4)] := by
  have hlimits : WithinLimits (archivedEntries sampleCeremonyArchive) := by
    constructor
    · exact (List.toFinset_card_le _).trans (by decide +kernel)
    · exact (List.toFinset_card_le _).trans (by decide +kernel)
  have hvalue : ((ConsentRecoverySummaryV1.fromArchiveSequence sampleCrypto
      sampleCeremonyArchive).toOption.map (fun summary => (summary.replayActionIds,
        summary.sessions.map (fun r => (r.sessionId.head, r.terminalSequence))))) =
      some ([3, 5, 8].map (.replicate 16), [(4, 2), (9, 4)]) := by
    decide +kernel
  obtain ⟨hiff, hsummarises⟩ :=
    archive_summary_exact sampleCrypto sampleCeremonyArchive hlimits
  cases hresult : ConsentRecoverySummaryV1.fromArchiveSequence sampleCrypto
      sampleCeremonyArchive with
  | error e =>
    rw [hresult] at hvalue
    cases hvalue
  | ok summary =>
    rw [hresult] at hvalue
    obtain ⟨hids, hsessions⟩ := Prod.mk.inj (Option.some.inj hvalue)
    exact ⟨hiff.mp ⟨summary, hresult⟩, summary, hsummarises summary hresult, hids, hsessions⟩

end XeniaPeer.Consent
