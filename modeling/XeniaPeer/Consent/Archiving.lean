import XeniaPeer.Consent.Decision
import XeniaPeer.Consent.Recovery

/-!
# Which decision histories can be archived

The consent surfaces of all sessions write into one ledger, each through `applyConsentDecision`.

Main result: `decisions_compactable_iff`.
-/

namespace XeniaPeer.Consent

open Foundation Ledger Operator

variable {C : OperatorCrypto} {E : Type}

/-! ## Decisions on many sessions -/

structure DecisionCall (C : OperatorCrypto) (E : Type) where
  cfg : ConsentConfig C
  moment : Moment C E
  decoded : DecodedConsent

structure SharedDesk (C : Crypto) where
  consents : Uuid → Option Bool × Bool
  ledger : Chain C

namespace SharedDesk

def start (signingKey : C.ed25519.SigningKey) : SharedDesk C.toCrypto :=
  ⟨fun _ => (none, false), .new signingKey⟩

def step (d : SharedDesk C.toCrypto) (call : DecisionCall C E) : SharedDesk C.toCrypto :=
  let consent := d.consents call.cfg.sessionUuid
  let after := (applyConsentDecision call.cfg call.moment call.decoded
    ⟨consent.1, consent.2, d.ledger⟩).2
  ⟨Function.update d.consents call.cfg.sessionUuid (after.grant, after.revoked), after.ledger⟩

def run (d : SharedDesk C.toCrypto) (calls : List (DecisionCall C E)) : SharedDesk C.toCrypto :=
  calls.foldl step d

def leaves (d : SharedDesk C.toCrypto) (call : DecisionCall C E) : Option ConsentEventRecord :=
  if (commitAudit call.cfg call.moment call.decoded d.ledger).1.isOk then
    call.decoded.authorized.map (fun authorized => operatorConsentAuditEvent call.cfg.text
      authorized call.cfg.sessionUuid call.moment.requestId)
  else none

def recorded : SharedDesk C.toCrypto → List (DecisionCall C E) → List ConsentEventRecord
  | _, [] => []
  | d, call :: calls => (d.leaves call).toList ++ recorded (d.step call) calls

lemma step_entries (d : SharedDesk C.toCrypto) (call : DecisionCall C E) :
    (d.step call).ledger.entries.map LedgerEntry.event =
      d.ledger.entries.map LedgerEntry.event ++ (d.leaves call).toList := by
  have h : ∀ (s : SessionConsent C.toCrypto) (action : ConsentAction),
      (s.takeEffect action).2.ledger = s.ledger := by
    intro s action
    cases action <;> rfl
  unfold step leaves
  rcases applyConsentDecision_cases call.cfg call.moment call.decoded
    ⟨(d.consents call.cfg.sessionUuid).1, (d.consents call.cfg.sessionUuid).2, d.ledger⟩ with
    ⟨hfl, hsame⟩ | ⟨hok, ledger, hatt, heff⟩
  · simp only [hsame]
    rw [if_neg (by simp [hfl])]
    simp
  · simp only [heff, h]
    rw [if_pos hok]
    cases hatt with
    | unattributed hnone => simp [hnone]
    | entry hsome hevent => simp [hsome, hevent]

lemma run_entries (d : SharedDesk C.toCrypto) (calls : List (DecisionCall C E)) :
    (d.run calls).ledger.entries.map LedgerEntry.event =
      d.ledger.entries.map LedgerEntry.event ++ d.recorded calls := by
  induction calls generalizing d with
  | nil => simp [run, recorded]
  | cons call calls ih =>
    have hnext := ih (d.step call)
    rw [step_entries, List.append_assoc] at hnext
    exact hnext

lemma recorded_kind (d : SharedDesk C.toCrypto) (calls : List (DecisionCall C E)) :
    ∀ event ∈ d.recorded calls, signedKind event.kind = true := by
  induction calls generalizing d with
  | nil => simp [recorded]
  | cons call calls ih =>
    intro event hevent
    rcases List.mem_append.mp hevent with hnow | hlat
    · unfold leaves at hnow
      split at hnow
      · obtain ⟨authorized, -, rfl⟩ := Option.map_eq_some_iff.mp (Option.mem_toList.mp hnow)
        cases hact : authorized.action <;>
          simp [operatorConsentAuditEvent, hact, auditKind, signedKind]
      · cases hnow
    · exact ih _ event hlat

end SharedDesk

/-! ## Settled sessions -/

/-- The decisions of a session that has none or has ended. -/
def Settled (kinds : List ConsentKind) : Prop :=
  kinds = [] ∨ kinds = [.denial] ∨ kinds = [.revocation] ∨ kinds = [.approval, .revocation]

def kindsOf (sessionId : Uuid) (events : List ConsentEventRecord) : List ConsentKind :=
  (events.filter (fun event => event.sessionId = sessionId)).map ConsentEventRecord.kind

lemma kinds_of_history {h : SessionHistory}
    (hsign : ∀ e ∈ h.entries, signedKind e.event.kind = true) :
    Settled (h.entries.map (fun e => e.event.kind)) := by
  have hreq : h.requests = [] := by
    rw [List.eq_nil_iff_forall_not_mem]
    intro e he
    have hkind := hsign e (List.mem_append_left _ he)
    rw [h.requests_kind e he] at hkind
    cases hkind
  have hter := hsign h.terminal (by simp [SessionHistory.entries])
  unfold SessionHistory.entries
  rw [hreq]
  rcases h.terminal_kind with ⟨hkind, hnone⟩ | hkind | hkind
  · exact .inr (.inl (by simp [hnone, hkind]))
  · cases happ : h.approval with
    | none => exact .inr (.inr (.inl (by simp [hkind])))
    | some e =>
      have he := h.approval_kind e happ
      exact .inr (.inr (.inr (by simp [hkind, he])))
  · rw [hkind] at hter
    cases hter

lemma history_of_kinds {xs : List LedgerEntry} (hne : xs ≠ [])
    (h : Settled (xs.map (fun e => e.event.kind))) : ∃ g : SessionHistory, g.entries = xs := by
  rcases h with h | h | h | h
  · exact absurd (List.map_eq_nil_iff.mp h) hne
  · obtain ⟨e, rfl, hkind⟩ := List.map_eq_singleton_iff.mp h
    exact ⟨⟨[], none, e, by simp, by simp, .inl ⟨hkind, rfl⟩⟩, rfl⟩
  · obtain ⟨e, rfl, hkind⟩ := List.map_eq_singleton_iff.mp h
    exact ⟨⟨[], none, e, by simp, by simp, .inr (.inl hkind)⟩, rfl⟩
  · obtain ⟨a, rest, rfl, happ, hrest⟩ := List.map_eq_cons_iff.mp h
    obtain ⟨t, rfl, hkind⟩ := List.map_eq_singleton_iff.mp hrest
    exact ⟨⟨[], some a, t, by simp, by simpa using happ, .inr (.inl hkind)⟩, rfl⟩

/-! ## Archiving a run -/

variable {entries : List LedgerEntry}

lemma sessionEntries_of_signed (h : ∀ e ∈ entries, signedKind e.event.kind = true)
    (s : Uuid) : sessionEntries s entries = entries.filter (fun e => e.event.sessionId = s) := by
  refine List.filter_congr ?_
  intro e he
  have hkind : e.event.kind ≠ .athenaTriage := by
    intro hk
    have := h e he
    rw [hk] at this
    cases this
  simp [sessionKey, hkind]

lemma decisionIds_of_signed (h : ∀ e ∈ entries, signedKind e.event.kind = true) :
    decisionIds entries = entries.map (fun e => e.event.requestId) := by
  unfold decisionIds
  rw [List.filter_eq_self.mpr h]

lemma kindsOf_events (s : Uuid) (entries : List LedgerEntry) :
    kindsOf s (entries.map LedgerEntry.event) =
      (entries.filter (fun e => e.event.sessionId = s)).map (fun e => e.event.kind) := by
  unfold kindsOf
  rw [List.filter_map, List.map_map]
  rfl

/-- A verified archive from genesis that holds all entries of the ledger. -/
structure ArchiveOf (ledger : Chain C.toCrypto) (segments : List LedgerArchiveSegment) : Prop where
  nonempty : segments ≠ []
  verified : verifyLedgerArchiveSequence C.toCrypto segments = .ok ()
  genesis : ∀ first ∈ segments.head?,
    first.baseCheckpoint.entryCount = 0 ∧ first.baseCheckpoint.headHash = zeroHash
  entries : archivedEntries segments = ledger.entries

/-- **Archiving decisions.** Within the limits, an archive from genesis of the ledger that a run
of decisions leaves is summarised exactly when the request ids of the recorded decisions are
distinct and every session has recorded nothing, one denial, or one revocation with at most one
approval in front of it and nothing after. -/
theorem decisions_compactable_iff (signingKey : C.ed25519.SigningKey)
    (calls : List (DecisionCall C E)) (segments : List LedgerArchiveSegment)
    (harchive : ArchiveOf ((SharedDesk.start signingKey).run calls).ledger segments)
    (hlimits : WithinLimits (archivedEntries segments)) :
    (∃ summary, ConsentRecoverySummaryV1.fromArchiveSequence C.toCrypto segments = .ok summary) ↔
      (((SharedDesk.start signingKey).recorded calls).map ConsentEventRecord.requestId).Nodup ∧
        ∀ s, Settled (kindsOf s ((SharedDesk.start signingKey).recorded calls)) := by
  have hevents : (archivedEntries segments).map LedgerEntry.event =
      (SharedDesk.start signingKey).recorded calls := by
    rw [harchive.entries, SharedDesk.run_entries]
    rfl
  have hsigned : ∀ e ∈ archivedEntries segments, signedKind e.event.kind = true := by
    intro e he
    refine (SharedDesk.start signingKey).recorded_kind calls e.event ?_
    rw [← hevents]
    exact List.mem_map_of_mem he
  have hids : decisionIds (archivedEntries segments) =
      ((SharedDesk.start signingKey).recorded calls).map ConsentEventRecord.requestId := by
    rw [decisionIds_of_signed hsigned, ← hevents, List.map_map]
    rfl
  have hkinds : ∀ s, kindsOf s ((SharedDesk.start signingKey).recorded calls) =
      (sessionEntries s (archivedEntries segments)).map (fun e => e.event.kind) := by
    intro s
    rw [← hevents, kindsOf_events, sessionEntries_of_signed hsigned]
  rw [← hids]
  constructor
  · rintro ⟨summary, hsummary⟩
    have hcompactable := compactable_of_ok hsummary
    refine ⟨hcompactable.ids_nodup, ?_⟩
    intro s
    rw [hkinds s]
    by_cases hnil : sessionEntries s (archivedEntries segments) = []
    · rw [hnil]
      exact .inl rfl
    · obtain ⟨g, hg⟩ := hcompactable.ended s hnil
      rw [← hg]
      refine kinds_of_history ?_
      intro e he
      rw [hg] at he
      exact hsigned e (List.mem_of_mem_filter he)
  · rintro ⟨hnodup, hsettled⟩
    refine ok_of_compactable hlimits
      ⟨harchive.nonempty, harchive.verified, harchive.genesis, hnodup, ?_⟩
    intro s hne
    refine history_of_kinds hne ?_
    rw [← hkinds s]
    exact hsettled s

/-! ## Histories that are refused -/

def sampleOperatorCrypto : OperatorCrypto :=
  { sampleCrypto with mlDsa65 := recordScheme (.replicate 3309 0) [] }

def sampleCall (session request : UInt8) (action : ConsentAction) :
    DecisionCall sampleOperatorCrypto String where
  cfg :=
    { text := sampleText []
      requireOperatorAuth := true
      daemon := ⟨sampleKey 7, .replicate 1952 7⟩
      sessionId := .replicate 16 session
      scopeDigest := zeroHash
      sessionUuid := .replicate 16 session
      sessionUuid_eq := rfl }
  moment := ⟨⟨[], false, OperatorPolicy.distinctKeys_nil⟩, ⟨[], false⟩, sampleTime, sampleTime,
    .replicate 16 request, fun _ => .ok ()⟩
  decoded := ⟨action, some ⟨action, "alice", .approver, .replicate 32 1⟩⟩

def sampleLedger (calls : List (DecisionCall sampleOperatorCrypto String)) : Chain sampleCrypto :=
  ((SharedDesk.start (C := sampleOperatorCrypto) (sampleKey 7).val).run calls).ledger

def sampleLedgerArchive (calls : List (DecisionCall sampleOperatorCrypto String)) :
    List LedgerArchiveSegment :=
  (LedgerArchiveSegment.fromChain (sampleLedger calls)
    (sampleCheckpoint (sampleKey 7) [] 10) 20).toOption.toList

lemma withinLimits_of_length (h : entries.length ≤ 100000) : WithinLimits entries := by
  constructor
  · refine (List.toFinset_card_le _).trans (le_trans ?_ h)
    unfold decisionIds
    rw [List.length_map]
    exact List.length_filter_le _ _
  · exact (List.toFinset_card_le _).trans ((List.length_filterMap_le _ _).trans h)

abbrev SampleArchived (calls : List (DecisionCall sampleOperatorCrypto String)) : Prop :=
  sampleLedgerArchive calls ≠ [] ∧
    verifyLedgerArchiveSequence sampleCrypto (sampleLedgerArchive calls) = .ok () ∧
    (∀ first ∈ (sampleLedgerArchive calls).head?,
      first.baseCheckpoint.entryCount = 0 ∧ first.baseCheckpoint.headHash = zeroHash) ∧
    archivedEntries (sampleLedgerArchive calls) = (sampleLedger calls).entries ∧
    (archivedEntries (sampleLedgerArchive calls)).length ≤ 100000

lemma archiveOf_sample {calls : List (DecisionCall sampleOperatorCrypto String)}
    (h : SampleArchived calls) :
    ArchiveOf (C := sampleOperatorCrypto) (sampleLedger calls) (sampleLedgerArchive calls) ∧
      WithinLimits (archivedEntries (sampleLedgerArchive calls)) := by
  obtain ⟨hne, hverify, hgen, hent, hlen⟩ := h
  exact ⟨⟨hne, hverify, hgen, hent⟩, withinLimits_of_length hlen⟩

/-- Ledgers that decisions leave and that no archive from genesis can be summarised of: a session
that was approved and ended without a revocation, one that was approved twice, and one that was
denied after its approval. -/
theorem ended_sessions_refused :
    let approved := [sampleCall 9 1 .approve]
    let repeated := [sampleCall 9 1 .approve, sampleCall 9 2 .approve, sampleCall 9 3 .revoke]
    let contradicted := [sampleCall 9 1 .approve, sampleCall 9 2 .deny]
    let refused (calls : List (DecisionCall sampleOperatorCrypto String))
        (error : ConsentRecoveryError) : Prop :=
      ArchiveOf (C := sampleOperatorCrypto) (sampleLedger calls) (sampleLedgerArchive calls) ∧
        WithinLimits (archivedEntries (sampleLedgerArchive calls)) ∧
        ConsentRecoverySummaryV1.fromArchiveSequence sampleCrypto (sampleLedgerArchive calls) =
          .error error
    refused approved (.incompleteSession (.replicate 16 9)) ∧
      refused repeated (.invalidTransition (.replicate 16 9) 1) ∧
      refused contradicted (.invalidTransition (.replicate 16 9) 1) := by
  intro approved repeated contradicted refused
  have harchive : ∀ calls ∈ [approved, repeated, contradicted], SampleArchived calls := by
    decide +kernel
  have hrefused : ∀ calls ∈ [approved, repeated, contradicted], ∀ error,
      ConsentRecoverySummaryV1.fromArchiveSequence sampleCrypto (sampleLedgerArchive calls) =
        .error error → refused calls error := by
    intro calls hcalls error herror
    obtain ⟨hof, hlimits⟩ := archiveOf_sample (harchive calls hcalls)
    exact ⟨hof, hlimits, herror⟩
  refine ⟨hrefused _ (by simp) _ ?_, hrefused _ (by simp) _ ?_, hrefused _ (by simp) _ ?_⟩
  · decide +kernel
  · decide +kernel
  · decide +kernel

/-- One session approved and revoked, another one denied in between. -/
theorem decisions_compactable_iff_sample :
    let calls := [sampleCall 9 1 .approve, sampleCall 4 2 .deny, sampleCall 9 3 .revoke]
    ∃ summary, ConsentRecoverySummaryV1.fromArchiveSequence sampleCrypto
      (sampleLedgerArchive calls) = .ok summary := by
  intro calls
  have hvalues : SampleArchived calls := by decide +kernel
  obtain ⟨harchive, hlimits⟩ := archiveOf_sample hvalues
  refine (decisions_compactable_iff (C := sampleOperatorCrypto) (sampleKey 7).val calls _ harchive
    hlimits).mpr ⟨by decide +kernel, ?_⟩
  -- any other session has recorded nothing
  intro s
  by_cases h9 : s = .replicate 16 9
  · subst h9
    exact .inr (.inr (.inr (by decide +kernel)))
  by_cases h4 : s = .replicate 16 4
  · subst h4
    exact .inr (.inl (by decide +kernel))
  · refine .inl ?_
    have hsessions : ∀ event ∈ (SharedDesk.start (C := sampleOperatorCrypto)
        (sampleKey 7).val).recorded calls, event.sessionId = .replicate 16 9 ∨
          event.sessionId = .replicate 16 4 := by
      decide +kernel
    unfold kindsOf
    rw [List.map_eq_nil_iff, List.filter_eq_nil_iff]
    intro event hevent heq
    have hs : event.sessionId = s := of_decide_eq_true heq
    rcases hsessions event hevent with h | h
    · exact h9 (hs.symm.trans h)
    · exact h4 (hs.symm.trans h)

end XeniaPeer.Consent
