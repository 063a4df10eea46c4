import XeniaPeer.Consent.Recovery
import XeniaPeer.Consent.Server
import XeniaPeer.Foundation.Counting

/-!
# Signed decisions that come back

An operator signs a decision under the nonce of a session token. The server keeps no record of the
decisions it has taken: it writes each under a fresh request id, and the replay index that
compaction keeps (`verifyRecoverySuffixCompatibility`, `consent_compaction.rs`) looks at these ids
only. So an approval that the server takes a second time is recorded a second time
(`approval_recorded_twice`); without that, entries are bounded by signatures
(`attributions_bounded`).
-/

namespace XeniaPeer.Consent

open Foundation Ledger Operator

/-! ## What the server records -/

variable {C : OperatorCrypto} {E : Type}

def ServerEvent.request? (cfg : ConsentConfig C) : ServerEvent C E → Option AuthenticatedConsentAction
  | .message (some text) _ => (parseAuthenticatedConsentAction cfg.text text).toOption
  | _ => none

def signedDecision (request : AuthenticatedConsentAction) : ConsentAction × FixedBytes 16 :=
  (request.action, request.token.token.tokenNonce)

def decisionTranscript (cfg : ConsentConfig C) (d : ConsentAction × FixedBytes 16) : Transcript :=
  .consentAction d.1 cfg.sessionId d.2 cfg.scopeDigest

/-- The event brings a decision that the server takes: it is serving, the message is authorized at
this moment, and the entry can be committed. -/
def Server.takes (cfg : ConsentConfig C) (s : Server C.toCrypto) (e : ServerEvent C E) : Bool :=
  match s.delivery cfg e with
  | .decision decoded m => (commitAudit cfg m decoded s.consent.ledger).1.isOk
  | _ => false

lemma Server.step_of_not_takes {cfg : ConsentConfig C} {s : Server C.toCrypto} {e : ServerEvent C E}
    (h : s.takes cfg e = false) : (s.step cfg e).consent = s.consent := by
  have hdesk := congrArg Desk.consent (step_desk cfg s e)
  rcases Desk.step_consent_cases cfg s.desk (s.delivery cfg e) with hsame | ⟨decoded, m, hdel, hnew⟩
  · exact hdesk.trans hsame
  · simp only [takes, hdel] at h
    refine hdesk.trans (hnew.trans ?_)
    rcases applyConsentDecision_cases cfg m decoded s.consent with ⟨-, href⟩ | ⟨hok, -⟩
    · exact congrArg Prod.snd href
    · cases hok.symm.trans h

lemma decisionTranscript_injective (cfg : ConsentConfig C) :
    Function.Injective (decisionTranscript cfg) := by
  rintro ⟨action, nonce⟩ ⟨action', nonce'⟩ h
  simp only [decisionTranscript, Transcript.consentAction.injEq, true_and, and_true] at h
  rw [h.1, h.2]

lemma auditKind_injective : Function.Injective auditKind := by
  intro a b h
  cases a <;> cases b <;> first | rfl | cases h

structure Audited (C : Crypto) where
  server : Server C
  recorded : List (ConsentAction × FixedBytes 16)

namespace Audited

def entries (a : Audited C.toCrypto) : List LedgerEntry := a.server.consent.ledger.entries

def start (consent : SessionConsent C.toCrypto) : Audited C.toCrypto := ⟨.start consent, []⟩

def step (cfg : ConsentConfig C) (a : Audited C.toCrypto) (e : ServerEvent C E) :
    Audited C.toCrypto :=
  let server := a.server.step cfg e
  ⟨server,
    if server.consent.ledger.entries = a.server.consent.ledger.entries then a.recorded
    else a.recorded ++ ((e.request? cfg).map signedDecision).toList⟩

/-- The server does not take a recorded approval again. -/
def NotReplayed (cfg : ConsentConfig C) (a : Audited C.toCrypto) (e : ServerEvent C E) : Prop :=
  a.server.takes cfg e = true →
    ∀ request ∈ e.request? cfg, request.action = .approve → signedDecision request ∉ a.recorded

instance (cfg : ConsentConfig C) (a : Audited C.toCrypto) (e : ServerEvent C E) :
    Decidable (NotReplayed cfg a e) :=
  inferInstanceAs (Decidable (_ → ∀ request ∈ e.request? cfg, _))

/-- A recorded decision that comes again is not recorded, or the replay index finds it. -/
def ReplayCaught (cfg : ConsentConfig C) (summary : ReplayIndex)
    (a : Audited C.toCrypto) (e : ServerEvent C E) : Prop :=
  ∀ request ∈ e.request? cfg, signedDecision request ∈ a.recorded →
    (a.step cfg e).entries = a.entries ∨
      verifyRecoverySuffixCompatibility summary (a.step cfg e).entries ≠ .ok ()

end Audited

def attributes (cfg : ConsentConfig C) (key : FixedBytes 32) (action : ConsentAction)
    (entry : LedgerEntry) : Bool :=
  entry.event.sourceId = key ∧ entry.event.sessionId = cfg.sessionUuid ∧
    entry.event.kind = auditKind action

section Attribution

variable (cfg : ConsentConfig C) (W : SigningWorld C cfg.daemon)

def signedDecisions (key : FixedBytes 32) (action : ConsentAction) : Set Transcript :=
  {t | t.encode ∈ W.signedEd key ∧
    ∃ nonce digest, t = .consentAction action cfg.sessionId nonce digest}

def Attests (entry : LedgerEntry) (d : ConsentAction × FixedBytes 16) : Prop :=
  entry.event.sessionId = cfg.sessionUuid ∧ entry.event.kind = auditKind d.1 ∧
    (decisionTranscript cfg d).encode ∈ W.signedEd entry.event.sourceId

/-! ## Each signed decision is recorded once -/

lemma Server.step_entries_cases (hauth : cfg.requireOperatorAuth = true)
    (s : Server C.toCrypto) (e : ServerEvent C E) :
    (s.step cfg e).consent.ledger.entries = s.consent.ledger.entries ∨
      ∃ request entry, s.phase = .serving ∧ e.request? cfg = some request ∧
        Attests cfg W entry (signedDecision request) ∧
        (s.step cfg e).consent.ledger.entries = s.consent.ledger.entries ++ [entry] ∧
        (request.action ≠ .approve → (s.step cfg e).phase = .stopped) := by
  by_cases hphase : s.phase = .serving
  · cases e with
    | message text m =>
      rcases step_message hphase text m with ⟨-, hstep⟩ | ⟨decoded, hdec, hstep⟩
      · rw [hstep]
        exact .inl rfl
      · obtain ⟨text, rfl, hdec⟩ := Option.bind_eq_some_iff.mp hdec
        rw [hstep]
        rcases authorized_decision_cases W hauth hdec s.consent with
          h | ⟨request, operator, entry, hpar, hbin, -, hevent, heff⟩
        · rw [h]
          exact .inl rfl
        · rw [heff]
          have hreq : (ServerEvent.message (some text) m).request? cfg = some request := by
            simp [ServerEvent.request?, hpar, Except.toOption]
          have hatt : Attests cfg W entry (signedDecision request) := by
            rw [Attests, hevent]
            exact ⟨rfl, rfl, hbin.signedEd⟩
          refine .inr ⟨request, entry, hphase, hreq, hatt, ?_, ?_⟩
          · cases request.action <;> rfl
          · intro hacn
            cases hact : request.action with
            | approve => exact absurd hact hacn
            | deny => simp [SessionConsent.takeEffect]
            | revoke => simp [SessionConsent.takeEffect]
    | _ => exact .inl (by simp [step, hphase])
  · refine .inl ?_
    cases hp : s.phase with
    | serving => exact absurd hp hphase
    | accepting => cases e <;> simp [step, hp]
    | stopped => cases e <;> simp [step, hp]

lemma Server.step_of_stopped {s : Server C.toCrypto} (h : s.phase = .stopped)
    (e : ServerEvent C E) : s.step cfg e = s := by
  cases e <;> simp [step, h]

/-- The new entries are the records of pairwise different signed decisions, and the server has
stopped if one of these is not an approval. -/
structure Accounted (before : List LedgerEntry) (a : Audited C.toCrypto) : Prop where
  matched : ∃ new, a.entries = before ++ new ∧ List.Forall₂ (Attests cfg W) new a.recorded
  nodup : a.recorded.Nodup
  terminal : ∀ d ∈ a.recorded, d.1 ≠ .approve → a.server.phase = .stopped

lemma Accounted.step (hauth : cfg.requireOperatorAuth = true) {before : List LedgerEntry}
    {a : Audited C.toCrypto} (h : Accounted cfg W before a) {e : ServerEvent C E}
    (hmeets : a.NotReplayed cfg e) : Accounted cfg W before (a.step cfg e) := by
  rcases Server.step_entries_cases cfg W hauth a.server e with
    hsame | ⟨request, entry, hphase, hreq, hatt, hgro, hstp⟩
  · have hrecorded : (a.step cfg e).recorded = a.recorded := if_pos hsame
    obtain ⟨new, hnew, hmat⟩ := h.matched
    refine ⟨⟨new, hsame.trans hnew, hrecorded ▸ hmat⟩, hrecorded ▸ h.nodup, ?_⟩
    intro d hd hact
    have hsto := h.terminal d (hrecorded ▸ hd) hact
    show (a.server.step cfg e).phase = .stopped
    rw [Server.step_of_stopped cfg hsto, hsto]
  · have hne : (a.server.step cfg e).consent.ledger.entries ≠ a.server.consent.ledger.entries := by
      rw [hgro]
      simp
    have htakes : a.server.takes cfg e = true := by
      by_contra hnot
      exact hne (by rw [Server.step_of_not_takes (by simpa using hnot)])
    have hrecorded : (a.step cfg e).recorded = a.recorded ++ [signedDecision request] := by
      simp [Audited.step, hne, hreq]
    have hser : ∀ d ∈ a.recorded, d.1 = .approve := by
      intro d hd
      by_contra hact
      rw [h.terminal d hd hact] at hphase
      cases hphase
    obtain ⟨new, hnew, hmat⟩ := h.matched
    refine ⟨⟨new ++ [entry], ?_, ?_⟩, ?_, ?_⟩
    · rw [← List.append_assoc, ← hnew]
      exact hgro
    · rw [hrecorded]
      exact List.rel_append hmat (.cons hatt .nil)
    · rw [hrecorded]
      refine List.nodup_append.mpr ⟨h.nodup, List.nodup_singleton _, ?_⟩
      rintro d hd _ hnws rfl
      obtain rfl := List.mem_singleton.mp hnws
      exact hmeets htakes request hreq (hser _ hd) hd
    · intro d hd hact
      rw [hrecorded] at hd
      rcases List.mem_append.mp hd with hold | hnws
      · exact absurd (hser d hold) hact
      · obtain rfl := List.mem_singleton.mp hnws
        exact hstp hact

lemma Accounted.run (hauth : cfg.requireOperatorAuth = true) (consent : SessionConsent C.toCrypto)
    {es : List (ServerEvent C E)}
    (hmeets : StepsMeet (Audited.step cfg) (Audited.NotReplayed cfg) (.start consent) es) :
    Accounted cfg W consent.ledger.entries (es.foldl (Audited.step cfg) (.start consent)) := by
  refine hmeets.invariant (fun a e h hstep => h.step cfg W hauth hstep) ⟨⟨[], ?_, .nil⟩, ?_, ?_⟩
  · exact (List.append_nil _).symm
  · exact List.nodup_nil
  · nofun

/-- **Attributions are bounded by signatures.** With operator authentication on and on a session
that is new to the ledger, every run in which the server takes no recorded approval again leaves at
most as many entries for a decision of an operator as that operator signed, and any decision that
does come back is caught. -/
theorem attributions_bounded (hauth : cfg.requireOperatorAuth = true)
    (consent : SessionConsent C.toCrypto)
    (hfresh : ∀ entry ∈ consent.ledger.entries, entry.event.sessionId ≠ cfg.sessionUuid)
    (es : List (ServerEvent C E))
    (hmeets : StepsMeet (Audited.step cfg) (Audited.NotReplayed cfg) (.start consent) es) :
    let a := es.foldl (Audited.step cfg) (.start consent)
    (∀ (key : FixedBytes 32) (action : ConsentAction),
      (a.entries.countP (attributes cfg key action) : ℕ∞) ≤ (signedDecisions cfg W key
      action).encard) ∧
    ∀ (summary : ReplayIndex) (e : ServerEvent C E), a.NotReplayed cfg e →
      a.ReplayCaught cfg summary e := by
  intro a
  have hacc : Accounted cfg W consent.ledger.entries a := Accounted.run cfg W hauth consent hmeets
  constructor
  · intro key action
    obtain ⟨new, hnew, hmatched⟩ := hacc.matched
    have hold : consent.ledger.entries.countP (attributes cfg key action) = 0 := by
      refine List.countP_eq_zero.mpr ?_
      intro entry hentry hattr
      exact hfresh entry hentry (of_decide_eq_true hattr).2.1
    rw [hnew, List.countP_append, hold, Nat.zero_add]
    refine countP_le_encard (decisionTranscript_injective cfg) hmatched hacc.nodup ?_
    intro entry d hattr hattests
    obtain ⟨hkey, -, hkind⟩ := of_decide_eq_true hattr
    obtain ⟨-, hkind', hsigned⟩ := hattests
    have haction : d.1 = action := auditKind_injective (hkind'.symm.trans hkind)
    rw [hkey] at hsigned
    exact ⟨hsigned, d.2, cfg.scopeDigest, by rw [decisionTranscript, haction]⟩
  · intro summary e hnot request hrequest hrecorded
    refine .inl ?_
    show (a.server.step cfg e).consent.ledger.entries = a.server.consent.ledger.entries
    cases htakes : a.server.takes cfg e with
    | false => rw [Server.step_of_not_takes htakes]
    | true =>
      -- what was recorded is no approval, so the server has stopped
      have haction : request.action ≠ .approve := fun hact =>
        hnot htakes request hrequest hact hrecorded
      rw [Server.step_of_stopped cfg (hacc.terminal _ hrecorded haction)]

end Attribution

/-! ## A signed approval that is delivered twice -/

lemma signedDecisions_approver :
    signedDecisions (sampleConfig (approverLog [.approve]) true) (approverWorld [.approve])
      (.replicate 32 1) .approve =
    {decisionTranscript (sampleConfig (approverLog [.approve]) true)
      (.approve, .replicate 16 5)} := by
  ext t
  constructor
  · rintro ⟨h, nonce, digest, rfl⟩
    have hmem := mem_numberedKeys.mp h
    rcases List.mem_cons.mp hmem with hdae | hmem
    · have hkey : (1 : UInt8) = 9 := congrArg Prod.fst hdae
      cases hkey
    · have hbytes := congrArg Prod.snd (List.mem_singleton.mp hmem)
      obtain ⟨-, -, rfl, rfl⟩ := consentActionTranscript_inj hbytes
      rfl
  · rintro rfl
    exact ⟨mem_numberedKeys.mpr (by decide +kernel), _, _, rfl⟩

/-- The approver signs one approval, somebody sends it twice: two entries attribute an approval to
that key, their request ids are different, and the replay index accepts them. -/
theorem approval_recorded_twice :
    let log := approverLog [.approve]
    let cfg := sampleConfig log true
    let key := .replicate 32 1
    let once := (connectionWith log ["Approve"]).foldl (Audited.step cfg) (.start (sampleConsent log))
    let again : ServerEvent (recordCrypto log) String :=
      .message (some "Approve") (sampleMoment log 4 true)
    let twice := once.step cfg again
    ¬ (twice.entries.countP (attributes cfg key .approve) : ℕ∞) ≤
        (signedDecisions cfg (approverWorld [.approve]) key .approve).encard ∧
      (twice.entries.map (fun entry => entry.event.requestId)).Nodup ∧
      verifyRecoverySuffixCompatibility ⟨[], []⟩ twice.entries = .ok () ∧
      ¬ once.ReplayCaught cfg ⟨[], []⟩ again := by
  intro log cfg key once again twice
  have hrun : twice.entries.countP (attributes cfg key .approve) = 2 ∧
      once.entries.length < twice.entries.length ∧
      (twice.entries.map (fun entry => entry.event.requestId)).Nodup ∧
      verifyRecoverySuffixCompatibility ⟨[], []⟩ twice.entries = .ok () ∧
      (again.request? cfg).map signedDecision = some (.approve, .replicate 16 5) ∧
      (.approve, .replicate 16 5) ∈ once.recorded := by decide +kernel
  obtain ⟨hcount, hgrown, hids, hindex, hsigned, hrecorded⟩ := hrun
  refine ⟨?_, hids, hindex, ?_⟩
  · rw [hcount, signedDecisions_approver, Set.encard_singleton]
    decide
  · intro hcaught
    obtain ⟨request, hrequest, hdecision⟩ := Option.map_eq_some_iff.mp hsigned
    rcases hcaught request hrequest (hdecision ▸ hrecorded) with hsame | hrejected
    · exact absurd (congrArg List.length hsame) (Nat.ne_of_gt hgrown)
    · exact hrejected hindex

/-- An approval, a copy of it that the server refuses because the operator is revoked at that moment,
and after a reconnect a revocation: two entries. -/
theorem attributions_bounded_approver :
    let log := approverLog [.approve, .revoke]
    let cfg := sampleConfig log true
    let copy : ServerEvent (recordCrypto log) String :=
      .message (some "Approve") { sampleMoment log 4 true with revocations := ⟨["ana"], false⟩ }
    let es := connectionWith log ["Approve"] ++ [copy, .closed] ++ connectionWith log ["Revoke"]
    let a := es.foldl (Audited.step cfg) (.start (sampleConsent log))
    a.entries.length = 2 ∧ ∀ (key : FixedBytes 32) (action : ConsentAction),
      (a.entries.countP (attributes cfg key action) : ℕ∞) ≤
        (signedDecisions cfg (approverWorld [.approve, .revoke]) key action).encard := by
  intro log cfg copy es a
  have hrun : a.entries.length = 2 ∧
      StepsMeet (Audited.step cfg) (Audited.NotReplayed cfg) (.start (sampleConsent log)) es := by
    decide +kernel
  refine ⟨hrun.1, ?_⟩
  exact (attributions_bounded cfg (approverWorld [.approve, .revoke]) rfl (sampleConsent log)
    (by simp [sampleConsent, Chain.new]) es hrun.2).1

end XeniaPeer.Consent
