import XeniaPeer.Foundation.Runs

/-!
# The M1 session machine

The lifecycle of a session (`m1_session.rs`): a session is offered, its consent is granted with a
set of permissions, and what the session then does (streaming, input, clipboard, files) is gated by
that set and written to an audit trail.

Main result: `session_audit_sound`.
-/

namespace XeniaPeer.Session

open Foundation

/-! ## States, permissions and events -/

inductive M1SessionState where
  | idle
  | offered
  | active
  | denied
  | revoked
  | ended
  | failed
deriving DecidableEq

inductive M1Permission where
  | streamFrame
  | streamTelemetry
  | streamAudio
  | injectInput
  | readHostClipboard
  | writeHostClipboard
  | sendFileToViewer
  | receiveFileFromViewer
deriving DecidableEq

structure M1PermissionSet where
  streamFrame : Bool := false
  streamTelemetry : Bool := false
  streamAudio : Bool := false
  injectInput : Bool := false
  readHostClipboard : Bool := false
  writeHostClipboard : Bool := false
  sendFileToViewer : Bool := false
  receiveFileFromViewer : Bool := false

namespace M1PermissionSet

def empty : M1PermissionSet := {}

def all : M1PermissionSet := ⟨true, true, true, true, true, true, true, true⟩

def contains (s : M1PermissionSet) : M1Permission → Bool
  | .streamFrame => s.streamFrame
  | .streamTelemetry => s.streamTelemetry
  | .streamAudio => s.streamAudio
  | .injectInput => s.injectInput
  | .readHostClipboard => s.readHostClipboard
  | .writeHostClipboard => s.writeHostClipboard
  | .sendFileToViewer => s.sendFileToViewer
  | .receiveFileFromViewer => s.receiveFileFromViewer

end M1PermissionSet

inductive M1AuditEvent where
  | sessionOffered
  | consentGranted
  | consentDenied
  | frameStreamed
  | telemetryStreamed
  | audioStreamed
  | inputInjected
  | hostClipboardRead
  | hostClipboardWritten
  | fileSentToViewer
  | fileReceivedFromViewer
  | consentRevoked
  | sessionEnded
  | sessionFailed
deriving DecidableEq

inductive M1SessionError where
  | invalidTransition (from_ : M1SessionState) (action : String)
  | permissionDenied (state : M1SessionState) (permission : M1Permission)
deriving DecidableEq

structure M1SessionMachine where
  state : M1SessionState
  audit : List M1AuditEvent
  granted : M1PermissionSet

/-! ## The operations -/

namespace M1SessionMachine

def new : M1SessionMachine where
  state := .idle
  audit := []
  granted := .empty

section

variable (m : M1SessionMachine) (permission : M1Permission)

def transition (from_ to_ : M1SessionState) (action : String) (event : M1AuditEvent) :
    Except M1SessionError Unit × M1SessionMachine :=
  if m.state ≠ from_ then (.error (.invalidTransition m.state action), m)
  else (.ok (), { m with state := to_, audit := m.audit ++ [event] })

def offer (m : M1SessionMachine) : Except M1SessionError Unit × M1SessionMachine :=
  m.transition .idle .offered "offer" .sessionOffered

def grantConsentScoped (granted : M1PermissionSet) :
    Except M1SessionError Unit × M1SessionMachine :=
  match m.transition .offered .active "grant_consent" .consentGranted with
  | (.error e, m') => (.error e, m')
  | (.ok (), m') => (.ok (), { m' with granted := granted })

def grantConsent : Except M1SessionError Unit × M1SessionMachine :=
  m.grantConsentScoped .all

def denyConsent : Except M1SessionError Unit × M1SessionMachine :=
  m.transition .offered .denied "deny_consent" .consentDenied

def close (allowed : M1SessionState → Bool) (to_ : M1SessionState) (action : String)
    (event : M1AuditEvent) : Except M1SessionError Unit × M1SessionMachine :=
  if allowed m.state then
    (.ok (), { m with state := to_, granted := .empty, audit := m.audit ++ [event] })
  else (.error (.invalidTransition m.state action), m)

def revoke (m : M1SessionMachine) : Except M1SessionError Unit × M1SessionMachine :=
  m.close (fun s => s matches .offered | .active) .revoked "revoke" .consentRevoked

def endSession : Except M1SessionError Unit × M1SessionMachine :=
  m.close (fun s => s matches .idle | .offered | .active | .revoked) .ended "end" .sessionEnded

def fail (m : M1SessionMachine) : Except M1SessionError Unit × M1SessionMachine :=
  m.close (fun s => !(s matches .denied | .ended | .failed)) .failed "fail" .sessionFailed

def requireActive : Except M1SessionError Unit :=
  if m.state = .active ∧ m.granted.contains permission then .ok ()
  else .error (.permissionDenied m.state permission)

def perform (event : M1AuditEvent) : Except M1SessionError Unit × M1SessionMachine :=
  match m.requireActive permission with
  | .error e => (.error e, m)
  | .ok () => (.ok (), { m with audit := m.audit ++ [event] })

def streamFrame := m.perform .streamFrame .frameStreamed

def streamTelemetry := m.perform .streamTelemetry .telemetryStreamed

def streamAudio := m.perform .streamAudio .audioStreamed

def injectInput := m.perform .injectInput .inputInjected

def readHostClipboard := m.perform .readHostClipboard .hostClipboardRead

def writeHostClipboard :=
  m.perform .writeHostClipboard .hostClipboardWritten

def sendFileToViewer := m.perform .sendFileToViewer .fileSentToViewer

def receiveFileFromViewer :=
  m.perform .receiveFileFromViewer .fileReceivedFromViewer

end

end M1SessionMachine

inductive Op where
  | offer
  | grantConsent
  | grantConsentScoped (granted : M1PermissionSet)
  | denyConsent
  | revoke
  | endSession
  | fail
  | privileged (permission : M1Permission)

namespace M1SessionMachine

def apply (m : M1SessionMachine) : Op → Except M1SessionError Unit × M1SessionMachine
  | .offer => m.offer
  | .grantConsent => m.grantConsent
  | .grantConsentScoped granted => m.grantConsentScoped granted
  | .denyConsent => m.denyConsent
  | .revoke => m.revoke
  | .endSession => m.endSession
  | .fail => m.fail
  | .privileged .streamFrame => m.streamFrame
  | .privileged .streamTelemetry => m.streamTelemetry
  | .privileged .streamAudio => m.streamAudio
  | .privileged .injectInput => m.injectInput
  | .privileged .readHostClipboard => m.readHostClipboard
  | .privileged .writeHostClipboard => m.writeHostClipboard
  | .privileged .sendFileToViewer => m.sendFileToViewer
  | .privileged .receiveFileFromViewer => m.receiveFileFromViewer

def run (m : M1SessionMachine) (ops : List Op) : M1SessionMachine :=
  ops.foldl (fun m op => (m.apply op).2) m

end M1SessionMachine

/-! ## What an operation can do -/

def M1AuditEvent.permission : M1AuditEvent → Option M1Permission
  | .frameStreamed => some .streamFrame
  | .telemetryStreamed => some .streamTelemetry
  | .audioStreamed => some .streamAudio
  | .inputInjected => some .injectInput
  | .hostClipboardRead => some .readHostClipboard
  | .hostClipboardWritten => some .writeHostClipboard
  | .fileSentToViewer => some .sendFileToViewer
  | .fileReceivedFromViewer => some .receiveFileFromViewer
  | _ => none

def M1AuditEvent.closes : M1AuditEvent → Bool
  | .consentRevoked => true
  | .sessionEnded => true
  | .sessionFailed => true
  | _ => false

def M1SessionState.terminal : M1SessionState → Bool
  | .denied => true
  | .ended => true
  | .failed => true
  | _ => false

namespace Op

def event : Op → M1AuditEvent
  | .offer => .sessionOffered
  | .grantConsent => .consentGranted
  | .grantConsentScoped _ => .consentGranted
  | .denyConsent => .consentDenied
  | .revoke => .consentRevoked
  | .endSession => .sessionEnded
  | .fail => .sessionFailed
  | .privileged .streamFrame => .frameStreamed
  | .privileged .streamTelemetry => .telemetryStreamed
  | .privileged .streamAudio => .audioStreamed
  | .privileged .injectInput => .inputInjected
  | .privileged .readHostClipboard => .hostClipboardRead
  | .privileged .writeHostClipboard => .hostClipboardWritten
  | .privileged .sendFileToViewer => .fileSentToViewer
  | .privileged .receiveFileFromViewer => .fileReceivedFromViewer

def grantedSet : Op → Option M1PermissionSet
  | .grantConsent => some .all
  | .grantConsentScoped granted => some granted
  | _ => none

variable {op : Op}

lemma event_permission {p : M1Permission} (h : op.event.permission = some p) :
    op = .privileged p := by
  cases op with
  | privileged q => cases q <;> cases h <;> rfl
  | _ => cases h

lemma event_of_grantedSet {set : M1PermissionSet} (h : op.grantedSet = some set) :
    op.event = .consentGranted := by
  cases op <;> first | rfl | cases h

inductive Accepted (m : M1SessionMachine) : Op → M1SessionMachine → Prop
  | offer (hstate : m.state = .idle) :
      Accepted m .offer ⟨.offered, m.audit ++ [.sessionOffered], m.granted⟩
  | grant {op : Op} {set : M1PermissionSet} (hset : op.grantedSet = some set)
      (hstate : m.state = .offered) :
      Accepted m op ⟨.active, m.audit ++ [op.event], set⟩
  | deny (hstate : m.state = .offered) :
      Accepted m .denyConsent ⟨.denied, m.audit ++ [.consentDenied], m.granted⟩
  | close {op : Op} {to_ : M1SessionState} (hclose : op.event.closes = true)
      (hopen : m.state.terminal = false) (hto : to_ ≠ .active) :
      Accepted m op ⟨to_, m.audit ++ [op.event], .empty⟩
  | privileged {p : M1Permission} (hstate : m.state = .active)
      (hgranted : m.granted.contains p = true) :
      Accepted m (.privileged p) ⟨m.state, m.audit ++ [(Op.privileged p).event], m.granted⟩

end Op

namespace M1SessionMachine

def Outcome (m : M1SessionMachine) (op : Op) (r : Except M1SessionError Unit × M1SessionMachine) :
    Prop :=
  (∃ e, r = (.error e, m)) ∨ ∃ m', r = (.ok (), m') ∧ op.Accepted m m'

variable {from_ : M1SessionState}

lemma transition_eq (m : M1SessionMachine) (h : m.state = from_) (to_ : M1SessionState)
    (action : String) (event : M1AuditEvent) :
    m.transition from_ to_ action event = (.ok (), ⟨to_, m.audit ++ [event], m.granted⟩) := by
  simp [transition, h]

lemma transition_error (m : M1SessionMachine) (h : m.state ≠ from_) (to_ : M1SessionState)
    (action : String) (event : M1AuditEvent) :
    m.transition from_ to_ action event = (.error (.invalidTransition m.state action), m) := by
  simp [transition, h]

variable {m m' : M1SessionMachine} {to_ : M1SessionState} {action : String} {event : M1AuditEvent}

lemma transition_ok : m.transition from_ to_ action event = (.ok (), m') ↔
      m.state = from_ ∧ ⟨to_, m.audit ++ [event], m.granted⟩ = m' := by
  by_cases h : m.state = from_
  · simp [transition_eq m h, h]
  · simp [transition_error m h, h]

variable {allowed : M1SessionState → Bool}

lemma close_ok : m.close allowed to_ action event = (.ok (), m') ↔
      allowed m.state = true ∧ ⟨to_, m.audit ++ [event], .empty⟩ = m' := by
  by_cases h : allowed m.state = true <;> simp [close, h]

variable {op : Op}

lemma grantConsentScoped_outcome (m : M1SessionMachine) {set : M1PermissionSet}
    (hset : op.grantedSet = some set) : m.Outcome op (m.grantConsentScoped set) := by
  unfold grantConsentScoped
  by_cases hstate : m.state = .offered
  · rw [transition_eq m hstate]
    have h := Op.Accepted.grant hset hstate
    rw [Op.event_of_grantedSet hset] at h
    exact .inr ⟨_, rfl, h⟩
  · rw [transition_error m hstate]
    exact .inl ⟨_, rfl⟩

lemma close_outcome (m : M1SessionMachine) (op : Op) (hclose : op.event.closes = true)
    (hall : ∀ s, allowed s = true → s.terminal = false) (hto : to_ ≠ .active) :
    m.Outcome op (m.close allowed to_ action op.event) := by
  unfold close
  by_cases h : allowed m.state = true
  · rw [if_pos h]
    exact .inr ⟨_, rfl, .close hclose (hall _ h) hto⟩
  · rw [if_neg h]
    exact .inl ⟨_, rfl⟩

lemma perform_outcome (m : M1SessionMachine) (p : M1Permission) :
    m.Outcome (.privileged p) (m.perform p (Op.privileged p).event) := by
  unfold perform requireActive
  by_cases h : m.state = .active ∧ m.granted.contains p = true
  · rw [if_pos h]
    exact .inr ⟨_, rfl, .privileged h.1 h.2⟩
  · rw [if_neg h]
    exact .inl ⟨_, rfl⟩

lemma apply_outcome (m : M1SessionMachine) (op : Op) : m.Outcome op (m.apply op) := by
  cases op with
  | offer =>
    by_cases hstate : m.state = .idle
    · exact .inr ⟨_, transition_eq m hstate _ _ _, .offer hstate⟩
    · exact .inl ⟨_, transition_error m hstate _ _ _⟩
  | grantConsent => exact grantConsentScoped_outcome m rfl
  | grantConsentScoped set => exact grantConsentScoped_outcome m rfl
  | denyConsent =>
    by_cases hstate : m.state = .offered
    · exact .inr ⟨_, transition_eq m hstate _ _ _, .deny hstate⟩
    · exact .inl ⟨_, transition_error m hstate _ _ _⟩
  | revoke =>
    unfold apply revoke
    refine close_outcome m .revoke rfl ?_ ?_
    · intro s
      cases s <;> simp [M1SessionState.terminal]
    · decide
  | endSession =>
    unfold apply endSession
    refine close_outcome m .endSession rfl ?_ ?_
    · intro s
      cases s <;> simp [M1SessionState.terminal]
    · decide
  | fail =>
    unfold apply fail
    refine close_outcome m .fail rfl ?_ ?_
    · intro s
      cases s <;> simp [M1SessionState.terminal]
    · decide
  | privileged p => cases p <;> exact perform_outcome m _

lemma apply_error_unchanged {e : M1SessionError} (h : m.apply op = (.error e, m')) : m' = m := by
  rcases m.apply_outcome op with ⟨e', herr⟩ | ⟨m'', hok, -⟩
  · rw [herr] at h
    exact (Prod.mk.inj h).2.symm
  · rw [hok] at h
    cases (Prod.mk.inj h).1

lemma apply_terminal (h : m.state.terminal = true) (op : Op) : (m.apply op).2 = m := by
  rcases m.apply_outcome op with ⟨e, herr⟩ | ⟨m', -, hacc⟩
  · rw [herr]
  · -- every accepted operation starts in a state that is not terminal
    exfalso
    cases hacc with
    | offer hstate => rw [hstate] at h; cases h
    | grant hset hstate => rw [hstate] at h; cases h
    | deny hstate => rw [hstate] at h; cases h
    | close hclose hopen hto => rw [hopen] at h; cases h
    | privileged hstate hgranted => rw [hstate] at h; cases h

lemma run_terminal (h : m.state.terminal = true) (ops : List Op) : m.run ops = m := by
  induction ops with
  | nil => rfl
  | cons op ops ih =>
    rw [run, List.foldl_cons, apply_terminal h op]
    exact ih

end M1SessionMachine

/-! ## Traces -/

structure Trace where
  machine : M1SessionMachine
  accepted : List Op

namespace Trace

def step (t : Trace) (op : Op) : Trace :=
  match t.machine.apply op with
  | (.ok (), m) => ⟨m, t.accepted ++ [op]⟩
  | (.error _, m) => ⟨m, t.accepted⟩

def run (ops : List Op) : Trace := ops.foldl step ⟨.new, []⟩

lemma step_machine (t : Trace) (op : Op) : (t.step op).machine = (t.machine.apply op).2 := by
  unfold step
  split
  · rename_i m h
    rw [h]
  · rename_i e m h
    rw [h]

def GrantedSince (accepted : List Op) (i : Nat) (set : M1PermissionSet) : Prop :=
  ∃ j < i, ∃ grant, accepted[j]? = some grant ∧ grant.grantedSet = some set ∧
    ∀ k, j < k → k < i → ∀ op, accepted[k]? = some op → op.event.closes = false

variable {accepted : List Op} {i : Nat} {set : M1PermissionSet}

lemma GrantedSince.concat (h : GrantedSince accepted i set) (hi : i ≤ accepted.length) (op : Op) :
    GrantedSince (accepted ++ [op]) i set := by
  obtain ⟨j, hj, grant, hgra, hset, hopen⟩ := h
  refine ⟨j, hj, grant, ?_, hset, ?_⟩
  · rw [List.getElem?_append_left (by omega)]
    exact hgra
  · intro k hjk hki op' hop'
    rw [List.getElem?_append_left (by omega)] at hop'
    exact hopen k hjk hki op' hop'

variable {op : Op}

lemma GrantedSince.extend (h : GrantedSince accepted accepted.length set)
    (hop : op.event.closes = false) :
    GrantedSince (accepted ++ [op]) (accepted.length + 1) set := by
  obtain ⟨j, hj, grant, hgra, hset, hopen⟩ := h.concat (Nat.le_refl _) op
  refine ⟨j, by omega, grant, hgra, hset, ?_⟩
  intro k hjk hk op' hop'
  by_cases hlast : k = accepted.length
  · rw [hlast, List.getElem?_concat_length] at hop'
    cases hop'
    exact hop
  · exact hopen k hjk (by omega) op' hop'

lemma grantedSince_grant (accepted : List Op) (hset : op.grantedSet = some set) :
    GrantedSince (accepted ++ [op]) (accepted.length + 1) set := by
  refine ⟨accepted.length, by omega, op, List.getElem?_concat_length, hset, ?_⟩
  intro k hjk hk
  omega

structure Consistent (t : Trace) : Prop where
  audit : t.machine.audit = t.accepted.map Op.event
  inactive : t.machine.state ≠ .active → t.machine.granted = .empty
  active : t.machine.state = .active →
    GrantedSince t.accepted t.accepted.length t.machine.granted
  privileged : ∀ i p, t.accepted[i]? = some (.privileged p) →
    ∃ set, GrantedSince t.accepted i set ∧ set.contains p = true

variable {t : Trace}

lemma Consistent.privileged_concat (h : t.Consistent) (hop : ∀ p, op = .privileged p →
      ∃ set, GrantedSince t.accepted t.accepted.length set ∧ set.contains p = true) (i : Nat)
    (p : M1Permission) (hi : (t.accepted ++ [op])[i]? = some (.privileged p)) :
    ∃ set, GrantedSince (t.accepted ++ [op]) i set ∧ set.contains p = true := by
  by_cases hlt : i < t.accepted.length
  · rw [List.getElem?_append_left hlt] at hi
    obtain ⟨set, hset, hp⟩ := h.privileged i p hi
    exact ⟨set, hset.concat (by omega) op, hp⟩
  · have hlen : i < (t.accepted ++ [op]).length := (List.getElem?_eq_some_iff.mp hi).1
    rw [List.length_append, List.length_singleton] at hlen
    have hlast : i = t.accepted.length := by omega
    subst hlast
    rw [List.getElem?_concat_length] at hi
    obtain ⟨set, hset, hp⟩ := hop p (Option.some.inj hi)
    exact ⟨set, hset.concat (Nat.le_refl _) op, hp⟩

lemma accepted_consistent (h : t.Consistent) {m : M1SessionMachine}
    (haccept : op.Accepted t.machine m) : Consistent ⟨m, t.accepted ++ [op]⟩ := by
  have hmap : (t.accepted ++ [op]).map Op.event = t.machine.audit ++ [op.event] := by
    rw [List.map_append, h.audit]
    rfl
  have hlen : (t.accepted ++ [op]).length = t.accepted.length + 1 := by simp
  cases haccept with
  | offer hstate =>
    refine ⟨hmap.symm, fun _ => h.inactive (by rw [hstate]; decide), fun hact => ?_,
      h.privileged_concat (fun p hp => ?_)⟩
    · cases hact
    · cases hp
  | grant hset hstate =>
    refine ⟨hmap.symm, fun hne => absurd rfl hne, fun _ => ?_, h.privileged_concat (fun p hp => ?_)⟩
    · rw [hlen]
      exact grantedSince_grant _ hset
    · subst hp
      cases hset
  | deny hstate =>
    refine ⟨hmap.symm, fun _ => h.inactive (by rw [hstate]; decide), fun hact => ?_,
      h.privileged_concat (fun p hp => ?_)⟩
    · cases hact
    · cases hp
  | close hclose hopen hto =>
    refine ⟨hmap.symm, fun _ => rfl, fun hact => absurd hact hto,
      h.privileged_concat (fun p hp => ?_)⟩
    subst hp
    cases p <;> cases hclose
  | @privileged p hstate hgranted =>
    have hact := h.active hstate
    refine ⟨hmap.symm, fun hne => absurd hstate hne, fun _ => ?_,
      h.privileged_concat (fun q hq => ?_)⟩
    · rw [hlen]
      refine hact.extend ?_
      cases p <;> rfl
    · cases hq
      exact ⟨_, hact, hgranted⟩

lemma step_consistent (h : t.Consistent) (op : Op) : (t.step op).Consistent := by
  unfold step
  rcases t.machine.apply_outcome op with ⟨e, herr⟩ | ⟨m, hok, hacc⟩
  · rw [herr]
    exact h
  · rw [hok]
    exact accepted_consistent h hacc

lemma run_consistent (ops : List Op) : (run ops).Consistent := by
  refine foldl_invariant (I := Consistent) (fun t op h => step_consistent h op) ops ?_
  refine ⟨rfl, fun _ => rfl, fun hact => ?_, fun i p hi => ?_⟩
  · cases hact
  · simp at hi

lemma run_machine (ops : List Op) : (run ops).machine = M1SessionMachine.new.run ops :=
  (List.foldl_hom machine fun t op => (step_machine t op).symm).symm

lemma Consistent.grant_of_event (h : t.Consistent) {e : M1AuditEvent} {p : M1Permission}
    (hi : t.machine.audit[i]? = some e) (hp : e.permission = some p) :
    ∃ j < i, ∃ grant set, t.accepted[j]? = some grant ∧ grant.grantedSet = some set ∧
      t.machine.audit[j]? = some .consentGranted ∧ set.contains p = true ∧
      ∀ k, j < k → k < i → ∀ e', t.machine.audit[k]? = some e' → e'.closes = false := by
  rw [h.audit, List.getElem?_map, Option.map_eq_some_iff] at hi
  obtain ⟨op, hop, rfl⟩ := hi
  rw [Op.event_permission hp] at hop
  obtain ⟨set, ⟨j, hj, grant, hgra, hset, hopen⟩, hcon⟩ := h.privileged i p hop
  refine ⟨j, hj, grant, set, hgra, hset, ?_, hcon, ?_⟩
  · rw [h.audit, List.getElem?_map, hgra, Option.map_some, Op.event_of_grantedSet hset]
  · intro k hjk hki e' he'
    rw [h.audit, List.getElem?_map, Option.map_eq_some_iff] at he'
    obtain ⟨op', hop', rfl⟩ := he'
    exact hopen k hjk hki op' hop'

end Trace

/-- **The session machine.** For every sequence of operations on a new session: the audit trail
is the accepted operations' events; each privileged event comes after a grant of its permission
with no revocation, end or failure in between; outside of the active state no permission is
stored; an operation that fails changes nothing; and a denied, ended or failed session stays
so. -/
theorem session_audit_sound (ops : List Op) :
    let m := M1SessionMachine.new.run ops
    let accepted := (Trace.run ops).accepted
    m.audit = accepted.map Op.event ∧
    (∀ (i : Nat) (e : M1AuditEvent) (p : M1Permission), m.audit[i]? = some e →
      e.permission = some p →
      ∃ j < i, ∃ (grant : Op) (set : M1PermissionSet), accepted[j]? = some grant ∧
        grant.grantedSet = some set ∧ m.audit[j]? = some .consentGranted ∧ set.contains p = true ∧
        ∀ k, j < k → k < i → ∀ e' : M1AuditEvent, m.audit[k]? = some e' → e'.closes = false) ∧
    (m.state ≠ .active → m.granted = .empty) ∧
    (∀ op e m', m.apply op = (.error e, m') → m' = m) ∧
    (m.state.terminal = true → ∀ later, (m.run later).state = m.state) := by
  intro m accepted
  have h := Trace.run_consistent ops
  have hm : (Trace.run ops).machine = m := Trace.run_machine ops
  have haudit := h.audit
  have hinactive := h.inactive
  rw [hm] at haudit hinactive
  refine ⟨haudit, ?_, hinactive, ?_, ?_⟩
  · intro i e p hi hp
    rw [← hm] at hi ⊢
    exact h.grant_of_event hi hp
  · intro op e m' herr
    exact M1SessionMachine.apply_error_unchanged herr
  · intro hterminal later
    rw [M1SessionMachine.run_terminal hterminal later]

/-- A frame streamed under a grant of frames only, an input that the grant refuses, and a
revocation: the streamed frame has its grant. -/
theorem session_audit_sound_sample :
    let ops : List Op := [.offer, .grantConsentScoped { streamFrame := true },
      .privileged .streamFrame, .privileged .injectInput, .revoke, .privileged .streamFrame]
    let m := M1SessionMachine.new.run ops
    m.audit = [.sessionOffered, .consentGranted, .frameStreamed, .consentRevoked] ∧
      m.granted = .empty ∧
      ∃ j < 2, ∃ grant set, (Trace.run ops).accepted[j]? = some grant ∧
        grant.grantedSet = some set ∧ m.audit[j]? = some .consentGranted ∧
        set.contains .streamFrame = true ∧
        ∀ k, j < k → k < 2 → ∀ e', m.audit[k]? = some e' → e'.closes = false := by
  intro ops m
  have hsound := session_audit_sound ops
  refine ⟨by decide, hsound.2.2.1 (by decide), ?_⟩
  exact hsound.2.1 2 .frameStreamed .streamFrame (by decide) rfl

end XeniaPeer.Session
