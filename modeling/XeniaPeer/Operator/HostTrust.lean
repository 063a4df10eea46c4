import XeniaPeer.Foundation.Commits
import XeniaPeer.Foundation.Runs
import XeniaPeer.Foundation.Text

/-!
# The host trust of the operator agent

Every signing request and every finished handshake goes through `check_host_trust_fingerprint`. It
compares the fingerprint of the daemon with the pin of its scope.

Main result: `trusted_recorded_or_owed`.
-/

namespace XeniaPeer.Operator.HostTrust

open Foundation

abbrev Fingerprint := FixedBytes 32

inductive Suite where
  | standard
  | highsec
deriving DecidableEq

def Suite.label : Suite → String
  | .standard => "standard"
  | .highsec => "highsec"

structure Scope where
  hostAlias : String
  suite : Suite
deriving DecidableEq

def key (hostAlias suite : String) : String := hostAlias ++ ":" ++ suite

def Scope.key (scope : Scope) : String := HostTrust.key scope.hostAlias scope.suite.label

lemma key_injective : Function.Injective Scope.key := by
  rintro ⟨alias1, suite1⟩ ⟨alias2, suite2⟩ h
  have hlis : alias1.toList ++ (':' :: suite1.label.toList) =
      alias2.toList ++ (':' :: suite2.label.toList) := by
    have h' := congrArg String.toList h
    simpa [Scope.key, HostTrust.key, String.toList_append] using h'
  have hsu : suite1 = suite2 := by
    have hlast := congrArg (fun l => l.reverse.head?) hlis
    cases suite1 <;> cases suite2 <;> first | rfl | simp [Suite.label] at hlast
  subst hsu
  have hali : alias1 = alias2 := String.toList_injective (List.append_cancel_right hlis)
  rw [hali]

/-! ## Pins and records -/

abbrev PinMap := String → Option Fingerprint

/-- The events of the audit log. The source writes the fingerprints in them in hexadecimal. -/
inductive AgentAuditEvent where
  | hostTrustFirstUse (daemonEndpoint suite : String) (fingerprint : Fingerprint)
  | hostTrustRotation (daemonEndpoint suite : String) (oldFingerprint newFingerprint : Fingerprint)
  | paired
  | sessionRefreshed
  | revocationSigned (targetOperatorId daemonEndpoint : String)
  | keyReplacementSigned (targetOperatorId newEd25519PubkeyHex daemonEndpoint : String)
  | broadGrantConfirmed (scope daemonEndpoint : String)
deriving DecidableEq

def AgentAuditEvent.Records (scope : Scope) (fingerprint : Fingerprint) : AgentAuditEvent → Prop
  | .hostTrustFirstUse endpoint suite new =>
    endpoint = scope.hostAlias ∧ suite = scope.suite.label ∧ new = fingerprint
  | .hostTrustRotation endpoint suite _ new =>
    endpoint = scope.hostAlias ∧ suite = scope.suite.label ∧ new = fingerprint
  | _ => False

/-- The log says why the fingerprint is trusted. -/
def Recorded (log : List AgentAuditEvent) (scope : Scope) (fingerprint : Fingerprint) : Prop :=
  ∃ event ∈ log, event.Records scope fingerprint

variable {scope : Scope} {fingerprint : Fingerprint}

lemma Recorded.mono {log log' : List AgentAuditEvent} (h : Recorded log scope fingerprint)
    (hlog : log ⊆ log') : Recorded log' scope fingerprint := by
  obtain ⟨event, hevent, hrecords⟩ := h
  exact ⟨event, hlog hevent, hrecords⟩

inductive PinOutcome where
  | matched
  | trustedOnFirstUse
  | rotated (oldFingerprint : Fingerprint)

inductive HostTrustError where
  | fingerprintChanged (hostAlias : String) (pinned presented : Fingerprint)
  | notConfirmed (hostAlias : String)
  | confirmationUnavailable (reason : String)
  | storage

def check (pins : PinMap) (scope : Scope) (fingerprint : Fingerprint)
    (confirmation : Except HostTrustError Bool) : Except HostTrustError PinOutcome :=
  match pins scope.key with
  | some pinned =>
    if pinned = fingerprint then .ok .matched
    else
      match confirmation with
      | .error e => .error e
      | .ok false => .error (.fingerprintChanged scope.hostAlias pinned fingerprint)
      | .ok true => .ok (.rotated pinned)
  | none =>
    match confirmation with
    | .error e => .error e
    | .ok false => .error (.notConfirmed scope.hostAlias)
    | .ok true => .ok .trustedOnFirstUse

def auditEvent (scope : Scope) (fingerprint : Fingerprint) : PinOutcome → Option AgentAuditEvent
  | .trustedOnFirstUse =>
    some (.hostTrustFirstUse scope.hostAlias scope.suite.label fingerprint)
  | .rotated old =>
    some (.hostTrustRotation scope.hostAlias scope.suite.label old fingerprint)
  | .matched => none

variable {outcome : PinOutcome} {event : AgentAuditEvent}

lemma auditEvent_records (h : auditEvent scope fingerprint outcome = some event) :
    event.Records scope fingerprint := by
  cases outcome <;> cases h <;> exact ⟨rfl, rfl, rfl⟩

lemma check_matched {pins : PinMap} {confirmation : Except HostTrustError Bool}
    (h : check pins scope fingerprint confirmation = .ok outcome)
    (hevent : auditEvent scope fingerprint outcome = none) : pins scope.key = some fingerprint := by
  unfold check at h
  -- only `matched` has no event, and only the first branch gives it
  split at h
  · next pinned hpin =>
    split at h
    · next heq => rw [hpin, heq]
    · split at h <;> cases h
      cases hevent
  · split at h <;> cases h
    cases hevent

/-! ## Requests -/

inductive Cause where
  | processEnded
  | dropped
  /-- The write of the pin was reported as failed, and the pin was on disk. -/
  | pinWriteFailed
  | removalFailed
deriving DecidableEq

inductive Phase where
  | idle
  /-- The pin is set; the append of `event` comes next. -/
  | recording (scope : Scope) (fingerprint : Fingerprint) (event : AgentAuditEvent)
  /-- The append failed; `forget` comes next. -/
  | removing (scope : Scope) (fingerprint : Fingerprint)
  | passed (scope : Scope) (fingerprint : Fingerprint)
  | refused
  | unrecorded (scope : Scope) (fingerprint : Fingerprint) (cause : Cause)
deriving DecidableEq

def Phase.owes : Phase → Option (Scope × Fingerprint)
  | .recording scope fingerprint _ => some (scope, fingerprint)
  | .removing scope fingerprint => some (scope, fingerprint)
  | .unrecorded scope fingerprint _ => some (scope, fingerprint)
  | _ => none

def Phase.interrupt (cause : Cause) : Phase → Phase
  | .recording scope fingerprint _ => .unrecorded scope fingerprint cause
  | .removing scope fingerprint => .unrecorded scope fingerprint cause
  | phase => phase

@[simp] lemma Phase.owes_interrupt (cause : Cause) (phase : Phase) :
    (phase.interrupt cause).owes = phase.owes := by
  cases phase <;> rfl

variable {cause : Cause} {phase : Phase}

lemma Phase.interrupt_ne_recording :
    phase.interrupt cause ≠ .recording scope fingerprint event := by
  cases phase <;> simp [Phase.interrupt]

lemma Phase.interrupt_eq_passed (h : phase.interrupt cause = .passed scope fingerprint) :
    phase = .passed scope fingerprint := by
  cases phase <;> first | exact h | cases h

structure Agent where
  trust : Store PinMap
  audit : Store (List AgentAuditEvent)
  requests : Nat → Phase

inductive Event where
  | check (request : Nat) (scope : Scope) (fingerprint : Fingerprint)
      (confirmation : Except HostTrustError Bool) (ending : WriteEnd)
  | record (request : Nat) (ending : WriteEnd)
  | forget (request : Nat) (ending : WriteEnd)
  /-- The future of the handler is dropped. -/
  | drop (request : Nat)
  /-- Another route appends an event of its own; it never is one of host trust. -/
  | audit (event : AgentAuditEvent) (ending : WriteEnd)
  /-- The process ends, and the next one loads what is on disk. -/
  | crash

namespace Agent

def start (pins : PinMap) (log : List AgentAuditEvent) : Agent :=
  ⟨⟨pins, pins⟩, ⟨log, log⟩, fun _ => .idle⟩

section

variable (a : Agent)

def become (request : Nat) (phase : Phase) : Agent :=
  { a with requests := Function.update a.requests request phase }

def crash : Agent where
  trust := a.trust.reload
  audit := a.audit.reload
  requests request := (a.requests request).interrupt .processEnded

def goOn (request : Nat) (whenDone whenFailed whenDied : Phase) : WriteEnd → Agent
  | .done => a.become request whenDone
  | .failed _ => a.become request whenFailed
  | .died _ => (a.become request whenDied).crash

def setPin (scope : Scope) (fingerprint : Fingerprint) (ending : WriteEnd) : Agent :=
  { a with
    trust := a.trust.commit (Function.update a.trust.memory scope.key (some fingerprint)) ending }

def appendTransactional (event : AgentAuditEvent) (ending : WriteEnd) : Agent :=
  { a with audit := a.audit.commit (a.audit.memory ++ [event]) ending }

def forget (scope : Scope) (ending : WriteEnd) : Agent :=
  { a with trust := a.trust.commit (Function.update a.trust.memory scope.key none) ending }

def step : Event → Agent
  | .check request scope fingerprint confirmation ending =>
    match a.requests request with
    | .idle =>
      match HostTrust.check a.trust.memory scope fingerprint confirmation with
      | .error _ => a.become request .refused
      | .ok outcome =>
        match auditEvent scope fingerprint outcome with
        | none => a.become request (.passed scope fingerprint)
        | some event =>
          let given cause := if ending.took then .unrecorded scope fingerprint cause else .refused
          (a.setPin scope fingerprint ending).goOn request (.recording scope fingerprint event)
            (given .pinWriteFailed) (given .processEnded) ending
    | _ => a
  | .record request ending =>
    match a.requests request with
    | .recording scope fingerprint event =>
      (a.appendTransactional event ending).goOn request (.passed scope fingerprint)
        (.removing scope fingerprint) (.unrecorded scope fingerprint .processEnded) ending
    | _ => a
  | .forget request ending =>
    match a.requests request with
    -- the error of the append is returned, whatever becomes of the removal
    | .removing scope fingerprint =>
      (a.forget scope ending).goOn request .refused (.unrecorded scope fingerprint .removalFailed)
        (.unrecorded scope fingerprint .processEnded) ending
    | _ => a
  | .drop request => a.become request ((a.requests request).interrupt .dropped)
  | .audit event ending =>
    match event with
    | .hostTrustFirstUse .. | .hostTrustRotation .. => a
    | _ =>
      match ending with
      | .died _ => (a.appendTransactional event ending).crash
      | _ => a.appendTransactional event ending
  | .crash => a.crash

def run (events : List Event) : Agent := events.foldl step a

end

/-! ## The invariant -/

def Held (a : Agent) (scope : Scope) (fingerprint : Fingerprint) : Prop :=
  a.trust.Shows (fun pins => pins scope.key = some fingerprint)

/-- The request wrote the pin and has not recorded it. -/
def Owes (a : Agent) (request : Nat) (scope : Scope) (fingerprint : Fingerprint) : Prop :=
  (a.requests request).owes = some (scope, fingerprint)

def Explained (a : Agent) (scope : Scope) (fingerprint : Fingerprint) : Prop :=
  Recorded a.audit.memory scope fingerprint ∨ ∃ request, a.Owes request scope fingerprint

def Truthful (a : Agent) : Prop := ∀ request scope fingerprint event,
  a.requests request = .recording scope fingerprint event → event.Records scope fingerprint

structure Accounted (a : Agent) : Prop where
  /-- What the process has adopted is on disk; the converse fails after a failed append. -/
  durable : a.audit.memory ⊆ a.audit.disk
  records : a.Truthful
  explained : ∀ scope fingerprint, a.Held scope fingerprint → a.Explained scope fingerprint

variable {a : Agent} {scope : Scope} {fingerprint : Fingerprint}

lemma Explained.on_disk (ha : a.Accounted) (h : a.Explained scope fingerprint) :
    Recorded a.audit.disk scope fingerprint ∨ ∃ request, a.Owes request scope fingerprint :=
  h.imp_left (fun hrecorded => hrecorded.mono ha.durable)

variable {request other : Nat} {phase : Phase}

lemma Owes.become_of_ne (hne : other ≠ request) (h : a.Owes other scope fingerprint) :
    (a.become request phase).Owes other scope fingerprint := by
  simpa [Owes, become, Function.update_of_ne hne] using h

lemma owes_become_self (h : phase.owes = some (scope, fingerprint)) :
    (a.become request phase).Owes request scope fingerprint := by
  simpa [Owes, become] using h

lemma Truthful.become (ha : a.Truthful)
    (hphase : ∀ scope fingerprint event, phase = .recording scope fingerprint event →
      event.Records scope fingerprint) : (a.become request phase).Truthful := by
  intro other scope fingerprint event h
  by_cases hother : other = request
  · subst hother
    exact hphase scope fingerprint event (by simpa [Agent.become] using h)
  · exact ha other scope fingerprint event
      (by simpa [Agent.become, Function.update_of_ne hother] using h)

lemma Accounted.become (ha : a.Accounted)
    (hrecords : ∀ scope fingerprint event, phase = .recording scope fingerprint event →
      event.Records scope fingerprint)
    (howes : ∀ scope fingerprint, (a.requests request).owes = some (scope, fingerprint) →
      phase.owes = some (scope, fingerprint) ∨ Recorded a.audit.memory scope fingerprint ∨
        ¬ a.Held scope fingerprint) : (a.become request phase).Accounted where
  durable := ha.durable
  records := ha.records.become hrecords
  explained scope fingerprint hheld := by
    obtain hrecorded | ⟨other, hother⟩ := ha.explained scope fingerprint hheld
    · exact .inl hrecorded
    · by_cases heq : other = request
      · subst heq
        obtain hphase | hrecorded | hnot := howes scope fingerprint hother
        · exact .inr ⟨other, owes_become_self hphase⟩
        · exact .inl hrecorded
        · exact absurd hheld hnot
      · exact .inr ⟨other, hother.become_of_ne heq⟩

lemma Accounted.crash (ha : a.Accounted) : a.crash.Accounted where
  durable := List.Subset.refl _
  records request scope fingerprint event h := absurd h Phase.interrupt_ne_recording
  explained scope fingerprint hheld := by
    obtain hrecorded | ⟨request, hreq⟩ := ha.explained scope fingerprint (Store.shows_of_reload hheld)
    · exact .inl (hrecorded.mono ha.durable)
    · exact .inr ⟨request, (Phase.owes_interrupt _ _).trans hreq⟩

variable {whenDone whenFailed whenDied : Phase} {ending : WriteEnd}

lemma Accounted.goOn (hdone : ending = .done → (a.become request whenDone).Accounted)
    (hfail : ∀ took, ending = .failed took → (a.become request whenFailed).Accounted)
    (hdied : ∀ took, ending = .died took → (a.become request whenDied).Accounted) :
    (a.goOn request whenDone whenFailed whenDied ending).Accounted := by
  cases ending with
  | done => exact hdone rfl
  | failed took => exact hfail took rfl
  | died took => exact (hdied took rfl).crash

/-! ## One step -/

lemma held_setPin {scope' : Scope} {fingerprint' : Fingerprint}
    (h : (a.setPin scope fingerprint ending).Held scope' fingerprint') :
    a.Held scope' fingerprint' ∨
      ending.took = true ∧ scope' = scope ∧ fingerprint' = fingerprint := by
  obtain hbefore | ⟨htook, hnew⟩ := Store.shows_commit h
  · exact .inl hbefore
  · by_cases hsco : scope' = scope
    · subst hsco
      rw [Function.update_self, Option.some.injEq] at hnew
      exact .inr ⟨htook, rfl, hnew.symm⟩
    · rw [Function.update_of_ne (key_injective.ne hsco)] at hnew
      exact .inl (.inl hnew)

lemma Accounted.become_setPin (ha : a.Accounted) (hidle : a.requests request = .idle)
    (hrecords : ∀ scope fingerprint event, phase = .recording scope fingerprint event →
      event.Records scope fingerprint)
    (howes : ending.took = true → phase.owes = some (scope, fingerprint)) :
    ((a.setPin scope fingerprint ending).become request phase).Accounted where
  durable := ha.durable
  records :=
    have hsame : (a.setPin scope fingerprint ending).Truthful := ha.records
    hsame.become hrecords
  explained scope' fingerprint' hheld := by
    obtain hbefore | ⟨htook, rfl, rfl⟩ := held_setPin hheld
    · obtain hrecorded | ⟨other, hother⟩ := ha.explained scope' fingerprint' hbefore
      · exact .inl hrecorded
      · have hne : other ≠ request := by
          rintro rfl
          rw [Owes, hidle] at hother
          cases hother
        exact .inr ⟨other, Owes.become_of_ne hne hother⟩
    · exact .inr ⟨request, owes_become_self (howes htook)⟩

lemma Accounted.appendTransactional (ha : a.Accounted) (event : AgentAuditEvent)
    (ending : WriteEnd) : (a.appendTransactional event ending).Accounted where
  durable := Store.memory_subset_commit ha.durable event ending
  records := ha.records
  explained scope fingerprint hheld := (ha.explained scope fingerprint hheld).imp_left
      (fun hrecorded => hrecorded.mono (a.audit.subset_memory_commit event ending))

lemma Accounted.forget (ha : a.Accounted) (scope : Scope) (ending : WriteEnd) :
    (a.forget scope ending).Accounted where
  durable := ha.durable
  records := ha.records
  explained scope' fingerprint' hheld := by
    apply ha.explained scope' fingerprint'
    obtain hbefore | ⟨-, hnew⟩ := Store.shows_commit hheld
    · exact hbefore
    · by_cases h : scope' = scope
      · subst h
        rw [Function.update_self] at hnew
        cases hnew
      · rw [Function.update_of_ne (key_injective.ne h)] at hnew
        exact .inl hnew

lemma not_held_forget_done (scope : Scope) (fingerprint : Fingerprint) :
    ¬ (a.forget scope .done).Held scope fingerprint := by
  simp [Held, Store.Shows, Agent.forget]

lemma recorded_append_done {event : AgentAuditEvent} (h : event.Records scope fingerprint) :
    Recorded (a.appendTransactional event .done).audit.memory scope fingerprint :=
  ⟨event, by simp [Agent.appendTransactional], h⟩

lemma Accounted.check (ha : a.Accounted) (scope : Scope) (fingerprint : Fingerprint)
    (confirmation : Except HostTrustError Bool) (ending : WriteEnd) :
    (a.step (.check request scope fingerprint confirmation ending)).Accounted := by
  unfold step
  dsimp only
  split
  · next hidle =>
    have hnone : ∀ {p : Scope → Fingerprint → Prop} scope fingerprint,
        (a.requests request).owes = some (scope, fingerprint) → p scope fingerprint := by
      intro p scope fingerprint h
      rw [hidle] at h
      cases h
    split
    · exact ha.become (by simp) hnone
    · next outcome hout =>
      split
      · exact ha.become (by simp) hnone
      · next event hevent =>
        apply Accounted.goOn
        · rintro -
          refine ha.become_setPin hidle ?_ (fun _ => rfl)
          rintro _ _ _ ⟨⟩
          exact auditEvent_records hevent
        · rintro took -
          exact ha.become_setPin hidle (by split <;> simp) (fun htook => by rw [if_pos htook]; rfl)
        · rintro took -
          exact ha.become_setPin hidle (by split <;> simp) (fun htook => by rw [if_pos htook]; rfl)
  · exact ha

lemma Accounted.record (ha : a.Accounted) (request : Nat) (ending : WriteEnd) :
    (a.step (.record request ending)).Accounted := by
  unfold step
  dsimp only
  split
  · next scope fingerprint event hphase =>
    have h := ha.appendTransactional event ending
    apply Accounted.goOn
    · rintro rfl
      refine h.become (by simp) ?_
      rintro scope' fingerprint' howes
      change (a.requests request).owes = _ at howes
      rw [hphase] at howes
      cases howes
      exact .inr (.inl (recorded_append_done (ha.records _ _ _ _ hphase)))
    all_goals
      rintro took -
      refine h.become (by simp) (fun scope' fingerprint' howes => .inl ?_)
      change (a.requests request).owes = _ at howes
      rwa [hphase] at howes
  · exact ha

lemma Accounted.remove (ha : a.Accounted) (request : Nat) (ending : WriteEnd) :
    (a.step (.forget request ending)).Accounted := by
  unfold step
  dsimp only
  split
  · next scope fingerprint hphase =>
    have h := ha.forget scope ending
    apply Accounted.goOn
    · rintro rfl
      refine h.become (by simp) ?_
      rintro scope' fingerprint' howes
      change (a.requests request).owes = _ at howes
      rw [hphase] at howes
      cases howes
      exact .inr (.inr (not_held_forget_done scope fingerprint))
    all_goals
      rintro took -
      refine h.become (by simp) (fun scope' fingerprint' howes => .inl ?_)
      change (a.requests request).owes = _ at howes
      rwa [hphase] at howes
  · exact ha

lemma Accounted.step (ha : a.Accounted) (event : Event) : (a.step event).Accounted := by
  cases event with
  | check request scope fingerprint confirmation ending =>
    exact ha.check scope fingerprint confirmation ending
  | record request ending => exact ha.record request ending
  | forget request ending => exact ha.remove request ending
  | drop request =>
    exact ha.become (fun _ _ _ h => absurd h Phase.interrupt_ne_recording)
      (fun _ _ h => .inl ((Phase.owes_interrupt _ _).trans h))
  | audit event ending =>
    unfold Agent.step
    dsimp only
    split
    · exact ha
    · exact ha
    · split
      · exact (ha.appendTransactional event _).crash
      · exact ha.appendTransactional event ending
  | crash => exact ha.crash

lemma accounted_start {pins : PinMap} {log : List AgentAuditEvent}
    (h : ∀ scope fingerprint, pins (Scope.key scope) = some fingerprint →
      Recorded log scope fingerprint) : (start pins log).Accounted where
  durable := List.Subset.refl _
  records _ _ _ _ hphase := by cases hphase
  explained scope fingerprint hheld := .inl (h scope fingerprint (hheld.elim id id))

lemma Accounted.run (ha : a.Accounted) (events : List Event) : (a.run events).Accounted := by
  unfold Agent.run
  exact foldl_invariant (I := Accounted) (fun _ event hs => hs.step event) events ha

/-! ## Passing the check -/

lemma become_passed (hbefore : a.requests other ≠ .passed scope fingerprint)
    (hafter : (a.become request phase).requests other = .passed scope fingerprint) :
    other = request ∧ phase = .passed scope fingerprint := by
  by_cases hother : other = request
  · subst hother
    exact ⟨rfl, by simpa [become] using hafter⟩
  · exact absurd (by simpa [become, Function.update_of_ne hother] using hafter) hbefore

lemma goOn_passed (hafter : (a.goOn request whenDone whenFailed whenDied ending).requests other =
      .passed scope fingerprint) (hbefore : a.requests other ≠ .passed scope fingerprint)
    (hfail : whenFailed ≠ .passed scope fingerprint) (hdied : whenDied ≠ .passed scope fingerprint) :
    ending = .done ∧ other = request ∧ whenDone = .passed scope fingerprint := by
  cases ending with
  | done => exact ⟨rfl, become_passed hbefore hafter⟩
  | failed took => exact absurd (become_passed hbefore hafter).2 hfail
  | died took =>
    exact absurd (become_passed hbefore (Phase.interrupt_eq_passed hafter)).2 hdied

lemma step_passed {event : Event} (hbefore : a.requests request ≠ .passed scope fingerprint)
    (hafter : (a.step event).requests request = .passed scope fingerprint) :
    (a.requests request = .idle ∧ a.trust.memory scope.key = some fingerprint ∧
        (a.step event).audit = a.audit) ∨
      ∃ entry, a.requests request = .recording scope fingerprint entry ∧
        (a.step event).audit.disk = a.audit.memory ++ [entry] := by
  cases event with
  | check other scope' fingerprint' confirmation ending =>
    simp only [step] at hafter ⊢
    split at hafter
    · next hidle =>
      split at hafter
      · cases (become_passed hbefore hafter).2
      · next outcome hout =>
        split at hafter
        · next hevent =>
          obtain ⟨rfl, hphase⟩ := become_passed hbefore hafter
          cases hphase
          simp only [hidle]
          exact .inl ⟨trivial, check_matched hout hevent, rfl⟩
        · have hdone := goOn_passed hafter hbefore (by split <;> simp) (by split <;> simp)
          cases hdone.2.2
    · exact absurd hafter hbefore
  | record other ending =>
    simp only [step] at hafter ⊢
    split at hafter
    · next hphase =>
      obtain ⟨rfl, rfl, hpas⟩ := goOn_passed hafter hbefore (by simp) (by simp)
      cases hpas
      simp only [hphase]
      exact .inr ⟨_, rfl, rfl⟩
    · exact absurd hafter hbefore
  | forget other ending =>
    simp only [step] at hafter
    split at hafter
    · cases (goOn_passed hafter hbefore (by simp) (by simp)).2.2
    · exact absurd hafter hbefore
  | drop other =>
    obtain ⟨rfl, hphase⟩ := become_passed hbefore hafter
    exact absurd (Phase.interrupt_eq_passed hphase) hbefore
  | audit entry ending =>
    simp only [step] at hafter
    split at hafter
    · exact absurd hafter hbefore
    · exact absurd hafter hbefore
    · split at hafter
      · exact absurd (Phase.interrupt_eq_passed hafter) hbefore
      · exact absurd hafter hbefore
  | crash => exact absurd (Phase.interrupt_eq_passed hafter) hbefore

/-- From stores in which each pin has its record, after any requests, failed writes, dropped
requests and ends of the process: a fingerprint that is trusted on disk is recorded on disk, or a
request has set its pin and not brought the record to an end. A request passes only if the
fingerprint is recorded on disk, or it found a pin that another request owes the record of. -/
theorem trusted_recorded_or_owed (pins : PinMap) (log : List AgentAuditEvent)
    (h : ∀ scope fingerprint, pins (Scope.key scope) = some fingerprint →
      Recorded log scope fingerprint) (events : List Event) :
    let a := (start pins log).run events
    (∀ scope fingerprint, a.trust.disk (Scope.key scope) = some fingerprint →
        Recorded a.audit.disk scope fingerprint ∨ ∃ request, a.Owes request scope fingerprint) ∧
      ∀ event request scope fingerprint, a.requests request ≠ .passed scope fingerprint →
        (a.step event).requests request = .passed scope fingerprint →
        Recorded (a.step event).audit.disk scope fingerprint ∨
          a.requests request = .idle ∧
            ∃ other, other ≠ request ∧ a.Owes other scope fingerprint := by
  intro a
  have ha : a.Accounted := (accounted_start h).run events
  constructor
  · intro scope fingerprint hpin
    exact (ha.explained scope fingerprint (.inr hpin)).on_disk ha
  · intro event request scope fingerprint hbefore hafter
    obtain ⟨hidle, hpin, haudit⟩ | ⟨entry, hphase, hdisk⟩ := step_passed hbefore hafter
    · rw [haudit]
      obtain hrecorded | ⟨other, hother⟩ :=
        (ha.explained scope fingerprint (.inl hpin)).on_disk ha
      · exact .inl hrecorded
      · refine .inr ⟨hidle, other, ?_, hother⟩
        rintro rfl
        rw [Owes, hidle] at hother
        cases hother
    · rw [hdisk]
      exact .inl ⟨entry, by simp, ha.records _ _ _ _ hphase⟩

/-! ## Pins without a record -/

private def sampleScope : Scope := ⟨"wss://host.example", .standard⟩

private def sampleFingerprint : Fingerprint := .replicate 32 7

private def firstUse (request : Nat) : Event :=
  .check request sampleScope sampleFingerprint (.ok true) .done

private def PassedUnrecorded (a : Agent) (request : Nat) : Prop :=
  a.requests request = .passed sampleScope sampleFingerprint ∧
    a.trust.disk sampleScope.key = some sampleFingerprint ∧ a.audit.disk = []

/-- With empty files, request 0 pins the daemon. Before it has appended its record, request 1 finds
the pin and passes; and if the process ends there, request 1 of the next process does. -/
theorem match_without_record :
    PassedUnrecorded ((start (fun _ => none) []).run [firstUse 0, firstUse 1]) 1 ∧
      PassedUnrecorded ((start (fun _ => none) []).run [firstUse 0, .crash, firstUse 1]) 1 := by
  unfold PassedUnrecorded
  decide

/-- An empty agent on which request 0 pins and records and request 1 passes behind it. -/
theorem trusted_recorded_or_owed_sample :
    let a := (start (fun _ => none) []).run [firstUse 0, .record 0 .done, firstUse 1]
    a.requests 0 = .passed sampleScope sampleFingerprint ∧
      a.requests 1 = .passed sampleScope sampleFingerprint ∧
      (Recorded a.audit.disk sampleScope sampleFingerprint ∨
        ∃ request, a.Owes request sampleScope sampleFingerprint) := by
  refine ⟨by decide, by decide, ?_⟩
  exact (trusted_recorded_or_owed (fun _ => none) [] (fun _ _ h => nomatch h) _).1 _ _ (by decide)

end Agent

end XeniaPeer.Operator.HostTrust
