import XeniaPeer.Consent.Decision

/-!
# The consent server

`ConsentServer::run` (`consent_server.rs`) accepts one connection after the other for the life of a
session and applies the decisions that arrive, until one of them is terminal or the listener fails.
-/

namespace XeniaPeer.Consent

open Foundation Ledger Operator

variable {C : OperatorCrypto} {E : Type}

/-! ## The desk -/

structure Desk (C : Crypto) where
  consent : SessionConsent C
  serving : Bool

inductive Delivery (C : OperatorCrypto) (E : Type) where
  | nothing
  | listenerFailed
  | decision (decoded : DecodedConsent) (m : Moment C E)

namespace Desk

def step (cfg : ConsentConfig C) (d : Desk C.toCrypto) (delivery : Delivery C E) :
    Desk C.toCrypto :=
  if d.serving then
    match delivery with
    | .nothing => d
    | .listenerFailed => { d with serving := false }
    | .decision decoded m =>
      let (followup, consent) := applyConsentDecision cfg m decoded d.consent
      ⟨consent, followup = .keepServing⟩
  else
    d

def Live (d : Desk C.toCrypto) : Prop := d.consent.grant = some true ∧ d.consent.revoked = false

instance (d : Desk C.toCrypto) : Decidable d.Live :=
  inferInstanceAs (Decidable (_ ∧ _))

/-- A granted session that nobody serves is revoked. -/
def RevokedWhenStopped (d : Desk C.toCrypto) : Prop :=
  d.serving = false → d.consent.grant = some true → d.consent.revoked = true

instance (d : Desk C.toCrypto) : Decidable d.RevokedWhenStopped :=
  inferInstanceAs (Decidable (_ → _ → _))

/-- The delivery does not close the desk on a live session: the listener holds, and a decision is
no denial and has its audit entry, if it needs one, written and persisted. -/
def HoldsOpen (cfg : ConsentConfig C) (d : Desk C.toCrypto) : Delivery C E → Prop
  | .nothing => True
  | .listenerFailed => d.serving = true → ¬ d.Live
  | .decision decoded m => d.serving = true → d.Live →
      decoded.action ≠ .deny ∧ (commitAudit cfg m decoded d.consent.ledger).1.isOk = true

instance (cfg : ConsentConfig C) (d : Desk C.toCrypto) (delivery : Delivery C E) :
    Decidable (HoldsOpen cfg d delivery) :=
  match delivery with
  | .nothing => isTrue trivial
  | .listenerFailed => inferInstanceAs (Decidable (_ → ¬ _))
  | .decision _ _ => inferInstanceAs (Decidable (_ → _ → _ ∧ _))

lemma not_live_iff (d : Desk C.toCrypto) :
    ¬ d.Live ↔ (d.consent.grant = some true → d.consent.revoked = true) := by
  simp [Live]

variable {cfg : ConsentConfig C} {d : Desk C.toCrypto}

lemma step_of_stopped (h : d.serving = false) (delivery : Delivery C E) :
    d.step cfg delivery = d := by
  simp [step, h]

lemma holdsOpen_of_stopped (h : d.serving = false) (delivery : Delivery C E) :
    HoldsOpen cfg d delivery := by
  cases delivery <;> simp [HoldsOpen, h]

lemma step_consent_cases (cfg : ConsentConfig C) (d : Desk C.toCrypto) (delivery : Delivery C E) :
    (d.step cfg delivery).consent = d.consent ∨ ∃ decoded m, delivery = .decision decoded m ∧
        (d.step cfg delivery).consent = (applyConsentDecision cfg m decoded d.consent).2 := by
  by_cases h : d.serving = true
  · cases delivery with
    | nothing => exact .inl (by simp [step, h])
    | listenerFailed => exact .inl (by simp [step, h])
    | decision decoded m => exact .inr ⟨decoded, m, rfl, by simp [step, h]⟩
  · rw [step_of_stopped (by simpa using h)]
    exact .inl rfl

lemma step_decision_iff (h : d.serving = true) (decoded : DecodedConsent) (m : Moment C E) :
    RevokedWhenStopped (d.step cfg (.decision decoded m)) ↔
      HoldsOpen cfg d (.decision decoded m) := by
  have hstep : d.step cfg (.decision decoded m) = ⟨(applyConsentDecision cfg m decoded d.consent).2,
        (applyConsentDecision cfg m decoded d.consent).1 = .keepServing⟩ := by
    simp [step, h]
  rw [hstep]
  rcases applyConsentDecision_cases cfg m decoded d.consent with
    ⟨hfail, href⟩ | ⟨hok, ledger, -, heff⟩
  · rw [href]
    simp [RevokedWhenStopped, HoldsOpen, h, hfail, not_live_iff]
  · rw [heff]
    cases hact : decoded.action with
    | approve => simp [SessionConsent.takeEffect, RevokedWhenStopped, HoldsOpen, hact, hok]
    | deny =>
      -- the grant keeps the value it was resolved to first
      cases hgra : d.consent.grant <;>
        simp [SessionConsent.takeEffect, SessionConsent.resolveGrant, RevokedWhenStopped,
          HoldsOpen, Live, h, hact, hgra]
    | revoke => simp [SessionConsent.takeEffect, RevokedWhenStopped, HoldsOpen, hact, hok]

lemma step_revokedWhenStopped_iff (cfg : ConsentConfig C) (h : d.serving = true)
    (delivery : Delivery C E) :
    RevokedWhenStopped (d.step cfg delivery) ↔ HoldsOpen cfg d delivery := by
  cases delivery with
  | nothing => simp [step, RevokedWhenStopped, HoldsOpen, h]
  | listenerFailed => simp [step, RevokedWhenStopped, HoldsOpen, h, not_live_iff]
  | decision decoded m => exact step_decision_iff h decoded m

lemma run_of_stopped (cfg : ConsentConfig C) (h : d.serving = false)
    (deliveries : List (Delivery C E)) :
    deliveries.foldl (step cfg) d = d ∧ StepsMeet (step cfg) (HoldsOpen cfg) d deliveries := by
  induction deliveries with
  | nil => exact ⟨rfl, trivial⟩
  | cons delivery rest ih =>
    rw [List.foldl_cons, step_of_stopped h]
    refine ⟨ih.1, holdsOpen_of_stopped h delivery, ?_⟩
    rw [step_of_stopped h]
    exact ih.2

lemma revokedWhenStopped_iff (cfg : ConsentConfig C) (h : d.serving = true)
    (deliveries : List (Delivery C E)) : RevokedWhenStopped (deliveries.foldl (step cfg) d) ↔
      StepsMeet (step cfg) (HoldsOpen cfg) d deliveries := by
  induction deliveries generalizing d with
  | nil => simp [RevokedWhenStopped, StepsMeet, h]
  | cons delivery rest ih =>
    have hfirst := step_revokedWhenStopped_iff cfg h delivery
    cases hser : (d.step cfg delivery).serving with
    | true =>
      have hopen : HoldsOpen cfg d delivery := by
        rw [← hfirst]
        intro hsto
        rw [hser] at hsto
        cases hsto
      simp [List.foldl_cons, StepsMeet, ih hser, hopen]
    | false =>
      -- the desk has closed: what follows changes nothing and breaks no condition
      obtain ⟨hrun, hmee⟩ := run_of_stopped cfg hser rest
      rw [List.foldl_cons, hrun, hfirst]
      simp [StepsMeet, hmee]

end Desk

/-! ## The plaintext server -/

inductive ServerPhase where
  | accepting
  | serving
  | stopped
deriving DecidableEq

structure Server (C : Crypto) where
  consent : SessionConsent C
  phase : ServerPhase

inductive ServerEvent (C : OperatorCrypto) (E : Type) where
  | acceptFailed
  | upgradeFailed
  | accepted
  | message (text : Option String) (m : Moment C E)
  | closed

namespace Server

def step (cfg : ConsentConfig C) (s : Server C.toCrypto) (e : ServerEvent C E) :
    Server C.toCrypto :=
  match s.phase, e with
  | .accepting, .acceptFailed => { s with phase := .stopped }
  | .accepting, .accepted => { s with phase := .serving }
  | .serving, .message text m =>
    match text.bind (decodeConsentDecision cfg m) with
    | none => s
    | some decoded =>
      match applyConsentDecision cfg m decoded s.consent with
      | (.keepServing, consent) => { s with consent := consent }
      | (.stop, consent) => ⟨consent, .stopped⟩
  | .serving, .closed => { s with phase := .accepting }
  | _, _ => s

def start (consent : SessionConsent C.toCrypto) : Server C.toCrypto := ⟨consent, .accepting⟩

def desk (s : Server C.toCrypto) : Desk C.toCrypto := ⟨s.consent, s.phase ≠ .stopped⟩

def delivery (cfg : ConsentConfig C) (s : Server C.toCrypto) (e : ServerEvent C E) :
    Delivery C E :=
  match s.phase, e with
  | .accepting, .acceptFailed => .listenerFailed
  | .serving, .message text m =>
    match text.bind (decodeConsentDecision cfg m) with
    | none => .nothing
    | some decoded => .decision decoded m
  | _, _ => .nothing

lemma step_message {cfg : ConsentConfig C} {s : Server C.toCrypto} (h : s.phase = .serving)
    (text : Option String) (m : Moment C E) :
    (text.bind (decodeConsentDecision cfg m) = none ∧ s.step cfg (.message text m) = s) ∨
      ∃ decoded, text.bind (decodeConsentDecision cfg m) = some decoded ∧
        s.step cfg (.message text m) = ⟨(applyConsentDecision cfg m decoded s.consent).2,
            if (applyConsentDecision cfg m decoded s.consent).1 = .keepServing then .serving
            else .stopped⟩ := by
  simp only [step, h]
  cases hdec : text.bind (decodeConsentDecision cfg m) with
  | none => exact .inl ⟨rfl, rfl⟩
  | some decoded =>
    refine .inr ⟨decoded, rfl, ?_⟩
    rcases hres : applyConsentDecision cfg m decoded s.consent with ⟨followup, consent⟩
    cases followup <;> simp [hres]

lemma step_desk (cfg : ConsentConfig C) (s : Server C.toCrypto) (e : ServerEvent C E) :
    (s.step cfg e).desk = s.desk.step cfg (s.delivery cfg e) := by
  cases hphase : s.phase with
  | accepting => cases e <;> simp [step, delivery, desk, Desk.step, hphase]
  | stopped => cases e <;> simp [step, desk, Desk.step, hphase]
  | serving =>
    cases e with
    | message text m =>
      rcases step_message hphase text m with ⟨hnone, hstep⟩ | ⟨decoded, hdec, hstep⟩
      · rw [hstep]
        simp [delivery, hphase, hnone, desk, Desk.step]
      · rw [hstep]
        simp only [delivery, hphase, hdec, desk, Desk.step]
        split <;> simp_all
    | _ => simp [step, delivery, desk, Desk.step, hphase]

end Server

def connectionWith (log : List (UInt8 × Bytes)) (decisions : List String) :
    List (ServerEvent (recordCrypto log) String) :=
  .accepted :: decisions.mapIdx (fun i text =>
    .message (some text) (sampleMoment log (UInt8.ofNat (i + 3)) true))

end XeniaPeer.Consent
