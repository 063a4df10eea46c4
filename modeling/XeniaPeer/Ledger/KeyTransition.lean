import XeniaPeer.Ledger.Checkpoint

/-!
# Handover between ledger keys

A ledger is signed by one key. A new key starts a new ledger, and the handover (`key_transition.rs`)
is a statement about the last checkpoint of the old one that both keys sign.
-/

namespace XeniaPeer.Ledger

open Foundation

def ledgerKeyTransitionSchema : String := "xenia-ledger-key-transition-v1"

structure LedgerKeyTransition where
  schema : String
  previousCheckpoint : LedgerCheckpoint
  newLedgerPublicKey : FixedBytes 32
  timestampUnixSecs : UInt64
  (previousKeySignature newKeySignature : FixedBytes 64)

def ledgerKeyTransitionMessage (previousCheckpointFingerprint newLedgerPublicKey : FixedBytes 32)
    (timestampUnixSecs : UInt64) : Bytes :=
  utf8 "xenia:ledger-key-transition:v1" ++ [0] ++ utf8 ledgerKeyTransitionSchema ++ [0] ++
    previousCheckpointFingerprint.toList ++ newLedgerPublicKey.toList ++ u64Be timestampUnixSecs

inductive LedgerKeyTransitionError where
  | unsupportedSchema (schema : String)
  | previousCheckpoint (error : CheckpointError)
  | transitionPredatesCheckpoint
  | keyUnchanged
  | badNewPublicKey
  | badPreviousSignature
  | badNewSignature

variable (C : Crypto)

def verifyLedgerKeyTransition (transition : LedgerKeyTransition) :
    Except LedgerKeyTransitionError Unit := do
  failIf (transition.schema ≠ ledgerKeyTransitionSchema) (.unsupportedSchema transition.schema)
  (verifyCheckpoint C transition.previousCheckpoint).mapError .previousCheckpoint
  failIf (transition.timestampUnixSecs < transition.previousCheckpoint.timestampUnixSecs)
    .transitionPredatesCheckpoint
  failIf (transition.newLedgerPublicKey = transition.previousCheckpoint.ledgerPublicKey)
    .keyUnchanged
  let previousKey ← okOr (C.ed25519.fromBytes transition.previousCheckpoint.ledgerPublicKey)
    (.previousCheckpoint .badPublicKey)
  let newKey ← okOr (C.ed25519.fromBytes transition.newLedgerPublicKey) .badNewPublicKey
  let fingerprint ←
    (checkpointFingerprint C transition.previousCheckpoint).mapError .previousCheckpoint
  let message := ledgerKeyTransitionMessage fingerprint transition.newLedgerPublicKey
    transition.timestampUnixSecs
  failIf (C.ed25519.verify previousKey message transition.previousKeySignature = false)
    .badPreviousSignature
  failIf (C.ed25519.verify newKey message transition.newKeySignature = false) .badNewSignature

/-! ## What is accepted -/

def LedgerKeyTransition.message (t : LedgerKeyTransition) : Bytes :=
  ledgerKeyTransitionMessage (t.previousCheckpoint.fingerprint C) t.newLedgerPublicKey
    t.timestampUnixSecs

structure TransitionSignedBy (previousKey newKey : C.ed25519.VerifyingKey)
    (t : LedgerKeyTransition) : Prop where
  schema : t.schema = ledgerKeyTransitionSchema
  checkpoint : SignedBy C previousKey t.previousCheckpoint
  time_le : t.previousCheckpoint.timestampUnixSecs ≤ t.timestampUnixSecs
  newKey_eq : t.newLedgerPublicKey = newKey.val
  changed : newKey ≠ previousKey
  previous : C.ed25519.verify previousKey (t.message C) t.previousKeySignature = true
  new : C.ed25519.verify newKey (t.message C) t.newKeySignature = true

variable {C}

lemma verifyLedgerKeyTransition_ok {t : LedgerKeyTransition} :
    verifyLedgerKeyTransition C t = .ok () ↔
      ∃ previousKey newKey, TransitionSignedBy C previousKey newKey t := by
  unfold verifyLedgerKeyTransition
  simp only [guard_bind_ok, mapError_ok, failIf_ok, verifyCheckpoint_ok, ne_eq,
    not_not, UInt64.not_lt]
  simp only [bind_ok, mapError_ok, checkpointFingerprint_ok, okOr_ok, failIf_ok,
    SignatureScheme.fromBytes_eq_some, Bool.not_eq_false]
  constructor
  · rintro ⟨hschema, ⟨pk, hsig⟩, htime, hcha, pk', hpk', newKey, hnew, _, ⟨-, rfl⟩, -, hpre, hnwS⟩
    have hpk : pk' = pk := Subtype.ext (hpk'.trans hsig.2.1)
    subst hpk
    have hne : newKey ≠ pk' := by
      intro heq
      apply hcha
      rw [← hnew, ← hpk', heq]
    exact ⟨pk', newKey, hschema, hsig, htime, hnew.symm, hne, hpre, hnwS⟩
  · rintro ⟨pk, newKey, h⟩
    have hcha : ¬ t.newLedgerPublicKey = t.previousCheckpoint.ledgerPublicKey := by
      rw [h.newKey_eq, h.checkpoint.2.1]
      exact fun heq => h.changed (Subtype.ext heq)
    exact ⟨h.schema, ⟨pk, h.checkpoint⟩, h.time_le, hcha, pk, h.checkpoint.2.1.symm, newKey,
      h.newKey_eq.symm, _, ⟨⟨pk, h.checkpoint⟩, rfl⟩, (), h.previous, h.new⟩

lemma ledgerKeyTransitionMessage_inj {fingerprint fingerprint' key key' : FixedBytes 32}
    {time time' : UInt64} (h : ledgerKeyTransitionMessage fingerprint key time =
      ledgerKeyTransitionMessage fingerprint' key' time') :
    fingerprint = fingerprint' ∧ key = key' ∧ time = time' := by
  simp only [ledgerKeyTransitionMessage, List.append_assoc] at h
  have hfie := append_cancel_header h
  simp only [fixedBytes_append_inj] at hfie
  obtain ⟨hfin, hkey, htime⟩ := hfie
  exact ⟨hfin, hkey, prefixCodeOn_u64Be.injOn trivial trivial htime⟩

end XeniaPeer.Ledger
