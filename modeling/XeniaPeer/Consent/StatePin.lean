import XeniaPeer.Consent.StateCommitment

/-!
# Pins of active states

A pin (`consent_compaction.rs`) is a signed observation of one generation of an active state.
Against a state of the same generation it is compared with the state itself; against a later one the
pinned checkpoint has to be extended by the resident entries after it.

Main results: `pin_excludes_rollback`, `advance_keeps_pins`.
-/

namespace XeniaPeer.Consent

open Foundation Ledger

variable (C : Crypto)

/-! ## Signing and verifying a pin -/

def ConsentCompactedStatePinV1.messageInput (pin : ConsentCompactedStatePinV1)
    (checkpoint : FixedBytes 32) : Bytes :=
  utf8 "xenia:consent-compacted-state-pin:v1" ++ ([0] ++ (utf8 pin.schema ++ ([0] ++
    (pin.ledgerEpochId.toList ++ (pin.cutoverReceiptFingerprint.toList ++
    (u64Be pin.generation ++ (pin.activeStateDigest.toList ++ (checkpoint.toList ++
    u64Be pin.createdAtUnixSecs))))))))

def consentCompactedStatePinMessage (pin : ConsentCompactedStatePinV1) :
    Except ConsentRecoveryError Bytes := do
  failIf (pin.schema ≠ consentCompactedStatePinSchema) (.unsupportedStatePinSchema pin.schema)
  let checkpoint ← (checkpointFingerprint C pin.checkpoint).mapError .checkpoint
  pure (pin.messageInput checkpoint)

namespace ConsentCompactedStatePinV1

section

variable (pin : ConsentCompactedStatePinV1) (state : ConsentCompactedActiveStateV1)

def verifyLaterState : Except ConsentRecoveryError Unit := do
  let base := state.activationSnapshot.recoverySummary.throughCheckpoint
  failIf (pin.checkpoint.entryCount < base.entryCount) .statePinPredatesAnchor
  let offset ← okOr (checkedSub pin.checkpoint.entryCount base.entryCount) .statePinPredatesAnchor
  let suffix ← okOr (entriesFrom state.residentEntries offset.toNat) .statePinPredatesAnchor
  (verifyCheckpointExtension C pin.checkpoint state.currentCheckpoint suffix).mapError .continuity

def verifyAgainstState (publicKey : C.ed25519.VerifyingKey) : Except ConsentRecoveryError Unit := do
  failIf (pin.schema ≠ consentCompactedStatePinSchema) (.unsupportedStatePinSchema pin.schema)
  state.verify C publicKey
  (verifyCheckpoint C pin.checkpoint).mapError .checkpoint
  -- one condition in the source; its last part is evaluated only if the others do not hold
  failIf (pin.checkpoint.ledgerPublicKey ≠ publicKey.val ∨
    pin.ledgerEpochId ≠ state.cutoverReceipt.ledgerEpochId) .statePinIdentityMismatch
  let receipt ← consentCompactedCutoverReceiptFingerprint C state.cutoverReceipt
  failIf (pin.cutoverReceiptFingerprint ≠ receipt) .statePinIdentityMismatch
  failIf (pin.createdAtUnixSecs < pin.checkpoint.timestampUnixSecs) .statePinTimestampRegressed
  let message ← consentCompactedStatePinMessage C pin
  failIf (C.ed25519.verify publicKey message pin.signature = false) .invalidStatePinSignature
  failIf (state.generation < pin.generation)
    (.statePinGenerationRollback pin.generation state.generation)
  if pin.generation = state.generation then
    failIf (pin.activeStateDigest ≠ state.stateDigest ∨
      pin.checkpoint ≠ state.currentCheckpoint) .statePinSameGenerationMismatch
  else pin.verifyLaterState C state

end

variable {C} in
def signForState (state : ConsentCompactedActiveStateV1) (signingKey : C.ed25519.SigningKey)
    (createdAtUnixSecs : UInt64) : Except ConsentRecoveryError ConsentCompactedStatePinV1 := do
  state.verify C (C.ed25519.verifyingKey signingKey)
  failIf (createdAtUnixSecs < state.currentCheckpoint.timestampUnixSecs)
    .statePinTimestampRegressed
  let receipt ← consentCompactedCutoverReceiptFingerprint C state.cutoverReceipt
  let unsigned : ConsentCompactedStatePinV1 :=
    ⟨consentCompactedStatePinSchema, state.cutoverReceipt.ledgerEpochId, receipt,
      state.generation, state.stateDigest, state.currentCheckpoint, createdAtUnixSecs,
      .replicate 64 0⟩
  let message ← consentCompactedStatePinMessage C unsigned
  let pin := { unsigned with signature := C.ed25519.sign signingKey message }
  pin.verifyAgainstState C state (C.ed25519.verifyingKey signingKey)
  pure pin

def message (pin : ConsentCompactedStatePinV1) : Bytes :=
  pin.messageInput (pin.checkpoint.fingerprint C)

end ConsentCompactedStatePinV1

/-! ## What is accepted -/

structure PinSigned (publicKey : C.ed25519.VerifyingKey)
    (receipt : ConsentCompactedCutoverReceiptV1) (pin : ConsentCompactedStatePinV1) : Prop where
  schema : pin.schema = consentCompactedStatePinSchema
  checkpoint : SignedBy C publicKey pin.checkpoint
  epoch : pin.ledgerEpochId = receipt.ledgerEpochId
  receipt : pin.cutoverReceiptFingerprint = C.blake3 (receipt.fingerprintInput C)
  created : pin.checkpoint.timestampUnixSecs ≤ pin.createdAtUnixSecs
  signature : C.ed25519.verify publicKey (pin.message C) pin.signature = true

def PinnedOn (publicKey : C.ed25519.VerifyingKey) (state : ConsentCompactedActiveStateV1)
    (pinned : LedgerCheckpoint) : Prop :=
  let base := state.activationSnapshot.recoverySummary.throughCheckpoint
  pinned.timestampUnixSecs ≤ state.currentCheckpoint.timestampUnixSecs ∧
    LiesOn C publicKey base.entryCount.toNat base.headHash state.residentEntries pinned

variable {C} {pin : ConsentCompactedStatePinV1}

lemma consentCompactedStatePinMessage_ok {m : Bytes} :
    consentCompactedStatePinMessage C pin = .ok m ↔
      pin.schema = consentCompactedStatePinSchema ∧ (∃ pk, SignedBy C pk pin.checkpoint) ∧
        pin.message C = m := by
  simp only [consentCompactedStatePinMessage, guard_bind_ok, failIf_ok, ne_eq, not_not]
  simp only [bind_ok, mapError_ok, checkpointFingerprint_ok, pure_ok]
  constructor
  · rintro ⟨hschema, _, ⟨hsig, rfl⟩, hmsg⟩
    exact ⟨hschema, hsig, hmsg⟩
  · rintro ⟨hschema, hsig, hmsg⟩
    exact ⟨hschema, _, ⟨hsig, rfl⟩, hmsg⟩

variable {pk : C.ed25519.VerifyingKey} {state : ConsentCompactedActiveStateV1}

section Accepted

lemma StateAccepted.linked (h : StateAccepted C pk state) :
    let base := state.activationSnapshot.recoverySummary.throughCheckpoint
    SignedBy C pk base ∧ base.timestampUnixSecs ≤ state.currentCheckpoint.timestampUnixSecs ∧
      base.entryCount.toNat + state.residentEntries.length =
        state.currentCheckpoint.entryCount.toNat ∧
      LinkedFrom C pk base.entryCount.toNat base.headHash state.residentEntries ∧
      ledgerLinks.headAfter base.headHash state.residentEntries =
        state.currentCheckpoint.headHash := by
  obtain ⟨key, hbase, hcur, hrest⟩ := verifyCheckpointExtension_ok.mp h.extends_
  have hkey : key = pk := hcur.unique h.current
  subst hkey
  exact ⟨hbase, hrest⟩

lemma StateAccepted.current_pinnedOn (h : StateAccepted C pk state) :
    PinnedOn C pk state state.currentCheckpoint := by
  obtain ⟨-, -, hcount, hlin, hhead⟩ := h.linked
  refine ⟨UInt64.le_refl _, state.residentEntries.length, Nat.le_refl _, hcount.symm, ?_, ?_⟩
  · rw [List.take_length]
    exact hlin
  · rw [List.take_length]
    exact hhead

lemma extension_iff_liesOn (h : StateAccepted C pk state) {pinned : LedgerCheckpoint}
    (hpinned : SignedBy C pk pinned) : (∃ n ≤ state.residentEntries.length,
      state.activationSnapshot.recoverySummary.throughCheckpoint.entryCount.toNat + n =
        pinned.entryCount.toNat ∧
      verifyCheckpointExtension C pinned state.currentCheckpoint (state.residentEntries.drop n) =
        .ok ()) ↔ PinnedOn C pk state pinned := by
  obtain ⟨-, -, hcount, hlin, hhead⟩ := h.linked
  have hspl : ∀ n, LinkedFrom C pk
      state.activationSnapshot.recoverySummary.throughCheckpoint.entryCount.toNat
      state.activationSnapshot.recoverySummary.throughCheckpoint.headHash
      (state.residentEntries.take n ++ state.residentEntries.drop n) := by
    intro n
    rw [List.take_append_drop]
    exact hlin
  have hhea : ∀ n, ledgerLinks.headAfter (ledgerLinks.headAfter
      state.activationSnapshot.recoverySummary.throughCheckpoint.headHash
      (state.residentEntries.take n)) (state.residentEntries.drop n) =
      state.currentCheckpoint.headHash := by
    intro n
    rw [← Links.headAfter_append, List.take_append_drop]
    exact hhead
  constructor
  · rintro ⟨n, hn, hpin, hext⟩
    obtain ⟨key, -, -, htime, -, hsuf, hfin⟩ := verifyCheckpointExtension_ok.mp hext
    obtain ⟨hfr, hback⟩ := Links.linked_append.mp (hspl n)
    refine ⟨htime, n, hn, hpin.symm, hfr, ?_⟩
    exact hback.start_unique hsuf ((hhea n).trans hfin.symm)
  · rintro ⟨htime, n, hn, hpin, -, hfr⟩
    obtain ⟨-, hback⟩ := Links.linked_append.mp (hspl n)
    rw [List.length_take_of_le hn, ← hpin, hfr] at hback
    have hfin := hhea n
    rw [hfr] at hfin
    refine ⟨n, hn, hpin.symm, verifyCheckpointExtension_ok.mpr
      ⟨pk, hpinned, h.current, htime, ?_, hback, hfin⟩⟩
    rw [List.length_drop]
    omega

lemma verifyLaterState_ok (h : StateAccepted C pk state) (hpin : SignedBy C pk pin.checkpoint) :
    pin.verifyLaterState C state = .ok () ↔ PinnedOn C pk state pin.checkpoint := by
  rw [← extension_iff_liesOn h hpin]
  simp only [ConsentCompactedStatePinV1.verifyLaterState, guard_bind_ok, failIf_ok, UInt64.not_lt]
  simp only [bind_ok, okOr_ok, mapError_ok, checkedSub_eq_some, entriesFrom_eq_some]
  constructor
  · rintro ⟨hle, _, ⟨-, rfl⟩, _, ⟨hn, rfl⟩, hext⟩
    exact ⟨_, hn, (toNat_sub_eq_iff hle _).mp rfl, hext⟩
  · rintro ⟨n, hn, hcount, hext⟩
    have hle : state.activationSnapshot.recoverySummary.throughCheckpoint.entryCount ≤
        pin.checkpoint.entryCount := UInt64.le_iff_toNat_le.mpr (by omega)
    have hoff := (toNat_sub_eq_iff hle n).mpr hcount
    exact ⟨hle, _, ⟨hle, rfl⟩, _, ⟨hoff ▸ hn, rfl⟩, hoff ▸ hext⟩

lemma pin_verify_ok : pin.verifyAgainstState C state pk = .ok () ↔
      StateAccepted C pk state ∧ PinSigned C pk state.cutoverReceipt pin ∧
        pin.generation ≤ state.generation ∧
        (pin.generation = state.generation → pin.activeStateDigest = state.stateDigest ∧
          pin.checkpoint = state.currentCheckpoint) ∧
        (pin.generation ≠ state.generation → PinnedOn C pk state pin.checkpoint) := by
  simp only [ConsentCompactedStatePinV1.verifyAgainstState, guard_bind_ok, failIf_ok,
    mapError_ok, state_verify_ok, verifyCheckpoint_ok, ne_eq, not_or, not_not]
  rw [bind_ok]
  simp only [guard_bind_ok, failIf_ok, not_not, UInt64.not_lt,
    consentCompactedCutoverReceiptFingerprint_ok]
  simp only [bind_ok (α := Bytes), guard_bind_ok, failIf_ok, UInt64.not_lt,
    consentCompactedStatePinMessage_ok, Bool.not_eq_false]
  constructor
  · rintro ⟨hschema, hstate, ⟨key, hsig⟩, ⟨hkey, hepo⟩, _, ⟨-, -, -, rfl⟩, hreceipt, hcre,
      _, ⟨-, -, rfl⟩, hsgn, hgen, h⟩
    have hpk : key = pk := hsig.eq_of_key hkey
    subst hpk
    refine ⟨hstate, ⟨hschema, hsig, hepo, hreceipt, hcre, hsgn⟩, hgen, ?_, ?_⟩
    · intro heq
      rw [if_pos heq, failIf_ok] at h
      simpa only [not_or, not_not] using h
    · intro hne
      rw [if_neg hne] at h
      exact (verifyLaterState_ok hstate hsig).mp h
  · rintro ⟨hstate, hpin, hgen, hsame, hlat⟩
    refine ⟨hpin.schema, hstate, ⟨pk, hpin.checkpoint⟩, ⟨hpin.checkpoint.2.1, hpin.epoch⟩, _,
      ⟨hstate.receipt.schema, ⟨pk, hstate.receipt.source⟩, ⟨pk, hstate.receipt.activated⟩, rfl⟩,
      hpin.receipt, hpin.created, _, ⟨hpin.schema, ⟨pk, hpin.checkpoint⟩, rfl⟩, hpin.signature,
      hgen, ?_⟩
    by_cases heq : pin.generation = state.generation
    · rw [if_pos heq, failIf_ok]
      simpa only [not_or, not_not] using hsame heq
    · rw [if_neg heq]
      exact (verifyLaterState_ok hstate hpin.checkpoint).mpr (hlat heq)

lemma pinnedOn_of_verify (h : pin.verifyAgainstState C state pk = .ok ()) :
    PinnedOn C pk state pin.checkpoint := by
  obtain ⟨hstate, -, -, hsame, hlat⟩ := pin_verify_ok.mp h
  by_cases heq : pin.generation = state.generation
  · rw [(hsame heq).2]
    exact hstate.current_pinnedOn
  · exact hlat heq

lemma pin_of_signForState {sk : C.ed25519.SigningKey} {t : UInt64}
    (h : ConsentCompactedStatePinV1.signForState state sk t = .ok pin) :
    pin.verifyAgainstState C state (C.ed25519.verifyingKey sk) = .ok () ∧
      pin.generation = state.generation ∧ pin.activeStateDigest = state.stateDigest ∧
      pin.checkpoint = state.currentCheckpoint := by
  simp only [ConsentCompactedStatePinV1.signForState, bind_ok, pure_ok] at h
  obtain ⟨-, -, -, -, receipt, -, message, -, ⟨⟩, hverify, rfl⟩ := h
  exact ⟨hverify, rfl, rfl, rfl⟩

end Accepted

lemma prefix_of_pinnedOn {a b : ConsentCompactedActiveStateV1} (ha : StateAccepted C pk a)
    (hcut : a.activationSnapshot = b.activationSnapshot)
    (hfree : CollisionFreeOn C (preimages (a.residentEntries ++ b.residentEntries)))
    (h : PinnedOn C pk b a.currentCheckpoint) : List.Forall₂ SameContent a.residentEntries
      (b.residentEntries.take a.residentEntries.length) := by
  obtain ⟨-, -, hcount, hlin, hhead⟩ := ha.linked
  obtain ⟨-, n, hn, hpin, hfr, hpnn⟩ := h
  rw [← hcut] at hpin hfr hpnn
  have hlen : n = a.residentEntries.length := by omega
  subst hlen
  refine hlin.commits_of_length (fun x y hxy => hxy.2.2.2.1) hfr ?_ ?_ ?_
  · intro x hx y hy hdigest
    exact sameContent_of_sealed (hlin.good_of_mem hx) (hfr.good_of_mem hy) hfree
      (preimage_mem (List.mem_append_left _ hx))
      (preimage_mem (List.mem_append_right _ (List.mem_of_mem_take hy))) hdigest
  · rw [List.length_take_of_le hn]
  · rw [hhead, hpnn]

/-! ## Advancing -/

def ConsentCompactedActiveStateV1.advanceAll (state : ConsentCompactedActiveStateV1)
    (calls : List (Chain C × UInt64)) :
    Except ConsentRecoveryError ConsentCompactedActiveStateV1 :=
  calls.foldlM (fun state call => state.advanceFromChain call.1 call.2) state

/-- The chain still has the resident entries of the state in front, up to their signatures, and
the clock is not behind the state's checkpoint. -/
structure Continues (state : ConsentCompactedActiveStateV1) (chain : Chain C)
    (timestampUnixSecs : UInt64) : Prop where
  time : state.currentCheckpoint.timestampUnixSecs ≤ timestampUnixSecs
  entries : List.Forall₂ SameContent state.residentEntries
    (chain.entries.take state.residentEntries.length)

/-- Each call is made with a chain that continues the state before it. -/
def Continuing : ConsentCompactedActiveStateV1 → List (Chain C × UInt64) → Prop
  | _, [] => True
  | state, (chain, t) :: calls => Continues state chain t ∧
      ∀ next, state.advanceFromChain chain t = .ok next → Continuing next calls

section Advance

variable {next : ConsentCompactedActiveStateV1} {chain : Chain C} {t : UInt64}

lemma PinnedOn.advance {pinned : LedgerCheckpoint} (hpin : PinnedOn C pk state pinned)
    (hnext : StateAccepted C pk next) (h : state.advanceFromChain chain t = .ok next)
    (hchain : Continues state chain t) : PinnedOn C pk next pinned := by
  obtain ⟨hsna, -, -, hent, hcur, -⟩ := advance_of_ok h
  obtain ⟨htime, n, hn, hcount, -, hhead⟩ := hpin
  obtain ⟨-, -, -, hlin, -⟩ := hnext.linked
  have hlen := hchain.entries.length_eq
  rw [List.length_take] at hlen
  have hfr := List.forall₂_take n hchain.entries
  rw [List.take_take, Nat.min_eq_left hn] at hfr
  rw [hsna, hent, ← List.take_append_drop n chain.entries] at hlin
  unfold PinnedOn
  rw [hsna, hcur, hent]
  refine ⟨UInt64.le_trans htime hchain.time, n, by omega, hcount, (Links.linked_append.mp hlin).1, ?_⟩
  rw [← hhead]
  exact (Links.headAfter_congr (fun x y hxy => hxy.2.2.2.2) hfr).symm

lemma pin_survives_advance (hpin : pin.verifyAgainstState C state pk = .ok ())
    (h : state.advanceFromChain chain t = .ok next) (hchain : Continues state chain t) :
    pin.verifyAgainstState C next pk = .ok () := by
  obtain ⟨hstate, hsig, hle, -, -⟩ := pin_verify_ok.mp hpin
  obtain ⟨-, hreceipt, hgen, -, -, -⟩ := advance_of_ok h
  have hnext := hstate.advance h
  have hpnn := (pinnedOn_of_verify hpin).advance hnext h hchain
  have hle := UInt64.le_iff_toNat_le.mp hle
  refine pin_verify_ok.mpr ⟨hnext, hreceipt ▸ hsig, UInt64.le_iff_toNat_le.mpr (by omega),
    ?_, fun _ => hpnn⟩
  intro heq
  rw [heq] at hle
  omega

lemma exists_pin (hcorrect : C.ed25519.Correct) (sk : C.ed25519.SigningKey)
    (hstate : StateAccepted C (C.ed25519.verifyingKey sk) state) :
    ∃ pin, ConsentCompactedStatePinV1.signForState state sk
      state.currentCheckpoint.timestampUnixSecs = .ok pin := by
  simp only [ConsentCompactedStatePinV1.signForState, bind_ok, failIf_ok, pure_ok,
    consentCompactedCutoverReceiptFingerprint_ok, consentCompactedStatePinMessage_ok, UInt64.not_lt]
  refine ⟨_, (), state_verify_ok.mpr hstate, (), UInt64.le_refl _, _,
    ⟨hstate.receipt.schema, ⟨_, hstate.receipt.source⟩, ⟨_, hstate.receipt.activated⟩, rfl⟩, _,
    ⟨trivial, ⟨_, hstate.current⟩, rfl⟩, (), ?_, rfl⟩
  exact pin_verify_ok.mpr ⟨hstate, ⟨rfl, hstate.current, rfl, rfl, UInt64.le_refl _,
    hcorrect sk _⟩, UInt64.le_refl _, fun _ => ⟨rfl, rfl⟩, fun hne => absurd rfl hne⟩

lemma continues_of_pins_survive (hcorrect : C.ed25519.Correct) {sk : C.ed25519.SigningKey}
    (hstate : StateAccepted C (C.ed25519.verifyingKey sk) state)
    (h : state.advanceFromChain chain t = .ok next)
    (hfree : CollisionFreeOn C (preimages (state.residentEntries ++ chain.entries)))
    (hsurvive : ∀ pin : ConsentCompactedStatePinV1,
      pin.verifyAgainstState C state (C.ed25519.verifyingKey sk) = .ok () →
      pin.verifyAgainstState C next (C.ed25519.verifyingKey sk) = .ok ()) :
    Continues state chain t := by
  obtain ⟨pin, hpin⟩ := exists_pin hcorrect sk hstate
  obtain ⟨hself, -, -, hcp⟩ := pin_of_signForState hpin
  obtain ⟨hsna, -, -, hent, hcur, -⟩ := advance_of_ok h
  have hpnn := pinnedOn_of_verify (hsurvive pin hself)
  rw [hcp] at hpnn
  rw [← hent] at hfree
  have hpre := prefix_of_pinnedOn hstate hsna.symm hfree hpnn
  have htime := hpnn.1
  rw [hcur] at htime
  exact ⟨htime, hent ▸ hpre⟩

end Advance

/-! ## Pins exclude rollback -/

/-- **Pins exclude rollback and forks.** Where hashes do not collide, the pin signed for one
accepted state verifies against another one under the same key only if both come from one
cutover, the other one is not of an earlier generation and has the entries of the first in front,
up to their signatures; in the same generation both have one digest. -/
theorem pin_excludes_rollback {sk : C.ed25519.SigningKey} {a b : ConsentCompactedActiveStateV1}
    (ha : a.verify C (C.ed25519.verifyingKey sk) = .ok ())
    (hb : b.verify C (C.ed25519.verifyingKey sk) = .ok ())
    (hatexts : a.activationSnapshot.recoverySummary.TextsFit)
    (hbtexts : b.activationSnapshot.recoverySummary.TextsFit)
    (hT : Set.InjOn C.blake3 {x | x ∈ a.hashInputs C ++ b.hashInputs C})
    (hfree : CollisionFreeOn C (preimages (a.residentEntries ++ b.residentEntries)))
    {t : UInt64} {pin : ConsentCompactedStatePinV1}
    (hpin : ConsentCompactedStatePinV1.signForState a sk t = .ok pin)
    (hverify : pin.verifyAgainstState C b (C.ed25519.verifyingKey sk) = .ok ()) :
    (a.cutoverReceipt = b.cutoverReceipt ∧ a.activationSnapshot = b.activationSnapshot) ∧
      a.generation ≤ b.generation ∧
      List.Forall₂ SameContent a.residentEntries
        (b.residentEntries.take a.residentEntries.length) ∧
      (a.generation = b.generation → a.stateDigest = b.stateDigest) := by
  have ha := state_verify_ok.mp ha
  have hb := state_verify_ok.mp hb
  obtain ⟨hself, hgeneration, hdigest, hcheckpoint⟩ := pin_of_signForState hpin
  obtain ⟨-, hsigned, -, -, -⟩ := pin_verify_ok.mp hself
  obtain ⟨-, hsigned', hle, hsame, -⟩ := pin_verify_ok.mp hverify
  have hcutover := cutover_eq_of_fingerprint ha hb hfree hatexts hbtexts hT
    (hsigned.receipt.symm.trans hsigned'.receipt)
  have hpinned := pinnedOn_of_verify hverify
  rw [hcheckpoint] at hpinned
  refine ⟨hcutover, hgeneration ▸ hle, prefix_of_pinnedOn ha hcutover.2 hfree hpinned, ?_⟩
  intro heq
  rw [← hdigest]
  exact (hsame (hgeneration.trans heq)).1

def sampleLater : ConsentCompactedActiveStateV1 := sampleState 2 sampleAdvanced.stateDigest 2 70

lemma sampleLater_of_advance :
    sampleAdvanced.advanceFromChain (sampleSuffixChain ((sampleRounds.drop 1).take 2)) 70 =
      .ok sampleLater := by
  decide +kernel

lemma sampleLater_continues :
    Continues sampleAdvanced (sampleSuffixChain ((sampleRounds.drop 1).take 2)) 70 :=
  ⟨by decide +kernel, .cons ⟨rfl, rfl, rfl, rfl, rfl⟩ .nil⟩

/-- The pin of the first advanced state, against the state after one more entry. -/
theorem pin_excludes_rollback_sample :
    ∃ pin, ConsentCompactedStatePinV1.signForState (C := sampleCrypto) sampleAdvanced
        (sampleKey 7).val 60 = .ok pin ∧
      pin.verifyAgainstState sampleCrypto sampleLater (sampleKey 7) = .ok () ∧
      List.Forall₂ SameContent sampleAdvanced.residentEntries
        (sampleLater.residentEntries.take 1) := by
  have hadvanced := sampleActivated_accepted.advance sampleAdvanced_of_advance
  have hlater := hadvanced.advance sampleLater_of_advance
  obtain ⟨pin, hpin⟩ := exists_pin (C := sampleCrypto) (keyedScheme_correct _) (sampleKey 7).val
    hadvanced
  have hverify := pin_survives_advance (pin_of_signForState hpin).1 sampleLater_of_advance
    sampleLater_continues
  have hhashes : Set.InjOn sampleCrypto.blake3 {x | x ∈ sampleAdvanced.hashInputs sampleCrypto ++
      sampleLater.hashInputs sampleCrypto} :=
    injOn_of_nodup_map (by decide +kernel)
  have hfree : CollisionFreeOn sampleCrypto
      (preimages (sampleAdvanced.residentEntries ++ sampleLater.residentEntries)) :=
    collisionFreeOn_of_nodup (by decide +kernel)
  have hverified : sampleAdvanced.verify sampleCrypto
      (sampleCrypto.ed25519.verifyingKey (sampleKey 7).val) = .ok () :=
    state_verify_ok.mpr hadvanced
  obtain ⟨-, -, hpre, -⟩ := pin_excludes_rollback hverified (state_verify_ok.mpr hlater)
    textsFit_sampleSummary textsFit_sampleSummary hhashes hfree hpin hverify
  exact ⟨pin, hpin, hverify, hpre⟩

/-! ## Runs of advances -/

lemma pin_survives_run {calls : List (Chain C × UInt64)}
    {state final : ConsentCompactedActiveStateV1}
    (hpin : pin.verifyAgainstState C state pk = .ok ()) (hchain : Continuing state calls)
    (hrun : state.advanceAll calls = .ok final) : pin.verifyAgainstState C final pk = .ok () := by
  induction calls generalizing state with
  | nil =>
    cases hrun
    exact hpin
  | cons call calls ih =>
    simp only [ConsentCompactedActiveStateV1.advanceAll, List.foldlM_cons, bind_ok] at hrun
    obtain ⟨next, hstep, hrest⟩ := hrun
    exact ih (pin_survives_advance hpin hstep hchain.1) (hchain.2 next hstep) hrest

/-- **Advances and pins.** A pin that verifies against a state verifies against every state that
a run of advances reaches in which each step continues the state before it. No weaker condition
would do: a single advance keeps all pins of the state exactly when it continues it, for every
key that can sign. -/
theorem advance_keeps_pins (C : Crypto) :
    (∀ (pk : C.ed25519.VerifyingKey) (state final : ConsentCompactedActiveStateV1)
      (calls : List (Chain C × UInt64)), state.verify C pk = .ok () → Continuing state calls →
      state.advanceAll calls = .ok final → ∀ pin : ConsentCompactedStatePinV1,
        pin.verifyAgainstState C state pk = .ok () →
        pin.verifyAgainstState C final pk = .ok ()) ∧
    (C.ed25519.Correct → ∀ (sk : C.ed25519.SigningKey)
      (state next : ConsentCompactedActiveStateV1) (chain : Chain C) (t : UInt64),
      state.verify C (C.ed25519.verifyingKey sk) = .ok () →
      state.advanceFromChain chain t = .ok next →
      CollisionFreeOn C (preimages (state.residentEntries ++ chain.entries)) →
      ((∀ pin : ConsentCompactedStatePinV1,
        pin.verifyAgainstState C state (C.ed25519.verifyingKey sk) = .ok () →
        pin.verifyAgainstState C next (C.ed25519.verifyingKey sk) = .ok ()) ↔
        Continues state chain t)) := by
  constructor
  · intro pk state final calls _ hcontinuing hrun pin hpin
    exact pin_survives_run hpin hcontinuing hrun
  · intro hcorrect sk state next chain t hstate hstep hfree
    constructor
    · intro hsurvive
      exact continues_of_pins_survive hcorrect (state_verify_ok.mp hstate) hstep hfree hsurvive
    · intro hcontinues pin hpin
      exact pin_survives_advance hpin hstep hcontinues

/-- Two advances with one more entry each, at later times, and the second of them as a step. -/
theorem advance_keeps_pins_sample :
    let calls := [(sampleSuffixChain ((sampleRounds.drop 1).take 1), 60),
      (sampleSuffixChain ((sampleRounds.drop 1).take 2), 70)]
    sampleActivated.advanceAll calls = .ok sampleLater ∧
      (∀ pin : ConsentCompactedStatePinV1,
        pin.verifyAgainstState sampleCrypto sampleActivated (sampleKey 7) = .ok () →
        pin.verifyAgainstState sampleCrypto sampleLater (sampleKey 7) = .ok ()) ∧
      (∃ pin : ConsentCompactedStatePinV1,
        pin.verifyAgainstState sampleCrypto sampleActivated (sampleKey 7) = .ok ()) ∧
      ((∀ pin : ConsentCompactedStatePinV1,
        pin.verifyAgainstState sampleCrypto sampleAdvanced (sampleKey 7) = .ok () →
        pin.verifyAgainstState sampleCrypto sampleLater (sampleKey 7) = .ok ()) ↔
        Continues sampleAdvanced (sampleSuffixChain ((sampleRounds.drop 1).take 2)) 70) := by
  intro calls
  have hrun : sampleActivated.advanceAll calls = .ok sampleLater := by
    simp only [ConsentCompactedActiveStateV1.advanceAll, calls, List.foldlM_cons, List.foldlM_nil,
      bind_ok, pure_ok]
    exact ⟨_, sampleAdvanced_of_advance, _, sampleLater_of_advance, rfl⟩
  have hcontinuing : Continuing sampleActivated calls := by
    refine ⟨⟨by decide +kernel, .nil⟩, ?_⟩
    intro next hnext
    cases sampleAdvanced_of_advance.symm.trans hnext
    exact ⟨sampleLater_continues, fun _ _ => trivial⟩
  obtain ⟨pin, hpin⟩ := exists_pin (C := sampleCrypto) (keyedScheme_correct _) (sampleKey 7).val
    sampleActivated_accepted
  have hfree : CollisionFreeOn sampleCrypto (preimages (sampleAdvanced.residentEntries ++
      (sampleSuffixChain ((sampleRounds.drop 1).take 2)).entries)) :=
    collisionFreeOn_of_nodup (by decide +kernel)
  obtain ⟨hruns, hsteps⟩ := advance_keeps_pins sampleCrypto
  have hkept := hruns _ _ _ _ (state_verify_ok.mpr sampleActivated_accepted) hcontinuing hrun
  have hiff := hsteps (keyedScheme_correct _) (sampleKey 7).val _ _ _ _
    (state_verify_ok.mpr (sampleActivated_accepted.advance sampleAdvanced_of_advance))
    sampleLater_of_advance hfree
  exact ⟨hrun, hkept, ⟨pin, (pin_of_signForState hpin).1⟩, hiff⟩

def sampleAdvance (state : ConsentCompactedActiveStateV1) (chain : Chain sampleCrypto)
    (t : UInt64) : Except ConsentRecoveryError (Except ConsentRecoveryError Unit) := do
  let pin ← ConsentCompactedStatePinV1.signForState (C := sampleCrypto) state (sampleKey 7).val
    state.currentCheckpoint.timestampUnixSecs
  let next ← state.advanceFromChain chain t
  pure (pin.verifyAgainstState sampleCrypto next (sampleKey 7))

/-- Two advances that succeed after which the pin of the state is refused: one with a clock that
went back from `50` to `45`, and one with another entry in the place of the first resident one. -/
theorem advance_breaks_pins :
    (∃ (pin : ConsentCompactedStatePinV1) (next : ConsentCompactedActiveStateV1),
      sampleActivated.verify sampleCrypto (sampleKey 7) = .ok () ∧
      pin.verifyAgainstState sampleCrypto sampleActivated (sampleKey 7) = .ok () ∧
      sampleActivated.advanceFromChain
        (sampleSuffixChain ((sampleRounds.drop 1).take 1)) 45 = .ok next ∧
      pin.verifyAgainstState sampleCrypto next (sampleKey 7) =
        .error (.continuity (.timestampRegressed 50 45))) ∧
    ∃ (pin : ConsentCompactedStatePinV1) (next : ConsentCompactedActiveStateV1),
      sampleAdvanced.verify sampleCrypto (sampleKey 7) = .ok () ∧
      pin.verifyAgainstState sampleCrypto sampleAdvanced (sampleKey 7) = .ok () ∧
      sampleAdvanced.advanceFromChain
        (sampleSuffixChain (sampleEntries 1 (sampleRoundCheckpoint 1 20).headHash
          [sampleConsentEvent 6 4 .request])) 70 = .ok next ∧
      pin.verifyAgainstState sampleCrypto next (sampleKey 7) =
        .error (.continuity (.forkAtSameHeight 2)) := by
  have hfacts : sampleAdvance sampleActivated
        (sampleSuffixChain ((sampleRounds.drop 1).take 1)) 45 =
        .ok (.error (.continuity (.timestampRegressed 50 45))) ∧
      sampleAdvance sampleAdvanced (sampleSuffixChain (sampleEntries 1
        (sampleRoundCheckpoint 1 20).headHash [sampleConsentEvent 6 4 .request])) 70 =
        .ok (.error (.continuity (.forkAtSameHeight 2))) := by
    decide +kernel
  have hadvanced := sampleActivated_accepted.advance sampleAdvanced_of_advance
  simp only [sampleAdvance, bind_ok, pure_ok] at hfacts
  obtain ⟨⟨pin, hpin, next, hnext, hrefused⟩, ⟨pin', hpin', next', hnext', hrefused'⟩⟩ := hfacts
  exact ⟨⟨pin, next, state_verify_ok.mpr sampleActivated_accepted,
      (pin_of_signForState hpin).1, hnext, hrefused⟩,
    pin', next', state_verify_ok.mpr hadvanced, (pin_of_signForState hpin').1, hnext',
    hrefused'⟩

end XeniaPeer.Consent
