import XeniaPeer.Consent.ActiveState

/-!
# What the digest of an active state commits to

The digest of an active state hashes the digest of its snapshot and the fingerprint of its receipt,
the snapshot's digest hashes the digest of the summary, and so on down to checkpoints and entries.

Main result: `state_digest_commits`.
-/

namespace XeniaPeer.Consent

open Foundation Ledger

variable {C : Crypto}

/-! ## Codes of the digest inputs -/

lemma prefixCodeOn_optionalField (n : Nat) :
    PrefixCodeOn Set.univ (optionalField : Option (FixedBytes n) → Bytes) := by
  intro a _ b _ s t h
  refine (prefixCodeOn_fixedBytes n).option 1 0 (by decide) a (fun _ _ => trivial) b
    (fun _ _ => trivial) s t ?_
  cases a <;> cases b <;> exact h

/-- The texts whose length fits the eight bytes it is hashed in. -/
def fitsLength : Set String := {s | (utf8 s).length < 256 ^ 8}

lemma prefixCodeOn_terminalEvent :
    PrefixCodeOn fitsLength (fun text => beBytes 8 (utf8 text).length ++ utf8 text) :=
  (prefixCodeOn_beBytes 8).lengthPrefixed.comp (fun _ h => h) utf8_injective.injOn

lemma prefixCodeOn_sessionStamp :
    PrefixCodeOn {r | r.terminalEvent ∈ fitsLength} ConsentRecoverySessionV1.stamp := by
  intro a ha b hb s t h
  simp only [ConsentRecoverySessionV1.stamp, List.append_assoc] at h
  obtain ⟨hid, h⟩ := fixedBytes_append_inj.mp h
  simp only [← List.append_assoc (beBytes 8 _)] at h
  obtain ⟨hevent, h⟩ := prefixCodeOn_terminalEvent _ ha _ hb _ _ h
  obtain ⟨hseq, h⟩ := u64Be_append_inj.mp h
  obtain ⟨hkey, h⟩ := prefixCodeOn_optionalField 32 _ trivial _ trivial _ _ h
  obtain ⟨hact, hrest⟩ := prefixCodeOn_optionalField 16 _ trivial _ trivial _ _ h
  cases a
  cases b
  simp only at hid hevent hseq hkey hact
  rw [hid, hevent, hseq, hkey, hact]
  exact ⟨rfl, hrest⟩

lemma fits_of_le {n : Nat} (h : n ≤ 100000) : n ∈ {n | n < 256 ^ 8} :=
  Nat.lt_of_le_of_lt h (by decide)

lemma prefixCodeOn_uuids : PrefixCodeOn {ids : List Uuid | ids.length ≤ 100000}
      (fun ids => beBytes 8 ids.length ++ ids.flatMap List.Vector.toList) := by
  intro a ha b hb s t h
  exact ((prefixCodeOn_fixedBytes 16).list (prefixCodeOn_beBytes 8)) a
    ⟨fits_of_le ha, fun _ _ => trivial⟩ b ⟨fits_of_le hb, fun _ _ => trivial⟩ s t h

lemma prefixCodeOn_entries {S : Set LedgerEntry} (hS : PrefixCodeOn S LedgerEntry.stamp) :
    PrefixCodeOn {entries : List LedgerEntry | entries.length ≤ 100000 ∧ ∀ e ∈ entries, e ∈ S}
      entriesDigestInput := by
  intro a ha b hb s t h
  exact (hS.list (prefixCodeOn_beBytes 8)) a ⟨fits_of_le ha.1, ha.2⟩ b ⟨fits_of_le hb.1, hb.2⟩ s t h

/-! ## Summaries -/

variable (C) in
def ConsentRecoverySummaryV1.hashInputs (summary : ConsentRecoverySummaryV1) : List Bytes :=
  [summary.throughCheckpoint.fingerprintInput,
    summary.digestInput (summary.throughCheckpoint.fingerprint C)]

/-- Each text has a length that fits its field. -/
def ConsentRecoverySummaryV1.TextsFit (summary : ConsentRecoverySummaryV1) : Prop :=
  ∀ r ∈ summary.sessions, r.terminalEvent ∈ fitsLength

variable (C) in
structure SummaryAccepted (summary : ConsentRecoverySummaryV1) : Prop where
  schema : summary.schema = consentRecoverySummarySchema
  ids_le : summary.replayActionIds.length ≤ maxRecoveryActionIds
  sessions_le : summary.sessions.length ≤ maxRecoverySessions
  signed : ∃ pk, SignedBy C pk summary.throughCheckpoint
  digest : C.blake3 (summary.digestInput (summary.throughCheckpoint.fingerprint C)) =
    summary.summaryDigest

lemma summaryAccepted_of_verifySelf {summary : ConsentRecoverySummaryV1}
    (h : summary.verifySelf C = .ok ()) : SummaryAccepted C summary := by
  simp only [ConsentRecoverySummaryV1.verifySelf, guard_bind_ok, failIf_ok, ne_eq, not_not,
    Nat.not_lt] at h
  simp only [bind_ok, failIf_ok, not_not, consentRecoverySummaryDigest_ok] at h
  obtain ⟨hschema, hids, hses, -, -, -, _, ⟨-, hsig, rfl⟩, hdigest⟩ := h
  exact ⟨hschema, hids, hses, hsig, hdigest⟩

/-! ## Snapshots, receipts and states -/

variable (C) in
def ConsentCompactedSnapshotV1.hashInputs (snapshot : ConsentCompactedSnapshotV1) : List Bytes :=
  snapshot.manifest.currentCheckpoint.fingerprintInput ::
    snapshot.digestInput (snapshot.manifest.archivedThroughCheckpoint.fingerprint C)
      (snapshot.manifest.currentCheckpoint.fingerprint C) ::
    snapshot.recoverySummary.hashInputs C

variable (C) in
def ConsentCompactedCutoverReceiptV1.hashInputs (receipt : ConsentCompactedCutoverReceiptV1) :
    List Bytes :=
  [receipt.sourceCompleteCheckpoint.fingerprintInput,
    receipt.activatedCheckpoint.fingerprintInput, receipt.fingerprintInput C]

variable (C) in
def ConsentCompactedActiveStateV1.hashInputs (state : ConsentCompactedActiveStateV1) :
    List Bytes :=
  state.currentCheckpoint.fingerprintInput :: state.hashInput C ::
    (state.activationSnapshot.hashInputs C ++ state.cutoverReceipt.hashInputs C)

section Levels

variable {T : Set Bytes} (hT : Set.InjOn C.blake3 T)

include hT

lemma summary_eq_of_digest {a b : ConsentRecoverySummaryV1} (ha : SummaryAccepted C a)
    (hb : SummaryAccepted C b) (hate : a.TextsFit) (hbte : b.TextsFit)
    (haT : ∀ x ∈ a.hashInputs C, x ∈ T) (hbT : ∀ x ∈ b.hashInputs C, x ∈ T)
    (h : a.summaryDigest = b.summaryDigest) : a = b := by
  simp only [ConsentRecoverySummaryV1.hashInputs, List.forall_mem_cons, List.not_mem_nil,
    false_implies, implies_true, and_true] at haT hbT
  have hinp := hT haT.2 hbT.2 (ha.digest.trans (h.trans hb.digest.symm))
  have hschema := ha.schema.trans hb.schema.symm
  simp only [ConsentRecoverySummaryV1.digestInput, hschema] at hinp
  have hfie := append_cancel_header hinp
  simp only [fixedBytes_append_inj, u64Be_append_inj] at hfie
  obtain ⟨harc, hthr, hcount, hfie⟩ := hfie
  obtain ⟨hids, hfie⟩ := prefixCodeOn_uuids _ ha.ids_le _ hb.ids_le _ _ hfie
  have hses := (prefixCodeOn_sessionStamp.list (prefixCodeOn_beBytes 8)).injOn
    ⟨fits_of_le ha.sessions_le, hate⟩ ⟨fits_of_le hb.sessions_le, hbte⟩ hfie
  obtain ⟨pk, hapk⟩ := ha.signed
  obtain ⟨pk', hbpk⟩ := hb.signed
  have hthr := LedgerCheckpoint.eq_of_fingerprintInput hapk hbpk (hT haT.1 hbT.1 hthr)
  cases a
  cases b
  simp only at hschema harc hthr hcount hids hses h
  rw [hschema, harc, hthr, hcount, hids, hses, h]

variable {pk pk' : C.ed25519.VerifyingKey}

lemma snapshot_eq_of_digest {a b : ConsentCompactedSnapshotV1} (ha : FrontierAccepted C pk a)
    (hb : FrontierAccepted C pk' b) (has : SummaryAccepted C a.recoverySummary)
    (hbs : SummaryAccepted C b.recoverySummary) (hate : a.recoverySummary.TextsFit)
    (hbte : b.recoverySummary.TextsFit) {S : Set LedgerEntry}
    (hS : PrefixCodeOn S LedgerEntry.stamp) (haS : ∀ e ∈ a.suffixEntries, e ∈ S)
    (hbS : ∀ e ∈ b.suffixEntries, e ∈ S) (haT : ∀ x ∈ a.hashInputs C, x ∈ T)
    (hbT : ∀ x ∈ b.hashInputs C, x ∈ T) (h : a.snapshotDigest = b.snapshotDigest) : a = b := by
  simp only [ConsentCompactedSnapshotV1.hashInputs, List.forall_mem_cons] at haT hbT
  obtain ⟨hacu, hain, hasu⟩ := haT
  obtain ⟨hbcu, hbin, hbsu⟩ := hbT
  have hinp := hT hain hbin (ha.digest.trans (h.trans hb.digest.symm))
  have hschema := ha.schema.trans hb.schema.symm
  simp only [ConsentCompactedSnapshotV1.digestInput, hschema] at hinp
  have hfie := append_cancel_header hinp
  simp only [fixedBytes_append_inj] at hfie
  obtain ⟨hdigest, -, -, hcur, hsig, hfie⟩ := hfie
  have hsuf := (prefixCodeOn_entries hS).injOn ⟨ha.length_le, haS⟩ ⟨hb.length_le, hbS⟩ hfie
  have hsum := summary_eq_of_digest hT has hbs hate hbte hasu hbsu hdigest
  have hcur := LedgerCheckpoint.eq_of_fingerprintInput ha.signed.current hb.signed.current
    (hT hacu hbcu hcur)
  -- the other fields of the manifest are those of the summary and of the current checkpoint
  have hmsc := ha.wellFormed.schema.trans hb.wellFormed.schema.symm
  have hbou : a.manifest.archivedThroughCheckpoint = b.manifest.archivedThroughCheckpoint := by
    rw [ha.boundary, hb.boundary, hsum]
  have harc : a.manifest.archiveSequenceDigest = b.manifest.archiveSequenceDigest := by
    rw [ha.archiveDigest, hb.archiveDigest, hsum]
  have hrecovery : a.manifest.recoverySummaryDigest = b.manifest.recoverySummaryDigest := by
    rw [ha.summaryDigest, hb.summaryDigest, hsum]
  have htime : a.manifest.timestampUnixSecs = b.manifest.timestampUnixSecs := by
    rw [← ha.wellFormed.current_eq, ← hb.wellFormed.current_eq, hcur]
  have hman : a.manifest = b.manifest := by
    cases hma : a.manifest
    cases hmb : b.manifest
    simp only [hma, hmb] at hmsc hbou hcur harc hrecovery htime hsig
    rw [hmsc, hbou, hcur, harc, hrecovery, htime, hsig]
  cases a
  cases b
  simp only at hschema hsum hman hsuf h
  rw [hschema, hsum, hman, hsuf, h]

lemma receipt_eq_of_fingerprint {x y : ConsentCompactedSnapshotV1}
    {a b : ConsentCompactedCutoverReceiptV1} (ha : ReceiptAccepted C pk x a)
    (hb : ReceiptAccepted C pk' y b) (haT : ∀ x ∈ a.hashInputs C, x ∈ T)
    (hbT : ∀ x ∈ b.hashInputs C, x ∈ T)
    (h : C.blake3 (a.fingerprintInput C) = C.blake3 (b.fingerprintInput C)) : a = b := by
  simp only [ConsentCompactedCutoverReceiptV1.hashInputs, List.forall_mem_cons, List.not_mem_nil,
    false_implies, implies_true, and_true] at haT hbT
  have hinp := hT haT.2.2 hbT.2.2 h
  have hschema := ha.schema.trans hb.schema.symm
  simp only [ConsentCompactedCutoverReceiptV1.fingerprintInput,
    ConsentCompactedCutoverReceiptV1.message, ConsentCompactedCutoverReceiptV1.messageInput,
    hschema, List.append_assoc] at hinp
  have hfie := append_cancel_header hinp
  simp only [fixedBytes_append_inj, u64Be_append_inj] at hfie
  obtain ⟨hepo, hsna, harc, hsum, hsrc, hact, htime, hfie⟩ := hfie
  have hsig := List.Vector.toList_injective hfie
  have hsrc := LedgerCheckpoint.eq_of_fingerprintInput ha.source hb.source (hT haT.1 hbT.1 hsrc)
  have hact := LedgerCheckpoint.eq_of_fingerprintInput ha.activated hb.activated
    (hT haT.2.1 hbT.2.1 hact)
  cases a
  cases b
  simp only at hschema hepo hsna harc hsum hsrc hact htime hsig
  rw [hschema, hepo, hsna, harc, hsum, hsrc, hact, htime, hsig]

end Levels

variable {pk pk' : C.ed25519.VerifyingKey} {a b : ConsentCompactedActiveStateV1}

lemma StateAccepted.suffix_subset (ha : StateAccepted C pk a) {e : LedgerEntry}
    (he : e ∈ a.activationSnapshot.suffixEntries) : e ∈ a.residentEntries := by
  rw [← ha.activation] at he
  exact List.mem_of_mem_take he

section

variable (ha : StateAccepted C pk a) (hb : StateAccepted C pk' b)
  (hfree : CollisionFreeOn C (preimages (a.residentEntries ++ b.residentEntries)))
  (hate : a.activationSnapshot.recoverySummary.TextsFit)
  (hbte : b.activationSnapshot.recoverySummary.TextsFit)
  (hT : Set.InjOn C.blake3 {x | x ∈ a.hashInputs C ++ b.hashInputs C})

include ha hb hfree

lemma stamps_of_states :
    PrefixCodeOn {e | e ∈ a.residentEntries ++ b.residentEntries} LedgerEntry.stamp := by
  have hsea : ∀ e ∈ a.residentEntries ++ b.residentEntries, ∃ key, Sealed C key e := by
    intro e he
    rcases List.mem_append.mp he with hmem | hmem
    · obtain ⟨key, -, -, -, -, h, -⟩ := verifyCheckpointExtension_ok.mp ha.extends_
      exact ⟨key, h.good_of_mem hmem⟩
    · obtain ⟨key, -, -, -, -, h, -⟩ := verifyCheckpointExtension_ok.mp hb.extends_
      exact ⟨key, h.good_of_mem hmem⟩
  refine prefixCodeOn_stamp (fun e he f hf => ?_)
  obtain ⟨key, hkey⟩ := hsea e he
  obtain ⟨key', hkey'⟩ := hsea f hf
  exact sameContent_of_sealed hkey hkey' hfree (preimage_mem he) (preimage_mem hf)

include hate hbte hT

lemma cutover_eq_of_fingerprint (h : C.blake3 (a.cutoverReceipt.fingerprintInput C) =
    C.blake3 (b.cutoverReceipt.fingerprintInput C)) :
    a.cutoverReceipt = b.cutoverReceipt ∧ a.activationSnapshot = b.activationSnapshot := by
  have hinp : ∀ (s : ConsentCompactedActiveStateV1) (x : Bytes),
      x ∈ s.activationSnapshot.hashInputs C ∨ x ∈ s.cutoverReceipt.hashInputs C →
      x ∈ s.hashInputs C := by
    intro s x hx
    exact List.mem_cons_of_mem _ (List.mem_cons_of_mem _ (List.mem_append.mpr hx))
  have hreceipt := receipt_eq_of_fingerprint hT ha.receipt hb.receipt
    (fun x hx => List.mem_append_left _ (hinp a x (.inr hx)))
    (fun x hx => List.mem_append_right _ (hinp b x (.inr hx))) h
  have hdigest : a.activationSnapshot.snapshotDigest = b.activationSnapshot.snapshotDigest := by
    rw [← ha.receipt.snapshotDigest, ← hb.receipt.snapshotDigest, hreceipt]
  refine ⟨hreceipt, ?_⟩
  exact snapshot_eq_of_digest hT ha.frontier hb.frontier (summaryAccepted_of_verifySelf ha.summary)
    (summaryAccepted_of_verifySelf hb.summary) hate hbte (stamps_of_states ha hb hfree)
    (fun e he => List.mem_append_left _ (ha.suffix_subset he))
    (fun e he => List.mem_append_right _ (hb.suffix_subset he))
    (fun x hx => List.mem_append_left _ (hinp a x (.inl hx)))
    (fun x hx => List.mem_append_right _ (hinp b x (.inl hx))) hdigest

lemma state_eq_of_digest (h : a.stateDigest = b.stateDigest) : a = b := by
  have hinp : a.hashInput C = b.hashInput C :=
    hT (List.mem_append_left _ (List.mem_cons_of_mem _ List.mem_cons_self))
      (List.mem_append_right _ (List.mem_cons_of_mem _ List.mem_cons_self))
      (ha.digest.trans (h.trans hb.digest.symm))
  have hschema := ha.schema.trans hb.schema.symm
  simp only [ConsentCompactedActiveStateV1.hashInput, ConsentCompactedActiveStateV1.digestInput,
    hschema] at hinp
  have hfie := append_cancel_header hinp
  simp only [fixedBytes_append_inj, u64Be_append_inj] at hfie
  obtain ⟨-, hreceipt, hgen, hpre, -, hcur, hfie⟩ := hfie
  obtain ⟨hres, -⟩ := prefixCodeOn_entries (stamps_of_states ha hb hfree)
    _ ⟨ha.length_le, fun e he => List.mem_append_left _ he⟩
    _ ⟨hb.length_le, fun e he => List.mem_append_right _ he⟩ _ _ hfie
  obtain ⟨hreceipt, hsna⟩ := cutover_eq_of_fingerprint ha hb hfree hate hbte hT hreceipt
  have hcur := LedgerCheckpoint.eq_of_fingerprintInput ha.current hb.current
    (hT (List.mem_append_left _ List.mem_cons_self) (List.mem_append_right _ List.mem_cons_self)
      hcur)
  -- the archived indexes are copies of what the summary has
  have hids : a.archivedReplayActionIds = b.archivedReplayActionIds := by
    rw [ha.replayIds, hb.replayIds, hsna]
  have hter : a.archivedTerminalSessions = b.archivedTerminalSessions := by
    rw [ha.terminal, hb.terminal, hsna]
  cases a
  cases b
  simp only at hschema hsna hreceipt hgen hpre hcur hres hids hter h
  rw [hschema, hsna, hreceipt, hgen, hpre, hcur, hres, hids, hter, h]

end

/-- **The digest commits to the state.** Two states that verify under one key and have one
digest are equal in all fields, as long as neither blake3 on what is hashed for them nor the
entry hash on their resident entries collides. -/
theorem state_digest_commits {pk : C.ed25519.VerifyingKey} {a b : ConsentCompactedActiveStateV1}
    (ha : a.verify C pk = .ok ()) (hb : b.verify C pk = .ok ())
    (hatexts : a.activationSnapshot.recoverySummary.TextsFit)
    (hbtexts : b.activationSnapshot.recoverySummary.TextsFit)
    (hT : Set.InjOn C.blake3 {x | x ∈ a.hashInputs C ++ b.hashInputs C})
    (hfree : CollisionFreeOn C (preimages (a.residentEntries ++ b.residentEntries)))
    (hdigest : a.stateDigest = b.stateDigest) : a = b :=
  state_eq_of_digest (state_verify_ok.mp ha) (state_verify_ok.mp hb) hfree hatexts hbtexts hT
    hdigest

def sampleSummary : ConsentRecoverySummaryV1 :=
  let through := sampleRoundCheckpoint 1 20
  let summary : ConsentRecoverySummaryV1 :=
    ⟨consentRecoverySummarySchema,
      sampleCrypto.blake3 (archiveDigestInput sampleCrypto (sampleRoundArchive.take 1)), through, 1,
      [.replicate 16 1],
      [⟨.replicate 16 9, ConsentKind.denial.stableName, 0, none, none⟩], zeroHash⟩
  { summary with
    summaryDigest := sampleCrypto.blake3 (summary.digestInput (through.fingerprint sampleCrypto)) }

def sampleSnapshot : ConsentCompactedSnapshotV1 :=
  let through := (sampleRoundCheckpoint 1 20).fingerprint sampleCrypto
  let current := (sampleRoundCheckpoint 1 40).fingerprint sampleCrypto
  let manifest : LedgerCompactionManifest :=
    ⟨ledgerCompactionManifestSchema, sampleRoundCheckpoint 1 20, sampleRoundCheckpoint 1 40,
      sampleSummary.archiveSequenceDigest, sampleSummary.summaryDigest, 40,
      sampleCrypto.ed25519.sign (sampleKey 7).val (ledgerCompactionManifestMessage through current
        sampleSummary.archiveSequenceDigest sampleSummary.summaryDigest 40)⟩
  let snapshot : ConsentCompactedSnapshotV1 :=
    ⟨consentCompactedSnapshotSchema, sampleSummary, manifest, [], zeroHash⟩
  { snapshot with snapshotDigest := sampleCrypto.blake3 (snapshot.digestInput through current) }

def sampleReceipt : ConsentCompactedCutoverReceiptV1 :=
  let receipt : ConsentCompactedCutoverReceiptV1 :=
    ⟨consentCompactedCutoverReceiptSchema, consentLedgerEpochId sampleCrypto (sampleKey 7).val,
      sampleSnapshot.snapshotDigest, sampleSummary.archiveSequenceDigest,
      sampleSummary.summaryDigest, sampleRoundCheckpoint 1 40, sampleRoundCheckpoint 1 50, 50,
      .replicate 64 0⟩
  { receipt with
    signature := sampleCrypto.ed25519.sign (sampleKey 7).val (receipt.message sampleCrypto) }

def sampleState (generation : UInt64) (previous : FixedBytes 32) (resident : Nat)
    (time : UInt64) : ConsentCompactedActiveStateV1 :=
  let state : ConsentCompactedActiveStateV1 :=
    ⟨consentCompactedActiveStateSchema, sampleSnapshot, sampleReceipt, generation, previous,
      sampleRoundCheckpoint (resident + 1) time, (sampleRounds.drop 1).take resident,
      sampleSummary.replayActionIds,
      sampleSummary.sessions.map ConsentRecoverySessionV1.sessionId, zeroHash⟩
  { state with stateDigest := sampleCrypto.blake3 (state.hashInput sampleCrypto) }

def sampleActivated : ConsentCompactedActiveStateV1 := sampleState 0 zeroHash 0 50

def sampleAdvanced : ConsentCompactedActiveStateV1 :=
  sampleState 1 sampleActivated.stateDigest 1 60

lemma textsFit_sampleSummary : sampleSummary.TextsFit := by
  intro r hr
  obtain rfl := List.mem_singleton.mp hr
  exact (by decide +kernel : (utf8 ConsentKind.denial.stableName).length < 256 ^ 8)

def sampleSuffixChain (entries : List LedgerEntry) : Chain sampleCrypto :=
  .fromCheckpointSuffix (sampleRoundCheckpoint 1 20) entries (sampleKey 7).val

lemma sampleActivated_accepted : StateAccepted sampleCrypto (sampleKey 7) sampleActivated :=
  state_verify_ok.mp (by decide +kernel)

lemma sampleAdvanced_of_advance :
    sampleActivated.advanceFromChain (sampleSuffixChain ((sampleRounds.drop 1).take 1)) 60 =
      .ok sampleAdvanced := by
  decide +kernel

/-- The state that `advanceFromChain` returns is the one with its digest. -/
theorem state_digest_commits_sample :
    ∃ next, sampleActivated.advanceFromChain
        (sampleSuffixChain ((sampleRounds.drop 1).take 1)) 60 = .ok next ∧
      next = sampleAdvanced := by
  have haccepted := sampleActivated_accepted.advance sampleAdvanced_of_advance
  have hverify := state_verify_ok.mpr haccepted
  have hhashes : Set.InjOn sampleCrypto.blake3 {x | x ∈ sampleAdvanced.hashInputs sampleCrypto ++
      sampleAdvanced.hashInputs sampleCrypto} :=
    injOn_of_nodup_map (by decide +kernel)
  have hfree : CollisionFreeOn sampleCrypto
      (preimages (sampleAdvanced.residentEntries ++ sampleAdvanced.residentEntries)) :=
    collisionFreeOn_of_nodup (by decide +kernel)
  exact ⟨sampleAdvanced, sampleAdvanced_of_advance, state_digest_commits hverify hverify
    textsFit_sampleSummary textsFit_sampleSummary hhashes hfree rfl⟩

end XeniaPeer.Consent
