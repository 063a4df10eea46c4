import Mathlib.Data.List.Chain
import XeniaPeer.Ledger.Chain

/-!
# Archive segments and sequences

An archive segment (`archive.rs`) holds the entries between two signed checkpoints together with a
digest of all of it; an archive sequence is a list of segments that meet at their boundary
checkpoints. A segment is cut from a live chain by `fromChain`.

Main result: `archive_sequence_sound`.
-/

namespace XeniaPeer.Ledger

open Foundation

/-! ## Segments and their digests -/

def ledgerArchiveSegmentSchema : String := "xenia-ledger-archive-segment-v1"

def maxLedgerArchiveSegmentEntries : Nat := 4096

def maxLedgerArchiveSequenceSegments : Nat := 256

structure LedgerArchiveSegment where
  schema : String
  baseCheckpoint : LedgerCheckpoint
  entries : List LedgerEntry
  terminalCheckpoint : LedgerCheckpoint
  segmentDigest : FixedBytes 32

inductive LedgerArchiveError where
  | unsupportedSchema (schema : String)
  | badLedgerPublicKey
  | tooManyEntries (count maximum : Nat)
  | continuity (error : CheckpointContinuityError)
  | checkpoint (error : CheckpointError)
  | digestMismatch
  | emptySequence
  | tooManySegments (count maximum : Nat)
  | sequenceDiscontinuity (index : Nat)
deriving DecidableEq

def LedgerEntry.stamp (e : LedgerEntry) : Bytes :=
  u64Be e.seq ++ (e.entryHash.toList ++ e.signature.toList)

def segmentDigestInput (base : FixedBytes 32) (entries : List LedgerEntry)
    (terminal : FixedBytes 32) : Bytes :=
  utf8 "xenia:ledger-archive-segment:v1" ++ ([0] ++ (utf8 ledgerArchiveSegmentSchema ++ ([0] ++
    (base.toList ++ ((beBytes 8 entries.length ++ entries.flatMap LedgerEntry.stamp) ++
      terminal.toList)))))

variable (C : Crypto)

def ledgerArchiveSegmentDigest (baseCheckpoint : LedgerCheckpoint) (entries : List LedgerEntry)
    (terminalCheckpoint : LedgerCheckpoint) : Except LedgerArchiveError (FixedBytes 32) := do
  let base ← (checkpointFingerprint C baseCheckpoint).mapError .checkpoint
  let terminal ← (checkpointFingerprint C terminalCheckpoint).mapError .checkpoint
  pure (C.blake3 (segmentDigestInput base entries terminal))

def verifyLedgerArchiveSegment (segment : LedgerArchiveSegment) :
    Except LedgerArchiveError Unit := do
  failIf (segment.schema ≠ ledgerArchiveSegmentSchema) (.unsupportedSchema segment.schema)
  failIf (segment.entries.length > maxLedgerArchiveSegmentEntries)
    (.tooManyEntries segment.entries.length maxLedgerArchiveSegmentEntries)
  (verifyCheckpointExtension C segment.baseCheckpoint segment.terminalCheckpoint
    segment.entries).mapError .continuity
  let observed ← ledgerArchiveSegmentDigest C segment.baseCheckpoint segment.entries
    segment.terminalCheckpoint
  failIf (observed ≠ segment.segmentDigest) .digestMismatch

def verifyBoundaries : Nat → List LedgerArchiveSegment → Except LedgerArchiveError Unit
  | index, first :: second :: rest => do
    failIf (first.terminalCheckpoint ≠ second.baseCheckpoint) (.sequenceDiscontinuity index)
    verifyBoundaries (index + 1) (second :: rest)
  | _, _ => .ok ()

def verifyLedgerArchiveSequence (segments : List LedgerArchiveSegment) :
    Except LedgerArchiveError Unit := do
  failIf (segments.length > maxLedgerArchiveSequenceSegments)
    (.tooManySegments segments.length maxLedgerArchiveSequenceSegments)
  segments.forM (verifyLedgerArchiveSegment C)
  verifyBoundaries 0 segments

def segmentStamp (base : FixedBytes 32) (segment : LedgerArchiveSegment)
    (terminal : FixedBytes 32) : Bytes :=
  base.toList ++ (beBytes 8 segment.entries.length ++
    (segment.segmentDigest.toList ++ terminal.toList))

def sequenceStamps : List LedgerArchiveSegment → Except LedgerArchiveError Bytes
  | [] => .ok []
  | segment :: rest => do
    let base ← (checkpointFingerprint C segment.baseCheckpoint).mapError .checkpoint
    let terminal ← (checkpointFingerprint C segment.terminalCheckpoint).mapError .checkpoint
    let stamps ← sequenceStamps rest
    pure (segmentStamp base segment terminal ++ stamps)

def sequenceDigestInput (count : Nat) (stamps : Bytes) : Bytes :=
  utf8 "xenia:ledger-archive-sequence:v1" ++ ([0] ++ (beBytes 8 count ++ stamps))

def ledgerArchiveSequenceDigest (segments : List LedgerArchiveSegment) :
    Except LedgerArchiveError (FixedBytes 32) := do
  failIf (segments = []) .emptySequence
  failIf (segments.length > maxLedgerArchiveSequenceSegments)
    (.tooManySegments segments.length maxLedgerArchiveSequenceSegments)
  verifyLedgerArchiveSequence C segments
  let stamps ← sequenceStamps C segments
  pure (C.blake3 (sequenceDigestInput segments.length stamps))

variable {C}

def LedgerArchiveSegment.fromChain (chain : Chain C) (baseCheckpoint : LedgerCheckpoint)
    (terminalTimestampUnixSecs : UInt64) : Except LedgerArchiveError LedgerArchiveSegment := do
  let publicKey ← okOr (C.ed25519.fromBytes baseCheckpoint.ledgerPublicKey) .badLedgerPublicKey
  (verifyCheckpointPrefix C baseCheckpoint chain.entries publicKey).mapError .continuity
  let entries := chain.entries.drop baseCheckpoint.entryCount.toNat
  failIf (entries.length > maxLedgerArchiveSegmentEntries)
    (.tooManyEntries entries.length maxLedgerArchiveSegmentEntries)
  let terminalCheckpoint := chain.signCheckpoint terminalTimestampUnixSecs
  (verifyCheckpointExtension C baseCheckpoint terminalCheckpoint entries).mapError .continuity
  let segmentDigest ← ledgerArchiveSegmentDigest C baseCheckpoint entries terminalCheckpoint
  pure ⟨ledgerArchiveSegmentSchema, baseCheckpoint, entries, terminalCheckpoint, segmentDigest⟩

/-! ## What is accepted -/

def LedgerArchiveSegment.digestInput (C : Crypto) (s : LedgerArchiveSegment) : Bytes :=
  segmentDigestInput (s.baseCheckpoint.fingerprint C) s.entries
    (s.terminalCheckpoint.fingerprint C)

def LedgerArchiveSegment.stamp (C : Crypto) (s : LedgerArchiveSegment) : Bytes :=
  segmentStamp (s.baseCheckpoint.fingerprint C) s (s.terminalCheckpoint.fingerprint C)

structure SegmentAccepted (C : Crypto) (s : LedgerArchiveSegment) : Prop where
  schema : s.schema = ledgerArchiveSegmentSchema
  length_le : s.entries.length ≤ maxLedgerArchiveSegmentEntries
  extends_ : verifyCheckpointExtension C s.baseCheckpoint s.terminalCheckpoint s.entries = .ok ()
  digest_eq : C.blake3 (s.digestInput C) = s.segmentDigest

variable {a b : LedgerCheckpoint} {d : FixedBytes 32}

lemma ledgerArchiveSegmentDigest_ok {entries : List LedgerEntry} :
    ledgerArchiveSegmentDigest C a entries b = .ok d ↔
      (∃ pk, SignedBy C pk a) ∧ (∃ pk, SignedBy C pk b) ∧
        C.blake3 (segmentDigestInput (a.fingerprint C) entries (b.fingerprint C)) = d := by
  simp only [ledgerArchiveSegmentDigest, bind_ok, mapError_ok, checkpointFingerprint_ok, pure_ok]
  constructor
  · rintro ⟨_, ⟨ha, rfl⟩, _, ⟨hb, rfl⟩, hd⟩
    exact ⟨ha, hb, hd⟩
  · rintro ⟨ha, hb, hd⟩
    exact ⟨_, ⟨ha, rfl⟩, _, ⟨hb, rfl⟩, hd⟩

lemma signedBy_of_extension {xs : List LedgerEntry}
    (h : verifyCheckpointExtension C a b xs = .ok ()) :
    ∃ pk, SignedBy C pk a ∧ SignedBy C pk b := by
  obtain ⟨pk, ha, hb, -⟩ := verifyCheckpointExtension_ok.mp h
  exact ⟨pk, ha, hb⟩

variable {s : LedgerArchiveSegment}

lemma verifyLedgerArchiveSegment_ok :
    verifyLedgerArchiveSegment C s = .ok () ↔ SegmentAccepted C s := by
  simp only [verifyLedgerArchiveSegment, guard_bind_ok, failIf_ok, mapError_ok, ne_eq,
    not_not, Nat.not_lt]
  rw [bind_ok]
  simp only [ledgerArchiveSegmentDigest_ok, failIf_ok, not_not]
  constructor
  · rintro ⟨hschema, hlen, hext, _, ⟨-, -, rfl⟩, hdigest⟩
    exact ⟨hschema, hlen, hext, hdigest⟩
  · intro h
    obtain ⟨pk, hbase, hter⟩ := signedBy_of_extension h.extends_
    exact ⟨h.schema, h.length_le, h.extends_, _, ⟨⟨pk, hbase⟩, ⟨pk, hter⟩, rfl⟩, h.digest_eq⟩

variable {segments : List LedgerArchiveSegment}

lemma verifyBoundaries_ok {index : Nat} : verifyBoundaries index segments = .ok () ↔
      segments.IsChain (fun a b => a.terminalCheckpoint = b.baseCheckpoint) := by
  induction segments generalizing index with
  | nil => exact iff_of_true rfl .nil
  | cons first rest ih =>
    cases rest with
    | nil => exact iff_of_true rfl (.singleton first)
    | cons second rest =>
      rw [verifyBoundaries, guard_bind_ok, failIf_ok, not_not, ih, List.isChain_cons_cons]

lemma verifyLedgerArchiveSequence_ok : verifyLedgerArchiveSequence C segments = .ok () ↔
      segments.length ≤ maxLedgerArchiveSequenceSegments ∧ (∀ s ∈ segments, SegmentAccepted C s) ∧
        segments.IsChain (fun a b => a.terminalCheckpoint = b.baseCheckpoint) := by
  simp only [verifyLedgerArchiveSequence, guard_bind_ok, failIf_ok, forM_ok,
    verifyLedgerArchiveSegment_ok, verifyBoundaries_ok, Nat.not_lt]

lemma sequenceStamps_eq (h : ∀ s ∈ segments, SegmentAccepted C s) :
    sequenceStamps C segments = .ok (segments.flatMap (LedgerArchiveSegment.stamp C)) := by
  induction segments with
  | nil => rfl
  | cons s rest ih =>
    have hrest := ih (fun t ht => h t (List.mem_cons_of_mem _ ht))
    obtain ⟨pk, hbase, hter⟩ := signedBy_of_extension (h s List.mem_cons_self).extends_
    simp only [sequenceStamps, bind_ok, mapError_ok, checkpointFingerprint_ok, pure_ok]
    exact ⟨_, ⟨⟨pk, hbase⟩, rfl⟩, _, ⟨⟨pk, hter⟩, rfl⟩, _, hrest, rfl⟩

def archiveDigestInput (C : Crypto) (segments : List LedgerArchiveSegment) : Bytes :=
  sequenceDigestInput segments.length (segments.flatMap (LedgerArchiveSegment.stamp C))

lemma ledgerArchiveSequenceDigest_ok : ledgerArchiveSequenceDigest C segments = .ok d ↔
      segments ≠ [] ∧ verifyLedgerArchiveSequence C segments = .ok () ∧
        C.blake3 (archiveDigestInput C segments) = d := by
  simp only [ledgerArchiveSequenceDigest, guard_bind_ok, failIf_ok]
  rw [bind_ok]
  simp only [pure_ok]
  constructor
  · rintro ⟨hne, -, hverify, stamps, hstamps, hd⟩
    rw [sequenceStamps_eq (verifyLedgerArchiveSequence_ok.mp hverify).2.1] at hstamps
    cases hstamps
    exact ⟨hne, hverify, hd⟩
  · rintro ⟨hne, hverify, hd⟩
    obtain ⟨hlen, hacc, -⟩ := verifyLedgerArchiveSequence_ok.mp hverify
    exact ⟨hne, Nat.not_lt.mpr hlen, hverify, _, sequenceStamps_eq hacc, hd⟩

/-! ## A sequence is one extension -/

def archivedEntries (segments : List LedgerArchiveSegment) : List LedgerEntry :=
  segments.flatMap LedgerArchiveSegment.entries

@[simp] lemma archivedEntries_cons (s : LedgerArchiveSegment) (rest : List LedgerArchiveSegment) :
    archivedEntries (s :: rest) = s.entries ++ archivedEntries rest := rfl

variable {t : LedgerArchiveSegment} {rest : List LedgerArchiveSegment}

lemma accepted_tail (h : verifyLedgerArchiveSequence C (s :: t :: rest) = .ok ()) :
    SegmentAccepted C s ∧ s.terminalCheckpoint = t.baseCheckpoint ∧
      verifyLedgerArchiveSequence C (t :: rest) = .ok () := by
  obtain ⟨hlen, hacc, hcha⟩ := verifyLedgerArchiveSequence_ok.mp h
  rw [List.isChain_cons_cons] at hcha
  have hsh : (t :: rest).length ≤ maxLedgerArchiveSequenceSegments := Nat.le_of_succ_le hlen
  exact ⟨hacc s List.mem_cons_self, hcha.1, verifyLedgerArchiveSequence_ok.mpr
    ⟨hsh, fun u hu => hacc u (List.mem_cons_of_mem _ hu), hcha.2⟩⟩

variable {first : LedgerArchiveSegment}

section

variable (h : verifyLedgerArchiveSequence C (first :: rest) = .ok ())

include h

lemma archive_extends : verifyCheckpointExtension C first.baseCheckpoint
      ((first :: rest).getLast (List.cons_ne_nil _ _)).terminalCheckpoint
      (archivedEntries (first :: rest)) = .ok () := by
  induction rest generalizing first with
  | nil =>
    have hacc := (verifyLedgerArchiveSequence_ok.mp h).2.1 first List.mem_cons_self
    rw [archivedEntries_cons, archivedEntries, List.flatMap_nil, List.append_nil]
    exact hacc.extends_
  | cons second rest ih =>
    obtain ⟨hfirst, hbou, hrest⟩ := accepted_tail h
    have hext := hfirst.extends_
    rw [hbou] at hext
    rw [List.getLast_cons (List.cons_ne_nil _ _), archivedEntries_cons]
    exact extension_join hext (ih hrest)

lemma archive_signedBy {pk : C.ed25519.VerifyingKey} (hpk : SignedBy C pk first.baseCheckpoint) :
    ∀ s ∈ first :: rest, SignedBy C pk s.baseCheckpoint ∧ SignedBy C pk s.terminalCheckpoint := by
  induction rest generalizing first with
  | nil =>
    have hacc := (verifyLedgerArchiveSequence_ok.mp h).2.1 first List.mem_cons_self
    obtain ⟨pk', hbase, hter⟩ := signedBy_of_extension hacc.extends_
    have hkey : pk' = pk := hbase.unique hpk
    subst hkey
    intro s hs
    rw [List.mem_singleton.mp hs]
    exact ⟨hbase, hter⟩
  | cons second rest ih =>
    obtain ⟨hfirst, hbou, hrest⟩ := accepted_tail h
    obtain ⟨pk', hbase, hter⟩ := signedBy_of_extension hfirst.extends_
    have hkey : pk' = pk := hbase.unique hpk
    subst hkey
    intro s hs
    rcases List.mem_cons.mp hs with rfl | hmem
    · exact ⟨hbase, hter⟩
    · exact ih hrest (hbou ▸ hter) s hmem

lemma archive_complete (hcount : first.baseCheckpoint.entryCount = 0)
    (hhead : first.baseCheckpoint.headHash = zeroHash) : ∃ pk, (∀ s ∈ first :: rest,
        SignedBy C pk s.baseCheckpoint ∧ SignedBy C pk s.terminalCheckpoint) ∧
      verifyChain C (archivedEntries (first :: rest)) pk = .ok () := by
  have hext := archive_extends h
  obtain ⟨pk, hkey, hcha, -⟩ := (extension_genesis_iff hcount hhead).mp hext
  obtain ⟨pk', hbase, hter⟩ := signedBy_of_extension hext
  have hpk : pk' = pk := Subtype.ext
    (hter.2.1.symm.trans (SignatureScheme.fromBytes_eq_some.mp hkey).symm)
  subst hpk
  exact ⟨pk', archive_signedBy h hbase, hcha⟩

end

/-! ## The digest commits to the sequence -/

variable {S : Set LedgerEntry}

lemma prefixCodeOn_stamp (hS : ∀ x ∈ S, ∀ y ∈ S, x.entryHash = y.entryHash → SameContent x y) :
    PrefixCodeOn S LedgerEntry.stamp := by
  intro x hx y hy s t h
  simp only [LedgerEntry.stamp, List.append_assoc] at h
  simp only [u64Be_append_inj, fixedBytes_append_inj] at h
  obtain ⟨-, hhash, hsig, hrest⟩ := h
  obtain ⟨hseq, htime, hevent, hprev, -⟩ := hS x hx y hy hhash
  cases x
  cases y
  simp only at hhash hsig hseq htime hevent hprev
  rw [hhash, hsig, hseq, htime, hevent, hprev]
  exact ⟨rfl, hrest⟩

lemma SegmentAccepted.sealed_of_mem (hs : SegmentAccepted C s) {e : LedgerEntry}
    (he : e ∈ s.entries) : ∃ pk, Sealed C pk e := by
  obtain ⟨pk, -, -, -, -, h, -⟩ := verifyCheckpointExtension_ok.mp hs.extends_
  exact ⟨pk, h.good_of_mem he⟩

def LedgerArchiveSegment.hashInputs (C : Crypto) (s : LedgerArchiveSegment) : List Bytes :=
  [s.baseCheckpoint.fingerprintInput, s.terminalCheckpoint.fingerprintInput, s.digestInput C]

variable {T : Set Bytes}

lemma segment_eq_of_digest (hs : SegmentAccepted C s) (ht : SegmentAccepted C t)
    (hS : PrefixCodeOn S LedgerEntry.stamp) (hsS : ∀ e ∈ s.entries, e ∈ S)
    (htS : ∀ e ∈ t.entries, e ∈ S) (hT : Set.InjOn C.blake3 T) (hsT : ∀ b ∈ s.hashInputs C, b ∈ T)
    (htT : ∀ b ∈ t.hashInputs C, b ∈ T) (h : s.segmentDigest = t.segmentDigest) : s = t := by
  simp only [LedgerArchiveSegment.hashInputs, List.forall_mem_cons, List.not_mem_nil,
    false_implies, implies_true, and_true] at hsT htT
  have hinp : s.digestInput C = t.digestInput C := by
    apply hT hsT.2.2 htT.2.2
    rw [hs.digest_eq, ht.digest_eq, h]
  -- the input is a constant followed by a fingerprint, the counted stamps and a fingerprint
  have hfie := append_cancel_header hinp
  have hfits : ∀ {u : LedgerArchiveSegment}, SegmentAccepted C u → u.entries.length < 256 ^ 8 :=
    fun hu => Nat.lt_of_le_of_lt hu.length_le (by decide)
  have hstamp := hS.list (prefixCodeOn_beBytes 8)
  obtain ⟨hbase, hfie⟩ := fixedBytes_append_inj.mp hfie
  obtain ⟨hent, hfie⟩ := hstamp _ ⟨hfits hs, hsS⟩ _ ⟨hfits ht, htS⟩ _ _ hfie
  have hter := List.Vector.toList_injective hfie
  obtain ⟨pk, hsba, hste⟩ := signedBy_of_extension hs.extends_
  obtain ⟨pk', htba, htte⟩ := signedBy_of_extension ht.extends_
  have hbase := LedgerCheckpoint.eq_of_fingerprintInput hsba htba (hT hsT.1 htT.1 hbase)
  have hter := LedgerCheckpoint.eq_of_fingerprintInput hste htte (hT hsT.2.1 htT.2.1 hter)
  have hschema := hs.schema.trans ht.schema.symm
  cases s
  cases t
  simp only at hbase hent hter hschema h
  rw [hbase, hent, hter, hschema, h]

def archiveHashInputs (C : Crypto) (segments : List LedgerArchiveSegment) : List Bytes :=
  archiveDigestInput C segments :: segments.flatMap (LedgerArchiveSegment.hashInputs C)

lemma hashInputs_mem (hs : s ∈ segments) {b : Bytes} (hb : b ∈ s.hashInputs C) :
    b ∈ archiveHashInputs C segments := List.mem_cons_of_mem _ (List.mem_flatMap.mpr ⟨s, hs, hb⟩)

lemma prefixCodeOn_segmentStamp {S : Set LedgerArchiveSegment}
    (hS : ∀ s ∈ S, ∀ t ∈ S, s.segmentDigest = t.segmentDigest → s = t) :
    PrefixCodeOn S (LedgerArchiveSegment.stamp C) := by
  intro s hs t ht rest rest' h
  simp only [LedgerArchiveSegment.stamp, segmentStamp, List.append_assoc] at h
  obtain ⟨-, h⟩ := fixedBytes_append_inj.mp h
  obtain ⟨-, h⟩ := List.append_inj h (by simp)
  simp only [fixedBytes_append_inj] at h
  obtain ⟨hdigest, -, hrest⟩ := h
  exact ⟨hS s hs t ht hdigest, hrest⟩

lemma archive_commits {xs ys : List LedgerArchiveSegment}
    (hx : ledgerArchiveSequenceDigest C xs = .ok d)
    (hy : ledgerArchiveSequenceDigest C ys = .ok d) (hT : Set.InjOn C.blake3 T)
    (hxT : ∀ b ∈ archiveHashInputs C xs, b ∈ T) (hyT : ∀ b ∈ archiveHashInputs C ys, b ∈ T)
    (hfree : CollisionFreeOn C (preimages (archivedEntries xs ++ archivedEntries ys))) :
    xs = ys := by
  obtain ⟨-, hxv, hxd⟩ := ledgerArchiveSequenceDigest_ok.mp hx
  obtain ⟨-, hyv, hyd⟩ := ledgerArchiveSequenceDigest_ok.mp hy
  obtain ⟨hxlen, hxacc, -⟩ := verifyLedgerArchiveSequence_ok.mp hxv
  obtain ⟨hylen, hyacc, -⟩ := verifyLedgerArchiveSequence_ok.mp hyv
  have hacc : ∀ s ∈ xs ++ ys, SegmentAccepted C s := by
    intro s hs
    rcases List.mem_append.mp hs with h | h
    · exact hxacc s h
    · exact hyacc s h
  have hinp : ∀ s ∈ xs ++ ys, ∀ b ∈ s.hashInputs C, b ∈ T := by
    intro s hs b hb
    rcases List.mem_append.mp hs with h | h
    · exact hxT b (hashInputs_mem h hb)
    · exact hyT b (hashInputs_mem h hb)
  have hent : ∀ s ∈ xs ++ ys, ∀ e ∈ s.entries,
      e ∈ {e | e ∈ archivedEntries xs ++ archivedEntries ys} := by
    intro s hs e he
    rw [archivedEntries, archivedEntries, ← List.flatMap_append]
    exact List.mem_flatMap.mpr ⟨s, hs, he⟩
  have hstamp : PrefixCodeOn {e | e ∈ archivedEntries xs ++ archivedEntries ys}
      LedgerEntry.stamp := by
    refine prefixCodeOn_stamp (fun e he f hf => ?_)
    have hsea : ∀ g ∈ archivedEntries xs ++ archivedEntries ys, ∃ pk, Sealed C pk g := by
      intro g hg
      rw [archivedEntries, archivedEntries, ← List.flatMap_append] at hg
      obtain ⟨s, hs, hgs⟩ := List.mem_flatMap.mp hg
      exact (hacc s hs).sealed_of_mem hgs
    obtain ⟨pk, hpk⟩ := hsea e he
    obtain ⟨pk', hpk'⟩ := hsea f hf
    exact sameContent_of_sealed hpk hpk' hfree (preimage_mem he) (preimage_mem hf)
  have hseg : PrefixCodeOn {s | s ∈ xs ++ ys} (LedgerArchiveSegment.stamp C) :=
    prefixCodeOn_segmentStamp (fun s hs t ht => segment_eq_of_digest (hacc s hs) (hacc t ht)
      hstamp (hent s hs) (hent t ht) hT (hinp s hs) (hinp t ht))
  have hint : archiveDigestInput C xs = archiveDigestInput C ys :=
    hT (hxT _ List.mem_cons_self) (hyT _ List.mem_cons_self) (hxd.trans hyd.symm)
  have hfie := List.append_cancel_left (List.append_cancel_left hint)
  have hfits : ∀ {n : Nat}, n ≤ maxLedgerArchiveSequenceSegments → n < 256 ^ 8 :=
    fun hn => Nat.lt_of_le_of_lt hn (by decide)
  exact (hseg.list (prefixCodeOn_beBytes 8)).injOn
    ⟨hfits hxlen, fun s hs => List.mem_append_left _ hs⟩
    ⟨hfits hylen, fun s hs => List.mem_append_right _ hs⟩ hfie

/-- **Archive sequences.** Two non-empty accepted sequences with one digest are equal, segment
by segment and entry by entry, as long as blake3 does not collide on what is hashed for them;
and an accepted sequence that starts at genesis is, concatenated, a complete ledger that the
chain verifier accepts under the one key of all its checkpoints. -/
theorem archive_sequence_sound (C : Crypto) :
    (∀ xs ys : List LedgerArchiveSegment,
      verifyLedgerArchiveSequence C xs = .ok () → verifyLedgerArchiveSequence C ys = .ok () →
      xs ≠ [] → ys ≠ [] →
      Set.InjOn C.blake3 {b | b ∈ archiveHashInputs C xs ++ archiveHashInputs C ys} →
      CollisionFreeOn C (preimages (archivedEntries xs ++ archivedEntries ys)) →
      ledgerArchiveSequenceDigest C xs = ledgerArchiveSequenceDigest C ys → xs = ys) ∧
    (∀ (first : LedgerArchiveSegment) (rest : List LedgerArchiveSegment),
      verifyLedgerArchiveSequence C (first :: rest) = .ok () →
      first.baseCheckpoint.entryCount = 0 → first.baseCheckpoint.headHash = zeroHash →
      ∃ pk : C.ed25519.VerifyingKey,
        (∀ s ∈ first :: rest, s.baseCheckpoint.ledgerPublicKey = pk.val ∧
          s.terminalCheckpoint.ledgerPublicKey = pk.val) ∧
        verifyChain C (archivedEntries (first :: rest)) pk = .ok ()) := by
  refine ⟨?_, ?_⟩
  · intro xs ys hx hy hxne hyne hblake3 hfree hdigest
    have hxd := ledgerArchiveSequenceDigest_ok.mpr ⟨hxne, hx, rfl⟩
    exact archive_commits hxd (hdigest ▸ hxd) hblake3 (fun b hb => List.mem_append_left _ hb)
      (fun b hb => List.mem_append_right _ hb) hfree
  · intro first rest h hcount hhead
    obtain ⟨pk, hsigned, hchain⟩ := archive_complete h hcount hhead
    exact ⟨pk, fun s hs => ⟨(hsigned s hs).1.2.1, (hsigned s hs).2.2.1⟩, hchain⟩

def sampleSegment (base : LedgerCheckpoint) (entries : List LedgerEntry)
    (terminal : LedgerCheckpoint) : LedgerArchiveSegment :=
  ⟨ledgerArchiveSegmentSchema, base, entries, terminal, sampleCrypto.blake3
    (segmentDigestInput (base.fingerprint sampleCrypto) entries
      (terminal.fingerprint sampleCrypto))⟩

def sampleArchive : List LedgerArchiveSegment :=
  let chain := sampleChain (sampleKey 7)
  let genesis := sampleCheckpoint (sampleKey 7) [] 10
  let middle := sampleCheckpoint (sampleKey 7) (chain.take 1) 20
  [sampleSegment genesis (chain.take 1) middle,
    sampleSegment middle (chain.drop 1) (sampleCheckpoint (sampleKey 7) chain 30)]

def sampleExport : List LedgerArchiveSegment :=
  let chain := sampleChain (sampleKey 7)
  let writer (entries : List LedgerEntry) : Chain sampleCrypto :=
    .fromEntries entries (sampleKey 7).val
  (LedgerArchiveSegment.fromChain (writer (chain.take 1))
      (sampleCheckpoint (sampleKey 7) [] 10) 20).toOption.toList ++
    (LedgerArchiveSegment.fromChain (writer chain)
      (sampleCheckpoint (sampleKey 7) (chain.take 1) 20) 30).toOption.toList

/-- The exported segments are the sample archive, and a complete ledger of one key. -/
theorem archive_sequence_sound_sample :
    sampleExport = sampleArchive ∧
      ∃ pk : sampleCrypto.ed25519.VerifyingKey,
        (∀ s ∈ sampleArchive, s.baseCheckpoint.ledgerPublicKey = pk.val ∧
          s.terminalCheckpoint.ledgerPublicKey = pk.val) ∧
        verifyChain sampleCrypto (archivedEntries sampleArchive) pk = .ok () := by
  have haccepted : verifyLedgerArchiveSequence sampleCrypto sampleArchive = .ok () := by
    decide +kernel
  have hexport : verifyLedgerArchiveSequence sampleCrypto sampleExport = .ok () ∧
      sampleExport ≠ [] ∧ ledgerArchiveSequenceDigest sampleCrypto sampleExport =
        ledgerArchiveSequenceDigest sampleCrypto sampleArchive := by
    decide +kernel
  have hblake3 : Set.InjOn sampleCrypto.blake3 {b | b ∈ archiveHashInputs sampleCrypto
      sampleExport ++ archiveHashInputs sampleCrypto sampleArchive} :=
    injOn_of_nodup_map (by decide +kernel)
  have hfree : CollisionFreeOn sampleCrypto
      (preimages (archivedEntries sampleExport ++ archivedEntries sampleArchive)) :=
    collisionFreeOn_of_nodup (by decide +kernel)
  refine ⟨?_, ?_⟩
  · exact (archive_sequence_sound sampleCrypto).1 _ _ hexport.1 haccepted hexport.2.1
      (List.cons_ne_nil _ _) hblake3 hfree hexport.2.2
  · exact (archive_sequence_sound sampleCrypto).2 _ _ haccepted (by decide +kernel)
      (by decide +kernel)

end XeniaPeer.Ledger
