import XeniaPeer.Consent.Quarantine.Places

/-!
# What the parts of a retirement do

One rule for each part of the programs that move candidates into quarantine and back. Each says
what a part does when nothing fails, and that an error or a crash leaves the shape the transaction
had; an error comes only from a call that failed, which `spent` records.
-/

namespace XeniaPeer.Consent

open Foundation Foundation.FileSystem Ledger

variable [HexLibrary] {C : Crypto}

namespace Quarantine

/-- The setting of a transaction: the candidates are as recorded, the root is a canonical path, and
the files of the transaction are not too large. -/
structure Setting (C : Crypto) (formats : RetirementFormats) (plan : ConsentRetirementPlanV1)
    (approvals : ConsentRetirementApprovalBundleV1) (publicKey : C.ed25519.VerifyingKey)
    (start : FileSystem) : Prop where
  recorded : AsRecorded C plan start
  root : Path.text (pathOf plan.quarantineRoot) = plan.quarantineRoot
  fits : Fits C formats plan approvals publicKey

/-- What is left where a file was to be written: it is as it was or `written`, and the other files
of the transaction are as they were. -/
structure Rewrites (plan : ConsentRetirementPlanV1) (path : String) (written : FileSystem → Prop)
    (s s' : FileSystem) : Prop where
  changes : Changes plan (· = pathOf path) s s'
  either : s'.node? (pathOf path) = s.node? (pathOf path) ∨ written s'

/-- A transaction: what is retired, who allows it, and what was on disk before. -/
structure Transaction (C : Crypto) where
  formats : RetirementFormats
  plan : ConsentRetirementPlanV1
  approvals : ConsentRetirementApprovalBundleV1
  trustedWitnessKeys : List (FixedBytes 32)
  minimumQuorum : Nat
  publicKey : C.ed25519.VerifyingKey
  start : FileSystem

namespace Transaction

variable (T : Transaction C)

abbrev entries := retirementJournalEntriesForPlan T.plan

abbrev journalPath := retirementJournalPath T.plan

abbrev receiptPath := retirementReceiptPath T.plan

abbrev AsRecorded := Quarantine.AsRecorded C T.plan T.start

abbrev Fits := Quarantine.Fits C T.formats T.plan T.approvals T.publicKey

abbrev Setting := Quarantine.Setting C T.formats T.plan T.approvals T.publicKey T.start

abbrev Current := Quarantine.Current C T.plan T.approvals

abbrev JournalOn := Quarantine.JournalOn T.formats T.plan

abbrev ReceiptOn := Quarantine.ReceiptOn T.formats T.plan

abbrev Rejournals (journal : ConsentRetirementJournalV1) :=
  Rewrites T.plan T.journalPath (T.JournalOn journal)

abbrev Open := Quarantine.Open C T.formats T.plan T.approvals T.start

abbrev RolledBack := Quarantine.RolledBack C T.formats T.plan T.approvals T.start

abbrev Receipted := Quarantine.Receipted C T.formats T.plan T.approvals T.publicKey T.start

abbrev Committed := Quarantine.Committed C T.formats T.plan T.approvals T.publicKey T.start

abbrev Authorized : Prop :=
  T.plan.verifyAuthoritySignature C T.publicKey = .ok () ∧
    verifyRetirementQuorum C T.approvals T.plan T.trustedWitnessKeys T.minimumQuorum = .ok ()

abbrev rollback :=
  rollbackRetirementJournal C T.formats T.journalPath T.plan T.approvals T.trustedWitnessKeys
    T.minimumQuorum T.publicKey

end Transaction

variable {T : Transaction C} {s s' : FileSystem}
  {R : Nat → Event FileSystem Call → Prop} {spent : Nat → Prop} {n : Nat}
  {e : ConsentRetirementJournalEntryV1} {journal j : ConsentRetirementJournalV1}

lemma Rewrites.after {path : String} {written : FileSystem → Prop} {s1 : FileSystem}
    (h : Rewrites T.plan path written s1 s') (hk : Keeps T.plan s s1)
    (hmem : pathOf path ∈ transactionFiles T.plan) : Rewrites T.plan path written s s' :=
  ⟨(Changes.of_keeps hk).trans h.changes, h.either.imp_left (·.trans (hk _ hmem).1.1)⟩

omit [HexLibrary] in
lemma faults_any : FaultsFrom R n (fun _ => True) := fun _ _ _ _ _ _ => trivial

/-! ## One candidate at a time -/

section Steps

lemma wp_write {β : Type} {format : TextFormat β} {path : String} (label : String) {v : β}
    (hR : Considerate T.plan R) (hf : FaultsFrom R n spent) (hready : Ready T.plan s)
    (hmem : pathOf path ∈ transactionFiles T.plan)
    (hfits : ∃ text, format.toVec v = some text ∧ text.length < maxRetirementTransactionBytes)
    (hpath : resolve path = none → spent (n + 1)) :
    let written := fun s' =>
      readBoundedJson format s' path maxRetirementTransactionBytes label = .ok v
    wp R (persistRetirementJson format path v) (.within
      (fun _ s' k => k = n + 1 ∧ written s' ∧ Rewrites T.plan path written s s')
      (Rewrites T.plan path written s) spent) s n := by
  intro written
  obtain ⟨text, htext, hlen⟩ := hfits
  have hnew : ∀ s1 s', Keeps T.plan s s1 → s1.replace? path (text ++ [10]) = some s' →
      written s' ∧ Rewrites T.plan path written s s' := fun s1 s' hk h =>
    have hread := read_of_replace htext hlen h
    ⟨hread, (Changes.of_keeps hk).trans (.of_replace h), .inr hread⟩
  refine wp_bind (wp_ofExcept ?_)
  rw [htext]
  refine wp_bind (wp_ofExcept ?_)
  rw [failIf, if_neg (by simp; omega)]
  refine within_replace (I := Keeps T.plan s) (fun ev hev => hR n ev hev s) hf ?_ ?_ ?_
  · exact fun s1 s' hk h => ⟨rfl, hnew s1 s' hk h⟩
  · intro s1 hk hnone
    -- the directory is there and no directory is in the way, so only the path is to blame
    refine hpath (Option.not_isSome_iff_eq_none.mp fun hsome => ?_)
    have hready' := hready.keeps hk
    cases hnone.symm.trans (replace?_eq_some.mpr
      ⟨named_of_isSome hsome, ⟨hready'.parent _ hmem, hready'.noDir _ hmem⟩, rfl⟩)
  · rintro s1 s' hk (rfl | h)
    · exact ⟨.of_keeps hk, .inl (hk _ hmem).1.1⟩
    · exact (hnew s1 s' hk h).2

lemma wp_writeJournal (hS : T.Setting)
    (hR : Considerate T.plan R) (hf : FaultsFrom R n spent) (hready : Ready T.plan s)
    (hcur : T.Current journal) (hpath : resolve T.journalPath = none → spent (n + 1)) :
    wp R (persistRetirementJson T.formats.journal T.journalPath journal) (.within
      (fun _ s' k => k = n + 1 ∧ T.JournalOn journal s' ∧ T.Rejournals journal s s')
      (T.Rejournals journal s) spent) s n :=
  wp_write "consent retirement journal" hR hf hready journal_mem_files
    (hS.fits.journal journal hcur) hpath

def putBack (plan : ConsentRetirementPlanV1) (spent : Nat → Prop) (start : FileSystem)
    (e : ConsentRetirementJournalEntryV1) (s : FileSystem) (n : Nat) :
    Post FileSystem ConsentRetirementError Unit :=
  .within (fun _ s' k => n ≤ k ∧ Changes plan (AtEntry e) s s' ∧ Home start e s')
    (fun s' => Changes plan (AtEntry e) s s' ∧ (Home start e s' ∨ Away start e s')) spent

variable (hS : T.Setting) (hR : Considerate T.plan R) (he : e ∈ T.entries)
  (hready : Ready T.plan s)

include hS hR he hready

lemma wp_moveCandidate (hhome : Home T.start e s) : wp R (moveCandidate C e) (.within
      (fun _ s' _ => Changes T.plan (AtEntry e) s s' ∧ Away T.start e s') (Keeps T.plan s)
      (fun _ => True)) s n := by
  refine within_bind (wp_observe hR faults_any Keeps.refl (original_mem_files he)
    (observe_of_home hS.recorded he hready hhome)) (fun _ hk => hk) ?_
  rintro _ s1 _ ⟨rfl, rfl, hk1⟩
  refine wp_bind (wp_ofExcept ?_)
  rw [failIf, if_neg (by simp)]
  refine within_bind (wp_exists hR faults_any hk1 (quarantined_mem_files he)) (fun _ hk => hk) ?_
  rintro taken s2 _ ⟨rfl, hk2, htaken⟩
  have hfree : taken = false :=
    htaken.elim (·.trans (exists_of_home hS.recorded he hready hhome).2) (·.1)
  subst hfree
  refine wp_bind (wp_ofExcept (within_changeWith (I := Keeps T.plan s)
    (fun ev hev => hk2.trans (hR _ ev hev s2)) faults_any ?_ (fun _ _ _ => trivial)))
  intro s3 s' hk hs'
  exact ⟨(Changes.of_keeps hk).trans (.of_rename hs'),
    away_of_rename hS.recorded he (hhome.keeps he hk) hs'⟩

lemma wp_recordMove (h : Named T.journalPath) (hcur : T.Current journal) :
    wp R (recordMove T.formats T.plan e journal) (.within (fun _ s' _ => T.Rejournals journal s s')
      (T.Rejournals journal s) (fun _ => True)) s n := by
  have hkept : ∀ s1, Keeps T.plan s s1 → T.Rejournals journal s s1 :=
    fun s1 hk => ⟨.of_keeps hk, .inl (hk _ journal_mem_files).1.1⟩
  obtain ⟨hpar, hup⟩ := parent_of_original hS.recorded he hready
  unfold recordMove
  rw [hpar]
  refine wp_bind (wp_ofExcept (within_bind (wp_syncParent hR faults_any Keeps.refl
    (original_mem_files he) hup (hready.parent _ (original_mem_files he))) hkept ?_))
  rintro - s1 _ ⟨-, rfl, hk1⟩
  refine within_bind (wp_syncParent hR faults_any hk1 journal_mem_files
    (resolve_directory hS.root h) (hready.parent _ journal_mem_files)) hkept ?_
  rintro - s2 _ ⟨-, rfl, hk2⟩
  exact within_mono (wp_writeJournal hS hR faults_any (hready.keeps hk2) hcur (by simp [h]))
    (fun _ s' _ hdone => hdone.2.2.after hk2 journal_mem_files)
    (fun s' hw => hw.after hk2 journal_mem_files) (fun _ hsp => hsp)

variable (hf : FaultsFrom R n spent)

include hf

lemma wp_restoreFromQuarantine (haway : Away T.start e s) :
    wp R (restoreFromQuarantine C e) (putBack T.plan spent T.start e s n) s n := by
  have hold : ∀ s', Keeps T.plan s s' →
      Changes T.plan (AtEntry e) s s' ∧ (Home T.start e s' ∨ Away T.start e s') :=
    fun s' hk => ⟨.of_keeps hk, .inr (haway.keeps he hk)⟩
  obtain ⟨hpar, hup⟩ := parent_of_original hS.recorded he hready
  obtain ⟨hpar', hup'⟩ := parent_of_quarantined he hS.root hready haway.1
  unfold restoreFromQuarantine
  rw [hpar, hpar']
  refine within_bind (wp_observe hR hf Keeps.refl (quarantined_mem_files he)
    (observe_of_away hS.recorded he hS.root hready haway)) hold ?_
  rintro _ s1 _ ⟨rfl, rfl, hk1⟩
  refine wp_bind (wp_ofExcept ?_)
  rw [failIf, if_neg (by simp [ConsentRetirementArtifactV1.matchesContent])]
  refine within_bind (D := fun _ s' k => k = n + 2 ∧ Changes T.plan (AtEntry e) s s' ∧
    Home T.start e s') (within_changeWith (I := Keeps T.plan s)
      (fun ev hev => hk1.trans (hR _ ev hev s1)) (hf.mono (by omega)) ?_ ?_) hold ?_
  · intro s2 s3 hk2 h
    exact ⟨rfl, (Changes.of_keeps hk2).trans ((Changes.of_rename h).mono fun _ => Or.symm),
      home_of_rename hS.recorded he (haway.keeps he hk2) h⟩
  · intro s2 hk2 hnone
    exact absurd hnone (rename_of_away hS.recorded he (hready.keeps hk2) (haway.keeps he hk2))
  rintro - s3 _ ⟨rfl, hcha, hback⟩
  have hready3 := hcha.ready hready
  have hafter : ∀ s', Keeps T.plan s3 s' → Changes T.plan (AtEntry e) s s' ∧ Home T.start e s' :=
    fun s' hk => ⟨hcha.trans (.of_keeps hk), hback.keeps he hk⟩
  refine wp_bind (wp_ofExcept (within_bind (wp_syncParent hR (hf.mono (by omega)) Keeps.refl
    (original_mem_files he) hup (hready3.parent _ (original_mem_files he)))
    (fun s' hk => ⟨(hafter s' hk).1, .inl (hafter s' hk).2⟩) ?_))
  rintro - s4 _ ⟨-, rfl, hk4⟩
  refine wp_bind (wp_ofExcept (within_mono (wp_syncParent hR (hf.mono (by omega)) hk4
    (quarantined_mem_files he) hup' (hready3.parent _ (quarantined_mem_files he))) ?_
    (fun s' hk => ⟨(hafter s' hk).1, .inl (hafter s' hk).2⟩) (fun _ hsp => hsp)))
  rintro - s' _ ⟨-, rfl, hk⟩
  exact ⟨by omega, hafter s' hk⟩

lemma wp_checkInPlace (hhome : Home T.start e s) :
    wp R (checkInPlace C e) (seen T.plan spent s n ()) s n := by
  refine within_bind (wp_observe hR hf Keeps.refl (original_mem_files he)
    (observe_of_home hS.recorded he hready hhome)) (fun _ hk => hk) ?_
  rintro _ s' _ ⟨rfl, rfl, hk⟩
  refine wp_ofExcept ?_
  rw [failIf, if_neg (by simp)]
  exact ⟨rfl, rfl, hk⟩

lemma wp_restoreEntry (hmono : ∀ k, spent k → spent (k + 1))
    (h : Home T.start e s ∨ Away T.start e s) :
    wp R (restoreEntry C e) (putBack T.plan spent T.start e s n) s n := by
  have hkept : ∀ s', Keeps T.plan s s' →
      Changes T.plan (AtEntry e) s s' ∧ (Home T.start e s' ∨ Away T.start e s') := fun s' hk =>
    ⟨.of_keeps hk, h.imp (·.keeps he hk) (·.keeps he hk)⟩
  -- what the two looks find decides the rest; a failed one reports that nothing is there
  refine within_bind (wp_exists hR hf Keeps.refl (original_mem_files he)) hkept ?_
  rintro original s1 _ ⟨rfl, hk1, hori⟩
  refine within_bind (wp_exists hR (hf.mono (by omega)) hk1 (quarantined_mem_files he)) hkept ?_
  rintro quarantined s2 _ ⟨rfl, hk2, hqua⟩
  have hlost : spent (n + 2) → wp R (.ofExcept (.error (.rollbackArtifactMissing
      e.artifact.canonicalPath e.quarantinePath))) (putBack T.plan spent T.start e s n) s2 (n + 2) :=
    fun hsp => wp_ofExcept ⟨hkept s2 hk2, hsp⟩
  rcases h with hhome | haway
  · obtain ⟨hth, hfree⟩ := exists_of_home hS.recorded he hready hhome
    obtain rfl : quarantined = false := hqua.elim (·.trans hfree) (·.1)
    rcases hori with rfl | ⟨rfl, hsp, -⟩
    · rw [hth]
      refine within_mono (wp_checkInPlace hS hR he (hready.keeps hk2) (hf.mono (by omega))
        (hhome.keeps he hk2)) ?_ (fun s' hk => hkept s' (hk2.trans hk)) (fun _ hsp => hsp)
      rintro - s' _ ⟨-, rfl, hk⟩
      exact ⟨by omega, .of_keeps (hk2.trans hk), hhome.keeps he (hk2.trans hk)⟩
    · exact hlost (hmono _ hsp)
  · obtain ⟨hgone, hth⟩ := exists_of_away hS.recorded he hready haway
    obtain rfl : original = false := hori.elim (·.trans hgone) (·.1)
    rcases hqua with rfl | ⟨rfl, hsp, -⟩
    · rw [hth]
      exact within_mono (wp_restoreFromQuarantine hS hR he (hready.keeps hk2) (hf.mono (by omega))
          (haway.keeps he hk2))
        (fun _ s' k ⟨hle, hc, hback⟩ => ⟨by omega, (Changes.of_keeps hk2).trans hc, hback⟩)
        (fun s' ⟨hc, h'⟩ => ⟨(Changes.of_keeps hk2).trans hc, h'⟩) (fun _ hsp => hsp)
    · exact hlost hsp

end Steps

/-! ## The loops -/

section Loops

variable {moved rest entries : List ConsentRetirementJournalEntryV1}

lemma planned_mem (he : e ∈ entries) (h : entries.map .planned = T.entries) :
    e.planned ∈ T.entries := h ▸ List.mem_map_of_mem he

lemma planned_eq_self (he : e ∈ T.entries) : e.planned = e := by
  have hstate := pending_of_mem he
  cases e
  cases hstate
  rfl

lemma map_planned_of_subset (h : ∀ e ∈ rest, e ∈ T.entries) : rest.map .planned = rest := by
  conv_rhs => rw [← List.map_id rest]
  exact List.map_congr_left fun e he => planned_eq_self (h e he)

lemma Current.advance (h : T.Current journal) (hlist : entries.map .planned = T.entries)
    (state : ConsentRetirementJournalStateV1) (nowUnixSecs : UInt64) :
    T.Current { journal with
      entries := entries, state := state, updatedAtUnixSecs := nowUnixSecs } := by
  obtain ⟨hschema, hpath, hplan, hbun, hdir, -⟩ := journalIdentity_ok.mp h
  exact journalIdentity_ok.mpr ⟨hschema, hpath, hplan, hbun, hdir, hlist⟩

lemma Current.map_planned (h : T.Current journal) : journal.entries.map .planned = T.entries :=
  (journalIdentity_ok.mp h).2.2.2.2.2

lemma JournalOn.congr (h : T.JournalOn j s) (hsame : s'.node? (pathOf T.journalPath) =
      s.node? (pathOf T.journalPath)) : T.JournalOn j s' := (readBoundedJson_congr hsame).trans h

lemma Rewrites.exists_journal (hw : T.Rejournals journal s s')
    (hcurrent : T.Current journal) {P : ConsentRetirementJournalV1 → Prop} (hP : P journal)
    (hold : ∃ j, T.JournalOn j s ∧ T.Current j ∧ P j) :
    ∃ j, T.JournalOn j s' ∧ T.Current j ∧ P j := by
  obtain ⟨j, hj, hcur, hPj⟩ := hold
  rcases hw.either with hsame | hon
  · exact ⟨j, hj.congr hsame, hcur, hPj⟩
  · exact ⟨journal, hon, hcurrent, hP⟩

lemma Rewrites.home (hrecord : T.AsRecorded) {written : FileSystem → Prop}
    (hw : Rewrites T.plan T.journalPath written s s')
    (he : e ∈ T.entries) (h : Home T.start e s) : Home T.start e s' :=
  h.changes he hw.changes (hrecord.original_ne_journal he) (hrecord.quarantined_ne he).1

lemma Rewrites.away (hrecord : T.AsRecorded) {written : FileSystem → Prop}
    (hw : Rewrites T.plan T.journalPath written s s')
    (he : e ∈ T.entries) (h : Away T.start e s) : Away T.start e s' :=
  h.changes he hw.changes (hrecord.original_ne_journal he) (hrecord.quarantined_ne he).1

lemma Rewrites.receipt_same {written : FileSystem → Prop}
    (hw : Rewrites T.plan T.journalPath written s s') : s'.node? (pathOf T.receiptPath) =
      s.node? (pathOf T.receiptPath) := hw.changes.same _ receipt_mem_files journal_ne_receipt.symm

lemma JournalOn.exists_keeps {P : ConsentRetirementJournalV1 → Prop} (hk : Keeps T.plan s s')
    (h : ∃ j, T.JournalOn j s ∧ P j) : ∃ j, T.JournalOn j s' ∧ P j := by
  obtain ⟨j, hon, hP⟩ := h
  exact ⟨j, hon.congr (hk _ journal_mem_files).1.1, hP⟩

namespace Open

lemma place (h : T.Open s) (hrecord : T.AsRecorded)
    (he : e ∈ T.entries) (hc : Changes T.plan (AtEntry e) s s')
    (hplace : Home T.start e s' ∨ Away T.start e s') : T.Open s' where
  ready := hc.ready h.ready
  receipt := (hc.same _ receipt_mem_files (hrecord.journal_not_atEntry he).2).trans h.receipt
  placed := by
    intro e' he'
    by_cases heq : e' = e
    · rwa [heq]
    · obtain ⟨ho, hq⟩ := hrecord.not_atEntry he he' heq
      exact (h.placed e' he').imp (·.changes he' hc ho hq) (·.changes he' hc ho hq)
  journal := by
    obtain ⟨j, hon, hcur, hstate⟩ := h.journal
    exact ⟨j, hon.congr (hc.same _ journal_mem_files (hrecord.journal_not_atEntry he).1), hcur, hstate⟩

lemma write (h : T.Open s) (hrecord : T.AsRecorded) (hw : T.Rejournals journal s s')
    (hcur : T.Current journal) (hstate : journal.state = .prepared ∨ journal.state = .moving) :
    T.Open s' where
  ready := hw.changes.ready h.ready
  receipt := hw.receipt_same.trans h.receipt
  placed := fun e he => (h.placed e he).imp (hw.home hrecord he) (hw.away hrecord he)
  journal := hw.exists_journal hcur hstate h.journal

lemma keeps (h : T.Open s) (hk : Keeps T.plan s s') : T.Open s' where
  ready := h.ready.keeps hk
  receipt := (hk _ receipt_mem_files).1.1.trans h.receipt
  placed := fun e he => (h.placed e he).imp (·.keeps he hk) (·.keeps he hk)
  journal := JournalOn.exists_keeps hk h.journal

end Open

structure Midway (C : Crypto) (formats : RetirementFormats) (plan : ConsentRetirementPlanV1)
    (approvals : ConsentRetirementApprovalBundleV1) (start : FileSystem)
    (journal : ConsentRetirementJournalV1)
    (moved rest : List ConsentRetirementJournalEntryV1) (s : FileSystem) : Prop where
  entries : moved.map .planned ++ rest = retirementJournalEntriesForPlan plan
  ready : Ready plan s
  receipt : s.node? (pathOf (retirementReceiptPath plan)) = none
  away : ∀ e ∈ moved, Away start e s
  home : ∀ e ∈ rest, Home start e s
  journal : ∃ j, JournalOn formats plan j s ∧ Current C plan approvals j ∧ j.state = .moving ∧
    (moved = [] → j = journal)

abbrev Transaction.Midway (T : Transaction C) :=
  Quarantine.Midway C T.formats T.plan T.approvals T.start

namespace Midway

section

variable (h : T.Midway journal moved rest s)

include h

lemma mem_entries : e ∈ T.entries ↔ e ∈ moved.map .planned ++ rest := by
  rw [h.entries]

lemma moved_mem (he : e ∈ moved) : e.planned ∈ T.entries :=
  h.mem_entries.mpr (List.mem_append_left _ (List.mem_map_of_mem he))

lemma rest_mem (he : e ∈ rest) : e ∈ T.entries := h.mem_entries.mpr (List.mem_append_right _ he)

lemma map_planned : (moved ++ rest).map .planned = T.entries := by
  rw [List.map_append, map_planned_of_subset fun _ => h.rest_mem]
  exact h.entries

lemma isOpen : T.Open s where
  ready := h.ready
  receipt := h.receipt
  placed := by
    intro e he
    rw [← h.entries, List.mem_append, List.mem_map] at he
    rcases he with ⟨e', he', rfl⟩ | he
    · exact .inr (h.away e' he')
    · exact .inl (h.home e he)
  journal := by
    obtain ⟨j, hon, hcur, hstate, -⟩ := h.journal
    exact ⟨j, hon, hcur, .inr hstate⟩

lemma resolve_journal : Named T.journalPath := by
  obtain ⟨j, hon, -⟩ := h.journal
  exact named_of_read hon

end

lemma rename (h : T.Midway journal moved (e :: rest) s)
    (hrecord : T.AsRecorded) (hc : Changes T.plan (AtEntry e) s s') (haway : Away T.start e s') :
    T.Midway journal (moved ++ [{ e with state := .moved }]) rest s' := by
  have he : e ∈ T.entries := h.rest_mem List.mem_cons_self
  have hpen : { e with state := .pending } = e := planned_eq_self he
  -- the other entries are different from this one
  have hnod := hrecord.nodup
  rw [← h.entries, List.nodup_append] at hnod
  obtain ⟨-, hrest, hdis⟩ := hnod
  have hfre : e ∉ rest := (List.nodup_cons.mp hrest).1
  refine
    { entries := ?_, ready := hc.ready h.ready, receipt := ?_, away := ?_, home := ?_,
      journal := ?_ }
  · have hent := h.entries
    rw [List.map_append, List.append_assoc]
    simpa [ConsentRetirementJournalEntryV1.planned, hpen] using hent
  · exact (hc.same _ receipt_mem_files (hrecord.journal_not_atEntry he).2).trans h.receipt
  · intro e' he'
    rw [List.mem_append, List.mem_singleton] at he'
    rcases he' with he' | rfl
    · have hne : e'.planned ≠ e := hdis _ (List.mem_map_of_mem he') _ List.mem_cons_self
      obtain ⟨ho, hq⟩ := hrecord.not_atEntry he (h.moved_mem he') hne
      have hth : Away T.start e'.planned s := h.away e' he'
      exact hth.changes (h.moved_mem he') hc ho hq
    · exact haway
  · intro e' he'
    have hmem := h.rest_mem (List.mem_cons_of_mem _ he')
    obtain ⟨ho, hq⟩ := hrecord.not_atEntry he hmem (fun heq => hfre (heq ▸ he'))
    exact (h.home e' (List.mem_cons_of_mem _ he')).changes hmem hc ho hq
  · obtain ⟨j, hon, hcur, hstate, -⟩ := h.journal
    exact ⟨j, hon.congr (hc.same _ journal_mem_files (hrecord.journal_not_atEntry he).1),
      hcur, hstate, fun hnil => by simp at hnil⟩

section

variable (h : T.Midway journal moved rest s)

include h

lemma write (hrecord : T.AsRecorded) (hne : moved ≠ []) (hw : T.Rejournals j s s')
    (hcur : T.Current j) (hstate : j.state = .moving) : T.Midway journal moved rest s' where
  entries := h.entries
  ready := hw.changes.ready h.ready
  receipt := hw.receipt_same.trans h.receipt
  away := fun e he => hw.away (e := e.planned) hrecord (h.moved_mem he) (h.away e he)
  home := fun e he => hw.home hrecord (h.rest_mem he) (h.home e he)
  journal := hw.exists_journal hcur ⟨hstate, fun hnil => absurd hnil hne⟩ h.journal

lemma same (hc : Changes T.plan (fun _ => False) s s') : T.Midway journal moved rest s' where
  entries := h.entries
  ready := hc.ready h.ready
  receipt := (hc.same _ receipt_mem_files not_false).trans h.receipt
  away := fun e he =>
    have hth : Away T.start e.planned s := h.away e he
    hth.changes (h.moved_mem he) hc not_false not_false
  home := fun e he => (h.home e he).changes (h.rest_mem he) hc not_false not_false
  journal := by
    obtain ⟨j, hon, hcur, hstate⟩ := h.journal
    exact ⟨j, hon.congr (hc.same _ journal_mem_files not_false), hcur, hstate⟩

lemma keeps (hk : Keeps T.plan s s') : T.Midway journal moved rest s' := h.same (.of_keeps hk)

end

end Midway

variable (hS : T.Setting) (hR : Considerate T.plan R)

include hS hR

lemma wp_moveCandidates {nowUnixSecs : UInt64} (hcur : T.Current journal)
    (hstate : journal.state = .moving) (h : T.Midway journal moved rest s) :
    wp R (moveCandidates C T.formats T.plan nowUnixSecs journal moved rest)
      ⟨fun entries s' _ => T.Midway journal entries [] s', fun err s' _ => T.Open s' ∧
          (err.2 = false → T.JournalOn journal s' ∧ ∀ e ∈ T.entries, Home T.start e s'),
        fun s' => T.Open s'⟩ s n := by
  induction rest generalizing moved n s with
  | nil => exact wp_pure h
  | cons e rest ih =>
    have he := h.rest_mem List.mem_cons_self
    refine wp_bind (wp_mapError (wp_mono (wp_moveCandidate hS hR he h.ready
      (h.home e List.mem_cons_self)) ?_ ?_ (fun s1 hs => (h.keeps hs.1).isOpen)))
    · rintro - s1 _ ⟨hc1, haway⟩
      have h1 := h.rename hS.recorded hc1 haway
      have hnext : T.Current { journal with
          entries := moved ++ { e with state := .moved } :: rest
          updatedAtUnixSecs := nowUnixSecs } := by
        exact hcur.advance (by simpa using h1.map_planned) journal.state nowUnixSecs
      have hne : moved ++ [{ e with state := .moved }] ≠ [] := by simp
      refine wp_bind (wp_mapError (wp_mono (wp_recordMove hS hR he h1.ready h1.resolve_journal
        hnext) ?_ ?_ ?_))
      · exact fun _ s2 _ hw => ih (h1.write hS.recorded hne hw hnext hstate)
      · exact fun _ s2 _ hs => ⟨(h1.write hS.recorded hne hs.1 hnext hstate).isOpen, nofun⟩
      · exact fun s2 hs => (h1.write hS.recorded hne hs.1 hnext hstate).isOpen
    · rintro err s1 k ⟨hk, -⟩
      have h1 := h.keeps hk
      refine ⟨h1.isOpen, fun hfalse => ?_⟩
      -- no candidate has been renamed, so all of them are still in the rest
      have hnil : moved = [] := by simpa using hfalse
      subst hnil
      obtain ⟨j, hon, -, -, hj⟩ := h1.journal
      obtain rfl := hj rfl
      refine ⟨hon, fun e' he' => h1.home e' ?_⟩
      simpa using h1.mem_entries.mp he'

lemma wp_restoreEntries {nowUnixSecs : UInt64} (hmono : ∀ k, spent k → spent (k + 1))
    (hcur : T.Current journal) (hstate : journal.state = .prepared ∨ journal.state = .moving)
    {todo restored : List ConsentRetirementJournalEntryV1} {m : Nat} (hf : FaultsFrom R n spent)
    (hm : m ≤ n) (hlist : (todo.reverse ++ restored).map .planned = T.entries)
    (hrestored : ∀ e ∈ restored, e.state = .restored ∧ Home T.start e s) (h : T.Open s) :
    wp R (restoreEntries C T.formats T.journalPath nowUnixSecs journal todo restored)
      (.within (fun entries s' k => m ≤ k ∧ T.Open s' ∧ entries.map .planned = T.entries ∧
          ∀ e ∈ entries, e.state = .restored ∧ Home T.start e s') (T.Open) spent) s n := by
  induction todo generalizing restored n s with
  | nil => exact wp_pure ⟨hm, h, hlist, hrestored⟩
  | cons e todo ih =>
    have hmem : ∀ e' ∈ (e :: todo).reverse ++ restored,
        e'.planned ∈ T.entries := fun e' he' => planned_mem he' hlist
    have he : e.planned ∈ T.entries := hmem e (by simp)
    have hnext : (todo.reverse ++ { e with state := .restored } :: restored).map .planned =
        T.entries := by
      rw [← hlist]
      simp [ConsentRetirementJournalEntryV1.planned]
    have hjournal := hcur.advance hnext journal.state nowUnixSecs
    obtain ⟨j0, hj0, -⟩ := h.journal
    refine within_bind (wp_restoreEntry (e := e.planned) hS hR he h.ready hf hmono (h.placed _ he))
      (fun s' hs => h.place hS.recorded he hs.1 hs.2) ?_
    rintro - s1 k ⟨hle, hc1, hback⟩
    have h1 := h.place hS.recorded he hc1 (.inl hback)
    refine within_bind (wp_writeJournal hS hR (hf.mono hle) h1.ready hjournal
      (by simp [named_of_read hj0])) (fun s' hw => h1.write hS.recorded hw hjournal hstate) ?_
    rintro - s2 _ ⟨rfl, -, hw⟩
    refine ih (hf.mono (by omega)) (by omega) hnext ?_ (h1.write hS.recorded hw hjournal hstate)
    -- a candidate that is back stays back, and this one is back now
    intro e' he'
    rcases List.mem_cons.mp he' with rfl | he'
    · exact ⟨rfl, hw.home (e := e.planned) hS.recorded he hback⟩
    · obtain ⟨hstate', hth⟩ := hrestored e' he'
      have hmem' := hmem e' (List.mem_append_right _ he')
      have hth : Home T.start e'.planned s := hth
      refine ⟨hstate', hw.home (e := e'.planned) hS.recorded hmem' ?_⟩
      by_cases heq : e'.planned = e.planned
      · rwa [heq]
      · obtain ⟨ho, hq⟩ := hS.recorded.not_atEntry he hmem' heq
        exact hth.changes hmem' hc1 ho hq

end Loops

/-! ## Rollback and recovery -/

section Recovery

variable {receipt : ConsentRetirementQuarantineReceiptV1} {nowUnixSecs : UInt64}

lemma map_planned_of_receipt (h : receipt.verify C T.plan T.approvals T.publicKey = .ok ()) :
    receipt.entries.map .planned = T.entries := (receiptVerify_ok.mp h).2.2.2.2.1

namespace RolledBack

lemma keeps (h : T.RolledBack s) (hk : Keeps T.plan s s') : T.RolledBack s' where
  ready := h.ready.keeps hk
  receipt := (hk _ receipt_mem_files).1.1.trans h.receipt
  placed := fun e he => (h.placed e he).keeps he hk
  journal := JournalOn.exists_keeps hk h.journal

lemma of_write (h : T.Open s) (hrecord : T.AsRecorded) (hhome : ∀ e ∈ T.entries, Home T.start e s)
    (hw : T.Rejournals journal s s')
    (hcur : T.Current journal) (hstate : journal.state = .rolledBack)
    (hlist : ∀ e ∈ journal.entries, e.state ≠ .moved) (hon : T.JournalOn journal s') :
    T.RolledBack s' where
  ready := hw.changes.ready h.ready
  receipt := hw.receipt_same.trans h.receipt
  placed := fun e he => hw.home hrecord he (hhome e he)
  journal := ⟨journal, hon, hcur, hstate, hlist⟩

end RolledBack

lemma ReceiptOn.congr (h : T.ReceiptOn receipt s) (hsame : s'.node? (pathOf T.receiptPath) =
      s.node? (pathOf T.receiptPath)) : T.ReceiptOn receipt s' :=
  (readBoundedJson_congr hsame).trans h

namespace Receipted

lemma keeps (h : T.Receipted s) (hk : Keeps T.plan s s') : T.Receipted s' where
  ready := h.ready.keeps hk
  placed := fun e he => (h.placed e he).keeps he hk
  receipt := by
    obtain ⟨r, hon, hverify⟩ := h.receipt
    exact ⟨r, hon.congr (hk _ receipt_mem_files).1.1, hverify⟩
  journal := JournalOn.exists_keeps hk h.journal

lemma write (h : T.Receipted s) (hrecord : T.AsRecorded) (hw : T.Rejournals journal s s')
    (hcur : T.Current journal) (hstate : journal.state = .committed) : T.Receipted s' where
  ready := hw.changes.ready h.ready
  placed := fun e he => hw.away hrecord he (h.placed e he)
  receipt := by
    obtain ⟨r, hr, hverify⟩ := h.receipt
    exact ⟨r, hr.congr hw.receipt_same, hverify⟩
  journal := hw.exists_journal hcur (.inr hstate) h.journal

end Receipted

def Shaped (C : Crypto) (formats : RetirementFormats) (plan : ConsentRetirementPlanV1)
    (approvals : ConsentRetirementApprovalBundleV1) (publicKey : C.ed25519.VerifyingKey)
    (start s : FileSystem) : Prop :=
  Open C formats plan approvals start s ∨ RolledBack C formats plan approvals start s ∨
    Receipted C formats plan approvals publicKey start s

abbrev Transaction.Shaped (T : Transaction C) :=
  Quarantine.Shaped C T.formats T.plan T.approvals T.publicKey T.start

lemma Shaped.keeps (h : T.Shaped s) (hk : Keeps T.plan s s') : T.Shaped s' :=
  h.imp (·.keeps hk) (·.imp (·.keeps hk) (·.keeps hk))

lemma Open.close (h : T.Open s) (hrecord : T.AsRecorded) (hhome : ∀ e ∈ T.entries, Home T.start e s)
    (hw : T.Rejournals journal s s')
    (hcurrent : T.Current journal) (hstate : journal.state = .rolledBack)
    (hlist : ∀ e ∈ journal.entries, e.state ≠ .moved) : T.Shaped s' := by
  rcases hw.either with hsame | hon
  · obtain ⟨j, -, hcur, hunmoved⟩ := h.journal
    exact .inl (h.write hrecord ⟨hw.changes, .inl hsame⟩ hcur hunmoved)
  · exact .inr (.inl (.of_write h hrecord hhome hw hcurrent hstate hlist hon))

def kept (plan : ConsentRetirementPlanV1) (spent : Nat → Prop) (s : FileSystem) (n : Nat) :
    Post FileSystem ConsentRetirementError Unit :=
  ⟨fun _ t m => n ≤ m ∧ Keeps plan s t, fun _ t m => Keeps plan s t ∧ spent m,
    fun t => Keeps plan s t ∧ ∃ m, spent m⟩

lemma wp_checks {f : ConsentRetirementJournalEntryV1 → Prog ConsentRetirementError Unit}
    {entries : List ConsentRetirementJournalEntryV1}
    (hturn : ∀ e ∈ entries, ∀ t m, n ≤ m → Keeps T.plan s t → wp R (f e) (kept T.plan spent t m) t m) :
    wp R (entries.forM f) (kept T.plan spent s n) s n := by
  refine wp_forM (fun t m => n ≤ m ∧ Keeps T.plan s t) ?_ (fun _ _ hinv => hinv)
    ⟨le_rfl, Keeps.refl⟩
  rintro e he t m ⟨hle, hk⟩
  exact within_mono (hturn e he t m hle hk)
    (fun _ t' m' hdone => ⟨hle.trans hdone.1, hk.trans hdone.2⟩) (fun t' hk' => hk.trans hk')
    (fun _ h => h)

variable (hS : T.Setting) (hR : Considerate T.plan R)
  (hf : FaultsFrom R n spent) (hmono : ∀ k, spent k → spent (k + 1))

include hS hR hf

lemma wp_verifyQuarantinedEntry (he : e ∈ T.entries)
    (hready : Ready T.plan s) (haway : Away T.start e s) :
    wp R (verifyQuarantinedEntry C e) (kept T.plan spent s n) s n := by
  refine within_bind (wp_exists hR hf Keeps.refl (original_mem_files he)) (fun _ hk => hk) ?_
  rintro reappeared t _ ⟨rfl, hk, h⟩
  obtain rfl : reappeared = false :=
    h.elim (·.trans (exists_of_away hS.recorded he hready haway).1) (·.1)
  refine wp_bind (wp_ofExcept (within_bind (wp_mapError (wp_observe hR (hf.mono (by omega)) hk
    (quarantined_mem_files he) (observe_of_away hS.recorded he hS.root hready haway)))
    (fun _ hk => hk) ?_))
  rintro _ t' _ ⟨rfl, rfl, hk'⟩
  refine wp_ofExcept ?_
  rw [failIf, if_neg (by simp)]
  exact ⟨by omega, hk'⟩

lemma wp_verifyQuarantinedReceiptFiles (hready : Ready T.plan s)
    (hlist : receipt.entries.map .planned = T.entries) (haway : ∀ e ∈ T.entries, Away T.start e s) :
    wp R (verifyQuarantinedReceiptFiles C receipt) (kept T.plan spent s n) s n := by
  refine wp_checks fun e he t m hle hk => ?_
  have hmem := planned_mem he hlist
  exact wp_verifyQuarantinedEntry (e := e.planned) hS hR (hf.mono hle) hmem (hready.keeps hk)
    ((haway _ hmem).keeps hmem hk)

lemma wp_verifyRolledBackEntry (he : e.planned ∈ T.entries)
    (hready : Ready T.plan s) (hstate : e.state ≠ .moved) (hhome : Home T.start e.planned s) :
    wp R (verifyRolledBackEntry C e) (kept T.plan spent s n) s n := by
  have hmem : pathOf e.artifact.canonicalPath ∈ transactionFiles T.plan :=
    original_mem_files (e := e.planned) he
  have hmem' : pathOf e.quarantinePath ∈ transactionFiles T.plan :=
    quarantined_mem_files (e := e.planned) he
  have h : s.pathExists e.artifact.canonicalPath = true ∧
      s.pathExists e.quarantinePath = false :=
    exists_of_home (e := e.planned) hS.recorded he hready hhome
  refine within_bind (wp_exists hR hf Keeps.refl hmem') (fun _ hk => hk) ?_
  rintro quarantined t _ ⟨rfl, hk, hqua⟩
  obtain rfl : quarantined = false := hqua.elim (·.trans h.2) (·.1)
  refine wp_bind (wp_ofExcept (within_bind (wp_exists hR (hf.mono (by omega)) hk hmem)
    (fun _ hk => hk) ?_))
  rintro original t' _ ⟨rfl, hk', hori⟩
  rcases hori with rfl | ⟨rfl, hsp, -⟩
  · rw [h.1]
    refine wp_bind (wp_ofExcept ?_)
    cases hcase : e.state with
    | restored =>
      refine within_mono (wp_checkInPlace (e := e.planned) hS hR he (hready.keeps hk')
        (hf.mono (by omega)) (hhome.keeps he hk')) ?_ (fun _ hk => hk'.trans hk) (fun _ hsp => hsp)
      rintro - u _ ⟨-, rfl, hk⟩
      exact ⟨by omega, hk'.trans hk⟩
    | pending =>
      refine within_mono (wp_seen (a := ()) hR (hf.mono (by omega)) hk' fun u hk => ?_) ?_
        (fun _ hk => hk) (fun _ hsp => hsp)
      · obtain ⟨bytes, hres, -, hnode, -⟩ := hS.recorded.entry he
        have hres : resolve e.artifact.canonicalPath = some e.planned.original := hres
        have hfile := (hhome.keeps he hk).1.trans hnode
        have hdir := (hready.keeps hk).noDir _ (original_mem_files he)
        simp only [checkRegularFile, hres, okOr, bind, Except.bind, hdir, hfile, failIf]
        rfl
      · rintro - u _ ⟨-, rfl, hk⟩
        exact ⟨by omega, hk⟩
    | moved => exact absurd hcase hstate
  · -- a failed look at the original makes the candidate seem lost
    exact wp_bind (wp_ofExcept ⟨hk', hsp⟩)

lemma wp_verifyRolledBackJournalFiles (hready : Ready T.plan s)
    (hlist : journal.entries.map .planned = T.entries)
    (hstate : ∀ e ∈ journal.entries, e.state ≠ .moved) (hhome : ∀ e ∈ T.entries, Home T.start e s) :
    wp R (verifyRolledBackJournalFiles C journal) (kept T.plan spent s n) s n := by
  refine wp_checks fun e he t m hle hk => ?_
  have hmem := planned_mem he hlist
  exact wp_verifyRolledBackEntry hS hR (hf.mono hle) hmem (hready.keeps hk) (hstate e he)
    ((hhome _ hmem).keeps hmem hk)

variable (hauthority : T.Authorized)

include hauthority hmono

lemma wp_rollbackRetirementJournal (h : T.Open s) : wp R (T.rollback nowUnixSecs)
      (.within (fun _ s' _ => T.RolledBack s') (T.Shaped) spent) s n := by
  have hkept : ∀ s', Keeps T.plan s s' → T.Shaped s' := fun s' hk => .inl (h.keeps hk)
  obtain ⟨journal, hon, hcur, hstate⟩ := h.journal
  refine wp_bind (wp_ok hauthority.1 (wp_bind (wp_ok hauthority.2 (within_bind
    (wp_readJson hR hf Keeps.refl journal_mem_files hon) hkept ?_))))
  rintro _ s1 _ ⟨rfl, rfl, hk1⟩
  refine wp_bind (wp_ok hcur (wp_bind (wp_ok (a := ()) (failIf_ok.mpr
    (by rcases hstate with hs | hs <;> simp [hs])) ?_)))
  refine within_bind (wp_exists hR (hf.mono (by omega)) hk1 receipt_mem_files) hkept ?_
  rintro receipted s2 _ ⟨rfl, hk2, hreceipt⟩
  obtain rfl : receipted = false := hreceipt.elim (·.trans
    (pathExists_eq_false h.receipt (h.ready.noDir _ receipt_mem_files))) (·.1)
  refine wp_bind (wp_ofExcept (within_bind (wp_restoreEntries (m := n) hS hR hmono hcur hstate
    (hf.mono (by omega)) (by omega) (by simpa using hcur.map_planned) (by simp)
    (h.keeps hk2)) (fun _ hopen => .inl hopen) ?_))
  rintro restored s3 k ⟨hle, h3, hpla, hres⟩
  have hfin := hcur.advance hpla .rolledBack nowUnixSecs
  have hhome : ∀ e ∈ T.entries, Home T.start e s3 := by
    intro e he
    rw [← hpla, List.mem_map] at he
    obtain ⟨e', he', rfl⟩ := he
    exact (hres e' he').2
  have hunmoved : ∀ e ∈ restored, e.state ≠ .moved := fun e he => by simp [(hres e he).1]
  exact within_mono (wp_writeJournal hS hR (hf.mono hle) h3.ready hfin
      (by simp [named_of_read hon]))
    (fun _ s' _ ⟨_, hon', hw⟩ => .of_write h3 hS.recorded hhome hw hfin rfl hunmoved hon')
    (fun s' hw => h3.close hS.recorded hhome hw hfin rfl hunmoved) (fun _ hsp => hsp)

end Recovery

end Quarantine

end XeniaPeer.Consent
