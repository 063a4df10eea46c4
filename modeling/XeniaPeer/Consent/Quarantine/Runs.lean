import XeniaPeer.Consent.Quarantine.Steps

/-!
# Crashes and recoveries of a retirement

The rules of the parts put together: what a run of `execute_retirement_quarantine` leaves behind
wherever it is interrupted, and what `recover_retirement_transaction` makes of it. With every
candidate as recorded at the start, a recovery that is not interrupted ends with all of them back or
all of them in quarantine (`recovery_settles_retirement`).
-/

namespace XeniaPeer.Consent

open Foundation Foundation.FileSystem Ledger

section Rules

variable [HexLibrary] {C : Crypto}

/-! ## Whole runs -/

variable {s : FileSystem} {nowUnixSecs : UInt64}

namespace Quarantine

section Runs

variable {T : Transaction C} {s' : FileSystem} {R : Nat → Event FileSystem Call → Prop}
  {spent : Nat → Prop} {n : Nat} {e : ConsentRetirementJournalEntryV1}
  {journal j : ConsentRetirementJournalV1} {receipt : ConsentRetirementQuarantineReceiptV1}

lemma ReceiptOn.pathExists (h : T.ReceiptOn receipt s) : s.pathExists T.receiptPath = true := by
  obtain ⟨hp, bytes, hnode, -⟩ := readBoundedJson_ok.mp h
  exact pathExists_of_readFile? (readFile?_eq_some.mpr ⟨hp, hnode⟩)

lemma Committed.of_write (h : T.Receipted s) (hrecord : T.AsRecorded)
    (hw : T.Rejournals journal s s')
    (hcur : T.Current journal) (hstate : journal.state = .committed)
    (hon : T.JournalOn journal s') : T.Committed s' :=
  ⟨h.write hrecord hw hcur hstate, journal, hon, hstate⟩

def recovered (C : Crypto) (formats : RetirementFormats) (plan : ConsentRetirementPlanV1)
    (approvals : ConsentRetirementApprovalBundleV1) (publicKey : C.ed25519.VerifyingKey)
    (start : FileSystem) (spent : Nat → Prop) :
    Post FileSystem ConsentRetirementError ConsentRetirementRecoveryOutcomeV1 :=
  ⟨fun _ s' _ => RolledBack C formats plan approvals start s' ∨
      Committed C formats plan approvals publicKey start s',
    fun _ s' k => Shaped C formats plan approvals publicKey start s' ∧ spent k,
    fun s' => Shaped C formats plan approvals publicKey start s' ∧ ∃ k, spent k⟩

namespace Transaction

variable (T)

abbrev recovery :=
  recoverRetirementTransaction C T.formats T.journalPath T.plan T.approvals T.trustedWitnessKeys
    T.minimumQuorum T.publicKey

abbrev recovered :=
  Quarantine.recovered C T.formats T.plan T.approvals T.publicKey T.start

end Transaction

section Recover

variable (hS : T.Setting) (hR : Considerate T.plan R) (hf : FaultsFrom R n spent)

include hS hR hf

lemma wp_finalizeReceipted (h : T.Receipted s)
    (hon : T.JournalOn journal s) (hcur : T.Current journal)
    (hstate : journal.state = .moving ∨ journal.state = .committed) :
    wp R (finalizeReceipted C T.formats T.journalPath T.plan T.approvals T.publicKey
        nowUnixSecs journal) (T.recovered spent) s n := by
  have hkept : ∀ s', Keeps T.plan s s' → T.Shaped s' := fun s' hk => .inr (.inr (h.keeps hk))
  obtain ⟨receipt, hreceipt, hverify⟩ := h.receipt
  refine within_bind (wp_readJson hR hf Keeps.refl receipt_mem_files hreceipt) hkept ?_
  rintro _ s1 _ ⟨rfl, rfl, hk1⟩
  have h1 := h.keeps hk1
  refine wp_bind (wp_ok hverify (within_bind (wp_verifyQuarantinedReceiptFiles hS hR
    (hf.mono (by omega)) h1.ready (map_planned_of_receipt hverify) h1.placed)
    (fun s' hk => hkept s' (hk1.trans hk)) ?_))
  rintro - s2 k ⟨hle, hk2⟩
  have h2 := h1.keeps hk2
  have hon2 := hon.congr ((hk1.trans hk2) _ journal_mem_files).1.1
  refine wp_bind (wp_ok (a := ()) (failIf_ok.mpr (by rcases hstate with hs | hs <;> simp [hs])) ?_)
  by_cases hcom : journal.state = .committed
  · rw [if_pos hcom]
    exact wp_pure (.inr ⟨h2, journal, hon2, hcom⟩)
  · rw [if_neg hcom]
    have hfin := hcur.advance hcur.map_planned .committed nowUnixSecs
    exact within_bind (wp_writeJournal hS hR (hf.mono (by omega)) h2.ready hfin
        (by simp [named_of_read hon]))
      (fun s' hw => .inr (.inr (h2.write hS.recorded hw hfin rfl)))
      (fun _ s' _ ⟨_, hon', hw⟩ => wp_pure (.inr (.of_write h2 hS.recorded hw hfin rfl hon')))

lemma wp_recoverRetirementTransaction (hmono : ∀ k, spent k → spent (k + 1))
    (hstat : ∀ m e k, R m e → e.verdict .stat ≠ .fail k) (hauth : T.Authorized) (h : T.Shaped s) :
    wp R (T.recovery nowUnixSecs) (T.recovered spent) s n := by
  have hjournal : ∃ journal, T.JournalOn journal s ∧ T.Current journal := by
    rcases h with h | h | h <;>
    · obtain ⟨j, hon, hcur, -⟩ := h.journal
      exact ⟨j, hon, hcur⟩
  obtain ⟨journal, hon, hcur⟩ := hjournal
  have huni : ∀ j, T.JournalOn j s → j = journal := fun j hj => Except.ok.inj (hj.symm.trans hon)
  refine wp_bind (wp_ok hauth.1 (wp_bind (wp_ok hauth.2 (within_bind
    (wp_readJson hR hf Keeps.refl journal_mem_files hon) (fun s' hk => h.keeps hk) ?_))))
  rintro _ s1 _ ⟨rfl, rfl, hk1⟩
  refine wp_bind (wp_ok hcur (within_bind (wp_exists hR (hf.mono (by omega)) hk1
    receipt_mem_files) (fun s' hk => h.keeps hk) ?_))
  rintro receipted s2 _ ⟨rfl, hk2, hreceipt⟩
  obtain rfl : receipted = s.pathExists T.receiptPath :=
    hreceipt.elim id fun ⟨_, _, e, k, he, hfail⟩ => absurd hfail (hstat _ e k he)
  have hf2 : FaultsFrom R (n + 2) spent := hf.mono (by omega)
  rcases h with h | h | h
  · obtain ⟨j, hj, -, hstate⟩ := h.journal
    obtain rfl := huni j hj
    rw [pathExists_eq_false h.receipt (h.ready.noDir _ receipt_mem_files)]
    have hrest : wp R (do
        T.rollback nowUnixSecs
        pure ConsentRetirementRecoveryOutcomeV1.rolledBack)
        (T.recovered spent) s2 (n + 2) :=
      within_bind (wp_rollbackRetirementJournal hS hR hf2 hmono hauth (h.keeps hk2))
        (fun _ hsha => hsha) (fun _ _ _ hdone => wp_pure (.inl hdone))
    rcases hstate with hs | hs <;>
    · simp only [Bool.false_eq_true, if_false, hs]
      exact hrest
  · obtain ⟨j, hj, -, hstate, hent⟩ := h.journal
    obtain rfl := huni j hj
    have h2 := h.keeps hk2
    rw [pathExists_eq_false h.receipt (h.ready.noDir _ receipt_mem_files)]
    simp only [Bool.false_eq_true, if_false, hstate]
    exact within_bind (wp_verifyRolledBackJournalFiles hS hR hf2 h2.ready hcur.map_planned
        hent h2.placed) (fun s' hk => .inr (.inl (h2.keeps hk)))
      (fun _ s' k hdone => wp_pure (.inl (h2.keeps hdone.2)))
  · obtain ⟨r, hr, -⟩ := h.receipt
    obtain ⟨j, hj, -, hstate⟩ := h.journal
    obtain rfl := huni j hj
    rw [hr.pathExists]
    simp only [if_true]
    exact wp_finalizeReceipted hS hR hf2 (h.keeps hk2)
      (hon.congr (hk2 _ journal_mem_files).1.1) hcur hstate

end Recover

/-! ### Executing a plan -/

section Execute

section Fresh

variable (hfre : T.start.hasDir (pathOf (quarantineTransactionDirectory T.plan)) = false)

include hfre

lemma absent_of_fresh {p : Path}
    (hp : p.dropLast = pathOf (quarantineTransactionDirectory T.plan)) :
    T.start.node? p = none := by
  by_contra hnode
  obtain ⟨node, hnode⟩ := Option.ne_none_iff_exists'.mp hnode
  have h := (Bool.and_eq_true_iff.mp (hasParent_of_node? hnode)).2
  rw [hp, hfre] at h
  cases h

lemma home_of_fresh (he : e ∈ T.entries) : Home T.start e T.start :=
  ⟨rfl, absent_of_fresh hfre (dropLast_quarantined he)⟩

lemma journal_of_fresh : T.start.node? (pathOf T.journalPath) = none :=
  absent_of_fresh hfre (by rw [pathOf_retirementJournalPath, List.dropLast_concat])

end Fresh

namespace AsRecorded

variable (h : T.AsRecorded)

include h

lemma ready_of_makeDir {mode : Nat} (hk : Keeps T.plan T.start s)
    (hmake : s.makeDir? (quarantineTransactionDirectory T.plan) mode = some s') :
    Ready T.plan s' ∧ ∀ p, s'.node? p = s.node? p := by
  obtain ⟨-, ⟨hpar, hnone, hdir⟩, rfl⟩ := makeDir?_eq_some.mp hmake
  set directory := pathOf (quarantineTransactionDirectory T.plan)
  -- the files in the directory, and the candidates in theirs
  have hinn : ∀ name, (s.addDir directory mode).hasParent (directory ++ [name]) = true ∧
      (s.addDir directory mode).hasDir (directory ++ [name]) = false := by
    intro name
    constructor
    · simp [hasParent, hasDir_addDir hpar]
    · simp [hasDir_addDir hpar, hasDir_concat hdir]
  have hout : ∀ e ∈ T.entries, (s.addDir directory mode).hasParent e.original = true ∧
        (s.addDir directory mode).hasDir e.original = false := by
    intro e he
    obtain ⟨bytes, -, hnoD, hnode, -⟩ := h.entry he
    have hth : s.node? e.original = some (.file bytes) :=
      (hk _ (original_mem_files he)).1.1.trans hnode
    have hup := hasParent_of_node? hth
    simp only [hasParent, Bool.and_eq_true, decide_eq_true_eq] at hup
    have hne : e.original ≠ directory := by
      intro heq
      rw [heq, hnone] at hth
      cases hth
    constructor
    · simp [hasParent, hasDir_addDir hpar, hup]
    · simp [hasDir_addDir hpar, hne, (hk _ (original_mem_files he)).1.2.trans hnoD]
  have hfil : ∀ p ∈ transactionFiles T.plan, (s.addDir directory mode).hasParent p = true ∧
      (s.addDir directory mode).hasDir p = false := by
    intro p hp
    rcases mem_transactionFiles.mp hp with rfl | rfl | ⟨e, he, rfl | rfl⟩
    · rw [pathOf_retirementJournalPath]
      exact hinn _
    · rw [pathOf_retirementReceiptPath]
      exact hinn _
    · exact hout e he
    · obtain ⟨i, a, ha, rfl⟩ := mem_retirementJournalEntriesForPlan.mp he
      rw [quarantined_journalEntryFor]
      exact hinn _
  exact ⟨⟨fun p hp => (hfil p hp).1, fun p hp => (hfil p hp).2⟩, fun p => node?_addDir hdir⟩

end AsRecorded

def Unmoved (C : Crypto) (formats : RetirementFormats) (plan : ConsentRetirementPlanV1)
    (approvals : ConsentRetirementApprovalBundleV1) (start s : FileSystem) : Prop :=
  (∀ e ∈ retirementJournalEntriesForPlan plan, Home start e s) ∧
    (s.node? (pathOf (retirementJournalPath plan)) = none ∨
      (Path.text (pathOf plan.quarantineRoot) = plan.quarantineRoot ∧
        Open C formats plan approvals start s))

abbrev Transaction.Unmoved (T : Transaction C) :=
  Quarantine.Unmoved C T.formats T.plan T.approvals T.start

omit [HexLibrary] in
lemma root_of_canonical {plan : ConsentRetirementPlanV1} {root : String} {fs : FileSystem}
    (h : canonicalQuarantineRoot plan.quarantineRoot fs = .ok root) :
    resolve plan.quarantineRoot = some (pathOf plan.quarantineRoot) ∧
      Path.text (pathOf plan.quarantineRoot) = root ∧
      fs.hasDir (pathOf plan.quarantineRoot) = true := by
  simp only [canonicalQuarantineRoot, bind_ok, okOr_ok, pure_ok] at h
  obtain ⟨p, hp, dir, hdir, -, -, -, -, rfl⟩ := h
  obtain rfl := pathOf_of_resolve hp
  exact ⟨hp, rfl, by simp [hasDir, hdir]⟩

lemma wp_firstJournals (hS : T.Setting) (hR : Considerate T.plan R) (hready : Ready T.plan s)
    (hreceipt : s.node? (pathOf T.receiptPath) = none) (hhome : ∀ e ∈ T.entries, Home T.start e s)
    (hnone : s.node? (pathOf T.journalPath) = none)
    (hcur : T.Current journal) (hprepared : journal.state = .prepared)
    (hlist : journal.entries = T.entries) : wp R (do
        persistRetirementJson T.formats.journal T.journalPath journal
        persistRetirementJson T.formats.journal T.journalPath { journal with state := .moving }
        pure { journal with state := .moving })
      (.within (fun j s' _ => j = { journal with state := .moving } ∧
          T.Midway j [] j.entries s') (T.Unmoved) (fun _ => True)) s n := by
  have hopen : ∀ t, T.Rejournals journal s t → T.JournalOn journal t → T.Open t := fun t hw hon =>
    { ready := hw.changes.ready hready
      receipt := hw.receipt_same.trans hreceipt
      placed := fun e he => .inl (hw.home hS.recorded he (hhome e he))
      journal := ⟨journal, hon, hcur, .inl hprepared⟩ }
  have h : T.Current { journal with state := .moving } :=
    hcur.advance hcur.map_planned .moving journal.updatedAtUnixSecs
  refine within_bind (wp_writeJournal hS hR faults_any hready hcur (fun _ => trivial))
    (fun t hw => ⟨fun e he => hw.home hS.recorded he (hhome e he),
      hw.either.imp (·.trans hnone) fun hon => ⟨hS.root, hopen t hw hon⟩⟩) ?_
  rintro - t _ ⟨rfl, hon, hw⟩
  have ht := hopen t hw hon
  have hhome' : ∀ {t'}, T.Rejournals { journal with state := .moving } t t' →
      ∀ e ∈ T.entries, Home T.start e t' := fun hw' e he =>
    hw'.home hS.recorded he (hw.home hS.recorded he (hhome e he))
  refine within_bind (wp_writeJournal hS hR faults_any ht.ready h (fun _ => trivial))
    (fun t' hw' => ⟨hhome' hw', .inr ⟨hS.root, ht.write hS.recorded hw' h (.inr rfl)⟩⟩) ?_
  rintro - t' _ ⟨rfl, hon', hw'⟩
  refine wp_pure ⟨rfl, ?_⟩
  exact
    { entries := hlist
      ready := hw'.changes.ready ht.ready
      receipt := hw'.receipt_same.trans ht.receipt
      away := by simp
      home := fun e he => hhome' hw' e (hlist ▸ he)
      journal := ⟨_, hon', h, rfl, fun _ => rfl⟩ }

lemma wp_openTransaction (hrecord : T.AsRecorded) (hfits : T.Fits) (hR : Considerate T.plan R)
    (hk : Keeps T.plan T.start s) :
    wp R (openTransaction C T.formats T.plan T.approvals nowUnixSecs)
      (.within (fun journal s' _ => T.Setting ∧ T.Current journal ∧ journal.state = .moving ∧
          journal.entries = T.entries ∧ T.Midway journal [] journal.entries s')
        (T.Unmoved) (fun _ => True)) s n := by
  -- before the journal: every candidate in its place, and nothing where the journal will be
  have habs := journal_of_fresh hrecord.fresh
  have hear : ∀ t, Keeps T.plan T.start t → T.Unmoved t := fun t hkt =>
    ⟨fun e he => (home_of_fresh hrecord.fresh he).keeps he hkt,
      .inl ((hkt _ journal_mem_files).1.1.trans habs)⟩
  refine within_bind (within_look (I := Keeps T.plan T.start)
    (D := fun root t _ => Keeps T.plan T.start t ∧
      canonicalQuarantineRoot T.plan.quarantineRoot t = .ok root)
    (fun ev hev => hk.trans (hR n ev hev s)) faults_any (fun t root hkt hroot => ⟨hkt, hroot⟩)
    (fun _ _ _ _ => trivial)) hear ?_
  rintro root s1 _ ⟨hk1, hcan⟩
  obtain ⟨hres, htext, -⟩ := root_of_canonical hcan
  refine wp_check (fun _ hroot => ?_) (fun _ _ => ⟨hear s1 hk1, trivial⟩)
  have hroot : Path.text (pathOf T.plan.quarantineRoot) = T.plan.quarantineRoot :=
    htext.trans (not_not.mp (failIf_ok.mp hroot))
  have hS : T.Setting := ⟨hrecord, hroot, hfits⟩
  refine within_bind (within_changeWith (I := Keeps T.plan T.start)
    (D := fun _ t _ => ∃ t0, Keeps T.plan T.start t0 ∧
      t0.makeDir? (quarantineTransactionDirectory T.plan) 0o700 = some t)
    (fun ev hev => hk1.trans (hR _ ev hev s1)) faults_any (fun t0 t hkt hmake => ⟨t0, hkt, hmake⟩)
    (fun _ _ _ => trivial)) hear ?_
  rintro - s3 _ ⟨s2, hk2, hmake⟩
  obtain ⟨hrea, hnod⟩ := hrecord.ready_of_makeDir hk2 hmake
  have hjou3 : s3.node? (pathOf T.journalPath) = none :=
    (hnod _).trans ((hk2 _ journal_mem_files).1.1.trans habs)
  have hrcp3 : s3.node? (pathOf T.receiptPath) = none :=
    (hnod _).trans ((hk2 _ receipt_mem_files).1.1.trans
      (absent_of_fresh hrecord.fresh (by rw [pathOf_retirementReceiptPath, List.dropLast_concat])))
  have hhome3 : ∀ e ∈ T.entries, Home T.start e s3 := fun e he =>
    ((home_of_fresh hrecord.fresh he).keeps he hk2).congr (hnod _) (hnod _)
  have hmade : ∀ t, Keeps T.plan s3 t → T.Unmoved t := fun t hkt =>
    ⟨fun e he => (hhome3 e he).keeps he hkt, .inl ((hkt _ journal_mem_files).1.1.trans hjou3)⟩
  refine within_bind (within_look (I := Keeps T.plan s3)
    (D := fun _ t _ => Keeps T.plan s3 t) (fun ev hev => hR _ ev hev s3) faults_any
    (fun t _ hkt _ => hkt) (fun _ _ _ _ => trivial)) hmade ?_
  rintro - s4 _ hk4
  refine wp_check (fun planFingerprint hplan => ?_) (fun _ _ => ⟨hmade s4 hk4, trivial⟩)
  refine wp_check (fun bundleFingerprint hbun => ?_) (fun _ _ => ⟨hmade s4 hk4, trivial⟩)
  have hide : T.Current ⟨consentRetirementJournalSchema, planFingerprint,
      bundleFingerprint, quarantineTransactionDirectory T.plan, .prepared, nowUnixSecs,
      nowUnixSecs, T.entries⟩ := journalIdentity_ok.mpr ⟨rfl, by simp [samePath], hplan, hbun, rfl,
      map_planned_of_subset fun _ he => he⟩
  refine within_mono (wp_firstJournals hS hR (hrea.keeps hk4)
    ((hk4 _ receipt_mem_files).1.1.trans hrcp3) (fun e he => (hhome3 e he).keeps he hk4)
    ((hk4 _ journal_mem_files).1.1.trans hjou3) hide rfl rfl) ?_ (fun _ h => h) (fun _ h => h)
  rintro journal s5 k ⟨rfl, hmid⟩
  exact ⟨hS, hide.advance (map_planned_of_subset fun _ he => he) .moving nowUnixSecs, rfl, rfl, hmid⟩

end Execute

/-! ### The two ends of a run -/

section Ends

variable {moved : List ConsentRetirementJournalEntryV1}

lemma Midway.receipted (h : T.Midway journal moved [] s) (hrecord : T.AsRecorded)
    (hc : Changes T.plan (· = pathOf T.receiptPath) s s') (hon : T.ReceiptOn receipt s')
    (hverify : receipt.verify C T.plan T.approvals T.publicKey = .ok ()) : T.Receipted s' where
  ready := hc.ready h.ready
  placed := by
    intro e he
    have hent := h.entries
    rw [List.append_nil] at hent
    have hmem := he
    rw [← hent, List.mem_map] at he
    obtain ⟨e', he', rfl⟩ := he
    have hth : Away T.start e'.planned s := h.away e' he'
    exact hth.changes hmem hc (hrecord.original_ne_receipt hmem) (hrecord.quarantined_ne hmem).2
  receipt := ⟨receipt, hon, hverify⟩
  journal := by
    obtain ⟨j, hj, hcur, hstate, -⟩ := h.journal
    exact ⟨j, hj.congr (hc.same _ journal_mem_files journal_ne_receipt), hcur, .inl hstate⟩

variable (hS : T.Setting) (hR : Considerate T.plan R)

include hS hR

lemma wp_abandonTransaction (hauth : T.Authorized)
    (hcur : T.Current journal) (hlist : journal.entries = T.entries)
    (h : T.Open s) {error : ConsentRetirementError} {renamed : Bool}
    (hunmoved : renamed = false → T.JournalOn journal s ∧ ∀ e ∈ T.entries, Home T.start e s) :
    wp R (abandonTransaction T.formats T.plan T.approvals T.trustedWitnessKeys T.minimumQuorum
        T.publicKey nowUnixSecs journal error renamed) (.always T.Shaped) s n := by
  refine wp_bind (wp_attempt (wp_mono (Q := .within (fun _ s' _ => T.RolledBack s')
    (T.Shaped) (fun _ => True)) ?_ (fun _ s' k hdone => wp_ofExcept (.inr (.inl hdone)))
    (fun _ s' k hfailed => wp_ofExcept hfailed.1) (fun s' hcrashed => hcrashed.1)))
  cases renamed with
  | true => exact wp_rollbackRetirementJournal hS hR faults_any (fun _ _ => trivial) hauth h
  | false =>
    obtain ⟨hon, hhome⟩ := hunmoved rfl
    have hfin := hcur.advance hcur.map_planned .rolledBack nowUnixSecs
    have hpending : ∀ e ∈ journal.entries, e.state ≠ .moved := by
      intro e he
      have hmem : e ∈ T.entries := hlist ▸ he
      simp [pending_of_mem hmem]
    exact within_mono (wp_writeJournal hS hR faults_any h.ready hfin (by simp [named_of_read hon]))
      (fun _ s' _ ⟨_, hon', hw⟩ => .of_write h hS.recorded hhome hw hfin rfl hpending hon')
      (fun s' hw => h.close hS.recorded hhome hw hfin rfl hpending) (fun _ hsp => hsp)

lemma wp_persistReceipt (h : T.Midway journal moved [] s)
    (hverify : receipt.verify C T.plan T.approvals T.publicKey = .ok ())
    (hcur : T.Current j) (hstate : j.state = .committed) : wp R (do
        persistRetirementJson T.formats.receipt T.receiptPath receipt
        verifyQuarantinedReceiptFiles C receipt
        persistRetirementJson T.formats.journal T.journalPath j
        syncDirCall .io (quarantineTransactionDirectory T.plan)
        pure receipt) (.always T.Shaped) s n := by
  have hreceipted : ∀ t, Changes T.plan (· = pathOf T.receiptPath) s t → T.ReceiptOn receipt t →
      T.Receipted t := fun t hc hon => h.receipted hS.recorded hc hon hverify
  -- where the receipt could not be written the transaction is still open
  have hleft : ∀ t, Rewrites T.plan T.receiptPath (T.ReceiptOn receipt) s t → T.Shaped t := by
    rintro t ⟨hc, hsame | hon⟩
    · have hall : Changes T.plan (fun _ => False) s t := by
        refine ⟨fun p hp _ => ?_, hc.ready⟩
        by_cases hpath : p = pathOf T.receiptPath
        · rw [hpath, hsame]
        · exact hc.same p hp hpath
      exact .inl (h.same hall).isOpen
    · exact .inr (.inr (hreceipted t hc hon))
  refine wp_bind (wp_mono (wp_write "consent retirement quarantine receipt" hR faults_any h.ready
    receipt_mem_files (hS.fits.receipt _ hverify) (fun _ => trivial)) ?_
    (fun _ t _ hw => hleft t hw.1) (fun t hw => hleft t hw.1))
  rintro - t _ ⟨-, hon, hw⟩
  have ht := hreceipted t hw.changes hon
  have hkept : ∀ t', Keeps T.plan t t' → T.Shaped t' := fun t' hk => .inr (.inr (ht.keeps hk))
  refine wp_bind (wp_mono (wp_verifyQuarantinedReceiptFiles hS hR faults_any ht.ready
    (map_planned_of_receipt hverify) ht.placed) ?_ (fun _ t' _ hk => hkept t' hk.1)
    (fun t' hk => hkept t' hk.1))
  rintro - t1 k ⟨-, hk1⟩
  have ht1 := ht.keeps hk1
  have hwritten : ∀ t2, T.Rejournals j t1 t2 → T.Receipted t2 :=
    fun t2 hw2 => ht1.write hS.recorded hw2 hcur hstate
  refine wp_bind (wp_mono (wp_writeJournal hS hR faults_any ht1.ready hcur (fun _ => trivial)) ?_
    (fun _ t2 _ hw2 => .inr (.inr (hwritten t2 hw2.1)))
    (fun t2 hw2 => .inr (.inr (hwritten t2 hw2.1))))
  rintro - t2 _ ⟨-, -, hw2⟩
  have ht2 := hwritten t2 hw2
  exact wp_bind (wp_mono (wp_syncParent hR faults_any Keeps.refl journal_mem_files
      (resolve_directory hS.root h.resolve_journal) (ht2.ready.parent _ journal_mem_files))
    (fun _ t' _ hk => wp_pure (.inr (.inr (ht2.keeps hk.2.2))))
    (fun _ t' _ hk => .inr (.inr (ht2.keeps hk.1)))
    (fun t' hk => .inr (.inr (ht2.keeps hk.1))))

lemma wp_commitTransaction {signingKey : C.ed25519.SigningKey}
    (hkey : C.ed25519.verifyingKey signingKey = T.publicKey) (hcur : T.Current journal)
    (h : T.Midway journal moved [] s) :
    wp R (commitTransaction T.formats T.plan T.approvals signingKey nowUnixSecs
        { journal with entries := moved, updatedAtUnixSecs := nowUnixSecs }) (.always T.Shaped)
      s n := by
  have hent : moved.map .planned = T.entries := by
    simpa using h.entries
  refine wp_check (fun _ _ => wp_check (fun _ hverify => ?_) fun _ _ => .inl h.isOpen)
    fun _ _ => .inl h.isOpen
  rw [hkey] at hverify
  exact wp_persistReceipt hS hR h hverify (hcur.advance hent .committed nowUnixSecs) rfl

end Ends

/-! ### From the first call to the last -/

section Whole

variable {activeState : ConsentCompactedActiveStateV1} {statePin : ConsentCompactedStatePinV1}
  {gcCertificate : ConsentCompactionGcCertificateV1} {archiveSegments : List LedgerArchiveSegment}
  {signingKey : C.ed25519.SigningKey}

/-- Every candidate is as recorded, and there is no transaction yet. -/
structure Untouched (C : Crypto) (plan : ConsentRetirementPlanV1) (start : FileSystem) : Prop where
  observed : ∀ a ∈ plan.candidates,
    observeRetirementArtifact C a.role a.canonicalPath start = .ok a
  fresh : start.hasDir (pathOf (quarantineTransactionDirectory plan)) = false

lemma Untouched.asRecorded (h : Untouched C T.plan T.start)
    (hauth : T.plan.verifyAuthoritySignature C T.publicKey = .ok ()) : T.AsRecorded := by
  simp only [ConsentRetirementPlanV1.verifyAuthoritySignature, guard_bind_ok] at hauth
  obtain ⟨hcount, hnodup, -⟩ := candidates_of_shape hauth.2.1
  -- a candidate is there and its text is canonical, so its path tells it from the others
  have hfile : ∀ a ∈ T.plan.candidates, a.canonicalPath = Path.text (pathOf a.canonicalPath) ∧
      T.start.hasParent (pathOf a.canonicalPath) = true := by
    intro a ha
    obtain ⟨p, bytes, hp, -, hnode, -, -, heq⟩ := observe_ok.mp (h.observed a ha)
    obtain rfl := pathOf_of_resolve hp
    exact ⟨(congrArg ConsentRetirementArtifactV1.canonicalPath heq).symm, hasParent_of_node? hnode⟩
  refine ⟨⟨hcount, ?_, ?_⟩, h.observed, h.fresh⟩
  · refine List.Nodup.map_on (fun a ha b hb heq => ?_) (List.Nodup.of_map _ hnodup)
    refine List.inj_on_of_nodup_map hnodup ha hb ?_
    rw [(hfile a ha).1, (hfile b hb).1, heq]
  · intro a ha hin
    have hparent := (Bool.and_eq_true_iff.mp (hfile a ha).2).2
    rw [hin, h.fresh] at hparent
    cases hparent

omit [HexLibrary] in
lemma authority_of_verify
    (h : T.plan.verify C activeState statePin gcCertificate archiveSegments T.publicKey
      nowUnixSecs = .ok ()) : T.plan.verifyAuthoritySignature C T.publicKey = .ok () := by
  simp only [ConsentRetirementPlanV1.verify, guard_bind_ok,
    ConsentRetirementPlanV1.verifyAuthoritySignatureAndWindow] at h
  exact h.1.1

def Live (C : Crypto) (formats : RetirementFormats) (plan : ConsentRetirementPlanV1)
    (approvals : ConsentRetirementApprovalBundleV1) (trustedWitnessKeys : List (FixedBytes 32))
    (minimumQuorum : Nat) (publicKey : C.ed25519.VerifyingKey) (start s : FileSystem) : Prop :=
  Setting C formats plan approvals publicKey start ∧
    plan.verifyAuthoritySignature C publicKey = .ok () ∧
    verifyRetirementQuorum C approvals plan trustedWitnessKeys minimumQuorum = .ok () ∧
    Shaped C formats plan approvals publicKey start s

def Blank (plan : ConsentRetirementPlanV1) (start s : FileSystem) : Prop :=
  (∀ e ∈ retirementJournalEntriesForPlan plan, Home start e s) ∧
    s.node? (pathOf (retirementJournalPath plan)) = none

def Left (C : Crypto) (formats : RetirementFormats) (plan : ConsentRetirementPlanV1)
    (approvals : ConsentRetirementApprovalBundleV1) (trustedWitnessKeys : List (FixedBytes 32))
    (minimumQuorum : Nat) (publicKey : C.ed25519.VerifyingKey) (start s : FileSystem) : Prop :=
  Blank plan start s ∨
    Live C formats plan approvals trustedWitnessKeys minimumQuorum publicKey start s

namespace Transaction

variable (T)

abbrev Live := Quarantine.Live C T.formats T.plan T.approvals T.trustedWitnessKeys T.minimumQuorum
  T.publicKey T.start

abbrev Blank := Quarantine.Blank T.plan T.start

abbrev Left := Quarantine.Left C T.formats T.plan T.approvals T.trustedWitnessKeys T.minimumQuorum
  T.publicKey T.start

end Transaction

lemma Live.placed (h : T.Live s) (he : e ∈ T.entries) : Home T.start e s ∨ Away T.start e s := by
  obtain ⟨-, -, -, h | h | h⟩ := h
  · exact h.placed e he
  · exact .inl (h.placed e he)
  · exact .inr (h.placed e he)

variable (hR : Considerate T.plan R)

include hR

/-- What a run leaves, wherever it is interrupted. -/
lemma wp_execute (huntouched : Untouched C T.plan T.start) (hfits : T.Fits)
    (hkey : C.ed25519.verifyingKey signingKey = T.publicKey) :
    wp R (executeRetirementQuarantine T.formats T.plan T.approvals activeState statePin
        gcCertificate archiveSegments T.trustedWitnessKeys T.minimumQuorum signingKey nowUnixSecs)
      (.always T.Left) T.start 0 := by
  unfold executeRetirementQuarantine
  rw [hkey]
  have hstart : T.Left T.start := .inl
    ⟨fun e he => home_of_fresh huntouched.fresh he, journal_of_fresh huntouched.fresh⟩
  refine wp_check (fun _ hverify => ?_) (fun _ _ => hstart)
  have h := authority_of_verify hverify
  have hrecord := huntouched.asRecorded h
  refine wp_check (fun _ hquo => ?_) (fun _ _ => hstart)
  have hunmoved : ∀ s', T.Unmoved s' → T.Left s' := by
    rintro s' ⟨hhome, hnone | ⟨hroot, hopen⟩⟩
    · exact .inl ⟨hhome, hnone⟩
    · exact .inr ⟨⟨hrecord, hroot, hfits⟩, h, hquo, .inl hopen⟩
  refine wp_bind (wp_mono (wp_openTransaction hrecord hfits hR Keeps.refl) ?_
    (fun _ s' _ hs => hunmoved s' hs.1) (fun s' hs => hunmoved s' hs.1))
  rintro journal s1 k ⟨hS, hcur, hstate, hent, hmid⟩
  have hleft : ∀ s', T.Shaped s' → T.Left s' := fun s' hshaped => .inr ⟨hS, h, hquo, hshaped⟩
  have hends : ∀ {x : Prog ConsentRetirementError ConsentRetirementQuarantineReceiptV1} {s2 k2},
      wp R x (.always T.Shaped) s2 k2 → wp R x (.always T.Left) s2 k2 := fun hx =>
    wp_mono hx (fun _ s' _ => hleft s') (fun _ s' _ => hleft s') hleft
  refine wp_bind (wp_attempt (wp_mono (wp_moveCandidates hS hR hcur hstate hmid) ?_ ?_
    (fun s' hopen => hleft s' (.inl hopen))))
  · exact fun moved s2 k2 hmoved => hends (wp_commitTransaction hS hR hkey hcur hmoved)
  · exact fun err s2 k2 hs => hends (wp_abandonTransaction hS hR ⟨h, hquo⟩ hcur hent hs.1 hs.2)

lemma wp_recover_blank (h : T.Blank s) : wp R (T.recovery nowUnixSecs)
      (.within (fun _ _ _ => False) T.Blank (fun _ => True)) s n := by
  have hkept : ∀ s', Keeps T.plan s s' → T.Blank s' := fun s' hk =>
    ⟨fun e he => (h.1 e he).keeps he hk, (hk _ journal_mem_files).1.1.trans h.2⟩
  refine wp_check (fun _ _ => ?_) (fun _ _ => ⟨h, trivial⟩)
  refine wp_check (fun _ _ => ?_) (fun _ _ => ⟨h, trivial⟩)
  refine within_bind (within_look (I := Keeps T.plan s) (D := fun _ _ _ => False)
    (fun ev hev => hR _ ev hev s) (fun _ _ _ _ _ _ => trivial) ?_ (fun _ _ _ _ => trivial)) hkept
    (fun _ _ _ hfls => hfls.elim)
  intro s' journal hk hread
  obtain ⟨-, bytes, hnode, -⟩ := readBoundedJson_ok.mp (mapError_ok.mp hread)
  cases ((hkept s' hk).2.symm.trans hnode)

end Whole

end Runs

end Quarantine

open Quarantine

/-! ## Crashes and recoveries -/

section Crashes

variable (C) (formats : RetirementFormats) (plan : ConsentRetirementPlanV1)
  (approvals : ConsentRetirementApprovalBundleV1) (trustedWitnessKeys : List (FixedBytes 32))
  (minimumQuorum : Nat) (publicKey : C.ed25519.VerifyingKey)

def recoverAll : List (Environment FileSystem Call × UInt64) → FileSystem → FileSystem
  | [], s => s
  | (env, nowUnixSecs) :: rest, s =>
    recoverAll rest ((recoverRetirementTransaction C formats (retirementJournalPath plan) plan
      approvals trustedWitnessKeys minimumQuorum publicKey nowUnixSecs).run env s).state

/-- Nobody else touches the files. The process can be killed at every call, and every call can fail
except a look whether a file exists, whose errors the code takes for absence. -/
def Uninterfered (_ : Nat) (e : Event FileSystem Call) : Prop :=
  e.meddle = id ∧ ∀ k, e.verdict .stat ≠ .fail k

/-- Nobody interferes with any call. -/
def Undisturbed (env : Environment FileSystem Call) : Prop :=
  ∀ n, Uninterfered n (env n)

def Quiet (_ : Nat) (e : Event FileSystem Call) : Prop := e = .quiet

variable {C plan} {T : Transaction C} {env : Environment FileSystem Call}
  {attempts : List (Environment FileSystem Call × UInt64)}

abbrev Quarantine.Transaction.recoverAll (T : Transaction C) :=
  Consent.recoverAll C T.formats T.plan T.approvals T.trustedWitnessKeys T.minimumQuorum
    T.publicKey

lemma considerate_uninterfered : Considerate plan Uninterfered := by
  rintro n e ⟨he, -⟩ s
  rw [he]
  exact Keeps.refl

variable {n : Nat}

omit [HexLibrary] in
lemma uninterfered_of_quiet {e : Event FileSystem Call} (h : Quiet n e) : Uninterfered n e := by
  obtain rfl := h
  exact ⟨rfl, fun k => by simp [Event.quiet]⟩

lemma considerate_quiet : Considerate plan Quiet :=
  fun n e he => considerate_uninterfered n e (uninterfered_of_quiet he)

lemma live_of_recover (henv : Undisturbed env) (h : T.Live s) :
    T.Live ((T.recovery nowUnixSecs).run env s).state := by
  obtain ⟨hS, haut, hquo, hsha⟩ := h
  have hf : FaultsFrom Uninterfered 0 (fun _ => True) := fun _ _ _ _ _ _ => trivial
  refine ⟨hS, haut, hquo, state_of_wp (wp_mono
    (wp_recoverRetirementTransaction hS considerate_uninterfered hf
      (fun _ _ => trivial) (fun _ _ k he => he.2 k) ⟨haut, hquo⟩ hsha) ?_
    (fun _ _ _ hfl => hfl.1) (fun _ hcra => hcra.1)) henv⟩
  rintro - s' - (hback | hcom)
  · exact .inr (.inl hback)
  · exact .inr (.inr hcom.toReceipted)

lemma blank_of_recover (henv : Undisturbed env) (h : T.Blank s) :
    T.Blank ((T.recovery nowUnixSecs).run env s).state :=
  state_of_wp (wp_mono (wp_recover_blank considerate_uninterfered h)
    (fun _ _ _ hfls => hfls.elim) (fun _ _ _ hs => hs.1) (fun _ hs => hs.1)) henv

lemma recoverAll_keeps (hattempts : ∀ a ∈ attempts, Undisturbed a.1) :
    (T.Live s → T.Live (T.recoverAll attempts s)) ∧
      (T.Blank s → T.Blank (T.recoverAll attempts s)) := by
  induction attempts generalizing s with
  | nil => exact ⟨id, id⟩
  | cons a rest ih =>
    obtain ⟨ha, hrest⟩ := List.forall_mem_cons.mp hattempts
    exact ⟨fun h => (ih hrest).1 (live_of_recover ha h), fun h => (ih hrest).2 (blank_of_recover ha h)⟩

lemma ended_of_recover (h : T.Live s) :
    ∃ outcome, ((T.recovery nowUnixSecs).run (fun _ => .quiet) s).outcome = .done outcome ∧
      (T.RolledBack ((T.recovery nowUnixSecs).run (fun _ => .quiet) s).state ∨
        T.Committed ((T.recovery nowUnixSecs).run (fun _ => .quiet) s).state) := by
  obtain ⟨hS, haut, hquo, hsha⟩ := h
  have hf : FaultsFrom Quiet 0 (fun _ => False) := by
    rintro m e label - rfl hfau
    exact hfau rfl
  exact done_of_wp (wp_mono (wp_recoverRetirementTransaction hS considerate_quiet hf
      (fun _ hfls => hfls) (fun _ _ k he => (uninterfered_of_quiet he).2 k) ⟨haut, hquo⟩
      hsha) (fun _ _ _ hdone => hdone) (fun _ _ _ hfl => hfl.2)
      (fun _ hcra => hcra.2.elim fun _ hfls => hfls)) (fun _ => rfl)

omit [HexLibrary] in
lemma wp_look_quiet {ε α : Type} {call : Call} {f : FileSystem → Except ε α}
    {fault r : Except ε α} {Q : Post FileSystem ε α} (hr : f s = r) (h : Q.result r s (n + 1)) :
    wp Quiet (look call f fault) Q s n := by
  refine wp_proceeds ?_ (hr ▸ h)
  rintro e rfl
  exact ⟨rfl, rfl⟩

def refusing {ε α : Type} (error : ε) (s : FileSystem) : Post FileSystem ε α :=
  ⟨fun _ _ _ => False, fun err s' _ => err = error ∧ s' = s, fun _ => False⟩

omit [HexLibrary] in
lemma wp_bind_refusing {ε α β : Type} {x : Prog ε α} {f : α → Prog ε β} {error : ε}
    (h : wp Quiet x (refusing error s) s n) : wp Quiet (x >>= f) (refusing error s) s n :=
  wp_bind (wp_mono h (fun _ _ _ hfls => hfls.elim) (fun _ _ _ herr => herr) (fun _ hc => hc))

lemma wp_recover_refuses {journal : ConsentRetirementJournalV1}
    {front : List ConsentRetirementJournalEntryV1} {e : ConsentRetirementJournalEntryV1}
    {a : ConsentRetirementArtifactV1}
    (hauth : T.Authorized) (hon : T.JournalOn journal s) (hcur : T.Current journal)
    (hmoving : journal.state = .moving) (hreceipt : s.pathExists T.receiptPath = false)
    (hlist : journal.entries = front ++ [e]) (hthere : s.pathExists e.artifact.canonicalPath = true)
    (hfree : s.pathExists e.quarantinePath = false)
    (hseen : observeRetirementArtifact C e.artifact.role e.artifact.canonicalPath s = .ok a)
    (hchanged : a ≠ e.artifact) :
    wp Quiet (T.recovery nowUnixSecs) (refusing (.artifactChanged e.artifact.canonicalPath) s)
      s n := by
  have hread : (readBoundedJson T.formats.journal s T.journalPath maxRetirementTransactionBytes
      "consent retirement journal").mapError (fun _ => ConsentRetirementError.store) =
        .ok journal := congrArg (Except.mapError _) hon
  have h : wp Quiet (checkInPlace C e)
      (refusing (.artifactChanged e.artifact.canonicalPath) s) s (n + 6) := by
    refine wp_bind (wp_look_quiet hseen (wp_ofExcept ?_))
    rw [failIf, if_pos hchanged]
    exact ⟨rfl, rfl⟩
  have hfirst : wp Quiet (restoreEntries C T.formats T.journalPath nowUnixSecs journal
      journal.entries.reverse []) (refusing (.artifactChanged e.artifact.canonicalPath) s) s
      (n + 4) := by
    rw [hlist, List.reverse_append, List.reverse_singleton, List.singleton_append]
    exact wp_bind_refusing (wp_bind (wp_look_quiet (congrArg Except.ok hthere) (wp_bind
      (wp_look_quiet (congrArg Except.ok hfree) h))))
  have hopen : ¬ (journal.state = .committed ∨ journal.state = .rolledBack) := by
    simp [hmoving]
  have hrol : wp Quiet (T.rollback nowUnixSecs) (refusing (.artifactChanged
    e.artifact.canonicalPath) s) s (n + 2) := by
    refine wp_bind (wp_ok hauth.1 ?_)
    refine wp_bind (wp_ok hauth.2 ?_)
    refine wp_bind (wp_look_quiet hread ?_)
    refine wp_bind (wp_ok hcur ?_)
    refine wp_bind (wp_ok (a := ()) (failIf_ok.mpr hopen) ?_)
    refine wp_bind (wp_look_quiet (congrArg Except.ok hreceipt) ?_)
    refine wp_bind (wp_ok (a := ()) (failIf_ok.mpr (by simp)) ?_)
    exact wp_bind_refusing hfirst
  refine wp_bind (wp_ok hauth.1 ?_)
  refine wp_bind (wp_ok hauth.2 ?_)
  refine wp_bind (wp_look_quiet hread ?_)
  refine wp_bind (wp_ok hcur ?_)
  refine wp_bind (wp_look_quiet (congrArg Except.ok hreceipt) ?_)
  simp only [Post.result_ok, Bool.false_eq_true, if_false, hmoving]
  exact wp_bind_refusing hrol

end Crashes

/-! ## Texts for the files of one transaction -/

section Texts

variable (C) (plan : ConsentRetirementPlanV1) (approvals : ConsentRetirementApprovalBundleV1)

def blankJournal : ConsentRetirementJournalV1 :=
  ⟨consentRetirementJournalSchema, (consentRetirementPlanFingerprint C plan).toOption.getD zeroHash,
    (consentRetirementApprovalBundleFingerprint C approvals).toOption.getD zeroHash,
    quarantineTransactionDirectory plan, .prepared, 0, 0, retirementJournalEntriesForPlan plan⟩

def stateOfByte : UInt8 → ConsentRetirementJournalStateV1
  | 0 => .prepared
  | 1 => .moving
  | 2 => .committed
  | _ => .rolledBack

def byteOfState : ConsentRetirementJournalStateV1 → UInt8
  | .prepared => 0
  | .moving => 1
  | .committed => 2
  | .rolledBack => 3

def entryStateOfByte : UInt8 → ConsentRetirementJournalEntryStateV1
  | 1 => .pending
  | 2 => .moved
  | _ => .restored

def u64OfBe (bytes : Bytes) : UInt64 := .ofNat (natOfBe bytes)

def encodeJournal (journal : ConsentRetirementJournalV1) : Bytes :=
  byteOfState journal.state :: (u64Be journal.startedAtUnixSecs ++
    (u64Be journal.updatedAtUnixSecs ++ journal.entries.map (·.state.tag)))

def decodeJournal (blank : ConsentRetirementJournalV1) : Bytes → Option ConsentRetirementJournalV1
  | [] => none
  | state :: rest => some
      { blank with
        state := stateOfByte state
        startedAtUnixSecs := u64OfBe (rest.take 8)
        updatedAtUnixSecs := u64OfBe ((rest.drop 8).take 8)
        entries := blank.entries.zipWith
          (fun entry tag => { entry with state := entryStateOfByte tag }) (rest.drop 16) }

def encodeReceipt (receipt : ConsentRetirementQuarantineReceiptV1) : Bytes :=
  u64Be receipt.startedAtUnixSecs ++ (u64Be receipt.completedAtUnixSecs ++ receipt.signature.toList)

def decodeReceipt (blank : ConsentRetirementJournalV1) (bytes : Bytes) :
    Option ConsentRetirementQuarantineReceiptV1 := do
  let signature ← FixedBytes.ofBytes? 64 (bytes.drop 16)
  pure ⟨consentRetirementReceiptSchema, blank.planFingerprint, blank.approvalBundleFingerprint,
    blank.transactionDirectory, u64OfBe (bytes.take 8), u64OfBe ((bytes.drop 8).take 8),
    blank.entries.map (fun entry => { entry with state := .moved }), signature⟩

def transactionFormats : RetirementFormats where
  journal := .coded encodeJournal (decodeJournal (blankJournal C plan approvals))
  receipt := .coded encodeReceipt (decodeReceipt (blankJournal C plan approvals))

variable {C plan approvals}

omit [HexLibrary] in
lemma length_u64Be (n : UInt64) : (u64Be n).length = 8 := by
  simp [u64Be, beBytes]

omit [HexLibrary] in
lemma u64OfBe_u64Be (n : UInt64) : u64OfBe (u64Be n) = n := by
  rw [u64OfBe, u64Be, natOfBe_beBytes (by have := n.toNat_lt; omega), UInt64.ofNat_toNat]

omit [HexLibrary] in
lemma split_times (a b : UInt64) (rest : Bytes) :
    (u64Be a ++ (u64Be b ++ rest)).take 8 = u64Be a ∧
      ((u64Be a ++ (u64Be b ++ rest)).drop 8).take 8 = u64Be b ∧
      (u64Be a ++ (u64Be b ++ rest)).drop 16 = rest := by
  have ha := length_u64Be a
  have hb := length_u64Be b
  refine ⟨List.take_left' ha, ?_, ?_⟩
  · rw [List.drop_left' ha, List.take_left' hb]
  · rw [← List.append_assoc, List.drop_left' (by simp [ha, hb])]

omit [HexLibrary] in
lemma stateOfByte_byteOfState (state : ConsentRetirementJournalStateV1) :
    stateOfByte (byteOfState state) = state := by
  cases state <;> rfl

omit [HexLibrary] in
lemma entryStateOfByte_tag (state : ConsentRetirementJournalEntryStateV1) :
    entryStateOfByte state.tag = state := by
  cases state <;> rfl

omit [HexLibrary] in
lemma zipWith_states (entries : List ConsentRetirementJournalEntryV1) :
    (entries.map ConsentRetirementJournalEntryV1.planned).zipWith
      (fun entry tag => { entry with state := entryStateOfByte tag })
      (entries.map (·.state.tag)) = entries := by
  induction entries with
  | nil => rfl
  | cons e rest ih =>
    simp only [List.map_cons, List.zipWith_cons_cons, ih, entryStateOfByte_tag]
    rfl

lemma fits_transactionFormats {publicKey : C.ed25519.VerifyingKey}
    (hcount : plan.candidates.length ≤ maxRetirementCandidates) :
    Fits C (transactionFormats C plan approvals) plan approvals publicKey where
  journal := by
    intro j hcur
    obtain ⟨hschema, -, hplan, hbun, hdir, hent⟩ := journalIdentity_ok.mp hcur
    have h : decodeJournal (blankJournal C plan approvals) (encodeJournal j) = some j := by
      obtain ⟨hstart, hupd, hrest⟩ := split_times j.startedAtUnixSecs j.updatedAtUnixSecs
        (j.entries.map (·.state.tag))
      simp only [encodeJournal, decodeJournal, blankJournal, hplan, hbun, Except.toOption,
        Option.getD_some, stateOfByte_byteOfState, hstart, hupd, hrest, u64OfBe_u64Be,
        ← hent, zipWith_states, ← hschema, ← hdir]
    refine ⟨_, TextFormat.coded_toVec h, ?_⟩
    have hlen : j.entries.length = plan.candidates.length := by
      rw [← length_retirementJournalEntriesForPlan, ← hent, List.length_map]
    simp only [encodeJournal, List.length_cons, List.length_append, List.length_map, length_u64Be]
    have : maxRetirementCandidates + 17 < maxRetirementTransactionBytes := by decide
    omega
  receipt := by
    intro r hverify
    obtain ⟨hschema, hplan, hbun, hdir, hent, hmov, -⟩ := receiptVerify_ok.mp hverify
    have hsame : r.entries = (retirementJournalEntriesForPlan plan).map
        (fun entry => { entry with state := .moved }) := by
      rw [← hent, List.map_map]
      conv_lhs => rw [← List.map_id r.entries]
      refine List.map_congr_left fun e he => ?_
      have hstate := hmov e he
      cases e
      cases hstate
      rfl
    have h : decodeReceipt (blankJournal C plan approvals) (encodeReceipt r) = some r := by
      obtain ⟨hstart, hcom, hrest⟩ := split_times r.startedAtUnixSecs r.completedAtUnixSecs
        r.signature.toList
      have hsig : FixedBytes.ofBytes? 64 r.signature.toList = some r.signature :=
        FixedBytes.ofBytes?_eq_some.mpr rfl
      simp only [encodeReceipt, decodeReceipt, blankJournal, hplan, hbun, Except.toOption,
        Option.getD_some, hstart, hcom, hrest, u64OfBe_u64Be, hsig, bind,
        Option.bind_some, ← hsame, ← hschema, ← hdir]
      rfl
    refine ⟨_, TextFormat.coded_toVec h, ?_⟩
    simp only [encodeReceipt, List.length_append, length_u64Be, List.Vector.toList_length]
    decide

end Texts

end Rules

open Quarantine

/-! ## A sample transaction -/

def flatCrypto : Crypto :=
  bincodeCrypto (keyedScheme fun _ => .replicate 64 0) fun _ => .replicate 32 1

namespace Flat

scoped instance : HexLibrary := lowerHexLibrary

def digest : FixedBytes 32 := .replicate 32 1

def signature : FixedBytes 64 := .replicate 64 0

def key (b : UInt8) : flatCrypto.ed25519.VerifyingKey := ⟨.replicate 32 b, rfl⟩

def checkpoint (count time : UInt64) (headHash : FixedBytes 32) : LedgerCheckpoint :=
  ⟨ledgerCheckpointSchema, count, headHash, (key 7).val, time, signature⟩

def archive : List LedgerArchiveSegment :=
  [⟨ledgerArchiveSegmentSchema, checkpoint 0 10 zeroHash,
    [⟨0, zeroHash, sampleTime, sampleConsentEvent 9 1 .denial, digest, signature⟩],
    checkpoint 1 20 digest, digest⟩]

def summary : ConsentRecoverySummaryV1 :=
  ⟨consentRecoverySummarySchema, digest, checkpoint 1 20 digest, 1, [.replicate 16 1],
    [⟨.replicate 16 9, ConsentKind.denial.stableName, 0, none, none⟩], digest⟩

def state : ConsentCompactedActiveStateV1 :=
  ⟨consentCompactedActiveStateSchema,
    ⟨consentCompactedSnapshotSchema, summary, ⟨ledgerCompactionManifestSchema,
      checkpoint 1 20 digest, checkpoint 1 40 digest, digest, digest, 40, signature⟩, [], digest⟩,
    ⟨consentCompactedCutoverReceiptSchema, digest, digest, digest, digest, checkpoint 1 40 digest,
      checkpoint 1 50 digest, 50, signature⟩, 0, zeroHash, checkpoint 1 50 digest, [],
    summary.replayActionIds, summary.sessions.map ConsentRecoverySessionV1.sessionId, digest⟩

def statePin : ConsentCompactedStatePinV1 :=
  ⟨consentCompactedStatePinSchema, digest, digest, 0, digest, checkpoint 1 50 digest, 55, signature⟩

def certificate : ConsentCompactionGcCertificateV1 :=
  ⟨consentCompactionGcCertificateSchema, digest, digest, digest, digest, digest, digest,
    checkpoint 1 20 digest, checkpoint 1 50 digest, 60, signature⟩

def plan : ConsentRetirementPlanV1 :=
  ⟨consentRetirementPlanSchema, .replicate 16 5, digest, digest, digest, digest, "/q",
    [⟨.supersededCompleteLedger, "/a", 1, digest⟩, ⟨.supersededCompactionBundle, "/b", 1, digest⟩],
    60, 100, signature⟩

def approvals : ConsentRetirementApprovalBundleV1 :=
  ⟨consentRetirementApprovalBundleSchema, digest, [⟨(key 8).val, 65, signature⟩]⟩

def texts : RetirementFormats := transactionFormats flatCrypto plan approvals

def disk (a b : Bytes) : FileSystem :=
  ((emptyDisk.addDir ["q"] 0o700).setNode ["a"] (some (.file a))).setNode ["b"] (some (.file b))

def execute : Prog ConsentRetirementError ConsentRetirementQuarantineReceiptV1 :=
  executeRetirementQuarantine (C := flatCrypto) texts plan approvals state statePin certificate
    archive [(key 8).val] 1 (key 7).val 70

def recover (time : UInt64) : Prog ConsentRetirementError ConsentRetirementRecoveryOutcomeV1 :=
  recoverRetirementTransaction flatCrypto texts (retirementJournalPath plan) plan approvals
    [(key 8).val] 1 (key 7) time

def crashAt (call : Nat) : Environment FileSystem Call :=
  fun n => ⟨id, fun _ => if n = call then .crash 0 else .proceed⟩

lemma untouched_disk : Untouched flatCrypto plan (disk [1] [2]) :=
  ⟨by decide +kernel, by decide +kernel⟩

lemma fits : Fits flatCrypto texts plan approvals (key 7) :=
  fits_transactionFormats (by decide : plan.candidates.length ≤ maxRetirementCandidates)

lemma undisturbed_crashAt (call : Nat) : Undisturbed (crashAt call) := by
  refine fun n => ⟨rfl, fun k => ?_⟩
  simp only [crashAt]
  split <;> simp

def journal : ConsentRetirementJournalV1 :=
  { blankJournal flatCrypto plan approvals with
    state := .moving
    startedAtUnixSecs := 70
    updatedAtUnixSecs := 70 }

lemma refuses (time : UInt64) :
    let executed := (execute.run (crashAt 8) (disk [1] [2, 3])).state
    ((recover time).run (fun _ => .quiet) executed).outcome = .failed (.artifactChanged "/b") ∧
      ((recover time).run (fun _ => .quiet) executed).state = executed := by
  intro executed
  have hfac : readBoundedJson texts.journal executed (retirementJournalPath plan)
        maxRetirementTransactionBytes "consent retirement journal" = .ok journal ∧
      executed.pathExists (retirementReceiptPath plan) = false ∧ executed.pathExists "/b" = true ∧
      executed.pathExists (journalEntryFor plan 1 ⟨.supersededCompactionBundle, "/b", 1,
        digest⟩).quarantinePath = false ∧
      observeRetirementArtifact flatCrypto .supersededCompactionBundle "/b" executed =
        .ok ⟨.supersededCompactionBundle, "/b", 2, digest⟩ := by
    decide +kernel
  obtain ⟨hon, hreceipt, hth, hfree, hobs⟩ := hfac
  have h : plan.verifyAuthoritySignature flatCrypto (key 7) = .ok () := by decide +kernel
  have hquo : verifyRetirementQuorum flatCrypto approvals plan [(key 8).val] 1 = .ok () := by
    decide +kernel
  have hcur : Current flatCrypto plan approvals journal :=
    journalIdentity_ok.mpr ⟨rfl, by simp [samePath], rfl, rfl, rfl, rfl⟩
  have hent : journal.entries =
      [journalEntryFor plan 0 ⟨.supersededCompleteLedger, "/a", 1, digest⟩] ++
        [journalEntryFor plan 1 ⟨.supersededCompactionBundle, "/b", 1, digest⟩] := rfl
  obtain ⟨err, hout, rfl, hstate⟩ := fails_of_wp (wp_recover_refuses
    (T := ⟨texts, plan, approvals, [(key 8).val], 1, key 7, disk [1] [2]⟩) ⟨h, hquo⟩ hon hcur
    rfl hreceipt hent hth hfree hobs (by decide)) (fun _ => rfl)
  exact ⟨hout, hstate⟩

end Flat

/-! ## Every crash ends in recovery -/

section Settled

variable [HexLibrary] {start : FileSystem} (C : Crypto) (formats : RetirementFormats) (plan :
  ConsentRetirementPlanV1)
  (approvals : ConsentRetirementApprovalBundleV1) (activeState : ConsentCompactedActiveStateV1)
  (statePin : ConsentCompactedStatePinV1) (gcCertificate : ConsentCompactionGcCertificateV1)
  (archiveSegments : List LedgerArchiveSegment) (trustedWitnessKeys : List (FixedBytes 32))
  (minimumQuorum : Nat) (signingKey : C.ed25519.SigningKey) (nowUnixSecs : UInt64)

/-- If the candidates are as recorded when a plan is executed and the texts fit, then after a crash
anywhere and any number of interrupted recoveries every candidate is at one of its two places, and
the next recovery that is not interrupted ends with all of them back or all of them in quarantine. -/
theorem recovery_settles_retirement (huntouched : Untouched C plan start)
    (hfits : Fits C formats plan approvals (C.ed25519.verifyingKey signingKey))
    {env : Environment FileSystem Call} (henv : Undisturbed env)
    {attempts : List (Environment FileSystem Call × UInt64)}
    (hattempts : ∀ a ∈ attempts, Undisturbed a.1) :
    let executed := ((executeRetirementQuarantine formats plan approvals activeState statePin
      gcCertificate archiveSegments trustedWitnessKeys minimumQuorum signingKey nowUnixSecs).run env
        start).state
    let s := recoverAll C formats plan approvals trustedWitnessKeys minimumQuorum
      (C.ed25519.verifyingKey signingKey) attempts executed
    (∀ e ∈ retirementJournalEntriesForPlan plan, Home start e s ∨ Away start e s) ∧
    (executed.node? (pathOf (retirementJournalPath plan)) ≠ none → ∀ later,
      ∃ outcome, ((recoverRetirementTransaction C formats (retirementJournalPath plan) plan
          approvals trustedWitnessKeys minimumQuorum (C.ed25519.verifyingKey signingKey) later).run
            (fun _ => .quiet) s).outcome = .done outcome ∧
        (RolledBack C formats plan approvals start
            ((recoverRetirementTransaction C formats (retirementJournalPath plan) plan approvals
              trustedWitnessKeys minimumQuorum (C.ed25519.verifyingKey signingKey) later).run
                (fun _ => .quiet) s).state ∨
          Committed C formats plan approvals (C.ed25519.verifyingKey signingKey) start
            ((recoverRetirementTransaction C formats (retirementJournalPath plan) plan approvals
              trustedWitnessKeys minimumQuorum (C.ed25519.verifyingKey signingKey) later).run
                (fun _ => .quiet) s).state)) := by
  intro executed s
  let T : Transaction C := ⟨formats, plan, approvals, trustedWitnessKeys, minimumQuorum,
    C.ed25519.verifyingKey signingKey, start⟩
  have hleft : T.Left executed :=
    state_of_wp (wp_execute (T := T) considerate_uninterfered huntouched hfits rfl) henv
  obtain ⟨hlive, hblank⟩ := recoverAll_keeps (T := T) hattempts (s := executed)
  rcases hleft with hleft | hleft
  · exact ⟨fun e he => .inl ((hblank hleft).1 e he), fun hjournal => absurd hleft.2 hjournal⟩
  · exact ⟨fun e he => (hlive hleft).placed he, fun _ later => ended_of_recover (hlive hleft)⟩

end Settled

open scoped Flat

/-- The sample run is killed right after its first rename, and so is the first recovery. -/
theorem recovery_settles_retirement_sample :
    let executed := (Flat.execute.run (Flat.crashAt 8) (Flat.disk [1] [2])).state
    let s := recoverAll flatCrypto Flat.texts Flat.plan Flat.approvals [(Flat.key 8).val] 1
      (Flat.key 7) [(Flat.crashAt 9, 75)] executed
    executed.node? (pathOf (retirementJournalPath Flat.plan)) ≠ none ∧
    (∀ e ∈ retirementJournalEntriesForPlan Flat.plan,
      Home (Flat.disk [1] [2]) e s ∨ Away (Flat.disk [1] [2]) e s) ∧
    ∃ outcome, ((Flat.recover 80).run (fun _ => .quiet) s).outcome = .done outcome ∧
      (RolledBack flatCrypto Flat.texts Flat.plan Flat.approvals (Flat.disk [1] [2])
          ((Flat.recover 80).run (fun _ => .quiet) s).state ∨
        Committed flatCrypto Flat.texts Flat.plan Flat.approvals (Flat.key 7)
          (Flat.disk [1] [2]) ((Flat.recover 80).run (fun _ => .quiet) s).state) := by
  have hjournal : (Flat.execute.run (Flat.crashAt 8) (Flat.disk [1] [2])).state.node?
      (pathOf (retirementJournalPath Flat.plan)) ≠ none := by decide +kernel
  have hattempts : ∀ a ∈ [(Flat.crashAt 9, (75 : UInt64))], Undisturbed a.1 := by
    intro a ha
    obtain rfl := List.mem_singleton.mp ha
    exact Flat.undisturbed_crashAt 9
  have hall := recovery_settles_retirement flatCrypto Flat.texts Flat.plan Flat.approvals Flat.state
    Flat.statePin Flat.certificate Flat.archive [(Flat.key 8).val] 1 (Flat.key 7).val 70
    Flat.untouched_disk Flat.fits (Flat.undisturbed_crashAt 8) hattempts
  exact ⟨hjournal, hall.1, hall.2 hjournal 80⟩

/-- With two bytes at `/b` where the plan records one, the sample run is killed right after it
renamed `/a`, and no recovery ever brings that back. -/
theorem recovery_refuses_forever :
    let executed := (Flat.execute.run (Flat.crashAt 8) (Flat.disk [1] [2, 3])).state
    Undisturbed (Flat.crashAt 8) ∧
    executed.node? (pathOf (retirementJournalPath Flat.plan)) ≠ none ∧
    ∀ times : List UInt64,
      let s := recoverAll flatCrypto Flat.texts Flat.plan Flat.approvals [(Flat.key 8).val] 1
        (Flat.key 7) (times.map fun time => (fun _ => .quiet, time)) executed
      s.node? ["a"] = none ∧ ∀ later, ((Flat.recover later).run (fun _ => .quiet) s).outcome =
        .failed (.artifactChanged "/b") := by
  intro executed
  have hgone : executed.node? (pathOf (retirementJournalPath Flat.plan)) ≠ none ∧
      executed.node? ["a"] = none := by
    decide +kernel
  have hrefuses : ∀ time, ((Flat.recover time).run (fun _ => .quiet) executed).outcome =
      .failed (.artifactChanged "/b") ∧
      ((Flat.recover time).run (fun _ => .quiet) executed).state = executed := fun time =>
    Flat.refuses time
  have hstays : ∀ times : List UInt64, recoverAll flatCrypto Flat.texts Flat.plan Flat.approvals
      [(Flat.key 8).val] 1 (Flat.key 7) (times.map fun time => (fun _ => .quiet, time)) executed =
        executed := by
    intro times
    induction times with
    | nil => rfl
    | cons time rest ih =>
      rw [List.map_cons, recoverAll]
      exact (congrArg _ (hrefuses time).2).trans ih
  refine ⟨Flat.undisturbed_crashAt 8, hgone.1, fun times => ?_⟩
  simp only [hstays times]
  exact ⟨hgone.2, fun later => (hrefuses later).1⟩

end XeniaPeer.Consent
