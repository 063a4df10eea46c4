import XeniaPeer.Consent.Purge.Places

/-!
# What each step of a purge does

The rules of the parts of `execute_consent_purge` and `recover_consent_purge`, where nobody else
touches the disk. Each rule says what the part leaves when it returns, and what it leaves when it
is stopped, which happens only if something went wrong (`spent`).
-/

namespace XeniaPeer.Consent

open Foundation Foundation.FileSystem Ledger

variable [HexLibrary] {C : Crypto} {formats : PurgeFormats}

namespace Purge

def Cut (R : Nat → Event FileSystem Call → Prop) (k : Nat) : Prop :=
  ∃ n e, R n e ∧ (e.verdict .write = .fail k ∨ e.verdict .write = .crash k)

section Steps

variable {plan : ConsentPurgePlanV1} {R : Nat → Event FileSystem Call → Prop} {spent : Prop}
  {start s : FileSystem} {n : Nat} {a : ConsentPurgeArtifactV1} {uuid : UuidText}
  (hR : ∀ n e, R n e → e.meddle = id) (hf : ∀ n e label, R n e → e.verdict label ≠ .proceed → spent)
  (hstat : ∀ n e k, R n e → e.verdict .stat ≠ .fail k)

omit [HexLibrary] in
lemma any_fault (n : Nat) (e : Event FileSystem Call) (label : Call) :
    R n e → e.verdict label ≠ .proceed → True := fun _ _ => trivial

/-! ## Files -/

section Files

include hR hf

variable {path : String}

omit [HexLibrary] in
lemma ends_exact {rollbackCopy : Bool}
    (hok : ¬ spent → verifyExactFile C path a rollbackCopy s = .ok ()) :
    wp R (exactCall C path a rollbackCopy)
      (.sees (fun _ => verifyExactFile C path a rollbackCopy s = .ok ()) s spent) s n :=
  ends_look hR hf fun h => ⟨(), hok h⟩

def Written {α : Type} (format : TextFormat α) (path : String) (v : α) (s s' : FileSystem) : Prop :=
  resolve path = some (pathOf path) ∧ OnlyAt (pathOf path) s s' ∧ JsonOn format (pathOf path) v s'

omit [HexLibrary] in
lemma ends_persist {α : Type} {format : TextFormat α} {v : α}
    (hdo : ¬ spent → ∃ text, format.toVec v = some text ∧ text.length < maxPurgeTransactionBytes ∧
      s.replace? path (text ++ [10]) ≠ none) :
    wp R (persistPurgeJson format path v) (.ends (fun _ s' => Written format path v s s')
      (fun s' => s' = s ∨ Written format path v s s') spent) s n := by
  refine ends_check (.inl rfl) ?_ fun text htext => ?_
  · intro hsp
    obtain ⟨text, htext, -⟩ := hdo hsp
    exact ⟨text, okOr_ok.mpr htext⟩
  rw [okOr_ok] at htext
  refine ends_check (.inl rfl) ?_ fun _ hfits => ?_
  · intro hsp
    obtain ⟨text', htext', hfits, -⟩ := hdo hsp
    obtain rfl : text = text' := Option.some.inj (htext.symm.trans htext')
    exact ⟨(), failIf_ok.mpr (by simp; omega)⟩
  have hfits : text.length < maxPurgeTransactionBytes := by
    simp only [failIf_ok, List.length_append, List.length_singleton] at hfits
    omega
  have h : ∀ s', s.replace? path (text ++ [10]) = some s' → Written format path v s s' := by
    intro s' hrep
    obtain ⟨hp, hnode, honly⟩ := replace?_effect hrep
    exact ⟨hp, honly, text, htext, hfits, hnode⟩
  refine ends_mono (ends_replace hR hf ?_) (fun _ => h) (fun s' => Or.imp_right (h s'))
  intro hsp
  obtain ⟨text', htext', -, hrep⟩ := hdo hsp
  obtain rfl : text = text' := Option.some.inj (htext.symm.trans htext')
  exact hrep

include hstat

def CopyMade (source target : String) (s s' : FileSystem) : Prop :=
  resolve target = some (pathOf target) ∧ OnlyAt (pathOf target) s s' ∧
    s.node? (pathOf target) = none ∧
    ∃ bytes, s.readFile? source = some bytes ∧ s'.node? (pathOf target) = some (.file bytes)

def CopyStopped (R : Nat → Event FileSystem Call → Prop) (source target : String)
    (s s' : FileSystem) : Prop :=
  s' = s ∨ CopyMade source target s s' ∨
    OnlyAt (pathOf target) s s' ∧ s.node? (pathOf target) = none ∧
      ∃ bytes k, s.readFile? source = some bytes ∧ Cut R k ∧
        s'.node? (pathOf target) = some (.file (bytes.take k))

structure Copyable (C : Crypto) (source target : String) (a : ConsentPurgeArtifactV1)
    (s : FileSystem) : Prop where
  resolves : resolve target = some (pathOf target)
  parent : s.hasParent (pathOf target) = true
  free : s.node? (pathOf target) = none ∧ s.hasDir (pathOf target) = false
  source : ∃ bytes, s.readFile? source = some bytes ∧ Recorded C a bytes

omit [HexLibrary] in
lemma ends_copyOwnerOnlyExact {source target : String}
    (hcopy : ¬ spent → Copyable C source target a s) :
    wp R (copyOwnerOnlyExact C source target a) (.ends (fun _ s' => CopyMade source target s s')
      (fun s' => CopyStopped R source target s s') spent) s n := by
  refine sees_bind (ends_stat hR hf hstat) (.inl rfl) ?_
  rintro taken k rfl
  refine ends_check (.inl rfl) ?_ fun _ _ => ?_
  · intro hsp
    obtain ⟨-, -, ⟨hnone, hdir⟩, -⟩ := hcopy hsp
    exact ⟨(), failIf_ok.mpr (by simp [pathExists_eq_false hnone hdir])⟩
  refine sees_bind (ends_look hR hf ?_) (.inl rfl) fun bytes k2 hread => ?_
  · intro hsp
    obtain ⟨-, -, -, bytes, hread, -⟩ := hcopy hsp
    exact ⟨bytes, okOr_ok.mpr hread⟩
  rw [okOr_ok] at hread
  refine ends_bind (ends_change hR hf ?_) (fun s' hs => .inl hs) ?_
  · intro hsp
    obtain ⟨hres, hpar, ⟨hnone, hdir⟩, -⟩ := hcopy hsp
    have hcr := createNew?_eq_some.mpr ⟨hres, ⟨hpar, hnone, hdir⟩, rfl⟩
    rw [hcr]
    exact Option.some_ne_none _
  rintro - s3 k3 hcr
  obtain ⟨hp, hnone, hemp, honly⟩ := createNew?_effect hcr
  -- bytes behind an empty file are the file
  have hwr : ∀ k s', s3.appendFile? target (bytes.take k) = some s' →
      s'.node? (pathOf target) = some (.file (bytes.take k)) ∧ OnlyAt (pathOf target) s s' := by
    intro k s' happ
    obtain ⟨-, old, hold, hnew, honly'⟩ := appendFile?_effect happ
    rw [hemp] at hold
    cases hold
    exact ⟨hnew, honly.trans honly'⟩
  have hmade : ∀ s', s3.appendFile? target bytes = some s' → CopyMade source target s s' := by
    intro s' happ
    rw [← List.take_length (l := bytes)] at happ
    obtain ⟨hnode, honly'⟩ := hwr _ s' happ
    rw [List.take_length] at hnode
    exact ⟨hp, honly', hnone, bytes, hread, hnode⟩
  have h : s3.appendFile? target bytes ≠ none := by
    have hsome : s3.appendFile? target bytes =
        some (s3.setNode (pathOf target) (some (.file ([] ++ bytes)))) :=
      appendFile?_eq_some.mpr ⟨hp, _, hemp, rfl⟩
    rw [hsome]
    exact Option.some_ne_none _
  refine ends_bind (ends_write hR hf fun _ => h) ?_ ?_
  · rintro s' (⟨hnone', -⟩ | ⟨m, e, k, he, hk, happ⟩)
    · exact absurd hnone' h
    · obtain ⟨hnode, honly'⟩ := hwr k s' happ
      exact .inr (.inr ⟨honly', hnone, bytes, k, hread, ⟨m, e, he, hk⟩, hnode⟩)
  rintro - s4 k4 happ
  have hcop := hmade s4 happ
  refine ends_check (.inr (.inl hcop)) ?_ fun _ _ => ?_
  · intro hsp
    obtain ⟨-, -, -, bytes', hread', -, hlen, -⟩ := hcopy hsp
    obtain rfl : bytes = bytes' := Option.some.inj (hread.symm.trans hread')
    exact ⟨(), failIf_ok.mpr (by simp [hlen])⟩
  refine sees_bind (ends_look hR hf fun _ => ⟨(), rfl⟩) (.inr (.inl hcop)) fun _ k5 _ => ?_
  refine ends_mono (ends_exact hR hf ?_) ?_ ?_
  · intro hsp
    obtain ⟨-, -, ⟨-, hdir⟩, bytes', hread', hrecord⟩ := hcopy hsp
    obtain rfl : bytes = bytes' := Option.some.inj (hread.symm.trans hread')
    obtain ⟨-, honly', -, bytes', hread'', hnode⟩ := hcop
    obtain rfl : bytes = bytes' := Option.some.inj (hread.symm.trans hread'')
    exact exact_ok.mpr ⟨bytes, hp, by rw [honly'.dirs]; exact hdir, hnode, hrecord⟩
  · rintro - s' ⟨rfl, -⟩
    exact hcop
  · rintro s' rfl
    exact .inr (.inl hcop)

end Files

/-! ## Rolling back -/

variable {U : Setup C} {package : ConsentPurgeRollbackPackageV1} {journal : ConsentPurgeJournalV1}
  {nowUnixSecs : UInt64}

section Rollback

variable {e : ConsentPurgeJournalEntryV1} (hV : U.Vetted) (hcut : U.cut → spent)
  (hcuts : ∀ k, Cut R k → U.cut ∨ ∀ a ∈ U.plan.candidates, a.byteLength.toNat ≤ k)

lemma replace?_ne_none {path name : String} {bytes : Bytes} (h : U.Packed s)
    (hnamed : Named path) (hpath : pathOf path = directory U.plan ++ [name]) :
    s.replace? path bytes ≠ none := by
  have hpar : s.hasParent (directory U.plan ++ [name]) = true := by
    simp [hasParent, h.dir]
  have hsome : s.replace? path bytes = some (s.setNode (pathOf path) (some (.file bytes))) :=
    replace?_eq_some.mpr ⟨hnamed, by rw [hpath]; exact ⟨hpar, h.flat name⟩, rfl⟩
  rw [hsome]
  exact Option.some_ne_none _

/-- Every journal of the purge can be written and read back. -/
def JournalsFit (C : Crypto) (formats : PurgeFormats) (plan : ConsentPurgePlanV1)
    (approvals : ConsentPurgeApprovalBundleV1) (package : ConsentPurgeRollbackPackageV1) : Prop :=
  ∀ journal, Current C plan approvals package journal → ∃ text,
    formats.journal.toVec journal = some text ∧ text.length < maxPurgeTransactionBytes

abbrev Setup.JournalsFit (U : Setup C) := Purge.JournalsFit C U.formats U.plan U.approvals

include hR hf hV

lemma ends_writeJournal {D I : FileSystem → Prop} (h : U.Packed s)
    (hfits : ¬ spent → U.JournalsFit package) (hcur : U.Current package journal)
    (hwrite : ∀ s', OnlyAt (pathOf (purgeJournalPath U.plan)) s s' → U.JournalOn journal s' → D s')
    (hI : I s) (hD : ∀ s', D s' → I s') :
    wp R (persistPurgeJson U.formats.journal (purgeJournalPath U.plan) journal)
      (.ends (fun _ => D) I spent) s n := by
  refine ends_mono (ends_persist hR hf fun hsp => ?_) (fun _ s' hs => hwrite s' hs.2.1 hs.2.2) ?_
  · obtain ⟨text, htext, hlen⟩ := hfits hsp journal hcur
    exact ⟨text, htext, hlen, replace?_ne_none h hV.journal pathOf_purgeJournalPath⟩
  · rintro s' (rfl | ⟨-, honly, hon⟩)
    · exact hI
    · exact hD s' (hwrite s' honly hon)

lemma ends_keepOpen (h : U.Opened package s) (hfits : ¬ spent → U.JournalsFit package)
    (hcur : U.Current package journal)
    (hstate : journal.state = .prepared ∨ journal.state = .deleting) :
    wp R (persistPurgeJson U.formats.journal (purgeJournalPath U.plan) journal)
      (.ends (fun _ s' => U.Opened package s' ∧
          ∀ a ∈ U.plan.candidates, s'.node? a.quarantined = s.node? a.quarantined)
        (fun s' => U.Opened package s' ∧
          ∀ a ∈ U.plan.candidates, s'.node? a.quarantined = s.node? a.quarantined) spent) s n := by
  refine ends_writeJournal hR hf hV h.toPacked hfits hcur ?_ ⟨h, fun _ _ => rfl⟩ fun _ hs => hs
  intro s' honly hon
  refine ⟨h.write hV.toLayout honly hon hcur hstate, fun a ha => (honly.agrees _ ?_).1⟩
  rw [pathOf_purgeJournalPath]
  exact hV.toLayout.quarantined_ne_file ha _

lemma ends_syncParent (h : U.Packed s) (ha : a ∈ U.plan.candidates) : wp R (do
        let parent ← .ofExcept (purgeParent a.quarantinePath)
        syncDirCall .io parent)
      (.sees (fun _ => True) s spent) s n := by
  obtain ⟨hpar, hres⟩ := hV.parent ha (h.free a ha).2
  refine ends_check rfl (fun _ => ⟨_, hpar⟩) fun parent hpar' => ?_
  obtain rfl : parentText a.quarantinePath = parent := Except.ok.inj (hpar.symm.trans hpar')
  refine ends_mono (ends_look hR hf fun _ => ⟨(), failIf_ok.mpr ?_⟩)
    (fun _ s' hs => ⟨hs.1, trivial⟩) (fun s' hs => hs)
  have hdir := (h.free a ha).2
  simp only [hasParent, Bool.and_eq_true] at hdir
  simp [hres, hdir.2]

include hstat hcut hcuts

lemma ends_restorePurged (h : U.Opened package s) (ha : e.artifact ∈ U.plan.candidates) :
    wp R (restorePurged C e) (.ends (fun _ s' => (U.Opened package s' ∧ Kept U.plan s s') ∧
          s'.node? e.artifact.quarantined = U.start.node? e.artifact.quarantined)
        (fun s' => U.Opened package s' ∧ Kept U.plan s s') spent) s n := by
  have hsame : ∀ s', s' = s → U.Opened package s' ∧ Kept U.plan s s' :=
    fun s' hs => ⟨hs ▸ h, .of_eq hs⟩
  have hL := hV.toLayout
  refine sees_bind (ends_exact hR hf fun _ => hV.copy_exact ha h.toPacked) (hsame s rfl)
    fun _ k1 _ => ?_
  refine sees_bind (ends_stat hR hf hstat) (hsame s rfl) ?_
  rintro there k2 rfl
  have hpl := h.placed _ ha
  split
  · -- what is in quarantine has to be the file
    rename_i hth
    refine ends_mono (ends_exact hR hf fun hsp => ?_) ?_ hsame
    · rcases hpl with hnone | hhome | ⟨hcut', -⟩
      · rw [hV.exists_of_gone ha h.toPacked hnone] at hth
        cases hth
      · exact hV.home_exact ha h.toPacked hhome
      · exact absurd (hcut hcut') hsp
    · rintro - s' ⟨rfl, hexa⟩
      exact ⟨⟨h, .refl⟩, hV.home_of_exact ha hpl hexa⟩
  · rename_i hmis
    have hgone := hV.gone_of_not_exists ha hpl (by simpa using hmis)
    obtain ⟨bytes, hstart, hrecord⟩ := hV.file ha
    have hsrc : s.readFile? e.artifact.rollbackPath = some bytes :=
      readFile?_eq_some.mpr ⟨hV.copies _ ha, (h.copied _ ha).trans hstart⟩
    have hcop : Copyable C e.artifact.rollbackPath e.artifact.quarantinePath e.artifact s :=
      ⟨hV.quarantine ha, (h.free _ ha).2, ⟨hgone, (h.free _ ha).1⟩, bytes, hsrc, hrecord⟩
    have hput : ∀ s', OnlyAt e.artifact.quarantined s s' →
        Place U.cut U.start e.artifact.quarantined s' → U.Opened package s' ∧ Kept U.plan s s' :=
      fun s' hs hpl' => ⟨h.place hL ha hs.agrees hs.dirs hpl', .of_free hgone hs⟩
    have hmade : ∀ s', CopyMade e.artifact.rollbackPath e.artifact.quarantinePath s s' →
        s'.node? e.artifact.quarantined = U.start.node? e.artifact.quarantined := by
      rintro s' ⟨-, -, -, bytes', hread, hnode⟩
      obtain rfl : bytes = bytes' := Option.some.inj (hsrc.symm.trans hread)
      exact hnode.trans hstart.symm
    refine ends_bind (ends_copyOwnerOnlyExact hR hf hstat fun _ => hcop) ?_ ?_
    · rintro s' (hs | hs | ⟨honly, -, bytes', k, hread, hk, hnode⟩)
      · exact hsame s' hs
      · exact hput s' hs.2.1 (.inr (.inl (hmade s' hs)))
      · obtain rfl : bytes = bytes' := Option.some.inj (hsrc.symm.trans hread)
        refine hput s' honly (.inr ?_)
        rcases hcuts k hk with hcut' | hall
        · exact .inr ⟨hcut', bytes, k, hstart, hnode⟩
        · have hlen := hall _ ha
          rw [hrecord.byteLength_eq] at hlen
          rw [List.take_of_length_le hlen] at hnode
          exact .inl (hnode.trans hstart.symm)
    · intro _ s2 k3 hs
      have hhome := hmade s2 hs
      obtain ⟨hope, hkept⟩ := hput s2 hs.2.1 (.inr (.inl hhome))
      refine ends_mono (ends_syncParent hR hf hV hope.toPacked ha) ?_ ?_
      · rintro - s' ⟨rfl, -⟩
        exact ⟨⟨hope, hkept⟩, hhome⟩
      · rintro s' rfl
        exact ⟨hope, hkept⟩

lemma ends_restorePurgedEntries (hfits : ¬ spent → U.JournalsFit package)
    (hcur : U.Current package journal)
    (hstate : journal.state = .prepared ∨ journal.state = .deleting)
    {todo restored : List ConsentPurgeJournalEntryV1}
    (hlist : (todo.reverse ++ restored).map ConsentPurgeJournalEntryV1.artifact = U.plan.candidates)
    (h : U.Opened package s) (hrestored : ∀ e ∈ restored, e.state = .restored ∧
      s.node? e.artifact.quarantined = U.start.node? e.artifact.quarantined) :
    wp R (restorePurgedEntries C U.formats (purgeJournalPath U.plan) nowUnixSecs journal todo restored)
      (.ends (fun entries s' => (U.Opened package s' ∧ Kept U.plan s s') ∧
          entries.map ConsentPurgeJournalEntryV1.artifact = U.plan.candidates ∧
          ∀ e ∈ entries, e.state = .restored ∧
            s'.node? e.artifact.quarantined = U.start.node? e.artifact.quarantined)
        (fun s' => U.Opened package s' ∧ Kept U.plan s s') spent) s n := by
  induction todo generalizing restored s n with
  | nil => exact wp_pure ⟨⟨h, .refl⟩, hlist, hrestored⟩
  | cons e todo ih =>
    have hspl : (todo.reverse ++ { e with state := .restored } :: restored).map
        ConsentPurgeJournalEntryV1.artifact = U.plan.candidates := by
      rw [← hlist]
      simp
    have hmem : ∀ b ∈ todo.reverse ++ { e with state := .restored } :: restored,
        b.artifact ∈ U.plan.candidates := by
      intro b hb
      rw [← hspl]
      exact List.mem_map_of_mem hb
    have he : e.artifact ∈ U.plan.candidates := hmem { e with state := .restored } (by simp)
    refine ends_bind (ends_restorePurged hR hf hstat hV hcut hcuts h he) (fun s' hs => hs) ?_
    rintro - s1 k1 ⟨⟨hope, hkept⟩, hhome⟩
    refine ends_bind (ends_keepOpen hR hf hV hope hfits
      (hcur.advance hspl journal.state nowUnixSecs) hstate) ?_ ?_
    · exact fun s' hs => ⟨hs.1, hkept.trans fun a ha _ => hs.2 a ha⟩
    rintro - s2 k2 ⟨hope2, hnod⟩
    have hkept2 : Kept U.plan s s2 := hkept.trans fun a ha _ => hnod a ha
    have hres2 : ∀ b ∈ { e with state := .restored } :: restored, b.state = .restored ∧
        s2.node? b.artifact.quarantined = U.start.node? b.artifact.quarantined := by
      intro b hb
      rcases List.mem_cons.mp hb with rfl | hb
      · exact ⟨rfl, (hnod _ he).trans hhome⟩
      · have hb' := hmem b (by simp [hb])
        obtain ⟨hstate', hback⟩ := hrestored b hb
        obtain ⟨bytes, hstart, -⟩ := hV.file hb'
        exact ⟨hstate', (hkept2 _ hb' (by simp [hback, hstart])).trans hback⟩
    exact ends_mono (ih hspl hope2 hres2) (fun _ s' hs => ⟨⟨hs.1.1, hkept2.trans hs.1.2⟩, hs.2⟩)
      (fun s' hs => ⟨hs.1, hkept2.trans hs.2⟩)

lemma ends_rollbackIncompletePurge (hfits : ¬ spent → U.JournalsFit package)
    (hcur : U.Current package journal)
    (hstate : journal.state = .prepared ∨ journal.state = .deleting) (h : U.Opened package s) :
    wp R (rollbackIncompletePurge C U.formats journal (purgeJournalPath U.plan) nowUnixSecs)
      (.ends (fun _ s' => U.RolledBack package s' ∧ Kept U.plan s s')
        (fun s' => (U.Opened package s' ∨ U.RolledBack package s') ∧ Kept U.plan s s')
        spent) s n := by
  refine ends_bind (ends_restorePurgedEntries hR hf hstat hV hcut hcuts hfits hcur hstate
    (by rw [List.reverse_reverse, List.append_nil]; exact hcur.2) h (by simp))
    (fun s' hs => ⟨.inl hs.1, hs.2⟩) ?_
  rintro entries s1 k1 ⟨⟨hope, hkept⟩, hent, hres⟩
  have hcur' := hcur.advance hent .rolledBack nowUnixSecs
  refine ends_mono (ends_writeJournal hR hf hV hope.toPacked hfits hcur'
    (D := fun s' => U.RolledBack package s' ∧ Kept U.plan s s')
    (I := fun s' => (U.Opened package s' ∨ U.RolledBack package s') ∧ Kept U.plan s s') ?_
    ⟨.inl hope, hkept⟩ fun s' hs => ⟨.inr hs.1, hs.2⟩) (fun _ _ hs => hs) fun _ hs => hs
  intro s' honly hon
  have hkept' : Kept U.plan s1 s' := by
    have honly' := honly
    rw [pathOf_purgeJournalPath] at honly'
    exact .of_file hV.toLayout honly'
  refine ⟨⟨hope.toBoxed.write hV.toLayout honly,
    (Packed.receipt_of_journal honly).trans hope.unreceipted, ?_, _, hon, hcur', rfl,
    fun e he => (hres e he).1⟩, hkept.trans hkept'⟩
  intro a ha
  obtain ⟨bytes, hstart, -⟩ := hV.file ha
  have hback : s1.node? a.quarantined = U.start.node? a.quarantined := by
    rw [← hent] at ha
    obtain ⟨e, he, rfl⟩ := List.mem_map.mp ha
    exact (hres e he).2
  exact (hkept' a ha (by simp [hback, hstart])).trans hback

end Rollback

/-! ## Recovery -/

section Recovery

variable (hV : U.Vetted)

lemma entries_of_verify (h : package.verify C U.plan U.approvals U.publicKey = .ok ()) :
    package.entries = U.plan.candidates := by
  simp only [ConsentPurgeRollbackPackageV1.verify, bind_ok, failIf_ok, not_or, ne_eq, not_not] at h
  obtain ⟨-, -, -, -, -, -, -, -, -, ⟨-, -, hent, -⟩, -⟩ := h
  exact hent

variable {receipt : ConsentPurgeReceiptV1}

lemma receiptEntries_of_verify (h : receipt.verify C U.plan U.approvals package U.publicKey = .ok ()) :
    receipt.entries = purgeEntries U.plan .deleted := by
  simp only [ConsentPurgeReceiptV1.verify, bind_ok, failIf_ok, not_or, ne_eq, not_not] at h
  obtain ⟨-, -, -, -, -, -, -, -, -, -, -, -, -, ⟨-, -, hent, -⟩, -⟩ := h
  exact hent

omit [HexLibrary] in
lemma ends_checks {ι : Type} {f : ι → Prog ConsentPurgeError Unit} {xs : List ι}
    (hturn : ∀ x ∈ xs, ∀ k, wp R (f x) (.sees (fun _ => True) s spent) s k) :
    wp R (xs.forM f) (.sees (fun _ => True) s spent) s n := by
  refine ends_forM (fun s' => s' = s ∧ True) ?_ ⟨rfl, trivial⟩
  rintro x hx s' k ⟨rfl, -⟩
  exact hturn x hx k

include hR hf

omit [HexLibrary] in
lemma ends_readPurgeJson {α : Type} {format : TextFormat α} {path label : String} {v : α}
    (hon : JsonOn format (pathOf path) v s) (h : Named path) :
    wp R (readPurgeJson format path label) (.sees (· = v) s spent) s n := by
  have hread : (readBoundedJson format s path maxPurgeTransactionBytes label).mapError
      (fun _ => ConsentPurgeError.io) = .ok v := by
    rw [hon.read h]
    rfl
  refine ends_mono (ends_look hR hf fun _ => ⟨v, hread⟩) ?_ (fun s' hs => hs)
  rintro v' s' ⟨rfl, hv⟩
  exact ⟨rfl, Except.ok.inj (hv.symm.trans hread)⟩

include hV

lemma ends_verifyRollbackPackageFiles (h : U.Packed s)
    (hlist : package.entries = U.plan.candidates) :
    wp R (verifyRollbackPackageFiles C package) (.sees (fun _ => True) s spent) s n := by
  rw [verifyRollbackPackageFiles, hlist]
  refine ends_checks fun a ha k => ?_
  exact ends_mono (ends_exact hR hf fun _ => hV.copy_exact ha h)
    (fun _ s' hs => ⟨hs.1, trivial⟩) (fun s' hs => hs)

lemma ends_verifyRolledBackPurgeFiles (h : U.RolledBack package s)
    (hcur : U.Current package journal) (hstate : ∀ e ∈ journal.entries, e.state = .restored) :
    wp R (verifyRolledBackPurgeFiles C journal) (.sees (fun _ => True) s spent) s n := by
  refine ends_checks fun e he k => ?_
  have ha : e.artifact ∈ U.plan.candidates := by
    rw [← hcur.2]
    exact List.mem_map_of_mem he
  refine sees_bind (ends_exact hR hf fun _ => hV.home_exact ha h.toPacked (h.home _ ha)) rfl
    fun _ k1 _ => ?_
  refine sees_bind (ends_exact hR hf fun _ => hV.copy_exact ha h.toPacked) rfl fun _ k2 _ => ?_
  exact ends_ofExcept rfl (fun _ => ⟨(), failIf_ok.mpr (by simp [hstate e he])⟩)
    (fun _ _ => ⟨rfl, trivial⟩)

include hstat

lemma ends_verifyPurgeReceiptFiles (h : U.Packed s)
    (hgone : ∀ a ∈ U.plan.candidates, s.node? a.quarantined = none)
    (hlist : receipt.entries = purgeEntries U.plan .deleted) :
    wp R (verifyPurgeReceiptFiles C receipt) (.sees (fun _ => True) s spent) s n := by
  rw [verifyPurgeReceiptFiles, hlist]
  refine ends_checks fun e he k => ?_
  obtain ⟨a, ha, rfl⟩ := List.mem_map.mp he
  refine sees_bind (ends_stat hR hf hstat) rfl ?_
  rintro there k1 rfl
  refine ends_check rfl (fun _ => ⟨(), failIf_ok.mpr ?_⟩) fun _ _ => ?_
  · simp [hV.exists_of_gone ha h (hgone a ha)]
  refine sees_bind (ends_exact hR hf fun _ => hV.copy_exact ha h) rfl fun _ k2 _ => ?_
  exact ends_ofExcept rfl (fun _ => ⟨(), failIf_ok.mpr (by simp)⟩) (fun _ _ => ⟨rfl, trivial⟩)

lemma ends_finalizePurge (hfits : ¬ spent → U.JournalsFit package) (h : U.Receipted package s)
    (hon : U.JournalOn journal s) (hcur : U.Current package journal)
    (hstate : journal.state ≠ .rolledBack) :
    wp R (finalizePurge C U.formats (purgeJournalPath U.plan) U.plan U.approvals package U.publicKey
        nowUnixSecs journal)
      (.ends (fun _ => U.Committed package) (U.Receipted package) spent) s n := by
  obtain ⟨receipt, hiss, hverify⟩ := h.issued
  refine sees_bind (ends_readPurgeJson hR hf hiss hV.receipt) h ?_
  rintro read k1 rfl
  refine ends_check h (fun _ => ⟨(), hverify⟩) fun _ _ => ?_
  refine sees_bind (ends_verifyPurgeReceiptFiles hR hf hstat hV h.toPacked h.gone
    (receiptEntries_of_verify hverify)) h fun _ k2 _ => ?_
  refine ends_check h (fun _ => ⟨(), failIf_ok.mpr hstate⟩) fun _ _ => ?_
  split
  · rename_i hcom
    exact wp_pure ⟨h, journal, hon, hcom⟩
  · have hcur' := hcur.advance hcur.2 .committed nowUnixSecs
    exact ends_bind (ends_writeJournal hR hf hV h.toPacked hfits hcur'
      (fun s' honly hon => h.write hV.toLayout honly hon hcur' rfl) h fun _ hs => hs.toReceipted)
      (fun _ hs => hs) (fun _ _ _ hs => wp_pure hs)

structure Authorized (C : Crypto) (plan : ConsentPurgePlanV1)
    (approvals : ConsentPurgeApprovalBundleV1) (retirementPlan : ConsentRetirementPlanV1)
    (retirementApprovals : ConsentRetirementApprovalBundleV1)
    (quarantineReceipt : ConsentRetirementQuarantineReceiptV1)
    (trustedWitnessKeys : List (FixedBytes 32)) (minimumQuorum : Nat)
    (publicKey : C.ed25519.VerifyingKey) : Prop where
  signature : plan.verifyAuthoritySignature C publicKey = .ok ()
  prerequisites : verifyPurgePrerequisiteIdentity C plan retirementPlan retirementApprovals
    quarantineReceipt publicKey = .ok ()
  quorum : verifyPurgeQuorum C approvals plan trustedWitnessKeys minimumQuorum = .ok ()

abbrev Setup.Authorized (U : Setup C) :=
  Purge.Authorized C U.plan U.approvals U.retirementPlan U.retirementApprovals U.quarantineReceipt
    U.trustedWitnessKeys U.minimumQuorum U.publicKey

lemma ends_recoverConsentPurge (hauth : U.Authorized) (hcut : U.cut → spent)
    (hcuts : ∀ k, Cut R k → U.cut ∨ ∀ a ∈ U.plan.candidates, a.byteLength.toNat ≤ k)
    (hfits : ¬ spent → U.JournalsFit package) (h : U.Shaped package s) :
    wp R (U.recover U.formats nowUnixSecs)
      (.ends (fun _ s' => U.Settled package s' ∧ Kept U.plan s s')
        (fun s' => U.Shaped package s' ∧ Kept U.plan s s') spent) s n := by
  have hsame : U.Shaped package s ∧ Kept U.plan s s := ⟨h, .refl⟩
  have hbox := h.boxed
  refine ends_check hsame (fun _ => ⟨(), hauth.signature⟩) fun _ _ => ?_
  refine ends_check hsame (fun _ => ⟨(), hauth.prerequisites⟩) fun _ _ => ?_
  refine ends_check hsame (fun _ => ⟨(), hauth.quorum⟩) fun _ _ => ?_
  refine sees_bind (ends_readPurgeJson hR hf hbox.described hV.package) hsame ?_
  rintro described k1 rfl
  refine ends_check hsame (fun _ => ⟨(), hbox.verified⟩) fun _ _ => ?_
  refine sees_bind (ends_verifyRollbackPackageFiles hR hf hV hbox.toPacked
    (entries_of_verify hbox.verified)) hsame fun _ k2 _ => ?_
  -- every shape has its journal, and what comes next depends on its state
  obtain ⟨j, hon, hcur, hsha⟩ : ∃ j, U.JournalOn j s ∧ U.Current _ j ∧
      ((U.Opened _ s ∧ (j.state = .prepared ∨ j.state = .deleting)) ∨
        (U.RolledBack _ s ∧ j.state = .rolledBack ∧ ∀ e ∈ j.entries, e.state = .restored) ∨
        (U.Receipted _ s ∧ j.state ≠ .rolledBack)) := by
    rcases h with h | h | h
    · obtain ⟨j, hon, hcur, hstate⟩ := h.journal
      exact ⟨j, hon, hcur, .inl ⟨h, hstate⟩⟩
    · obtain ⟨j, hon, hcur, hstate⟩ := h.journal
      exact ⟨j, hon, hcur, .inr (.inl ⟨h, hstate⟩)⟩
    · obtain ⟨j, hon, hcur, hstate⟩ := h.journal
      exact ⟨j, hon, hcur, .inr (.inr ⟨h, hstate⟩)⟩
  refine sees_bind (ends_readPurgeJson hR hf hon hV.journal) hsame ?_
  rintro journal k3 rfl
  refine sees_bind (P := fun _ => True) ?_ hsame fun _ k6 _ => ?_
  · refine ends_check rfl (fun _ => ⟨(), hcur.1⟩) fun _ _ => ?_
    refine sees_bind (ends_stat hR hf hstat) rfl ?_
    rintro given k4 rfl
    refine sees_bind (ends_stat hR hf hstat) rfl ?_
    rintro expected k5 rfl
    exact ends_ofExcept rfl (fun _ => ⟨(), failIf_ok.mpr (by simp [hcur.2])⟩)
      (fun _ _ => ⟨rfl, trivial⟩)
  refine sees_bind (ends_stat hR hf hstat) hsame ?_
  rintro receipted k7 rfl
  rcases hsha with ⟨hope, hstate⟩ | ⟨hback, hstate, hres⟩ | ⟨hreceipt, hstate⟩
  · rw [if_neg (by simp [(hV.exists_receipt hope.toPacked).mpr hope.unreceipted])]
    have hrol : wp R (rollbackIncompletePurge C U.formats _ (purgeJournalPath U.plan) nowUnixSecs) _
        s k7 := ends_rollbackIncompletePurge hR hf hstat hV hcut hcuts hfits hcur hstate hope
    rcases hstate with hstate | hstate
    all_goals
      rw [rollbackPurge, hstate]
      refine ends_bind hrol ?_ fun _ s' _ hs => wp_pure ⟨.inl hs.1, hs.2⟩
      rintro s' ⟨hs | hs, hkept⟩
      · exact ⟨.inl hs, hkept⟩
      · exact ⟨.inr (.inl hs), hkept⟩
  · rw [if_neg (by simp [(hV.exists_receipt hback.toPacked).mpr hback.unreceipted]), rollbackPurge,
      hstate]
    refine sees_bind (ends_verifyRolledBackPurgeFiles hR hf hV hback hcur hres) hsame fun _ k8 _ => ?_
    exact wp_pure ⟨.inl hback, .refl⟩
  · have hth : s.pathExists (purgeReceiptPath U.plan) = true := by
      by_contra hmis
      have hnone := (hV.exists_receipt hreceipt.toPacked).mp (by simpa using hmis)
      obtain ⟨receipt, ⟨text, -, -, hnode⟩, -⟩ := hreceipt.issued
      cases hnone.symm.trans hnode
    -- there is nothing in quarantine
    have hkept : ∀ s', Kept U.plan s s' := fun s' a ha hnode =>
      absurd (hreceipt.gone a ha) hnode
    rw [if_pos hth]
    exact ends_mono (ends_finalizePurge hR hf hstat hV hfits hreceipt hon hcur hstate)
      (fun _ s' hs => ⟨.inr hs, hkept s'⟩) (fun s' hs => ⟨.inr (.inr hs), hkept s'⟩)

end Recovery

end Steps

end Purge

end XeniaPeer.Consent
