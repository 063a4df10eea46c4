import XeniaPeer.Consent.Purge.Steps

/-!
# Making the package and deleting

The rules of the parts of `execute_consent_purge`. Whatever fails and wherever it is stopped, a run
leaves all candidates in quarantine and no package, or a package in one of its shapes; the files in
quarantine are touched only behind the rename that puts the package in place.
-/

namespace XeniaPeer.Consent

open Foundation Foundation.FileSystem Ledger

variable [HexLibrary] {C : Crypto} {formats : PurgeFormats}

namespace Purge

/-! ## The temporary directory -/

variable {U : Setup C} {s : FileSystem} {package : ConsentPurgeRollbackPackageV1} {journal :
  ConsentPurgeJournalV1}

section Temporary

variable {uuid : UuidText} {s' : FileSystem}

structure Copying (C : Crypto) (plan : ConsentPurgePlanV1) (uuid : UuidText) (start : FileSystem)
    (index : Nat) (s : FileSystem) : Prop extends Whole plan start s where
  dir : s.hasDir (temporary plan uuid) = true
  flat : ∀ file, s.hasDir (temporary plan uuid ++ [file]) = false
  unreceipted : s.node? (temporary plan uuid ++ ["purge-receipt.json"]) = none
  copies : ∀ i < index, ∀ a, plan.candidates[i]? = some a →
    verifyExactFile C a.quarantinePath a false start = .ok () ∧
    resolve (joinPath (purgeTemporaryDirectory plan uuid) (rollbackName i)) =
      some (temporary plan uuid ++ [rollbackName i]) ∧
    s.node? (temporary plan uuid ++ [rollbackName i]) = start.node? a.quarantined

abbrev Setup.Copying (U : Setup C) (uuid : UuidText) := Purge.Copying C U.plan uuid U.start

lemma agrees_of_onlyAt {rest : Path} (hs : OnlyAt (temporary U.plan uuid ++ rest) s s') {p : Path}
    (hp : ¬ temporary U.plan uuid <+: p) : AgreesAt p s s' :=
  hs.agrees p (by rintro rfl; exact hp (List.prefix_append _ _))

lemma Whole.write (h : U.Whole s) (hL : Layout U.plan) {rest : Path}
    (hs : OnlyAt (temporary U.plan uuid ++ rest) s s') : U.Whole s' :=
  h.outside hL (fun _ hp => agrees_of_onlyAt hs hp) (fun _ _ hmem => hs.removals ▸ hmem)

lemma Copying.write {index : Nat} (h : U.Copying uuid index s) (hL : Layout U.plan)
    {name : String} (hs : OnlyAt (temporary U.plan uuid ++ [name]) s s')
    (hreceipt : name ≠ "purge-receipt.json") (hcopy : ∀ i < index, rollbackName i ≠ name) :
    U.Copying uuid index s' := by
  have hkept : ∀ {file}, file ≠ name → s'.node? (temporary U.plan uuid ++ [file]) =
      s.node? (temporary U.plan uuid ++ [file]) := fun hne => (hs.agrees _ (by simpa using hne)).1
  refine ⟨h.toWhole.write hL hs, ?_, ?_, ?_, ?_⟩
  · rw [hs.dirs]
    exact h.dir
  · rw [hs.dirs]
    exact h.flat
  · rw [hkept hreceipt.symm]
    exact h.unreceipted
  · intro i hi a ha
    rw [hkept (hcopy i hi)]
    exact h.copies i hi a ha

omit [HexLibrary] in
lemma size_joinPath (text name : String) :
    text.utf8ByteSize + name.utf8ByteSize ≤ (joinPath text name).utf8ByteSize ∧
      (joinPath text name).utf8ByteSize ≤ text.utf8ByteSize + 1 + name.utf8ByteSize := by
  have hone : ("/" : String).utf8ByteSize = 1 := by decide
  unfold joinPath
  split
  · rw [String.utf8ByteSize_append]
    omega
  · rw [String.utf8ByteSize_append, String.utf8ByteSize_append]
    omega

lemma size_directory : (purgeTransactionDirectory U.plan).utf8ByteSize + 12 ≤
    (purgeTemporaryDirectory U.plan uuid).utf8ByteSize := by
  have hsh : (hexEncode U.plan.purgeId.toList).utf8ByteSize + 12 ≤
      (temporaryName U.plan uuid).utf8ByteSize := by
    have hfr : (".purge-" : String).utf8ByteSize = 7 := by decide
    have hdash : ("-" : String).utf8ByteSize = 1 := by decide
    have hend : (".tmp" : String).utf8ByteSize = 4 := by decide
    simp only [temporaryName, String.utf8ByteSize_append]
    omega
  unfold purgeTransactionDirectory purgeTemporaryDirectory joinPath
  split
  · simp only [String.utf8ByteSize_append]
    omega
  · simp only [String.utf8ByteSize_append]
    omega

lemma resolve_file {name name' : String} {p : Path} (hname : SimpleName name)
    (hname' : SimpleName name') (hdots : name' ≠ "..")
    (hsize : name'.utf8ByteSize ≤ name.utf8ByteSize)
    (h : resolve (joinPath (purgeTemporaryDirectory U.plan uuid) name) = some p) :
    resolve (joinPath (purgeTransactionDirectory U.plan) name') =
      some (directory U.plan ++ [name']) := by
  obtain ⟨hlen, hpar, rfl⟩ := resolve_eq_some.mp h
  rw [pathOf_temporaryFile hname, temporary_eq] at hpar
  simp only [List.mem_append, not_or] at hpar
  refine resolve_eq_some.mpr ⟨?_, ?_, pathOf_file hname'⟩
  · have hfr := size_joinPath (purgeTemporaryDirectory U.plan uuid) name
    have hback := size_joinPath (purgeTransactionDirectory U.plan) name'
    have hdir : (purgeTransactionDirectory U.plan).utf8ByteSize + 12 ≤
        (purgeTemporaryDirectory U.plan uuid).utf8ByteSize := size_directory
    omega
  · have hhex : hexEncode U.plan.purgeId.toList ≠ ".." := by
      intro heq
      have hlng := length_hexEncode U.plan.purgeId.toList
      rw [heq] at hlng
      simp at hlng
    simp only [directory_eq, List.mem_append, List.mem_singleton, not_or]
    exact ⟨⟨hpar.1.1, hhex.symm⟩, hdots.symm⟩

def Filed {α : Type} (plan : ConsentPurgePlanV1) (uuid : UuidText) (format : TextFormat α)
    (name : String) (v : α) (s : FileSystem) : Prop :=
  resolve (joinPath (purgeTemporaryDirectory plan uuid) name) =
      some (temporary plan uuid ++ [name]) ∧
    JsonOn format (temporary plan uuid ++ [name]) v s

lemma Copying.exact {a : ConsentPurgeArtifactV1}
    (h : U.Copying uuid U.plan.candidates.length s) (ha : a ∈ U.plan.candidates) :
    ∃ i, U.plan.candidates[i]? = some a ∧
      verifyExactFile C a.quarantinePath a false U.start = .ok () ∧
      resolve (joinPath (purgeTemporaryDirectory U.plan uuid) (rollbackName i)) =
        some (temporary U.plan uuid ++ [rollbackName i]) ∧
      s.node? (temporary U.plan uuid ++ [rollbackName i]) = U.start.node? a.quarantined := by
  obtain ⟨i, hi⟩ := List.mem_iff_getElem?.mp ha
  have hlt : i < U.plan.candidates.length := by
    by_contra hge
    rw [List.getElem?_eq_none (by omega)] at hi
    cases hi
  exact ⟨i, hi, h.copies i hlt a hi⟩

lemma Copying.vetted (h : U.Copying uuid U.plan.candidates.length s) (hL : Layout U.plan)
    (hpacked : Filed U.plan uuid U.formats.package "rollback-package.json" package s)
    (hjournal : Filed U.plan uuid U.formats.journal "journal.json" journal s)
    (hdir : resolve (purgeTransactionDirectory U.plan) = some (directory U.plan)) : U.Vetted := by
  obtain ⟨hjson, hbox, hreceipt⟩ := simpleName_files
  refine ⟨hL, fun a ha => ?_, fun a ha => ?_, hdir, ?_, ?_, ?_⟩
  · obtain ⟨i, -, hexa, -⟩ := h.exact ha
    exact hexa
  · obtain ⟨i, hi, -, hres, -⟩ := h.exact ha
    rw [hL.copied_eq hi, hL.rollback hi]
    refine resolve_file simpleName_rollbackName simpleName_rollbackName ?_ le_rfl hres
    exact rollbackName_ne (by decide)
  · rw [pathOf_purgeJournalPath]
    exact resolve_file hjson hjson (by decide) le_rfl hjournal.1
  · rw [pathOf_rollbackPackagePath]
    exact resolve_file hbox hbox (by decide) le_rfl hpacked.1
  · rw [pathOf_purgeReceiptPath]
    exact resolve_file hbox hreceipt (by decide) (by decide) hpacked.1

lemma Copying.rename (h : U.Copying uuid U.plan.candidates.length s) (hL : Layout U.plan)
    (hpacked : Filed U.plan uuid U.formats.package "rollback-package.json" package s)
    (hjournal : Filed U.plan uuid U.formats.journal "journal.json" journal s)
    (hverify : package.verify C U.plan U.approvals U.publicKey = .ok ())
    (hcur : U.Current package journal) (hstate : journal.state = .prepared)
    (hrename : s.renameDir? (purgeTemporaryDirectory U.plan uuid) (purgeTransactionDirectory U.plan) =
      some s') : U.Vetted ∧ U.Opened package s' := by
  obtain ⟨p, q, hp, hq, hdir, hfree, hfil, hdirs, hout, hname, -⟩ := renameDir?_effect hrename
  obtain rfl := pathOf_of_resolve hp
  obtain rfl := pathOf_of_resolve hq
  have hV := h.vetted hL hpacked hjournal hq
  have hout' : ∀ r, ¬ temporary U.plan uuid <+: r → ¬ directory U.plan <+: r → AgreesAt r s s' :=
    hout
  have hnode : ∀ name, s'.node? (directory U.plan ++ [name]) =
      s.node? (temporary U.plan uuid ++ [name]) := hfil
  have hth : ∀ a ∈ U.plan.candidates, AgreesAt a.quarantined U.start s' := fun a ha =>
    (h.there a ha).trans (hout' _ (hL.not_above ha root_prefix_temporary).1 (hL.not_above ha
    root_prefix_directory).1)
  refine ⟨hV, ⟨⟨?_, hname, ?_, ?_, ?_, ?_, ?_⟩, hverify, ?_⟩, ?_, ?_⟩
  · have := hdirs []
    rw [List.append_nil, List.append_nil] at this
    exact this.trans hdir
  · intro file
    exact (hdirs [file]).trans (h.flat file)
  · intro a ha
    obtain ⟨i, hi, -, -, hcopy⟩ := h.exact ha
    rw [hL.copied_eq hi, hnode, hcopy]
  · exact fun a ha => .inr (.inl (hth a ha).1)
  · intro a ha
    obtain ⟨bytes, -, hnod, hfile, -⟩ := exact_ok.mp (hV.exact a ha)
    exact ⟨(hth a ha).2.trans hnod, hasParent_of_node? ((hth a ha).1.trans hfile)⟩
  · rw [pathOf_purgeReceiptPath, hnode]
    exact .inl h.unreceipted
  · rw [pathOf_rollbackPackagePath]
    obtain ⟨-, text, htext, hfits, hon⟩ := hpacked
    exact ⟨text, htext, hfits, (hnode _).trans hon⟩
  · rw [pathOf_purgeReceiptPath, hnode]
    exact h.unreceipted
  · obtain ⟨-, text, htext, hfits, hon⟩ := hjournal
    rw [pathOf_purgeJournalPath]
    exact ⟨journal, ⟨text, htext, hfits, (hnode _).trans hon⟩, hcur, .inl hstate⟩

end Temporary

/-! ## The rules -/

section Rules

variable {uuid : UuidText} {n : Nat} {R : Nat → Event FileSystem Call → Prop}
  {nowUnixSecs : UInt64} {e : ConsentPurgeJournalEntryV1} (hR : ∀ n e, R n e → e.meddle = id)
  (hstat : ∀ n e k, R n e → e.verdict .stat ≠ .fail k)

omit [HexLibrary] in
lemma exact_congr {path : String} {a : ConsentPurgeArtifactV1} {rollbackCopy : Bool}
    {s s' : FileSystem} (h : AgreesAt (pathOf path) s s')
    (hexact : verifyExactFile C path a rollbackCopy s' = .ok ()) :
    verifyExactFile C path a rollbackCopy s = .ok () := by
  obtain ⟨bytes, hres, hdir, hnode, hrecord⟩ := exact_ok.mp hexact
  exact exact_ok.mpr ⟨bytes, hres, h.2.symm.trans hdir, h.1.symm.trans hnode, hrecord⟩

lemma verify_of_sign (h : signRollbackPackage U.plan U.approvals U.signingKey nowUnixSecs = .ok
    package) :
    package.verify C U.plan U.approvals U.publicKey = .ok () := by
  simp only [signRollbackPackage, bind_ok] at h
  obtain ⟨_, -, _, -, message, -, _, hverify, hpac⟩ := h
  cases hpac
  exact hverify

lemma current_of_prepared
    (h : preparedPurgeJournal C U.plan U.approvals package nowUnixSecs = .ok journal) :
    U.Current package journal ∧ journal.state = .prepared := by
  simp only [preparedPurgeJournal, bind_ok] at h
  obtain ⟨planFingerprint, hplan, bundleFingerprint, hbun, packageFingerprint, hpac, hjournal⟩ := h
  cases hjournal
  refine ⟨⟨?_, ?_⟩, rfl⟩
  · simp only [verifyPurgeJournal, bind_ok, failIf_ok, not_or, ne_eq, not_not]
    exact ⟨(), trivial, _, hplan, (), rfl, _, hbun, (), rfl, _, hpac, rfl, trivial⟩
  · rw [purgeEntries, List.map_map]
    exact List.map_id _

def Unpurged (C : Crypto) (formats : PurgeFormats) (cut : Prop) (plan : ConsentPurgePlanV1)
    (approvals : ConsentPurgeApprovalBundleV1) (publicKey : C.ed25519.VerifyingKey)
    (start s : FileSystem) : Prop :=
  Whole plan start s ∨
    Vetted C plan start ∧ ∃ package, Opened C formats cut plan approvals publicKey start package s

abbrev Setup.Unpurged (U : Setup C) :=
  Purge.Unpurged C U.formats U.cut U.plan U.approvals U.publicKey U.start

def Left (C : Crypto) (formats : PurgeFormats) (cut : Prop) (plan : ConsentPurgePlanV1)
    (approvals : ConsentPurgeApprovalBundleV1) (publicKey : C.ed25519.VerifyingKey)
    (start s : FileSystem) : Prop :=
  Whole plan start s ∨
    Vetted C plan start ∧ ∃ package, Shaped C formats cut plan approvals publicKey start package s

abbrev Setup.Left (U : Setup C) :=
  Purge.Left C U.formats U.cut U.plan U.approvals U.publicKey U.start

lemma Unpurged.left (h : U.Unpurged s) : U.Left s :=
  h.imp_right (And.imp_right fun ⟨package, hope⟩ => ⟨package, .inl hope⟩)

include hR

lemma ends_file {α : Type} (hL : Layout U.plan) {format : TextFormat α} {name : String} {v : α}
    (hname : SimpleName name) (hreceipt : name ≠ "purge-receipt.json")
    (hcopy : ∀ i, rollbackName i ≠ name) (h : U.Copying uuid U.plan.candidates.length s) :
    wp R (persistPurgeJson format (joinPath (purgeTemporaryDirectory U.plan uuid) name) v)
      (.ends (fun _ s' => U.Copying uuid U.plan.candidates.length s' ∧
          Filed U.plan uuid format name v s' ∧ OnlyAt (temporary U.plan uuid ++ [name]) s s')
        (U.Whole) True) s n := by
  have hpath : pathOf (joinPath (purgeTemporaryDirectory U.plan uuid) name) =
      temporary U.plan uuid ++ [name] := pathOf_temporaryFile hname
  refine ends_mono (ends_persist hR any_fault (·.elim trivial))
    ?_ ?_
  · rintro - s' ⟨hres, honly, hon⟩
    rw [hpath] at hres honly hon
    exact ⟨h.write hL honly hreceipt fun i _ => hcopy i, ⟨hres, hon⟩, honly⟩
  · rintro s' (rfl | ⟨-, honly, -⟩)
    · exact h.toWhole
    · rw [hpath] at honly
      exact h.toWhole.write hL honly

include hstat

lemma ends_copyCandidates (hL : Layout U.plan) {index : Nat} {rest : List ConsentPurgeArtifactV1}
    (hrest : U.plan.candidates.drop index = rest) (h : U.Copying uuid index s) :
    wp R (copyCandidates C (purgeTemporaryDirectory U.plan uuid) index rest)
      (.ends (fun _ => U.Copying uuid U.plan.candidates.length) (U.Whole) True) s n := by
  induction rest generalizing index s n with
  | nil =>
    have hall : U.plan.candidates.length ≤ index := List.drop_eq_nil_iff.mp hrest
    exact wp_pure ⟨h.toWhole, h.dir, h.flat, h.unreceipted,
      fun i hi => h.copies i (Nat.lt_of_lt_of_le hi hall)⟩
  | cons a rest ih =>
    have ha : U.plan.candidates[index]? = some a := by
      have := congrArg List.head? hrest
      rwa [List.head?_drop] at this
    have hmem : a ∈ U.plan.candidates := List.mem_of_getElem? ha
    refine sees_bind (ends_exact hR any_fault (·.elim trivial)) h.toWhole fun _ k1 hexa => ?_
    have htgt : pathOf (joinPath (purgeTemporaryDirectory U.plan uuid) (rollbackName index)) =
        temporary U.plan uuid ++ [rollbackName index] := pathOf_temporaryFile simpleName_rollbackName
    refine ends_bind (ends_copyOwnerOnlyExact hR any_fault hstat (·.elim trivial)) ?_ ?_
    · rintro s' (rfl | ⟨-, honly, -⟩ | ⟨honly, -⟩)
      · exact h.toWhole
      · rw [htgt] at honly
        exact h.toWhole.write hL honly
      · rw [htgt] at honly
        exact h.toWhole.write hL honly
    · rintro - s2 k2 ⟨hres, honly, hfree, bytes, hread, hnode⟩
      rw [htgt] at hres honly hfree hnode
      -- what was read is the candidate
      have hcopy : s2.node? (temporary U.plan uuid ++ [rollbackName index]) =
          U.start.node? a.quarantined := by
        obtain ⟨-, hfile⟩ := readFile?_eq_some.mp hread
        exact hnode.trans (hfile.symm.trans (h.there a hmem).1)
      -- an earlier copy has another name, since it is there and this one was not
      have hother : ∀ i < index, rollbackName i ≠ rollbackName index := by
        intro i hi heq
        have hlt : i < U.plan.candidates.length := by
          have := (List.getElem?_eq_some_iff.mp ha).1
          omega
        obtain ⟨hexa', -, hth⟩ := h.copies i hi _ (List.getElem?_eq_getElem hlt)
        obtain ⟨bytes', -, -, hfile, -⟩ := exact_ok.mp hexa'
        rw [heq, hfree] at hth
        cases hth.trans hfile
      have hkept := h.write hL honly (rollbackName_ne_files.2.2) hother
      refine ih (by rw [← List.drop_drop, hrest]; rfl) ⟨hkept.toWhole, hkept.dir, hkept.flat,
        hkept.unreceipted, ?_⟩
      intro i hi b hb
      rcases Nat.lt_succ_iff_lt_or_eq.mp hi with hi | rfl
      · exact hkept.copies i hi b hb
      · obtain rfl : a = b := Option.some.inj (ha.symm.trans hb)
        exact ⟨exact_congr (h.there a hmem) hexa, hres, hcopy⟩

lemma ends_preparePackage (hL : Layout U.plan) (h : U.Copying uuid 0 s) :
    wp R (preparePackage U.formats U.plan U.approvals U.signingKey nowUnixSecs
        (purgeTemporaryDirectory U.plan uuid))
      (.ends (fun made s' => U.Vetted ∧ U.Opened made.1 s' ∧ U.Current made.1 made.2)
        (U.Unpurged) True) s n := by
  obtain ⟨hjson, hbox, -⟩ := simpleName_files
  refine ends_bind (ends_copyCandidates hR hstat hL (by rw [List.drop_zero]) h)
    (fun s' hs => .inl hs) ?_
  intro _ s1 k1 hcop
  refine ends_check (.inl hcop.toWhole) (·.elim trivial) fun package hsign => ?_
  refine ends_bind (ends_file hR hL hbox (by decide) (fun i => rollbackName_ne_files.2.1) hcop)
    (fun s' hs => .inl hs) ?_
  rintro - s2 k2 ⟨hcop2, hpac, -⟩
  refine ends_check (.inl hcop2.toWhole) (·.elim trivial) fun journal hpre => ?_
  obtain ⟨hcur, hstate⟩ := current_of_prepared hpre
  refine ends_bind (ends_file hR hL hjson (by decide) (fun i => rollbackName_ne_files.1) hcop2)
    (fun s' hs => .inl hs) ?_
  rintro - s3 k3 ⟨hcop3, hjournal, honly⟩
  have hpac3 : Filed U.plan uuid U.formats.package "rollback-package.json" package s3 :=
    ⟨hpac.1, hpac.2.congr (honly.agrees _ (by simp)).1⟩
  refine sees_bind (ends_look hR any_fault (·.elim trivial)) (.inl hcop3.toWhole) fun _ k4 _ => ?_
  refine ends_bind (ends_change hR any_fault (·.elim trivial))
    (fun s' hs => .inl (hs ▸ hcop3.toWhole)) ?_
  intro _ s5 k5 hren
  obtain ⟨hV, hope⟩ : U.Vetted ∧ U.Opened package s5 :=
    hcop3.rename hL hpac3 hjournal (verify_of_sign hsign) hcur hstate hren
  refine sees_bind (ends_look hR any_fault (·.elim trivial)) (.inr ⟨hV, package, hope⟩)
    fun _ k6 _ => ?_
  exact wp_pure ⟨hV, hope, hcur⟩

omit hstat in
lemma ends_abandonPackage {error : ConsentPurgeError} (hL : Layout U.plan) (h : U.Unpurged s) :
    wp R (abandonPackage (purgeTemporaryDirectory U.plan uuid) error :
        Prog ConsentPurgeError ConsentPurgeReceiptV1)
      (.ends (fun _ => U.Unpurged) (U.Unpurged) True) s n := by
  have hrmv : ∀ s', s.removeTree? (purgeTemporaryDirectory U.plan uuid) = some s' →
      U.Unpurged s' := by
    intro s' hree
    obtain ⟨hag, hrem⟩ := removeTree?_effect hree
    rcases h with hwho | ⟨hV, package, hope⟩
    · refine .inl (hwho.outside hL hag fun p node hmem => ?_)
      simpa [hrem] using hmem
    · exact .inr ⟨hV, package, hope.outside hL hag⟩
  have hcall : wp R (removeTreeCall ConsentPurgeError.io (purgeTemporaryDirectory U.plan uuid))
      (.ends (fun _ s' => s.removeTree? (purgeTemporaryDirectory U.plan uuid) = some s') (· = s) True)
      s n := ends_change hR any_fault (·.elim trivial)
  refine wp_bind (wp_attempt (wp_mono hcall ?_ ?_ ?_))
  · exact fun _ s' k hs => wp_ofExcept ⟨hrmv s' hs, trivial⟩
  · rintro _ s' k ⟨rfl, -⟩
    exact wp_ofExcept ⟨h, trivial⟩
  · rintro s' ⟨rfl, -⟩
    exact ⟨h, trivial⟩

/-! ### Deleting -/

section Deleting

variable (hV : U.Vetted)

include hV

omit hstat in
lemma ends_deleteEntry (h : U.Opened package s) (ha : e.artifact ∈ U.plan.candidates) :
    wp R (deleteEntry C e)
      (.ends (fun _ s' => U.Opened package s' ∧ s'.node? e.artifact.quarantined = none ∧
          ∀ b ∈ U.plan.candidates, s.node? b.quarantined = none → s'.node? b.quarantined = none)
        (U.Opened package) True) s n := by
  refine sees_bind (ends_exact hR any_fault (·.elim trivial)) h fun _ k1 _ => ?_
  refine sees_bind (ends_exact hR any_fault (·.elim trivial)) h fun _ k2 _ => ?_
  refine ends_bind (ends_change hR any_fault (·.elim trivial)) (fun s' hs => hs ▸ h) ?_
  intro _ s2 k3 hunl
  obtain ⟨-, node, -, hgone, hag, hdirs, -⟩ := unlink?_effect hunl
  have hope : U.Opened package s2 := h.place hV.toLayout ha hag hdirs (.inl hgone)
  refine ends_mono (ends_syncParent hR any_fault hV hope.toPacked ha) ?_ (fun s' hs => hs ▸ hope)
  rintro - s' ⟨rfl, -⟩
  refine ⟨hope, hgone, fun b _ hb => ?_⟩
  by_cases heq : b.quarantined = e.artifact.quarantined
  · rw [heq]
    exact hgone
  · exact (hag _ heq).1.trans hb

omit hstat in
lemma ends_deleteEntries (hcur : U.Current package journal)
    (hstate : journal.state = .deleting) {deleted rest : List ConsentPurgeJournalEntryV1}
    (hlist : (deleted ++ rest).map ConsentPurgeJournalEntryV1.artifact = U.plan.candidates)
    (h : U.Opened package s) (hdeleted : ∀ e ∈ deleted, s.node? e.artifact.quarantined = none) :
    wp R (deleteEntries C U.formats (purgeJournalPath U.plan) nowUnixSecs journal deleted rest)
      (.ends (fun entries s' => U.Opened package s' ∧
          entries.map ConsentPurgeJournalEntryV1.artifact = U.plan.candidates ∧
          ∀ e ∈ entries, s'.node? e.artifact.quarantined = none) (U.Opened package) True) s n := by
  induction rest generalizing deleted s n with
  | nil =>
    rw [List.append_nil] at hlist
    exact wp_pure ⟨h, hlist, hdeleted⟩
  | cons e rest ih =>
    have hspl : (deleted ++ { e with state := .deleted } :: rest).map
        ConsentPurgeJournalEntryV1.artifact = U.plan.candidates := by
      rw [← hlist]
      simp
    have hmem : ∀ b ∈ deleted ++ { e with state := .deleted } :: rest,
        b.artifact ∈ U.plan.candidates := by
      intro b hb
      rw [← hspl]
      exact List.mem_map_of_mem hb
    have he : e.artifact ∈ U.plan.candidates := hmem { e with state := .deleted } (by simp)
    refine ends_bind (ends_deleteEntry hR hV h he) (fun s' hs => hs) ?_
    rintro - s1 k1 ⟨hope, hgone, hother⟩
    refine ends_bind (ends_keepOpen hR any_fault hV hope (·.elim trivial)
      (hcur.advance hspl journal.state nowUnixSecs) (.inr hstate)) (fun s' hs => hs.1) ?_
    · rintro - s2 k2 ⟨hope2, hkept⟩
      refine ih (by rw [← hspl]; simp) hope2 ?_
      intro b hb
      rcases List.mem_append.mp hb with hb | hb
      · have hb' := hmem b (by simp [hb])
        exact (hkept _ hb').trans (hother _ hb' (hdeleted b hb))
      · obtain rfl := List.mem_singleton.mp hb
        exact (hkept _ he).trans hgone

lemma ends_commitPurge (hcur : U.Current package journal) (h : U.Opened package s)
    (hgone : ∀ a ∈ U.plan.candidates, s.node? a.quarantined = none) :
    wp R (commitPurge U.formats U.plan U.approvals package U.signingKey nowUnixSecs journal)
      (.ends (fun _ => U.Shaped package) (U.Shaped package) True) s n := by
  refine ends_check (.inl h) (·.elim trivial) fun message _ => ?_
  refine ends_check (.inl h) (·.elim trivial) fun _ hverify => ?_
  have hiss : ∀ s', Written U.formats.receipt (purgeReceiptPath U.plan)
      { purgeReceiptOf journal nowUnixSecs with signature := C.ed25519.sign U.signingKey message }
      s s' → U.Receipted package s' := fun s' hs => h.issue hV.toLayout hs.2.1 hs.2.2 hverify hgone
  refine ends_bind (ends_persist hR any_fault (·.elim trivial)) ?_ ?_
  · rintro s' (rfl | hs)
    · exact .inl h
    · exact .inr (.inr (hiss s' hs))
  intro _ s1 k1 hs
  have hreceipt := hiss s1 hs
  have hcur' := hcur.advance hcur.2 .committed nowUnixSecs
  refine ends_bind (ends_writeJournal hR any_fault hV hreceipt.toPacked (·.elim trivial) hcur'
    (fun s' honly hon => hreceipt.write hV.toLayout honly hon hcur' rfl) hreceipt
    fun _ hs => hs.toReceipted) (fun s' hs => .inr (.inr hs)) ?_
  intro _ s2 k2 hcom
  have hshape : U.Shaped package s2 := .inr (.inr hcom.toReceipted)
  exact sees_bind (ends_verifyPurgeReceiptFiles hR any_fault hstat hV hcom.toPacked hcom.gone
    (receiptEntries_of_verify hverify)) hshape fun _ _ _ => wp_pure hshape

lemma ends_deleteQuarantined (hcur : U.Current package journal) (h : U.Opened package s) :
    wp R (deleteQuarantined U.formats U.plan U.approvals U.signingKey nowUnixSecs package journal)
      (.ends (fun _ => U.Shaped package) (U.Shaped package) True) s n := by
  refine sees_bind (ends_verifyRollbackPackageFiles hR any_fault hV h.toPacked
    (entries_of_verify h.verified)) (.inl h) fun _ k1 _ => ?_
  have hcur' : U.Current package { journal with state := .deleting } := hcur
  refine ends_bind (ends_keepOpen hR any_fault hV h (·.elim trivial) hcur'
    (.inr rfl)) (fun s' hs => .inl hs.1) ?_
  rintro - s2 k2 ⟨hope2, -⟩
  refine ends_bind (ends_deleteEntries hR hV hcur' rfl hcur.2 hope2 (by simp))
    (fun s' hs => .inl hs) ?_
  rintro entries s3 k3 ⟨hope, hent, hgone⟩
  refine ends_commitPurge hR hstat hV (hcur'.advance hent .deleting nowUnixSecs) hope ?_
  intro a ha
  rw [← hent] at ha
  obtain ⟨e, he, rfl⟩ := List.mem_map.mp ha
  exact hgone e he

end Deleting

/-! ### The whole run -/

section Whole

structure Verified (C : Crypto) (plan : ConsentPurgePlanV1)
    (approvals : ConsentPurgeApprovalBundleV1) (retirementPlan : ConsentRetirementPlanV1)
    (retirementApprovals : ConsentRetirementApprovalBundleV1)
    (quarantineReceipt : ConsentRetirementQuarantineReceiptV1)
    (trustedWitnessKeys : List (FixedBytes 32)) (minimumQuorum : Nat)
    (publicKey : C.ed25519.VerifyingKey) (nowUnixSecs : UInt64) : Prop where
  inputs : plan.verifyInputs C retirementPlan retirementApprovals quarantineReceipt publicKey
    nowUnixSecs = .ok ()
  binding : plan.verifyBinding C retirementPlan retirementApprovals quarantineReceipt = .ok ()
  quorum : verifyPurgeQuorum C approvals plan trustedWitnessKeys minimumQuorum = .ok ()

variable {K : Ceremony C}

abbrev VerifiedBy (K : Ceremony C) :=
  Verified C K.plan K.approvals K.retirementPlan K.retirementApprovals K.quarantineReceipt
    K.trustedWitnessKeys K.minimumQuorum K.publicKey

omit hR hstat

section

variable (h : VerifiedBy K nowUnixSecs)

include h

lemma Verified.authorized :
    Authorized C K.plan K.approvals K.retirementPlan K.retirementApprovals K.quarantineReceipt
      K.trustedWitnessKeys K.minimumQuorum K.publicKey := by
  obtain ⟨hinp, hbin, hquo⟩ := h
  simp only [ConsentPurgePlanV1.verifyInputs, ConsentPurgePlanV1.verifyAuthoritySignatureAndWindow,
    guard_bind_ok] at hinp
  obtain ⟨⟨hsig, -⟩, hret, hreceipt⟩ := hinp
  refine ⟨hsig, ?_, hquo⟩
  simp only [ConsentPurgePlanV1.verifyBinding, bind_ok, failIf_ok, not_or, ne_eq, not_not] at hbin
  obtain ⟨_, -, fingerprint, hfin, _, hplan, bundle, hbun, _, happ, receipt,
    hfin', _, ⟨hreceipt', -⟩, -⟩ := hbin
  simp only [verifyPurgePrerequisiteIdentity, bind_ok, failIf_ok, ne_eq, not_not]
  exact ⟨_, hret, _, hreceipt, _, hfin, (), hplan, _, hbun, (), happ, _, hfin', hreceipt'⟩

lemma Verified.layout : Layout K.plan := layout_of_verify h.inputs h.binding

end

include hR

omit [HexLibrary] in
lemma keeping_verifyQuarantinedReceiptFiles :
    Keeping R (· = s) (verifyQuarantinedReceiptFiles C K.quarantineReceipt) := by
  have hI : ∀ n e fs, R n e → fs = s → e.meddle fs = s := by
    intro n e fs he hfs
    rw [hR n e he]
    exact hfs
  refine .forM fun entry _ => ?_
  refine .bind (keeping_look hI) fun _ => .bind .ofExcept fun _ => ?_
  exact .bind (.mapError (keeping_look hI)) fun _ => .ofExcept

lemma ends_authorizePurge :
    wp R (authorizePurge K.plan K.approvals K.retirementPlan K.retirementApprovals K.quarantineReceipt
        K.trustedWitnessKeys K.minimumQuorum K.publicKey nowUnixSecs)
      (.sees (fun _ => VerifiedBy K nowUnixSecs ∧ ((∀ n e k, R n e → e.verdict .stat ≠ .fail k) →
          s.pathExists (purgeTransactionDirectory K.plan) = false)) s True) s n := by
  have hany : ∀ {α : Type} {r : Except ConsentPurgeError α}, ¬ True → ∃ a, r = .ok a :=
    (·.elim trivial)
  refine sees_bind (P := fun _ =>
    K.plan.verifyInputs C K.retirementPlan K.retirementApprovals K.quarantineReceipt K.publicKey
    nowUnixSecs =
      .ok () ∧
    K.plan.verifyBinding C K.retirementPlan K.retirementApprovals K.quarantineReceipt = .ok ())
    ?_ rfl ?_
  · refine ends_check rfl hany fun _ hinp => ?_
    refine wp_bind (wp_mapError (Keeping.wp (keeping_verifyQuarantinedReceiptFiles hR) ?_
      (fun _ _ => ⟨rfl, trivial⟩) ⟨rfl, trivial⟩))
    exact fun _ _ => ends_ofExcept rfl hany fun _ hbin => ⟨rfl, hinp, hbin⟩
  rintro - k1 ⟨hinp, hbin⟩
  refine ends_check rfl hany fun _ hquo => ?_
  refine sees_bind (ends_look hR any_fault hany) rfl fun root k2 _ => ?_
  refine ends_check rfl hany fun _ _ => ?_
  -- a look that fails says that there is no directory
  refine wp_bind (wp_look (hR _) ?_ ?_ (fun _ _ _ _ => ⟨rfl, trivial⟩))
  · intro ev _ _
    refine ends_ofExcept rfl hany fun _ htak => ⟨rfl, ⟨hinp, hbin, hquo⟩, fun _ => ?_⟩
    simpa using failIf_ok.mp htak
  · intro ev k hev hk
    exact ends_ofExcept rfl hany fun _ _ =>
      ⟨rfl, ⟨hinp, hbin, hquo⟩, fun hstat => absurd hk (hstat _ ev k hev)⟩

omit hR in
lemma copying_of_makeDir {mode : Nat} {s' : FileSystem} (h : U.Whole s) (hL : Layout U.plan)
    (hmake : s.makeDir? (purgeTemporaryDirectory U.plan uuid) mode = some s') :
    U.Copying uuid 0 s' := by
  obtain ⟨hp, hfree, hdir, hag, hrem⟩ := makeDir?_effect hmake
  have hag' : ∀ r, r ≠ temporary U.plan uuid → AgreesAt r s s' := hag
  have hfree' : s.hasDir (temporary U.plan uuid) = false := hfree
  have hfile : ∀ file, AgreesAt (temporary U.plan uuid ++ [file]) s s' := fun file =>
    hag' _ (by simp)
  have hout : ∀ r, ¬ temporary U.plan uuid <+: r → AgreesAt r s s' := by
    intro r hr
    refine hag' r ?_
    rintro rfl
    exact hr List.prefix_rfl
  refine ⟨h.outside hL hout (fun _ _ hmem => hrem ▸ hmem), hdir,
    fun file => (hfile file).2.trans (hasDir_concat hfree'), ?_, fun i hi => absurd hi (by omega)⟩
  rw [(hfile _).1]
  by_contra hnode
  obtain ⟨node, hnode⟩ := Option.ne_none_iff_exists'.mp hnode
  have hpar := hasParent_of_node? hnode
  simp [hasParent, hfree'] at hpar

include hstat

lemma ends_executeConsentPurge (h : U.Whole s) : wp R (U.execute U.formats nowUnixSecs uuid)
      (.always fun s' => U.Whole s' ∨ U.Authorized ∧ U.Left s') s n := by
  refine always_bind (ends_authorizePurge hR) (fun s' hs => .inl (hs ▸ h)) ?_
  rintro - s1 k1 ⟨rfl, hverify, -⟩
  have hL := hverify.layout
  refine always_bind (ends_change hR any_fault (·.elim trivial)) (fun s' hs => .inl (hs ▸ h)) ?_
  intro _ s2 k2 hmake
  have hcop : U.Copying uuid 0 s2 := copying_of_makeDir h hL hmake
  refine always_bind (ends_look hR any_fault (·.elim trivial))
    (fun s' hs => .inl (hs ▸ hcop.toWhole)) ?_
  rintro - s3 k3 ⟨rfl, -⟩
  have hleft : ∀ s', U.Left s' → U.Whole s' ∨ U.Authorized ∧ U.Left s' :=
    fun s' hs => .inr ⟨hverify.authorized, hs⟩
  refine wp_bind (wp_attempt (wp_mono (ends_preparePackage hR hstat hL hcop) ?_ ?_
    (fun s' hs => hleft s' hs.1.left)))
  · rintro ⟨package, journal⟩ s4 k4 ⟨hV, hope, hcur⟩
    have hsha : ∀ s', U.Shaped package s' → U.Whole s' ∨ _ :=
      fun s' hs => hleft s' (.inr ⟨hV, package, hs⟩)
    exact wp_mono (ends_deleteQuarantined hR hstat hV hcur hope) (fun _ s' _ hs => hsha s' hs)
      (fun _ s' _ hs => hsha s' hs.1) (fun s' hs => hsha s' hs.1)
  · rintro error s4 k4 ⟨hunp, -⟩
    exact wp_mono (ends_abandonPackage hR hL hunp) (fun _ s' _ hs => hleft s' hs.left)
      (fun _ s' _ hs => hleft s' hs.1.left) (fun s' hs => hleft s' hs.1.left)

lemma ends_execute_again (hV : U.Vetted) (h : U.Packed s) :
    wp R (U.execute U.formats nowUnixSecs uuid) (.always (· = s)) s n := by
  refine always_bind (ends_authorizePurge hR) (fun _ hs => hs) ?_
  rintro - s1 k1 ⟨rfl, -, hfree⟩
  rw [hV.exists_directory h] at hfree
  cases hfree hstat

end Whole

end Rules

end Purge

end XeniaPeer.Consent
