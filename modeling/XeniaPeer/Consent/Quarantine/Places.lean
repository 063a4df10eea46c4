import XeniaPeer.Consent.Quarantine

/-!
# Where the files of a retirement are

A candidate has two places, the one it was found at and the one in quarantine, and the transaction
has two files of its own, its journal and its receipt. All of these are different as long as every
candidate is on disk as the plan records it and the directory of the transaction is new.
-/

namespace XeniaPeer.Consent

open Foundation Foundation.FileSystem Ledger

variable [HexLibrary] {C : Crypto} {formats : RetirementFormats}

/-! ## The places of a transaction -/

namespace Quarantine

/-- The candidates are at different places, none of them in the directory of the transaction. -/
structure Apart (plan : ConsentRetirementPlanV1) : Prop where
  count : plan.candidates.length ≤ maxRetirementCandidates
  distinct : (plan.candidates.map fun a => pathOf a.canonicalPath).Nodup
  outside : ∀ a ∈ plan.candidates,
    (pathOf a.canonicalPath).dropLast ≠ pathOf (quarantineTransactionDirectory plan)

/-- On this disk every candidate is as the plan records it, and the directory of the transaction
does not exist yet. -/
structure AsRecorded (C : Crypto) (plan : ConsentRetirementPlanV1) (start : FileSystem) : Prop
    extends Apart plan where
  observed : ∀ a ∈ plan.candidates,
    observeRetirementArtifact C a.role a.canonicalPath start = .ok a
  fresh : start.hasDir (pathOf (quarantineTransactionDirectory plan)) = false

def transactionFiles (plan : ConsentRetirementPlanV1) : List Path :=
  pathOf (retirementJournalPath plan) :: pathOf (retirementReceiptPath plan) ::
    (retirementJournalEntriesForPlan plan).flatMap (fun e => [e.original, e.quarantined])

variable {plan : ConsentRetirementPlanV1} {start : FileSystem}
  {e e' : ConsentRetirementJournalEntryV1}

section Places

lemma journal_mem_files : pathOf (retirementJournalPath plan) ∈ transactionFiles plan :=
  List.mem_cons_self

lemma receipt_mem_files : pathOf (retirementReceiptPath plan) ∈ transactionFiles plan :=
  List.mem_cons_of_mem _ List.mem_cons_self

lemma original_mem_files (he : e ∈ retirementJournalEntriesForPlan plan) :
    e.original ∈ transactionFiles plan := by
  simp only [transactionFiles, List.mem_cons, List.mem_flatMap]
  exact .inr (.inr ⟨e, he, by simp⟩)

lemma quarantined_mem_files (he : e ∈ retirementJournalEntriesForPlan plan) :
    e.quarantined ∈ transactionFiles plan := by
  simp only [transactionFiles, List.mem_cons, List.mem_flatMap]
  exact .inr (.inr ⟨e, he, by simp⟩)

lemma mem_transactionFiles {p : Path} : p ∈ transactionFiles plan ↔
    p = pathOf (retirementJournalPath plan) ∨ p = pathOf (retirementReceiptPath plan) ∨
      ∃ e ∈ retirementJournalEntriesForPlan plan, p = e.original ∨ p = e.quarantined := by
  simp [transactionFiles]

lemma pathOf_retirementJournalPath : pathOf (retirementJournalPath plan) =
    pathOf (quarantineTransactionDirectory plan) ++ ["journal.json"] :=
  pathOf_joinPath (simpleName_of_length (by decide) (by decide))

lemma pathOf_retirementReceiptPath : pathOf (retirementReceiptPath plan) =
    pathOf (quarantineTransactionDirectory plan) ++ ["receipt.json"] :=
  pathOf_joinPath (simpleName_of_length (by decide) (by decide))

lemma dropLast_quarantined (he : e ∈ retirementJournalEntriesForPlan plan) :
    e.quarantined.dropLast = pathOf (quarantineTransactionDirectory plan) := by
  obtain ⟨i, a, -, rfl⟩ := mem_retirementJournalEntriesForPlan.mp he
  rw [quarantined_journalEntryFor, List.dropLast_concat]

lemma journal_ne_receipt :
    pathOf (retirementJournalPath plan) ≠ pathOf (retirementReceiptPath plan) := by
  rw [pathOf_retirementJournalPath, pathOf_retirementReceiptPath]
  simp

section Root

variable (hroot : Path.text (pathOf plan.quarantineRoot) = plan.quarantineRoot)

include hroot

lemma text_directory : Path.text (pathOf (quarantineTransactionDirectory plan)) =
    quarantineTransactionDirectory plan := by
  have hid : SimpleName (hexEncode plan.planId.toList) :=
    simpleName_of_length (slash_not_mem_hexEncode _) (by simp)
  rw [quarantineTransactionDirectory, pathOf_joinPath hid,
    text_concat (fun c hc => simpleName_of_mem_pathOf hc), hroot]

lemma resolve_directory (h : Named (retirementJournalPath plan)) :
    resolve (quarantineTransactionDirectory plan) =
      some (pathOf (retirementJournalPath plan)).dropLast := by
  have hdrop : (pathOf (retirementJournalPath plan)).dropLast =
      pathOf (quarantineTransactionDirectory plan) := by
    rw [pathOf_retirementJournalPath, List.dropLast_concat]
  have htext : Path.text (pathOf (retirementJournalPath plan)) = retirementJournalPath plan := by
    rw [pathOf_retirementJournalPath, text_concat (fun c hc => simpleName_of_mem_pathOf hc),
      text_directory hroot]
    rfl
  have hpar := resolve_parent (p := pathOf (retirementJournalPath plan)) (by rw [htext, h])
  rwa [hdrop, text_directory hroot, ← hdrop] at hpar

lemma text_quarantined (he : e ∈ retirementJournalEntriesForPlan plan) :
    Path.text e.quarantined = e.quarantinePath := by
  obtain ⟨i, a, ha, rfl⟩ := mem_retirementJournalEntriesForPlan.mp he
  rw [quarantined_journalEntryFor,
    text_concat (fun c hc => simpleName_of_mem_pathOf hc), text_directory hroot]
  rfl

end Root

namespace AsRecorded

variable (h : AsRecorded C plan start) (he : e ∈ retirementJournalEntriesForPlan plan)

include h he

lemma entry : ∃ bytes, resolve e.artifact.canonicalPath = some e.original ∧
      start.hasDir e.original = false ∧ start.node? e.original = some (.file bytes) ∧
      bytes.length ≤ maxRetirementArtifactBytes ∧
      e.artifact = ⟨e.artifact.role, Path.text e.original, UInt64.ofNat bytes.length,
        C.blake3 bytes⟩ := by
  obtain ⟨i, a, ha, rfl⟩ := mem_retirementJournalEntriesForPlan.mp he
  obtain ⟨p, bytes, hp, hdir, hnode, hlen, -, heq⟩ :=
    observe_ok.mp (h.observed a (List.mem_of_getElem? ha))
  obtain rfl := pathOf_of_resolve hp
  exact ⟨bytes, hp, hdir, hnode, hlen, heq.symm⟩

lemma text_original : Path.text e.original = e.artifact.canonicalPath := by
  obtain ⟨bytes, -, -, -, -, heq⟩ := h.entry he
  exact (congrArg ConsentRetirementArtifactV1.canonicalPath heq).symm

end AsRecorded

namespace Apart

variable (h : Apart plan)

include h

lemma lt_of_getElem? {i : Nat} {a : ConsentRetirementArtifactV1}
    (ha : plan.candidates[i]? = some a) : i < 32 :=
  lt_of_lt_of_le (List.getElem?_eq_some_iff.mp ha).1 h.count

section

variable (he : e ∈ retirementJournalEntriesForPlan plan)

include he

lemma original_injective (he' : e' ∈ retirementJournalEntriesForPlan plan)
    (heq : e.original = e'.original) : e = e' := by
  obtain ⟨i, a, ha, rfl⟩ := mem_retirementJournalEntriesForPlan.mp he
  obtain ⟨j, b, hb, rfl⟩ := mem_retirementJournalEntriesForPlan.mp he'
  obtain rfl : a = b := List.inj_on_of_nodup_map h.distinct (List.mem_of_getElem? ha)
    (List.mem_of_getElem? hb) heq
  obtain rfl : i = j := (List.getElem?_inj (List.getElem?_eq_some_iff.mp ha).1
    (List.Nodup.of_map _ h.distinct)).mp (ha.trans hb.symm)
  rfl

lemma quarantined_injective (he' : e' ∈ retirementJournalEntriesForPlan plan)
    (heq : e.quarantined = e'.quarantined) : e = e' := by
  obtain ⟨i, a, ha, rfl⟩ := mem_retirementJournalEntriesForPlan.mp he
  obtain ⟨j, b, hb, rfl⟩ := mem_retirementJournalEntriesForPlan.mp he'
  have hi := h.lt_of_getElem? ha
  have hj := h.lt_of_getElem? hb
  rw [quarantined_journalEntryFor, quarantined_journalEntryFor] at heq
  have hname : quarantineName i a = quarantineName j b := by simpa using heq
  obtain rfl := quarantineName_injective hi hj hname
  cases ha.symm.trans hb
  rfl

lemma original_ne {p : Path} (hp : p.dropLast = pathOf (quarantineTransactionDirectory plan)) :
    e.original ≠ p := by
  rintro rfl
  obtain ⟨i, a, ha, rfl⟩ := mem_retirementJournalEntriesForPlan.mp he
  exact h.outside a (List.mem_of_getElem? ha) hp

lemma original_ne_quarantined (he' : e' ∈ retirementJournalEntriesForPlan plan) :
    e.original ≠ e'.quarantined := h.original_ne he (dropLast_quarantined he')

lemma original_ne_journal : e.original ≠ pathOf (retirementJournalPath plan) :=
  h.original_ne he (by rw [pathOf_retirementJournalPath, List.dropLast_concat])

lemma original_ne_receipt : e.original ≠ pathOf (retirementReceiptPath plan) :=
  h.original_ne he (by rw [pathOf_retirementReceiptPath, List.dropLast_concat])

lemma quarantined_ne : e.quarantined ≠ pathOf (retirementJournalPath plan) ∧
      e.quarantined ≠ pathOf (retirementReceiptPath plan) := by
  obtain ⟨i, a, ha, rfl⟩ := mem_retirementJournalEntriesForPlan.mp he
  have hi := h.lt_of_getElem? ha
  rw [quarantined_journalEntryFor, pathOf_retirementJournalPath, pathOf_retirementReceiptPath]
  obtain ⟨hj, hr⟩ := quarantineName_ne (a := a) hi
  simpa using And.intro hj hr

end

end Apart

end Places

/-! ## What the others leave alone -/

def Keeps (plan : ConsentRetirementPlanV1) (s s' : FileSystem) : Prop :=
  ∀ p ∈ transactionFiles plan, AgreesAt p s s' ∧ s'.hasParent p = s.hasParent p

def Considerate (plan : ConsentRetirementPlanV1) (R : Nat → Event FileSystem Call → Prop) :
    Prop :=
  ∀ n e, R n e → ∀ s, Keeps plan s (e.meddle s)

structure Ready (plan : ConsentRetirementPlanV1) (s : FileSystem) : Prop where
  parent : ∀ p ∈ transactionFiles plan, s.hasParent p = true
  noDir : ∀ p ∈ transactionFiles plan, s.hasDir p = false

/-- The candidate is where it was at the start, with its bytes. -/
def Home (start : FileSystem) (e : ConsentRetirementJournalEntryV1) (s : FileSystem) : Prop :=
  s.node? e.original = start.node? e.original ∧ s.node? e.quarantined = none

/-- The candidate is in quarantine, with its bytes. -/
def Away (start : FileSystem) (e : ConsentRetirementJournalEntryV1) (s : FileSystem) : Prop :=
  (resolve e.quarantinePath).isSome = true ∧ s.node? e.original = none ∧
    s.node? e.quarantined = start.node? e.original

variable {s s' t : FileSystem}

section Keeps

lemma Keeps.refl : Keeps plan s s := fun _ _ => ⟨.refl, rfl⟩

lemma Keeps.trans (h : Keeps plan s s') (h' : Keeps plan s' t) : Keeps plan s t :=
  fun p hp => ⟨(h p hp).1.trans (h' p hp).1, (h' p hp).2.trans (h p hp).2⟩

lemma Ready.keeps (h : Ready plan s) (hk : Keeps plan s s') : Ready plan s' :=
  ⟨fun p hp => (hk p hp).2.trans (h.parent p hp), fun p hp => (hk p hp).1.2.trans (h.noDir p hp)⟩

omit [HexLibrary] in
lemma hasParent_of_hasDir (hdir : s'.hasDir = s.hasDir) (p : Path) :
    s'.hasParent p = s.hasParent p := by
  simp [hasParent, hdir]

lemma Ready.of_hasDir (h : Ready plan s) (hdir : s'.hasDir = s.hasDir) : Ready plan s' :=
  ⟨fun p hp => (hasParent_of_hasDir hdir p).trans (h.parent p hp),
    fun p hp => (congrFun hdir p).trans (h.noDir p hp)⟩

omit [HexLibrary] in
lemma Home.congr (h : Home start e s) (ho : s'.node? e.original = s.node? e.original)
    (hq : s'.node? e.quarantined = s.node? e.quarantined) : Home start e s' :=
  ⟨ho.trans h.1, hq.trans h.2⟩

omit [HexLibrary] in
lemma Away.congr (h : Away start e s) (ho : s'.node? e.original = s.node? e.original)
    (hq : s'.node? e.quarantined = s.node? e.quarantined) : Away start e s' :=
  ⟨h.1, ho.trans h.2.1, hq.trans h.2.2⟩

lemma Home.keeps (h : Home start e s) (he : e ∈ retirementJournalEntriesForPlan plan)
    (hk : Keeps plan s s') : Home start e s' :=
  h.congr (hk _ (original_mem_files he)).1.1 (hk _ (quarantined_mem_files he)).1.1

lemma Away.keeps (h : Away start e s) (he : e ∈ retirementJournalEntriesForPlan plan)
    (hk : Keeps plan s s') : Away start e s' :=
  h.congr (hk _ (original_mem_files he)).1.1 (hk _ (quarantined_mem_files he)).1.1

end Keeps

/-! ### What the checks find -/

section Find

variable (h : AsRecorded C plan start) (he : e ∈ retirementJournalEntriesForPlan plan)

include h he

lemma agreesAt_of_home (hready : Ready plan s) (hhome : Home start e s) :
    AgreesAt e.original start s := by
  obtain ⟨-, -, hdir, -⟩ := h.entry he
  exact ⟨hhome.1, (hready.noDir _ (original_mem_files he)).trans hdir.symm⟩

lemma observe_of_home (hready : Ready plan s) (hhome : Home start e s) :
    observeRetirementArtifact C e.artifact.role e.artifact.canonicalPath s = .ok e.artifact := by
  rw [observe_congr (agreesAt_of_home h he hready hhome)]
  obtain ⟨i, a, ha, rfl⟩ := mem_retirementJournalEntriesForPlan.mp he
  exact h.observed a (List.mem_of_getElem? ha)

lemma observe_of_away (hroot : Path.text (pathOf plan.quarantineRoot) = plan.quarantineRoot)
    (hready : Ready plan s) (haway : Away start e s) :
    observeRetirementArtifact C e.artifact.role e.quarantinePath s =
      .ok { e.artifact with canonicalPath := e.quarantinePath } := by
  obtain ⟨bytes, -, -, hnode, hlen, hart⟩ := h.entry he
  have hq := named_of_isSome haway.1
  obtain ⟨hsh, hpar, -⟩ := resolve_eq_some.mp hq
  have htext := text_quarantined hroot he
  refine observe_ok.mpr ⟨e.quarantined, bytes, hq, hready.noDir _ (quarantined_mem_files he),
    haway.2.2.trans hnode, hlen, ?_, ?_⟩
  · refine validatePathWith_ok.mpr ⟨?_, ?_, ?_⟩
    · rw [htext]
      exact le_trans hsh (by decide)
    · have hne : e.quarantined ≠ [] := by
        have := hready.parent _ (quarantined_mem_files he)
        simp only [hasParent, Bool.and_eq_true, decide_eq_true_eq] at this
        exact this.1
      obtain ⟨c, rest, hc⟩ := List.exists_cons_of_ne_nil hne
      rw [hc]
      simp [isAbsolute, Path.text, String.join_cons, String.toList_append]
    · rw [htext]
      exact hpar
  · rw [hart, htext]

lemma exists_of_home (hready : Ready plan s) (hhome : Home start e s) :
    s.pathExists e.artifact.canonicalPath = true ∧ s.pathExists e.quarantinePath = false := by
  obtain ⟨bytes, hres, -, hnode, -⟩ := h.entry he
  constructor
  · exact pathExists_of_readFile? (readFile?_eq_some.mpr ⟨hres, hhome.1.trans hnode⟩)
  · exact pathExists_eq_false hhome.2 (hready.noDir _ (quarantined_mem_files he))

lemma exists_of_away (hready : Ready plan s) (haway : Away start e s) :
    s.pathExists e.artifact.canonicalPath = false ∧ s.pathExists e.quarantinePath = true := by
  obtain ⟨bytes, hres, -, hnode, -⟩ := h.entry he
  constructor
  · exact pathExists_eq_false haway.2.1 (hready.noDir _ (original_mem_files he))
  · exact pathExists_of_readFile? (readFile?_eq_some.mpr
      ⟨named_of_isSome haway.1, haway.2.2.trans hnode⟩)

lemma parent_of_original (hready : Ready plan s) :
    retirementParent e.artifact.canonicalPath = .ok (parentText e.artifact.canonicalPath) ∧
      resolve (parentText e.artifact.canonicalPath) = some e.original.dropLast := by
  obtain ⟨bytes, hres, -, -, -, -⟩ := h.entry he
  have hpar := hready.parent _ (original_mem_files he)
  simp only [hasParent, Bool.and_eq_true, decide_eq_true_eq] at hpar
  have hne : pathOf e.artifact.canonicalPath ≠ [] := hpar.1
  constructor
  · simp [retirementParent, failIf, hne]
  · have hup : resolve (Path.text e.original) = some e.original := by
      rw [h.text_original he, hres]
    exact resolve_parent hup

omit h in
lemma parent_of_quarantined (hroot : Path.text (pathOf plan.quarantineRoot) = plan.quarantineRoot)
    (hready : Ready plan s) (hpath : (resolve e.quarantinePath).isSome = true) :
    retirementParent e.quarantinePath = .ok (parentText e.quarantinePath) ∧
      resolve (parentText e.quarantinePath) = some e.quarantined.dropLast := by
  have h := hready.parent _ (quarantined_mem_files he)
  simp only [hasParent, Bool.and_eq_true, decide_eq_true_eq] at h
  have hne : pathOf e.quarantinePath ≠ [] := h.1
  constructor
  · simp [retirementParent, failIf, hne]
  · have hup : resolve (Path.text e.quarantined) = some e.quarantined := by
      rw [text_quarantined hroot he]
      exact named_of_isSome hpath
    exact resolve_parent hup

end Find

/-! ## The calls of a transaction -/

variable {path : String}

section Calls

variable {R : Nat → Event FileSystem Call → Prop} {spent : Nat → Prop} {n : Nat} {base : FileSystem}
  {α : Type}

def seen (plan : ConsentRetirementPlanV1) (spent : Nat → Prop) (base : FileSystem) (n : Nat)
    (a : α) : Post FileSystem ConsentRetirementError α :=
  .within (fun b s' k => b = a ∧ k = n + 1 ∧ Keeps plan base s') (Keeps plan base) spent

variable (hR : Considerate plan R) (hf : FaultsFrom R n spent) (hk : Keeps plan base s)

include hR hf hk

lemma wp_seen {call : Call} {f : FileSystem → Except ConsentRetirementError α} {a : α}
    {err : ConsentRetirementError} (h : ∀ s', Keeps plan base s' → f s' = .ok a) :
    wp R (look call f (.error err)) (seen plan spent base n a) s n := by
  refine within_look (fun e he => hk.trans (hR n e he s)) hf ?_ ?_
  · intro s' b hk' hb
    exact ⟨Except.ok.inj (hb.symm.trans (h s' hk')), rfl, hk'⟩
  · intro s' err' hk' herr
    cases herr.symm.trans (h s' hk')

lemma wp_observe {role : ConsentRetirementArtifactRoleV1} {a : ConsentRetirementArtifactV1}
    (hmem : pathOf path ∈ transactionFiles plan)
    (h : observeRetirementArtifact C role path base = .ok a) :
    wp R (observeCall C role path) (seen plan spent base n a) s n :=
  wp_seen hR hf hk fun _ hk' => (observe_congr (hk' _ hmem).1).trans h

lemma wp_syncParent {text : String} {p : Path} (hmem : p ∈ transactionFiles plan)
    (hpath : resolve text = some p.dropLast) (hparent : base.hasParent p = true) :
    wp R (syncDirCall .io text) (seen plan spent base n ()) s n := by
  refine wp_seen hR hf hk fun s' hk' => ?_
  have hdir : s'.hasDir p.dropLast = true := (Bool.and_eq_true_iff.mp ((hk' p hmem).2.trans hparent)).2
  rw [failIf, if_neg (by simp [hpath, hdir])]

lemma wp_readJson {format : TextFormat α} {v : α} {label : String}
    (hmem : pathOf path ∈ transactionFiles plan)
    (hread : readBoundedJson format base path maxRetirementTransactionBytes label = .ok v) :
    wp R (readRetirementJson format path label) (seen plan spent base n v) s n := by
  refine wp_seen hR hf hk fun s' hk' => ?_
  rw [readBoundedJson_congr (hk' _ hmem).1.1, hread]
  rfl

lemma wp_exists (hmem : pathOf path ∈ transactionFiles plan) :
    wp R (existsCall path : Prog ConsentRetirementError Bool) (.within
      (fun b s' k => k = n + 1 ∧ Keeps plan base s' ∧ (b = base.pathExists path ∨
          b = false ∧ spent k ∧ ∃ e j, R n e ∧ e.verdict .stat = .fail j))
      (Keeps plan base) spent) s n := by
  refine within_stat (fun e he => hk.trans (hR n e he s)) hf ?_ ?_
  · exact fun s' hk' => ⟨rfl, hk', .inl (hk' _ hmem).1.pathExists_eq⟩
  · exact fun s' e j hk' he hj hsp => ⟨rfl, hk', .inr ⟨rfl, hsp, e, j, he, hj⟩⟩

end Calls

/-! ## The shapes of a transaction -/

structure Changes (plan : ConsentRetirementPlanV1) (X : Path → Prop) (s s' : FileSystem) :
    Prop where
  same : ∀ p ∈ transactionFiles plan, ¬ X p → s'.node? p = s.node? p
  ready : Ready plan s → Ready plan s'

def AtEntry (e : ConsentRetirementJournalEntryV1) (p : Path) : Prop :=
  p = e.original ∨ p = e.quarantined

section Changes

variable {X : Path → Prop}

lemma Changes.of_keeps (h : Keeps plan s s') : Changes plan X s s' :=
  ⟨fun p hp _ => (h p hp).1.1, fun hrea => hrea.keeps h⟩

lemma Changes.trans (h : Changes plan X s s') (h' : Changes plan X s' t) : Changes plan X s t :=
  ⟨fun p hp hX => (h'.same p hp hX).trans (h.same p hp hX), fun hrea => h'.ready (h.ready hrea)⟩

lemma Changes.of_replace {path : String} {bytes : Bytes}
    (h : s.replace? path bytes = some s') : Changes plan (· = pathOf path) s s' := by
  obtain ⟨-, -, hsame, hdir, -⟩ := replace?_effect h
  exact ⟨fun q _ hq => (hsame q hq).1, fun hrea => hrea.of_hasDir hdir⟩

lemma Changes.of_rename {source target : String} (h : s.rename? source target = some s') :
    Changes plan (fun p => p = pathOf source ∨ p = pathOf target) s s' := by
  obtain ⟨-, -, -, -, hsame, hdir⟩ := rename?_effect h
  refine ⟨fun r _ hr => ?_, fun hrea => hrea.of_hasDir hdir⟩
  rw [not_or] at hr
  exact (hsame r hr.1 hr.2).1

lemma Changes.mono {Y : Path → Prop} (h : Changes plan X s s') (hXY : ∀ p, X p → Y p) :
    Changes plan Y s s' := ⟨fun p hp hY => h.same p hp (fun hX => hY (hXY p hX)), h.ready⟩

lemma Home.changes (hhome : Home start e s) (he : e ∈ retirementJournalEntriesForPlan plan)
    (h : Changes plan X s s') (ho : ¬ X e.original) (hq : ¬ X e.quarantined) : Home start e s' :=
  hhome.congr (h.same _ (original_mem_files he) ho) (h.same _ (quarantined_mem_files he) hq)

lemma Away.changes (haway : Away start e s) (he : e ∈ retirementJournalEntriesForPlan plan)
    (h : Changes plan X s s') (ho : ¬ X e.original) (hq : ¬ X e.quarantined) : Away start e s' :=
  haway.congr (h.same _ (original_mem_files he) ho) (h.same _ (quarantined_mem_files he) hq)

section

variable (h : Apart plan)

include h

lemma Apart.not_atEntry (he : e ∈ retirementJournalEntriesForPlan plan)
    (he' : e' ∈ retirementJournalEntriesForPlan plan) (hne : e' ≠ e) :
    ¬ AtEntry e e'.original ∧ ¬ AtEntry e e'.quarantined := by
  refine ⟨?_, ?_⟩
  · rintro (heq | heq)
    · exact hne (h.original_injective he' he heq)
    · exact h.original_ne_quarantined he' he heq
  · rintro (heq | heq)
    · exact h.original_ne_quarantined he he' heq.symm
    · exact hne (h.quarantined_injective he' he heq)

lemma Apart.journal_not_atEntry (he : e ∈ retirementJournalEntriesForPlan plan) :
    ¬ AtEntry e (pathOf (retirementJournalPath plan)) ∧
      ¬ AtEntry e (pathOf (retirementReceiptPath plan)) := by
  refine ⟨?_, ?_⟩
  · rintro (heq | heq)
    · exact h.original_ne_journal he heq.symm
    · exact (h.quarantined_ne he).1 heq.symm
  · rintro (heq | heq)
    · exact h.original_ne_receipt he heq.symm
    · exact (h.quarantined_ne he).2 heq.symm

lemma Apart.nodup : (retirementJournalEntriesForPlan plan).Nodup := by
  rw [List.nodup_iff_getElem?_ne_getElem?]
  intro i j hij hj heq
  rw [length_retirementJournalEntriesForPlan] at hj
  have hi : i < plan.candidates.length := hij.trans hj
  simp only [retirementJournalEntriesForPlan, List.getElem?_mapIdx, List.getElem?_eq_getElem hi,
    List.getElem?_eq_getElem hj, Option.map_some, Option.some.injEq] at heq
  have hpath := congrArg ConsentRetirementJournalEntryV1.quarantined heq
  have hi' : i < 32 := lt_of_lt_of_le hi h.count
  have hj' : j < 32 := lt_of_lt_of_le hj h.count
  rw [quarantined_journalEntryFor, quarantined_journalEntryFor] at hpath
  have hname : quarantineName i plan.candidates[i] = quarantineName j plan.candidates[j] := by
    simpa using hpath
  exact absurd (quarantineName_injective hi' hj' hname) (by omega)

end

section

variable (h : AsRecorded C plan start)

include h

lemma away_of_rename (he : e ∈ retirementJournalEntriesForPlan plan) (hhome : Home start e s)
    (hrename : s.rename? e.artifact.canonicalPath e.quarantinePath = some s') : Away start e s' := by
  obtain ⟨-, hq, hgone, hth, -, -⟩ := rename?_effect hrename
  exact ⟨by rw [hq]; rfl, hgone (h.original_ne_quarantined he he), hth.trans hhome.1⟩

lemma home_of_rename (he : e ∈ retirementJournalEntriesForPlan plan) (haway : Away start e s)
    (hrename : s.rename? e.quarantinePath e.artifact.canonicalPath = some s') : Home start e s' := by
  obtain ⟨-, -, hgone, hth, -, -⟩ := rename?_effect hrename
  exact ⟨hth.trans haway.2.2, hgone (h.original_ne_quarantined he he).symm⟩

lemma rename_of_away (he : e ∈ retirementJournalEntriesForPlan plan) (hready : Ready plan s)
    (haway : Away start e s) : s.rename? e.quarantinePath e.artifact.canonicalPath ≠ none := by
  obtain ⟨bytes, hres, -, hnode, -⟩ := h.entry he
  have hfree : s.hasParent e.original = true ∧ s.hasDir e.original = false :=
    ⟨hready.parent _ (original_mem_files he), hready.noDir _ (original_mem_files he)⟩
  intro hnone
  have := rename?_eq_some.mpr ⟨named_of_isSome haway.1, hres, _, haway.2.2.trans hnode, hfree, rfl⟩
  rw [hnone] at this
  cases this

end

end Changes

variable {α : Type} {format : TextFormat α} {label : String} {v : α}

omit [HexLibrary] in
lemma read_of_replace {text : Bytes} (htext : format.toVec v = some text)
    (hfits : text.length < maxRetirementTransactionBytes)
    (h : s.replace? path (text ++ [10]) = some s') :
    readBoundedJson format s' path maxRetirementTransactionBytes label = .ok v := by
  obtain ⟨hp, hnode, -⟩ := replace?_effect h
  refine readBoundedJson_ok.mpr ⟨hp, _, hnode, ?_, format.fromSlice_toVec htext⟩
  simp
  omega

omit [HexLibrary] in
lemma named_of_read {maximum : Nat}
    (h : readBoundedJson format s path maximum label = .ok v) : Named path :=
  (readBoundedJson_ok.mp h).1

section Shapes

variable (C : Crypto) (formats : RetirementFormats) (plan : ConsentRetirementPlanV1)
  (approvals : ConsentRetirementApprovalBundleV1) (publicKey : C.ed25519.VerifyingKey)
  (start : FileSystem)

def Current (journal : ConsentRetirementJournalV1) : Prop :=
  verifyRetirementJournalIdentity C journal plan approvals (retirementJournalPath plan) = .ok ()

def JournalOn (journal : ConsentRetirementJournalV1) (s : FileSystem) : Prop :=
  readBoundedJson formats.journal s (retirementJournalPath plan) maxRetirementTransactionBytes
    "consent retirement journal" = .ok journal

def ReceiptOn (receipt : ConsentRetirementQuarantineReceiptV1) (s : FileSystem) : Prop :=
  readBoundedJson formats.receipt s (retirementReceiptPath plan) maxRetirementTransactionBytes
    "consent retirement quarantine receipt" = .ok receipt

/-- Every journal and receipt of the transaction can be written and read back. -/
structure Fits : Prop where
  journal : ∀ j, Current C plan approvals j →
    ∃ text, formats.journal.toVec j = some text ∧ text.length < maxRetirementTransactionBytes
  receipt : ∀ r, ConsentRetirementQuarantineReceiptV1.verify C r plan approvals publicKey = .ok () →
    ∃ text, formats.receipt.toVec r = some text ∧ text.length < maxRetirementTransactionBytes

structure Open (s : FileSystem) : Prop where
  ready : Ready plan s
  receipt : s.node? (pathOf (retirementReceiptPath plan)) = none
  placed : ∀ e ∈ retirementJournalEntriesForPlan plan, Home start e s ∨ Away start e s
  journal : ∃ j, JournalOn formats plan j s ∧ Current C plan approvals j ∧
    (j.state = .prepared ∨ j.state = .moving)

/-- Everything is back and the journal says so. -/
structure RolledBack (s : FileSystem) : Prop where
  ready : Ready plan s
  receipt : s.node? (pathOf (retirementReceiptPath plan)) = none
  placed : ∀ e ∈ retirementJournalEntriesForPlan plan, Home start e s
  journal : ∃ j, JournalOn formats plan j s ∧ Current C plan approvals j ∧
    j.state = .rolledBack ∧ ∀ e ∈ j.entries, e.state ≠ .moved

structure Receipted (s : FileSystem) : Prop where
  ready : Ready plan s
  placed : ∀ e ∈ retirementJournalEntriesForPlan plan, Away start e s
  receipt : ∃ r, ReceiptOn formats plan r s ∧
    ConsentRetirementQuarantineReceiptV1.verify C r plan approvals publicKey = .ok ()
  journal : ∃ j, JournalOn formats plan j s ∧ Current C plan approvals j ∧
    (j.state = .moving ∨ j.state = .committed)

/-- Everything is in quarantine with a receipt, and the journal says so. -/
structure Committed (s : FileSystem) : Prop extends
    Receipted C formats plan approvals publicKey start s where
  committed : ∃ j, JournalOn formats plan j s ∧ j.state = .committed

end Shapes

end Quarantine

end XeniaPeer.Consent
