import XeniaPeer.Consent.Purge

/-!
# Where the files of a purge are

A candidate has two places, its path in quarantine and the one of its copy in the rollback package.
The package is a directory below the rollback root, with the copies, a description of the package,
the journal and in the end the receipt; nothing in quarantine is below that root.
-/

namespace XeniaPeer.Consent

open Foundation Foundation.FileSystem Ledger

variable [HexLibrary] {C : Crypto} {formats : PurgeFormats}

namespace ConsentPurgeArtifactV1

def quarantined (artifact : ConsentPurgeArtifactV1) : Path := pathOf artifact.quarantinePath

def copied (artifact : ConsentPurgeArtifactV1) : Path := pathOf artifact.rollbackPath

end ConsentPurgeArtifactV1

structure Ceremony (C : Crypto) where
  plan : ConsentPurgePlanV1
  approvals : ConsentPurgeApprovalBundleV1
  retirementPlan : ConsentRetirementPlanV1
  retirementApprovals : ConsentRetirementApprovalBundleV1
  quarantineReceipt : ConsentRetirementQuarantineReceiptV1
  trustedWitnessKeys : List (FixedBytes 32)
  minimumQuorum : Nat
  signingKey : C.ed25519.SigningKey

namespace Ceremony

variable (K : Ceremony C) (formats : PurgeFormats)

def publicKey : C.ed25519.VerifyingKey := C.ed25519.verifyingKey K.signingKey

def execute (nowUnixSecs : UInt64) (uuid : UuidText) : Prog ConsentPurgeError ConsentPurgeReceiptV1 :=
  executeConsentPurge formats K.plan K.approvals K.retirementPlan K.retirementApprovals
    K.quarantineReceipt K.trustedWitnessKeys K.minimumQuorum K.signingKey nowUnixSecs uuid

def recover (nowUnixSecs : UInt64) : Prog ConsentPurgeError ConsentPurgeRecoveryOutcomeV1 :=
  recoverConsentPurge C formats (purgeJournalPath K.plan) K.plan K.approvals K.retirementPlan
    K.retirementApprovals K.quarantineReceipt K.trustedWitnessKeys K.minimumQuorum K.publicKey
    nowUnixSecs

end Ceremony

namespace Purge

/-! ## What the checks say -/

def Recorded (C : Crypto) (a : ConsentPurgeArtifactV1) (bytes : Bytes) : Prop :=
  bytes.length ≤ maxPurgeArtifactBytes ∧ UInt64.ofNat bytes.length = a.byteLength ∧
    C.blake3 bytes = a.blake3Digest

variable {path : String} {a : ConsentPurgeArtifactV1}

omit [HexLibrary] in
lemma exact_ok {rollbackCopy : Bool} {fs : FileSystem} {u : Unit} :
    verifyExactFile C path a rollbackCopy fs = .ok u ↔ ∃ bytes, Named path ∧
      fs.hasDir (pathOf path) = false ∧ fs.node? (pathOf path) = some (.file bytes) ∧
      Recorded C a bytes := by
  simp only [verifyExactFile, bind_ok, okOr_ok, failIf_ok, Bool.not_eq_true]
  constructor
  · rintro ⟨p, hp, _, hdir, h⟩
    obtain rfl := pathOf_of_resolve hp
    split at h
    · rename_i bytes hnode
      simp only [guard_bind_ok, failIf_ok, not_lt, not_or, ne_eq, not_not] at h
      exact ⟨bytes, hp, hdir, hnode, h.1, h.2.1, h.2.2⟩
    · cases h
    · cases h
  · rintro ⟨bytes, hp, hdir, hnode, hsize, hlen, hdigest⟩
    refine ⟨_, hp, (), hdir, ?_⟩
    rw [hnode]
    simp only [guard_bind_ok, failIf_ok, not_lt, not_or, ne_eq, not_not]
    exact ⟨hsize, hlen, hdigest⟩

omit [HexLibrary] in
lemma Recorded.byteLength_eq {bytes : Bytes} (h : Recorded C a bytes) :
    a.byteLength.toNat = bytes.length := by
  obtain ⟨hsize, hlen, -⟩ := h
  have hmax : maxPurgeArtifactBytes < UInt64.size := by decide
  rw [← hlen, UInt64.toNat_ofNat_of_lt' (by omega)]

variable {plan : ConsentPurgePlanV1}

section Names

variable {uuid : UuidText} {i : Nat}

omit [HexLibrary] in
lemma simpleName_rollbackName : SimpleName (rollbackName i) := by
  refine simpleName_of_length ?_ ?_
  · simp [rollbackName, String.toList_append, slash_not_mem_padDigits]
  · simp only [rollbackName, String.toList_append, List.length_append]
    have : "-artifact.bin".toList.length = 13 := by decide
    omega

omit [HexLibrary] in
lemma rollbackName_ne {name : String} (h : ¬ "-artifact.bin".toList <:+ name.toList) :
    rollbackName i ≠ name := by
  rintro rfl
  exact h (by rw [rollbackName, String.toList_append]; exact List.suffix_append _ _)

omit [HexLibrary] in
lemma rollbackName_ne_files : rollbackName i ≠ "journal.json" ∧
    rollbackName i ≠ "rollback-package.json" ∧ rollbackName i ≠ "purge-receipt.json" :=
  ⟨rollbackName_ne (by decide), rollbackName_ne (by decide), rollbackName_ne (by decide)⟩

lemma length_temporaryName : (temporaryName plan uuid).toList.length = 80 := by
  simp [temporaryName, String.toList_append, uuid.length_text]

lemma simpleName_temporaryName : SimpleName (temporaryName plan uuid) :=
  simpleName_of_length (by simp [temporaryName, String.toList_append, uuid.slash_not_mem_text])
    (by rw [length_temporaryName]; omega)

lemma simpleName_purgeId : SimpleName (hexEncode plan.purgeId.toList) :=
  simpleName_of_length (by simp) (by simp)

lemma temporaryName_ne : temporaryName plan uuid ≠ hexEncode plan.purgeId.toList := by
  intro h
  have hlen : (temporaryName plan uuid).toList.length = 80 := length_temporaryName
  rw [h] at hlen
  simp at hlen

end Names

/-! ## Paths -/

def directory (plan : ConsentPurgePlanV1) : Path := pathOf (purgeTransactionDirectory plan)

def temporary (plan : ConsentPurgePlanV1) (uuid : UuidText) : Path :=
  pathOf (purgeTemporaryDirectory plan uuid)

structure Layout (plan : ConsentPurgePlanV1) : Prop where
  rollback : ∀ {i a}, plan.candidates[i]? = some a →
    a.rollbackPath = joinPath (purgeTransactionDirectory plan) (rollbackName i)
  absolute : ∀ a ∈ plan.candidates, isAbsolute a.quarantinePath = true
  outside : ∀ a ∈ plan.candidates, ¬ pathOf plan.rollbackRoot <+: a.quarantined

section Paths

variable {uuid : UuidText} {p : Path}

lemma directory_eq :
    directory plan = pathOf plan.rollbackRoot ++ [hexEncode plan.purgeId.toList] :=
  pathOf_joinPath simpleName_purgeId

lemma temporary_eq :
    temporary plan uuid = pathOf plan.rollbackRoot ++ [temporaryName plan uuid] :=
  pathOf_joinPath simpleName_temporaryName

variable {name : String}

lemma pathOf_file (h : SimpleName name) :
    pathOf (joinPath (purgeTransactionDirectory plan) name) = directory plan ++ [name] :=
  pathOf_joinPath h

lemma pathOf_temporaryFile (h : SimpleName name) :
    pathOf (joinPath (purgeTemporaryDirectory plan uuid) name) = temporary plan uuid ++ [name] :=
  pathOf_joinPath h

omit [HexLibrary] in
lemma simpleName_files : SimpleName "journal.json" ∧ SimpleName "rollback-package.json" ∧
    SimpleName "purge-receipt.json" := by
  refine ⟨?_, ?_, ?_⟩ <;> exact simpleName_of_length (by decide) (by decide)

lemma pathOf_purgeJournalPath :
    pathOf (purgeJournalPath plan) = directory plan ++ ["journal.json"] :=
  pathOf_file simpleName_files.1

lemma pathOf_rollbackPackagePath :
    pathOf (rollbackPackagePath plan) = directory plan ++ ["rollback-package.json"] :=
  pathOf_file simpleName_files.2.1

lemma pathOf_purgeReceiptPath :
    pathOf (purgeReceiptPath plan) = directory plan ++ ["purge-receipt.json"] :=
  pathOf_file simpleName_files.2.2

lemma root_prefix_directory : pathOf plan.rollbackRoot <+: directory plan := by
  rw [directory_eq]
  exact List.prefix_append _ _

lemma root_prefix_temporary : pathOf plan.rollbackRoot <+: temporary plan uuid := by
  rw [temporary_eq]
  exact List.prefix_append _ _

lemma temporary_not_above (h : directory plan <+: p) : ¬ temporary plan uuid <+: p := by
  intro h'
  rw [temporary_eq] at h'
  rw [directory_eq] at h
  have hsame := (List.prefix_of_prefix_length_le h h' (by simp)).eq_of_length (by simp)
  exact temporaryName_ne (by simpa using hsame.symm)

namespace Layout

variable (hL : Layout plan)

include hL

lemma copied_eq {i : Nat} (ha : plan.candidates[i]? = some a) :
    a.copied = directory plan ++ [rollbackName i] := by
  rw [ConsentPurgeArtifactV1.copied, hL.rollback ha]
  exact pathOf_file simpleName_rollbackName

section

variable (ha : a ∈ plan.candidates)

include ha

lemma exists_copied :
    ∃ i, plan.candidates[i]? = some a ∧ a.copied = directory plan ++ [rollbackName i] := by
  obtain ⟨i, hi⟩ := List.mem_iff_getElem?.mp ha
  exact ⟨i, hi, hL.copied_eq hi⟩

lemma quarantined_ne (hp : pathOf plan.rollbackRoot <+: p) : a.quarantined ≠ p := by
  rintro rfl
  exact hL.outside a ha hp

lemma quarantined_ne_file (rest : Path) : a.quarantined ≠ directory plan ++ rest :=
  hL.quarantined_ne ha (root_prefix_directory.trans (List.prefix_append _ _))

lemma copied_ne : a.copied ≠ pathOf (purgeJournalPath plan) ∧
    a.copied ≠ pathOf (rollbackPackagePath plan) ∧ a.copied ≠ pathOf (purgeReceiptPath plan) := by
  obtain ⟨i, -, hi⟩ := hL.exists_copied ha
  rw [hi, pathOf_purgeJournalPath, pathOf_rollbackPackagePath, pathOf_purgeReceiptPath]
  simpa using rollbackName_ne_files

lemma not_above (hp : pathOf plan.rollbackRoot <+: p) :
    ¬ p <+: a.quarantined ∧ ¬ p <+: a.quarantined.dropLast := by
  have hout : ¬ p <+: a.quarantined := fun h => hL.outside a ha (hp.trans h)
  exact ⟨hout, fun h => hout (h.trans (List.dropLast_prefix _))⟩

end

end Layout

end Paths

/-! ### What a plan that verifies says about them -/

variable {publicKey : C.ed25519.VerifyingKey}

section Verified

variable {retirementPlan : ConsentRetirementPlanV1}
  {retirementApprovals : ConsentRetirementApprovalBundleV1}
  {receipt : ConsentRetirementQuarantineReceiptV1} {nowUnixSecs : UInt64} {dir : String}

omit [HexLibrary] in
lemma mem_expectedPurgeCandidates (h : a ∈ expectedPurgeCandidates dir receipt) :
    ∃ e ∈ receipt.entries, a.role = e.artifact.role ∧ a.quarantinePath = e.quarantinePath ∧
      a.byteLength = e.artifact.byteLength ∧ a.blake3Digest = e.artifact.blake3Digest := by
  simp only [expectedPurgeCandidates, List.mem_mapIdx] at h
  obtain ⟨i, hi, rfl⟩ := h
  have hmem := (List.mem_insertionSort _).mp (List.getElem_mem hi)
  obtain ⟨j, hj, heq⟩ := List.mem_mapIdx.mp hmem
  exact ⟨_, List.getElem_mem hj, by rw [← heq], by rw [← heq], by rw [← heq], by rw [← heq]⟩

omit [HexLibrary] in
lemma getElem?_expectedPurgeCandidates {i : Nat}
    (h : (expectedPurgeCandidates dir receipt)[i]? = some a) :
    a.rollbackPath = joinPath dir (rollbackName i) := by
  simp only [expectedPurgeCandidates, List.getElem?_mapIdx, Option.map_eq_some_iff] at h
  obtain ⟨b, -, rfl⟩ := h
  rfl

lemma candidate_of_shape (h : plan.validateShape = .ok ()) (ha : a ∈ plan.candidates) :
    isAbsolute a.quarantinePath = true := by
  simp only [ConsentPurgePlanV1.validateShape, guard_bind_ok] at h
  refine forall_of_checkEach (P := fun a => isAbsolute a.quarantinePath = true)
    (fun before a ha => ?_) h.2.2.2.2.2.2.2.2.2 a ha
  simp only [checkPurgeCandidate, guard_bind_ok, validatePurgePath, validatePathWith_ok] at ha
  exact ha.1.2.1

lemma layout_of_verify
    (hinputs : plan.verifyInputs C retirementPlan retirementApprovals receipt publicKey nowUnixSecs =
      .ok ()) (hbinding : plan.verifyBinding C retirementPlan retirementApprovals receipt = .ok ()) :
    Layout plan := by
  simp only [ConsentPurgePlanV1.verifyInputs, ConsentPurgePlanV1.verifyAuthoritySignatureAndWindow,
    ConsentPurgePlanV1.verifyAuthoritySignature, guard_bind_ok, mapError_ok] at hinputs
  obtain ⟨⟨⟨-, hsha, -⟩, -⟩, -, hreceipt⟩ := hinputs
  obtain ⟨-, -, -, hdir, hent, -⟩ := receiptVerify_ok.mp hreceipt
  simp only [ConsentPurgePlanV1.verifyBinding, bind_ok, failIf_ok, not_or, ne_eq, not_not]
    at hbinding
  obtain ⟨-, -, -, -, -, -, -, -, -, -, -, -, -, ⟨-, hsame, -⟩, hcan⟩ := hbinding
  have h : ¬ pathOf plan.rollbackRoot <+: pathOf plan.quarantineTransactionDirectory ∧
      ¬ pathOf plan.quarantineTransactionDirectory <+: pathOf plan.rollbackRoot := by
    simp only [ConsentPurgePlanV1.validateShape, guard_bind_ok, failIf_ok, startsWith, not_or,
      List.isPrefixOf_iff_prefix] at hsha
    exact hsha.2.2.2.1
  refine ⟨?_, fun a ha => candidate_of_shape hsha ha, ?_⟩
  · intro i a ha
    rw [hcan] at ha
    exact getElem?_expectedPurgeCandidates ha
  · intro a ha hpre
    rw [hcan] at ha
    obtain ⟨e, he, -, hpath, -⟩ := mem_expectedPurgeCandidates ha
    -- the entry of the receipt is directly in the directory of the retirement
    have hmem : e.planned ∈ retirementJournalEntriesForPlan retirementPlan := by
      rw [← hent]
      exact List.mem_map_of_mem he
    obtain ⟨i, artifact, -, heny⟩ := mem_retirementJournalEntriesForPlan.mp hmem
    have hqua : a.quarantined =
        pathOf plan.quarantineTransactionDirectory ++ [quarantineName i artifact] := by
      rw [ConsentPurgeArtifactV1.quarantined, hpath, hsame, hdir,
        ← quarantined_journalEntryFor, heny]
      rfl
    rw [hqua] at hpre
    rcases List.prefix_concat_iff.mp hpre with heq | hinside
    · exact h.2 (heq ▸ List.prefix_append _ _)
    · exact h.1 hinside

end Verified

/-! ## Before and behind the package -/

structure Whole (plan : ConsentPurgePlanV1) (start s : FileSystem) : Prop where
  there : ∀ a ∈ plan.candidates, AgreesAt a.quarantined start s
  fresh : s.hasDir (directory plan) = false
  linked : ∀ p node, Removal.entry p node ∈ s.removals → Removal.entry p node ∈ start.removals

/-- What may be at a path in quarantine when there is a package: nothing, the file as it was at the
start, or, where copies can be cut short, the first bytes of it. -/
def Place (cut : Prop) (start : FileSystem) (p : Path) (s : FileSystem) : Prop :=
  s.node? p = none ∨ s.node? p = start.node? p ∨
    cut ∧ ∃ bytes k, start.node? p = some (.file bytes) ∧ s.node? p = some (.file (bytes.take k))

def Kept (plan : ConsentPurgePlanV1) (s s' : FileSystem) : Prop :=
  ∀ a ∈ plan.candidates, s.node? a.quarantined ≠ none →
    s'.node? a.quarantined = s.node? a.quarantined

/-- There is a package with a copy of every candidate, and no candidate is left once there is a
receipt. -/
structure Packed (cut : Prop) (plan : ConsentPurgePlanV1) (start s : FileSystem) : Prop where
  dir : s.hasDir (directory plan) = true
  name : s.node? (directory plan) = none
  flat : ∀ file, s.hasDir (directory plan ++ [file]) = false
  copied : ∀ a ∈ plan.candidates, s.node? a.copied = start.node? a.quarantined
  placed : ∀ a ∈ plan.candidates, Place cut start a.quarantined s
  free : ∀ a ∈ plan.candidates, s.hasDir a.quarantined = false ∧ s.hasParent a.quarantined = true
  receipt : s.node? (pathOf (purgeReceiptPath plan)) = none ∨
    (∃ bytes, s.node? (pathOf (purgeReceiptPath plan)) = some (.file bytes)) ∧
      ∀ a ∈ plan.candidates, s.node? a.quarantined = none

structure Vetted (C : Crypto) (plan : ConsentPurgePlanV1) (start : FileSystem) : Prop extends
    Layout plan where
  exact : ∀ a ∈ plan.candidates, verifyExactFile C a.quarantinePath a false start = .ok ()
  copies : ∀ a ∈ plan.candidates, resolve a.rollbackPath = some a.copied
  directory : resolve (purgeTransactionDirectory plan) = some (directory plan)
  journal : resolve (purgeJournalPath plan) = some (pathOf (purgeJournalPath plan))
  package : resolve (rollbackPackagePath plan) = some (pathOf (rollbackPackagePath plan))
  receipt : resolve (purgeReceiptPath plan) = some (pathOf (purgeReceiptPath plan))

variable {start s s' : FileSystem}

section States

variable {uuid : UuidText} {cut : Prop} {b : ConsentPurgeArtifactV1}

lemma Whole.outside (h : Whole plan start s) (hL : Layout plan)
    (hsame : ∀ p, ¬ temporary plan uuid <+: p → AgreesAt p s s')
    (hremoved : ∀ p node, Removal.entry p node ∈ s'.removals →
      Removal.entry p node ∈ s.removals) : Whole plan start s' where
  there a ha := (h.there a ha).trans (hsame _ (hL.not_above ha root_prefix_temporary).1)
  fresh := by
    rw [(hsame _ (temporary_not_above List.prefix_rfl)).2]
    exact h.fresh
  linked p node hmem := h.linked p node (hremoved p node hmem)

namespace Kept

omit [HexLibrary] in
lemma refl : Kept plan s s := fun _ _ _ => rfl

omit [HexLibrary] in
lemma of_eq (h : s' = s) : Kept plan s s' := h ▸ refl

omit [HexLibrary] in
lemma trans {s'' : FileSystem} (h : Kept plan s s') (h' : Kept plan s' s'') : Kept plan s s'' := by
  intro a ha hnode
  have hsame := h a ha hnode
  rw [h' a ha (by rwa [hsame]), hsame]

omit [HexLibrary] in
lemma of_free {p : Path} (hfree : s.node? p = none) (hs : OnlyAt p s s') : Kept plan s s' := by
  intro a ha hnode
  refine (hs.agrees _ ?_).1
  rintro rfl
  exact hnode hfree

lemma of_file (hL : Layout plan) {rest : Path} (hs : OnlyAt (directory plan ++ rest) s s') :
    Kept plan s s' := fun _ ha _ => (hs.agrees _ (hL.quarantined_ne_file ha rest)).1

end Kept

omit [HexLibrary] in
lemma Place.congr {p : Path} (h : Place cut start p s) (hsame : s'.node? p = s.node? p) :
    Place cut start p s' := by
  unfold Place
  rwa [hsame]

namespace Vetted

variable (hV : Vetted C plan start)

include hV

section

variable (ha : a ∈ plan.candidates)

include ha

lemma file : ∃ bytes, start.node? a.quarantined = some (.file bytes) ∧ Recorded C a bytes := by
  obtain ⟨bytes, -, -, hnode, hrecord⟩ := exact_ok.mp (hV.exact a ha)
  exact ⟨bytes, hnode, hrecord⟩

lemma quarantine : resolve a.quarantinePath = some a.quarantined := by
  obtain ⟨bytes, hres, -⟩ := exact_ok.mp (hV.exact a ha)
  exact hres

lemma parent (h : s.hasParent a.quarantined = true) :
    purgeParent a.quarantinePath = .ok (parentText a.quarantinePath) ∧
      resolve (parentText a.quarantinePath) = some a.quarantined.dropLast := by
  simp only [hasParent, Bool.and_eq_true, decide_eq_true_eq] at h
  have hne : pathOf a.quarantinePath ≠ [] := h.1
  have habs : a.quarantinePath.toList.head? = some '/' := by
    simpa [isAbsolute] using hV.absolute a ha
  exact ⟨by simp [purgeParent, failIf, hne], resolve_up habs (hV.quarantine ha)⟩

lemma copy_exact (h : Packed cut plan start s) :
    verifyExactFile C a.rollbackPath a true s = .ok () := by
  obtain ⟨bytes, hnode, hrecord⟩ := hV.file ha
  obtain ⟨i, -, hi⟩ := hV.toLayout.exists_copied ha
  refine exact_ok.mpr ⟨bytes, hV.copies a ha, ?_, (h.copied a ha).trans hnode, hrecord⟩
  have := h.flat (rollbackName i)
  rwa [← hi] at this

lemma home_exact (h : Packed cut plan start s)
    (hhome : s.node? a.quarantined = start.node? a.quarantined) :
    verifyExactFile C a.quarantinePath a false s = .ok () := by
  obtain ⟨bytes, hnode, hrecord⟩ := hV.file ha
  exact exact_ok.mpr ⟨bytes, hV.quarantine ha, (h.free a ha).1, hhome.trans hnode, hrecord⟩

lemma exists_of_home (hhome : s.node? a.quarantined = start.node? a.quarantined) :
    s.pathExists a.quarantinePath = true := by
  obtain ⟨bytes, hnode, -⟩ := hV.file ha
  rw [pathExists, hV.quarantine ha, Option.any_some, reachable, hhome, hnode]

lemma exists_of_gone (h : Packed cut plan start s) (hgone : s.node? a.quarantined = none) :
    s.pathExists a.quarantinePath = false := by
  rw [pathExists, hV.quarantine ha, Option.any_some, reachable, hgone]
  exact (h.free a ha).1

lemma home_of_exact (hplace : Place cut start a.quarantined s)
    (hexact : verifyExactFile C a.quarantinePath a false s = .ok ()) :
    s.node? a.quarantined = start.node? a.quarantined := by
  obtain ⟨bytes, -, -, hnode, hrecord⟩ := exact_ok.mp hexact
  rcases hplace with hnone | hsame | ⟨-, whole, k, hstart, hpart⟩
  · cases hnone.symm.trans hnode
  · exact hsame
  · -- the first bytes of the file, as many as the file has
    obtain ⟨bytes', hstart', hrecord'⟩ := hV.file ha
    cases hstart.symm.trans hstart'
    cases hpart.symm.trans hnode
    have hlen := hrecord.byteLength_eq.symm.trans hrecord'.byteLength_eq
    rw [List.length_take] at hlen
    rw [hpart, hstart, List.take_of_length_le (by omega)]

lemma gone_of_not_exists (hplace : Place cut start a.quarantined s)
    (hgone : s.pathExists a.quarantinePath = false) : s.node? a.quarantined = none := by
  rcases hplace with hnone | hsame | ⟨-, whole, k, -, hpart⟩
  · exact hnone
  · exact absurd (hV.exists_of_home ha hsame) (by simp [hgone])
  · rw [pathExists, hV.quarantine ha, Option.any_some, reachable, hpart] at hgone
    cases hgone

end

lemma exists_receipt (h : Packed cut plan start s) :
    s.pathExists (purgeReceiptPath plan) = false ↔
      s.node? (pathOf (purgeReceiptPath plan)) = none := by
  have hdir : s.hasDir (pathOf (purgeReceiptPath plan)) = false := by
    rw [pathOf_purgeReceiptPath]
    exact h.flat _
  rw [pathExists, hV.receipt, Option.any_some, reachable]
  rcases h.receipt with hnone | ⟨⟨bytes, hfile⟩, -⟩
  · simp [hnone, hdir]
  · simp [hfile]

lemma exists_directory (h : Packed cut plan start s) :
    s.pathExists (purgeTransactionDirectory plan) = true := by
  rw [pathExists, hV.directory, Option.any_some, reachable, h.name]
  exact h.dir

end Vetted

namespace Packed

variable (h : Packed cut plan start s)

include h

lemma onlyAt (hL : Layout plan) {name : String} (hs : OnlyAt (directory plan ++ [name]) s s')
    (hname : ∀ a ∈ plan.candidates, a.copied ≠ directory plan ++ [name])
    (hreceipt : s'.node? (pathOf (purgeReceiptPath plan)) = none ∨
      (∃ bytes, s'.node? (pathOf (purgeReceiptPath plan)) = some (.file bytes)) ∧
        ∀ a ∈ plan.candidates, s.node? a.quarantined = none) : Packed cut plan start s' := by
  have hother : ∀ a ∈ plan.candidates, s'.node? a.quarantined = s.node? a.quarantined := fun a ha =>
    (hs.agrees _ (hL.quarantined_ne_file ha _)).1
  refine ⟨?_, ((hs.agrees _ (by simp)).1).trans h.name, ?_, fun a ha => ?_, fun a ha => ?_,
    fun a ha => ?_, ?_⟩
  · rw [hs.dirs]
    exact h.dir
  · rw [hs.dirs]
    exact h.flat
  · exact ((hs.agrees _ (hname a ha)).1).trans (h.copied a ha)
  · exact (h.placed a ha).congr (hother a ha)
  · rw [hs.dirs, hs.hasParent]
    exact h.free a ha
  · exact hreceipt.imp_right (And.imp_right fun hgone a ha => (hother a ha).trans (hgone a ha))

omit h in
lemma receipt_of_journal (hs : OnlyAt (pathOf (purgeJournalPath plan)) s s') :
    s'.node? (pathOf (purgeReceiptPath plan)) = s.node? (pathOf (purgeReceiptPath plan)) :=
  (hs.agrees _ (by rw [pathOf_purgeReceiptPath, pathOf_purgeJournalPath]; simp)).1

lemma write (hL : Layout plan) (hs : OnlyAt (pathOf (purgeJournalPath plan)) s s') :
    Packed cut plan start s' := by
  have hreceipt := h.receipt
  rw [← receipt_of_journal hs] at hreceipt
  rw [pathOf_purgeJournalPath] at hs
  exact h.onlyAt hL hs (fun a ha => pathOf_purgeJournalPath ▸ (hL.copied_ne ha).1) hreceipt

lemma writeReceipt (hL : Layout plan) (hs : OnlyAt (pathOf (purgeReceiptPath plan)) s s')
    {bytes : Bytes} (hfile : s'.node? (pathOf (purgeReceiptPath plan)) = some (.file bytes))
    (hgone : ∀ a ∈ plan.candidates, s.node? a.quarantined = none) : Packed cut plan start s' := by
  rw [pathOf_purgeReceiptPath] at hs
  exact h.onlyAt hL hs (fun a ha => pathOf_purgeReceiptPath ▸ (hL.copied_ne ha).2.2)
    (.inr ⟨⟨bytes, hfile⟩, hgone⟩)

lemma place (hL : Layout plan) (ha : a ∈ plan.candidates)
    (hothers : ∀ p, p ≠ a.quarantined → AgreesAt p s s') (hdirs : s'.hasDir = s.hasDir)
    (hplace : Place cut start a.quarantined s')
    (hreceipt : s.node? (pathOf (purgeReceiptPath plan)) ≠ none → s'.node? a.quarantined = none) :
    Packed cut plan start s' := by
  have hfile : ∀ rest, AgreesAt (directory plan ++ rest) s s' := fun rest =>
    hothers _ (hL.quarantined_ne_file ha rest).symm
  have hpar : ∀ p, s'.hasParent p = s.hasParent p := fun p => by simp [hasParent, hdirs]
  refine ⟨?_, ?_, ?_, ?_, ?_, ?_, ?_⟩
  · rw [hdirs]
    exact h.dir
  · have := (hfile []).1
    rw [List.append_nil] at this
    exact this.trans h.name
  · rw [hdirs]
    exact h.flat
  · intro b hb
    obtain ⟨i, -, hi⟩ := hL.exists_copied hb
    rw [← h.copied b hb, hi]
    exact (hfile _).1
  · intro b hb
    by_cases hsame : b.quarantined = a.quarantined
    · rw [hsame]
      exact hplace
    · exact (h.placed b hb).congr (hothers _ hsame).1
  · intro b hb
    rw [hdirs, hpar]
    exact h.free b hb
  · have hkept : s'.node? (pathOf (purgeReceiptPath plan)) =
        s.node? (pathOf (purgeReceiptPath plan)) := by
      rw [pathOf_purgeReceiptPath]
      exact (hfile _).1
    rw [hkept]
    refine h.receipt.imp_right fun hfile => ⟨hfile.1, fun b hb => ?_⟩
    by_cases hsame : b.quarantined = a.quarantined
    · rw [hsame]
      refine hreceipt fun hnone => ?_
      obtain ⟨⟨bytes, hbytes⟩, -⟩ := hfile
      cases hnone.symm.trans hbytes
    · exact (hothers _ hsame).1.trans (hfile.2 b hb)

lemma outside (hL : Layout plan) (hsame : ∀ p, ¬ temporary plan uuid <+: p → AgreesAt p s s') :
    Packed cut plan start s' := by
  have hfile : ∀ rest, AgreesAt (directory plan ++ rest) s s' := fun rest =>
    hsame _ (temporary_not_above (List.prefix_append _ _))
  have hdir := hfile []
  rw [List.append_nil] at hdir
  have hcan : ∀ a ∈ plan.candidates, AgreesAt a.quarantined s s' := fun a ha =>
    hsame _ (hL.not_above ha root_prefix_temporary).1
  refine ⟨hdir.2.trans h.dir, hdir.1.trans h.name, fun file => (hfile _).2.trans (h.flat file), ?_,
    fun a ha => (h.placed a ha).congr (hcan a ha).1, ?_, ?_⟩
  · intro a ha
    obtain ⟨i, -, hi⟩ := hL.exists_copied ha
    rw [← h.copied a ha, hi]
    exact (hfile _).1
  · intro a ha
    have hpar : s'.hasParent a.quarantined = s.hasParent a.quarantined := by
      rw [hasParent, hasParent, (hsame _ (hL.not_above ha root_prefix_temporary).2).2]
    exact ⟨(hcan a ha).2.trans (h.free a ha).1, hpar.trans (h.free a ha).2⟩
  · have hkept : s'.node? (pathOf (purgeReceiptPath plan)) =
        s.node? (pathOf (purgeReceiptPath plan)) := by
      rw [pathOf_purgeReceiptPath]
      exact (hfile _).1
    rw [hkept]
    exact h.receipt.imp_right (And.imp_right fun hgone a ha => (hcan a ha).1.trans (hgone a ha))

end Packed

end States

/-! ## The shapes of a purge with a package -/

def JsonOn {α : Type} (format : TextFormat α) (p : Path) (v : α) (s : FileSystem) : Prop :=
  ∃ text, format.toVec v = some text ∧ text.length < maxPurgeTransactionBytes ∧
    s.node? p = some (.file (text ++ [10]))

variable {α : Type} {format : TextFormat α} {v : α}

omit [HexLibrary] in
lemma JsonOn.congr {p : Path} {s' : FileSystem} (h : JsonOn format p v s)
    (hsame : s'.node? p = s.node? p) : JsonOn format p v s' := by
  obtain ⟨text, htext, hfits, hnode⟩ := h
  exact ⟨text, htext, hfits, hsame.trans hnode⟩

omit [HexLibrary] in
lemma JsonOn.read {label : String} (h : JsonOn format (pathOf path) v s) (hnamed : Named path) :
    readBoundedJson format s path maxPurgeTransactionBytes label = .ok v := by
  obtain ⟨text, htext, hfits, hnode⟩ := h
  refine readBoundedJson_ok.mpr ⟨hnamed, _, hnode, ?_, format.fromSlice_toVec htext⟩
  simp
  omega

section Shapes

variable (C : Crypto) (formats : PurgeFormats) (cut : Prop) (plan : ConsentPurgePlanV1)
  (approvals : ConsentPurgeApprovalBundleV1) (publicKey : C.ed25519.VerifyingKey)
  (start : FileSystem) (package : ConsentPurgeRollbackPackageV1)

def Current (journal : ConsentPurgeJournalV1) : Prop :=
  verifyPurgeJournal C journal plan approvals package = .ok () ∧
    journal.entries.map ConsentPurgeJournalEntryV1.artifact = plan.candidates

structure Boxed (s : FileSystem) : Prop extends Packed cut plan start s where
  verified : package.verify C plan approvals publicKey = .ok ()
  described : JsonOn formats.package (pathOf (rollbackPackagePath plan)) package s

structure Opened (s : FileSystem) : Prop extends
    Boxed C formats cut plan approvals publicKey start package s where
  unreceipted : s.node? (pathOf (purgeReceiptPath plan)) = none
  journal : ∃ j, JsonOn formats.journal (pathOf (purgeJournalPath plan)) j s ∧
    Current C plan approvals package j ∧ (j.state = .prepared ∨ j.state = .deleting)

structure RolledBack (s : FileSystem) : Prop extends
    Boxed C formats cut plan approvals publicKey start package s where
  unreceipted : s.node? (pathOf (purgeReceiptPath plan)) = none
  home : ∀ a ∈ plan.candidates, s.node? a.quarantined = start.node? a.quarantined
  journal : ∃ j, JsonOn formats.journal (pathOf (purgeJournalPath plan)) j s ∧
    Current C plan approvals package j ∧ j.state = .rolledBack ∧ ∀ e ∈ j.entries, e.state = .restored

structure Receipted (s : FileSystem) : Prop extends
    Boxed C formats cut plan approvals publicKey start package s where
  gone : ∀ a ∈ plan.candidates, s.node? a.quarantined = none
  issued : ∃ r, JsonOn formats.receipt (pathOf (purgeReceiptPath plan)) r s ∧
    ConsentPurgeReceiptV1.verify C r plan approvals package publicKey = .ok ()
  journal : ∃ j, JsonOn formats.journal (pathOf (purgeJournalPath plan)) j s ∧
    Current C plan approvals package j ∧ j.state ≠ .rolledBack

structure Committed (s : FileSystem) : Prop extends
    Receipted C formats cut plan approvals publicKey start package s where
  committed : ∃ j, JsonOn formats.journal (pathOf (purgeJournalPath plan)) j s ∧
    j.state = .committed

def Shaped (s : FileSystem) : Prop :=
  Opened C formats cut plan approvals publicKey start package s ∨
    RolledBack C formats cut plan approvals publicKey start package s ∨
    Receipted C formats cut plan approvals publicKey start package s

/-- The purge is undone or done. -/
def Settled (s : FileSystem) : Prop :=
  RolledBack C formats cut plan approvals publicKey start package s ∨
    Committed C formats cut plan approvals publicKey start package s

end Shapes

/-- A ceremony with the formats of its files and the disk at its start; `cut` says whether a copy
may have been cut short. -/
structure Setup (C : Crypto) extends Ceremony C where
  formats : PurgeFormats
  cut : Prop
  start : FileSystem

namespace Setup

variable (U : Setup C)

abbrev Whole := Purge.Whole U.plan U.start

abbrev Packed := Purge.Packed U.cut U.plan U.start

abbrev Vetted := Purge.Vetted C U.plan U.start

abbrev Current := Purge.Current C U.plan U.approvals

abbrev JournalOn := JsonOn U.formats.journal (pathOf (purgeJournalPath U.plan))

abbrev Boxed := Purge.Boxed C U.formats U.cut U.plan U.approvals U.publicKey U.start

abbrev Opened := Purge.Opened C U.formats U.cut U.plan U.approvals U.publicKey U.start

abbrev RolledBack := Purge.RolledBack C U.formats U.cut U.plan U.approvals U.publicKey U.start

abbrev Receipted := Purge.Receipted C U.formats U.cut U.plan U.approvals U.publicKey U.start

abbrev Committed := Purge.Committed C U.formats U.cut U.plan U.approvals U.publicKey U.start

abbrev Shaped := Purge.Shaped C U.formats U.cut U.plan U.approvals U.publicKey U.start

abbrev Settled := Purge.Settled C U.formats U.cut U.plan U.approvals U.publicKey U.start

end Setup

section Changes

variable {U : Setup C} {uuid : UuidText} {package : ConsentPurgeRollbackPackageV1}
  {journal : ConsentPurgeJournalV1} {bytes : Bytes}

lemma Current.advance (h : U.Current package journal) {entries : List ConsentPurgeJournalEntryV1}
    (hlist : entries.map ConsentPurgeJournalEntryV1.artifact = U.plan.candidates)
    (state : ConsentPurgeJournalStateV1) (time : UInt64) : U.Current package
      { journal with state := state, updatedAtUnixSecs := time, entries := entries } := ⟨h.1, hlist⟩

namespace Boxed

variable (h : U.Boxed package s)

include h

lemma write (hL : Layout U.plan) (hs : OnlyAt (pathOf (purgeJournalPath U.plan)) s s') :
    U.Boxed package s' where
  toPacked := h.toPacked.write hL hs
  verified := h.verified
  described := h.described.congr
    (hs.agrees _ (by rw [pathOf_rollbackPackagePath, pathOf_purgeJournalPath]; simp)).1

lemma writeReceipt (hL : Layout U.plan) (hs : OnlyAt (pathOf (purgeReceiptPath U.plan)) s s')
    (hfile : s'.node? (pathOf (purgeReceiptPath U.plan)) = some (.file bytes))
    (hgone : ∀ a ∈ U.plan.candidates, s.node? a.quarantined = none) : U.Boxed package s' where
  toPacked := h.toPacked.writeReceipt hL hs hfile hgone
  verified := h.verified
  described := h.described.congr
    (hs.agrees _ (by rw [pathOf_rollbackPackagePath, pathOf_purgeReceiptPath]; simp)).1

end Boxed

namespace Opened

variable (h : U.Opened package s)

include h

lemma write (hL : Layout U.plan) (hs : OnlyAt (pathOf (purgeJournalPath U.plan)) s s')
    (hjournal : U.JournalOn journal s') (hcur : U.Current package journal)
    (hstate : journal.state = .prepared ∨ journal.state = .deleting) : U.Opened package s' where
  toBoxed := h.toBoxed.write hL hs
  unreceipted := (Packed.receipt_of_journal hs).trans h.unreceipted
  journal := ⟨journal, hjournal, hcur, hstate⟩

lemma congr (hpacked : U.Packed s')
    (hfile : ∀ file, s'.node? (directory U.plan ++ [file]) = s.node? (directory U.plan ++ [file])) :
    U.Opened package s' := by
  obtain ⟨j, hon, hj⟩ := h.journal
  refine ⟨⟨hpacked, h.verified, h.described.congr ?_⟩, ?_, j, hon.congr ?_, hj⟩
  · rw [pathOf_rollbackPackagePath]
    exact hfile _
  · rw [← h.unreceipted, pathOf_purgeReceiptPath]
    exact hfile _
  · rw [pathOf_purgeJournalPath]
    exact hfile _

lemma place (hL : Layout U.plan) (ha : a ∈ U.plan.candidates)
    (hothers : ∀ p, p ≠ a.quarantined → AgreesAt p s s') (hdirs : s'.hasDir = s.hasDir)
    (hplace : Place U.cut U.start a.quarantined s') : U.Opened package s' :=
  h.congr (h.toPacked.place hL ha hothers hdirs hplace (absurd h.unreceipted))
    fun _ => (hothers _ (hL.quarantined_ne_file ha _).symm).1

lemma outside (hL : Layout U.plan) (hsame : ∀ p, ¬ temporary U.plan uuid <+: p → AgreesAt p s s') :
    U.Opened package s' := h.congr (h.toPacked.outside hL hsame)
    fun _ => (hsame _ (temporary_not_above (List.prefix_append _ _))).1

end Opened

lemma Receipted.write (h : U.Receipted package s)
    (hL : Layout U.plan) (hs : OnlyAt (pathOf (purgeJournalPath U.plan)) s s')
    (hjournal : U.JournalOn journal s')
    (hcur : U.Current package journal) (hstate : journal.state = .committed) :
    U.Committed package s' := by
  obtain ⟨receipt, hon, hverify⟩ := h.issued
  refine ⟨⟨h.toBoxed.write hL hs, fun a ha => ?_, ⟨receipt, hon.congr ?_, hverify⟩, journal, hjournal,
    hcur, by simp [hstate]⟩, journal, hjournal, hstate⟩
  · rw [(hs.agrees _ (by rw [pathOf_purgeJournalPath]; exact hL.quarantined_ne_file ha _)).1]
    exact h.gone a ha
  · exact Packed.receipt_of_journal hs

lemma Opened.issue (h : U.Opened package s)
    (hL : Layout U.plan) (hs : OnlyAt (pathOf (purgeReceiptPath U.plan)) s s')
    {receipt : ConsentPurgeReceiptV1}
    (hreceipt : JsonOn U.formats.receipt (pathOf (purgeReceiptPath U.plan)) receipt s')
    (hverify : receipt.verify C U.plan U.approvals package U.publicKey = .ok ())
    (hgone : ∀ a ∈ U.plan.candidates, s.node? a.quarantined = none) : U.Receipted package s' := by
  obtain ⟨text, -, -, hnode⟩ := id hreceipt
  obtain ⟨j, hon, hcur, hstate⟩ := h.journal
  refine ⟨h.toBoxed.writeReceipt hL hs hnode hgone, fun a ha => ?_, ⟨receipt, hreceipt, hverify⟩,
    j, hon.congr ?_, hcur, ?_⟩
  · rw [(hs.agrees _ (by rw [pathOf_purgeReceiptPath]; exact hL.quarantined_ne_file ha _)).1]
    exact hgone a ha
  · exact (hs.agrees _ (by rw [pathOf_purgeReceiptPath, pathOf_purgeJournalPath]; simp)).1
  · rcases hstate with hstate | hstate <;> simp [hstate]

lemma Shaped.boxed (h : U.Shaped package s) : U.Boxed package s := by
  rcases h with h | h | h <;> exact h.toBoxed

end Changes

end Purge

end XeniaPeer.Consent
